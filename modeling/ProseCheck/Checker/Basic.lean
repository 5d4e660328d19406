import ProseCheck.Checker.Worker

/-! # The checker

Checks texts for any number of callers. Answers are kept, texts are checked paragraph by paragraph,
and one worker sends what has to be asked. Time passes only while something is waited for.
-/

namespace ProseCheck

/-- A text that is to be checked with a backend. -/
structure CheckRequest (β : Type) where
  backend : β
  provider : Provider
  options : CheckOptions
  text : List Char

/-- A text that was too long, and how much of it is checked. -/
structure Cut where
  length : Nat
  kept : Nat
  deriving DecidableEq, Repr

/-- How far a check is. -/
inductive Progress where
  | finished (findings : List Finding)
  | waiting (task : Task)
  deriving DecidableEq, Repr

namespace Progress

def isFinished (p : Progress) : Bool := p matches .finished _

def awaits (ticket : Nat) : Progress → Bool
  | finished _ => false
  | waiting task => task.asked.any (·.2 == ticket)

def settle (task : Task) (caches : Caches) : Progress × Caches :=
  if task.isDone then (.finished task.result, task.keep caches) else (.waiting task, caches)

def hear (ticket : Nat) (reply : Reply) (p : Progress) (caches : Caches) : Progress × Caches :=
  match p with
  | finished _ => (p, caches)
  | waiting task =>
    if task.asked.head?.map (·.2) = some ticket then
      let (task, caches) := task.accept caches reply
      settle task caches
    else (p, caches)

def giveUp (p : Progress) (caches : Caches) : Progress × Caches :=
  match p with
  | finished _ => (p, caches)
  | waiting task => settle task.giveUp caches

def updateAll (update : Progress → Caches → Progress × Caches) :
    List Progress → Caches → List Progress × Caches
  | [], caches => ([], caches)
  | p :: rest, caches =>
    let (p, caches) := update p caches
    let (rest, caches) := updateAll update rest caches
    (p :: rest, caches)

end Progress

structure Checker (β : Type) where
  config : CheckerConfig
  caches : Caches
  worker : Worker β
  clock : Millis
  /-- The ticket of the next order. -/
  nextTicket : Nat
  /-- Whether it is told when a text is too long. -/
  tellsCuts : Bool
  /-- The checks that somebody waits for. -/
  running : List Progress

namespace Checker

variable {β σ : Type}

def start (config : CheckerConfig) (tellsCuts : Bool) : Checker β where
  config
  caches := .empty (config.cacheSeconds ≠ 0)
  worker := .fresh
  clock := 0
  nextTicket := 0
  tellsCuts
  running := []

def clearCache (c : Checker β) : Checker β := { c with caches := c.caches.clear }

/-! ### Beginning -/

/-- Looks up the next paragraph of a task, and queues an order for it if it is not known. -/
def lookUp (c : Checker β) (r : CheckRequest β) (task : Task) : Task × Checker β :=
  let ticket := if c.worker.isGone then none else some c.nextTicket
  match task.lookUp c.caches ticket with
  | (task, none) => (task, c)
  | (task, some text) =>
    let order : Order β := ⟨c.nextTicket, r.backend, r.provider, r.options, text⟩
    (task, { c with worker := c.worker.enqueue order, nextTicket := c.nextTicket + 1 })

def lookUpAll (c : Checker β) (r : CheckRequest β) (task : Task) : Task × Checker β :=
  task.todo.foldl (fun (task, c) _ => c.lookUp r task) (task, c)

def beginTask (c : Checker β) (r : CheckRequest β) : Progress × Checker β :=
  let key : CacheKey := ⟨r.provider, r.options, r.text⟩
  match c.caches.texts.find? key with
  | some findings => (.finished findings, c)
  | none =>
    let (task, c) := c.lookUpAll r (Task.start c.config.separator key)
    let (progress, caches) := Progress.settle task c.caches
    (progress, { c with caches })

/-- Begins a check, and says whether the text was too long. A blank text needs no check. -/
def begin (c : Checker β) (r : CheckRequest β) : Option Cut × Checker β :=
  if Text.allBlank r.text then (none, { c with running := c.running ++ [.finished []] })
  else
    let (kept, isCut) := Text.truncate r.text c.config.maxChars
    let cut := if isCut && c.tellsCuts then some ⟨r.text.length, c.config.maxChars⟩ else none
    let (progress, c) := c.beginTask { r with text := kept }
    (cut, { c with running := c.running ++ [progress] })

def beginAll (c : Checker β) (rs : List (CheckRequest β)) : List Cut × Checker β :=
  rs.foldl (fun (cuts, c) r =>
    let (cut, c) := c.begin r
    (cuts ++ cut.toList, c)) ([], c)

/-! ### Waiting -/

def isAwaited (c : Checker β) (ticket : Nat) : Bool := c.running.any (·.awaits ticket)

def allFinished (c : Checker β) : Bool := c.running.all (·.isFinished)

def hear (c : Checker β) (notice : Notice) : Checker β :=
  let update :=
    match notice with
    | .nothing => Prod.mk
    | .replied ticket reply => Progress.hear ticket reply
    | .closed => Progress.giveUp
  let (running, caches) := Progress.updateAll update c.running c.caches
  { c with running, caches }

def step (ask : Ask β σ) (due : Millis) (c : Checker β) (world : σ) : Checker β × σ :=
  let (worker, world, notice) := c.worker.step c.config.pace ask c.isAwaited due world
  ({ c with worker, clock := max c.clock due }.hear notice, world)

theorem worker_hear (c : Checker β) (notice : Notice) : (c.hear notice).worker = c.worker := rfl

theorem work_step_lt (ask : Ask β σ) {due : Millis} {c : Checker β} (world : σ)
    (h : c.worker.due? c.clock = some due) : (c.step ask due world).1.worker.work < c.worker.work :=
  Worker.work_step_lt c.config.pace ask c.isAwaited c.clock world h

/-- Lets the worker go on for as long as `goesOn` holds of the checker and of the time at which
something is due. -/
def proceed (ask : Ask β σ) (goesOn : Checker β → Millis → Bool) (c : Checker β) (world : σ) :
    Checker β × σ :=
  match _ : c.worker.due? c.clock with
  | none => (c, world)
  | some due =>
    if goesOn c due then
      let next := c.step ask due world
      proceed ask goesOn next.1 next.2
    else (c, world)
termination_by c.worker.work
decreasing_by exact work_step_lt ask world ‹_›

def settle (ask : Ask β σ) (c : Checker β) (world : σ) : Checker β × σ :=
  proceed ask (fun c due => due ≤ c.clock) { c with running := [] } world

def results (c : Checker β) : List (Option (List Finding)) :=
  c.running.map fun
    | .finished findings => some findings
    | .waiting _ => none

/-! ### Checking -/

def checkAll (ask : Ask β σ) (c : Checker β) (rs : List (CheckRequest β)) (world : σ) :
    List (List Finding) × List Cut × Checker β × σ :=
  let (cuts, c) := c.beginAll rs
  let (c, world) := c.proceed ask (fun c _ => !c.allFinished) world
  let results := c.results.map (·.getD [])
  let (c, world) := c.settle ask world
  (results, cuts, c, world)

def check (ask : Ask β σ) (c : Checker β) (r : CheckRequest β) (world : σ) :
    List Finding × Option Cut × Checker β × σ :=
  let (results, cuts, c, world) := c.checkAll ask [r] world
  (results.headD [], cuts.head?, c, world)

/-- Checks a text, but gives up if it takes as long as `patience`. -/
def checkWithin (ask : Ask β σ) (c : Checker β) (patience : Millis) (r : CheckRequest β)
    (world : σ) : Option (List Finding) × Option Cut × Checker β × σ :=
  let deadline := c.clock + patience
  let (cut, c) := c.begin r
  let (c, world) := c.proceed ask (fun c due => !c.allFinished && due < deadline) world
  let result := c.results.head?.join
  let c := if result.isSome then c else { c with clock := deadline }
  let (c, world) := c.settle ask world
  (result, cut, c, world)

def sleep (ask : Ask β σ) (c : Checker β) (time : Millis) (world : σ) : Checker β × σ :=
  let wake := c.clock + time
  let (c, world) := c.proceed ask (fun _ due => due ≤ wake) world
  ({ c with clock := wake }, world)

end Checker
end ProseCheck
