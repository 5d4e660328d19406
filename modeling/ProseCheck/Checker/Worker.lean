import ProseCheck.Checker.Config
import ProseCheck.Checker.Task

/-! # The worker

Sends the requests of all checks, one at a time and in the order in which they were queued. A
request that nobody awaits when its turn comes is skipped. Two requests start at least the minimum
interval apart, and after a provider has asked for a pause the cooldown comes on top.
-/

namespace ProseCheck

/-- A request in the queue, for a backend of type `β`. -/
structure Order (β : Type) where
  ticket : Nat
  backend : β
  provider : Provider
  options : CheckOptions
  text : List Char
  deriving DecidableEq, Repr

/-- What a backend does when it is asked. -/
inductive Conduct where
  | replies (after : Millis) (reply : Reply)
  /-- The worker dies of it. -/
  | crashes (after : Millis)

/-- How a backend reacts to an order that starts at a time. -/
abbrev Ask (β σ : Type) := σ → Millis → Order β → Conduct × σ

/-- When a request that starts at `start` ends, and how; none stands for the end of the worker. What
takes longer than the timeout is not waited for. -/
def Conduct.ending (provider : Provider) (timeout start : Millis) :
    Conduct → Millis × Option Reply
  | replies after reply =>
    if after ≤ timeout then (start + after, some reply)
    else (start + timeout, some (.error ⟨provider, .timeout timeout⟩))
  | crashes after =>
    if after ≤ timeout then (start + after, none)
    else (start + timeout, some (.error ⟨provider, .timeout timeout⟩))

inductive Phase (β : Type) where
  | idle
  /-- Waits until a request may start. -/
  | holding (order : Order β) (start : Millis)
  /-- Waits for the end of a request. -/
  | asking (order : Order β) (finish : Millis) (ending : Option Reply)
  | gone

/-- What becomes known to those who wait. -/
inductive Notice where
  | nothing
  | replied (ticket : Nat) (reply : Reply)
  /-- There will be no more replies. -/
  | closed

structure Worker (β : Type) where
  phase : Phase β
  queue : List (Order β)
  /-- When the last request started, or the end of the pause after it. -/
  last : Option Millis

/-- When a request that is taken from the queue at `taken` may start. -/
def Pace.startAfter (pace : Pace) (last : Option Millis) (taken : Millis) : Millis :=
  match last with
  | none => taken
  | some last => max taken (last + pace.minInterval)

/-- What counts as the last start after a request has ended. -/
def Pace.afterReply (pace : Pace) (last : Option Millis) (finish : Millis) : Reply → Option Millis
  | .error failure => if failure.isRateLimited then some (finish + pace.cooldown) else last
  | .ok _ => last

namespace Worker

variable {β σ : Type}

def fresh : Worker β := ⟨.idle, [], none⟩

def isGone (w : Worker β) : Bool := w.phase matches .gone

def enqueue (w : Worker β) (order : Order β) : Worker β := { w with queue := w.queue ++ [order] }

def due? (w : Worker β) (now : Millis) : Option Millis :=
  match w.phase with
  | .idle => if w.queue.isEmpty then none else some now
  | .holding _ start => some start
  | .asking _ finish _ => some finish
  | .gone => none

def step (pace : Pace) (ask : Ask β σ) (awaited : Nat → Bool) (now : Millis) (w : Worker β)
    (world : σ) : Worker β × σ × Notice :=
  match w.phase with
  | .idle =>
    match w.queue with
    | [] => (w, world, .nothing)
    | order :: rest =>
      let phase :=
        if awaited order.ticket then .holding order (pace.startAfter w.last now) else .idle
      ({ w with phase, queue := rest }, world, .nothing)
  | .holding order start =>
    let (conduct, world) := ask world start order
    let (finish, ending) := conduct.ending order.provider pace.timeout start
    ({ w with phase := .asking order finish ending, last := some start }, world, .nothing)
  | .asking order finish (some reply) =>
    ({ w with phase := .idle, last := pace.afterReply w.last finish reply }, world,
      .replied order.ticket reply)
  | .asking _ _ none => ({ w with phase := .gone, queue := [] }, world, .closed)
  | .gone => (w, world, .nothing)

/-! ### Progress -/

/-- How many things are left to do at most. -/
def work (w : Worker β) : Nat :=
  3 * w.queue.length +
    match w.phase with
    | .holding .. => 2
    | .asking .. => 1
    | .idle | .gone => 0

theorem work_step_lt (pace : Pace) (ask : Ask β σ) (awaited : Nat → Bool) (now : Millis)
    {w : Worker β} (world : σ) {due : Millis} (h : w.due? now = some due) :
    (w.step pace ask awaited due world).1.work < w.work := by
  obtain ⟨phase, queue, last⟩ := w
  match phase, queue with
  | .idle, [] => simp [due?] at h
  | .idle, order :: rest =>
    by_cases ha : awaited order.ticket
    · simp [step, work, ha]
      omega
    · simp [step, work, ha]
  | .holding _ _, _ => simp [step, work]
  | .asking _ _ (some _), _ => simp [step, work]
  | .asking _ _ none, _ =>
    simp only [step, work, List.length_nil]
    omega
  | .gone, _ => simp [due?] at h

end Worker
end ProseCheck
