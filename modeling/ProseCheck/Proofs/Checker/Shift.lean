import ProseCheck.Checker.Basic
import ProseCheck.Proofs.Checker.Call

/-! # Shifts

A shift follows a worker from its first order on: orders arrive, callers lose interest, time passes,
and the worker does what is due. It takes down which orders the worker has taken up, which calls it
has made and which replies it has passed on. Time never passes beyond the moment at which something
is due.
-/

namespace ProseCheck

structure Shift (β σ : Type) where
  worker : Worker β
  clock : Millis
  /-- The calls so far, and whatever the conduct of backends depends on. -/
  world : List (Call β) × σ
  /-- The tickets of those who do not wait any more. -/
  left : List Nat
  arrived : List (Order β)
  turns : List (Turn β)
  deliveries : List Delivery

/-- The time that a worker waits for in a phase. -/
def Phase.until? : Phase β → Option Millis
  | .holding _ start => some start
  | .asking _ finish _ => some finish
  | .idle | .gone => none

namespace Shift

/-- What can happen while a worker works. -/
inductive Event (β : Type) where
  | arrive (r : CheckRequest β)
  | leave (ticket : Nat)
  | pass (time : Millis)
  | work

variable {β σ : Type} {pace : Pace} {ask : Ask β σ}

def begin (world : σ) : Shift β σ := ⟨.fresh, 0, ([], world), [], [], [], []⟩

def awaits (s : Shift β σ) (ticket : Nat) : Bool := !s.left.contains ticket

def due? (s : Shift β σ) : Option Millis := s.worker.due? s.clock

def turn? (s : Shift β σ) : Option (Turn β) :=
  match s.worker.phase, s.worker.queue with
  | .idle, order :: _ => some ⟨order, s.clock, s.awaits order.ticket⟩
  | _, _ => none

/-- Queues an order under the next ticket, unless the worker is dead. -/
def arrive (s : Shift β σ) (r : CheckRequest β) : Shift β σ :=
  if s.worker.isGone then s
  else
    let order : Order β := ⟨s.arrived.length, r.backend, r.provider, r.options, r.text⟩
    { s with worker := s.worker.enqueue order, arrived := s.arrived ++ [order] }

def pass (s : Shift β σ) (time : Millis) : Shift β σ :=
  match s.due? with
  | none => { s with clock := s.clock + time }
  | some due => { s with clock := min (s.clock + time) due }

def work (pace : Pace) (ask : Ask β σ) (s : Shift β σ) : Shift β σ :=
  match s.due? with
  | none => s
  | some due =>
    if due ≤ s.clock then
      let (worker, world, notice) := s.worker.step pace ask.recorded s.awaits due s.world
      let delivery? : Option Delivery :=
        match notice with
        | .replied ticket reply => some ⟨s.clock, ticket, reply⟩
        | .nothing | .closed => none
      { s with
        worker, world
        turns := s.turns ++ s.turn?.toList
        deliveries := s.deliveries ++ delivery?.toList }
    else s

def after (pace : Pace) (ask : Ask β σ) (s : Shift β σ) : Event β → Shift β σ
  | .arrive r => s.arrive r
  | .leave ticket => { s with left := ticket :: s.left }
  | .pass time => s.pass time
  | .work => s.work pace ask

def run (pace : Pace) (ask : Ask β σ) (s : Shift β σ) (events : List (Event β)) : Shift β σ :=
  events.foldl (after pace ask) s

/-! ### Work -/

variable {s : Shift β σ} {o : Order β} {rest : List (Order β)} {start finish : Millis}

theorem due?_eq_some_iff {due : Millis} :
    s.due? = some due ↔ s.worker.phase.until? = some due ∨
      (s.worker.phase = .idle ∧ s.worker.queue ≠ [] ∧ s.clock = due) := by
  unfold due? Worker.due?
  cases s.worker.phase with
  | idle => simp [Phase.until?]
  | holding | asking | gone => simp [Phase.until?]

theorem work_of_idle (hphase : s.worker.phase = .idle) (hqueue : s.worker.queue = o :: rest) :
    s.work pace ask =
      { s with
        worker.phase :=
          if s.awaits o.ticket then .holding o (pace.startAfter s.worker.last s.clock) else .idle
        worker.queue := rest
        turns := s.turns ++ [⟨o, s.clock, s.awaits o.ticket⟩] } := by
  simp [work, due?, Worker.due?, turn?, Worker.step, hphase, hqueue]

theorem work_of_holding (hphase : s.worker.phase = .holding o start) (hle : start ≤ s.clock) :
    s.work pace ask =
      let (conduct, world) := ask s.world.2 start o
      let (finish, ending) := conduct.ending o.provider pace.timeout start
      { s with
        worker.phase := .asking o finish ending
        worker.last := some start
        world := (s.world.1 ++ [⟨o, start, conduct⟩], world) } := by
  simp [work, due?, Worker.due?, turn?, Worker.step, Ask.recorded, hphase, hle]

theorem work_of_asking {reply : Reply} (hphase : s.worker.phase = .asking o finish (some reply))
    (hle : finish ≤ s.clock) :
    s.work pace ask =
      { s with
        worker.phase := .idle
        worker.last := pace.afterReply s.worker.last finish reply
        deliveries := s.deliveries ++ [⟨s.clock, o.ticket, reply⟩] } := by
  simp [work, due?, Worker.due?, turn?, Worker.step, hphase, hle]

theorem work_of_dying (hphase : s.worker.phase = .asking o finish none) (hle : finish ≤ s.clock) :
    s.work pace ask = { s with worker.phase := .gone, worker.queue := [] } := by
  simp [work, due?, Worker.due?, turn?, Worker.step, hphase, hle]

theorem work_of_until? {time : Millis} (h : s.worker.phase.until? = some time)
    (hlt : s.clock < time) : s.work pace ask = s := by
  simp [work, due?_eq_some_iff.mpr (Or.inl h), hlt]

theorem work_of_due?_eq_none (h : s.due? = none) : s.work pace ask = s := by
  simp [work, h]

end Shift
end ProseCheck
