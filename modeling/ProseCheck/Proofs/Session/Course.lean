import Mathlib.Tactic.Common
import ProseCheck.Session.Debouncer

/-! # The course of a debouncer

Tasks are scheduled and cancelled while time passes. A task starts if the timer of its call fires
before the next call comes. Time does not pass by the deadline of what waits, but a timer that is
due may still be cancelled as long as it has not fired.
-/

namespace ProseCheck.Debouncer

variable {α : Type}

/-- A call that schedules a task, and how many such calls came before it. -/
structure Call (α : Type) where
  number : Nat
  task : α
  deriving DecidableEq, Repr

structure Start (α : Type) where
  time : Millis
  call : Call α
  deriving DecidableEq, Repr

/-- What can happen to a debouncer. -/
inductive Event (α : Type) where
  | schedule (task : α)
  | cancel
  | drop
  | pass (time : Millis)
  /-- A timer has its turn. -/
  | fire
  /-- A started task ends. -/
  | finish (process : Nat)
  deriving DecidableEq, Repr

namespace Event

/-- Whether the event takes the timer away that waits. -/
def isCall : Event α → Bool
  | schedule _ | cancel | drop => true
  | pass _ | fire | finish _ => false

def time : Event α → Millis
  | pass time => time
  | schedule _ | cancel | drop | fire | finish _ => 0

def elapsed (events : List (Event α)) : Millis := events.foldr (·.time + ·) 0

theorem elapsed_cons (e : Event α) (events : List (Event α)) :
    elapsed (e :: events) = e.time + elapsed events := rfl

end Event

structure Course (α : Type) where
  clock : Millis
  /-- The number of the next call. -/
  next : Nat
  debouncer : Debouncer (Call α)
  starts : List (Start α)
  deriving DecidableEq, Repr

namespace Course

def begin (delay : Millis) : Course α := ⟨0, 0, ofDelay delay, []⟩

/-- The last moment that time can pass up to until something fires. -/
def limit (c : Course α) (time : Millis) : Millis :=
  match c.debouncer.waiting with
  | some timer => min time timer.deadline
  | none => time

def after (c : Course α) : Event α → Course α
  | .schedule task =>
    { c with
      next := c.next + 1
      debouncer := c.debouncer.schedule c.clock ⟨c.next, task⟩ }
  | .cancel | .drop => { c with debouncer := c.debouncer.cancel.2 }
  | .pass time => { c with clock := c.limit (c.clock + time) }
  | .fire =>
    let (due, debouncer) := c.debouncer.advance c.clock
    { c with
      debouncer
      starts := c.starts ++ due.toList.map fun timer => ⟨c.clock, timer.task⟩ }
  | .finish _ => c

def run (delay : Millis) (events : List (Event α)) : Course α := events.foldl after (begin delay)

def startsOf (c : Course α) (number : Nat) : List (Start α) :=
  c.starts.filter (·.call.number = number)

variable {c : Course α} {timer : Timer (Call α)} {events : List (Event α)} {delay left : Millis}
  {number : Nat} {task : α}

theorem limit_of_waiting (h : c.debouncer.waiting = some timer) (time : Millis) :
    c.limit time = min time timer.deadline := by
  rw [limit, h]

theorem after_fire_cases (c : Course α) :
    (c.after .fire = c ∧ ∀ timer, c.debouncer.waiting = some timer → c.clock < timer.deadline) ∨
    ∃ timer, c.debouncer.waiting = some timer ∧ timer.deadline ≤ c.clock ∧
      c.after .fire = { c with
        debouncer := { c.debouncer with waiting := none }
        starts := c.starts ++ [⟨c.clock, timer.task⟩] } := by
  rcases c.debouncer.advance_cases c.clock with ⟨heq, hearly⟩ | ⟨timer, hwaiting, hdue, heq⟩
  · refine Or.inl ⟨?_, hearly⟩
    rw [after, heq]
    simp
  · refine Or.inr ⟨timer, hwaiting, hdue, ?_⟩
    rw [after, heq]
    rfl

theorem waiting_after_fire (c : Course α) :
    (c.after .fire).debouncer.waiting = c.debouncer.waiting.filter (c.clock < ·.deadline) := by
  rcases c.after_fire_cases with ⟨heq, hearly⟩ | ⟨timer, hwaiting, hdue, heq⟩
  · rw [heq]
    cases hwaiting : c.debouncer.waiting with
    | none => rfl
    | some timer => simp [Option.filter, hearly timer hwaiting]
  · rw [heq, hwaiting]
    simp [Option.filter, Nat.not_lt_of_le hdue]

theorem starts_after_fire (c : Course α) : (c.after .fire).starts = c.starts ++
    (c.debouncer.waiting.toList.filter (·.deadline ≤ c.clock)).map
      fun timer => ⟨c.clock, timer.task⟩ := by
  rcases c.after_fire_cases with ⟨heq, hearly⟩ | ⟨timer, hwaiting, hdue, heq⟩
  · rw [heq]
    cases hwaiting : c.debouncer.waiting with
    | none => simp
    | some timer => simp [hearly timer hwaiting]
  · simp [heq, hwaiting, hdue]

/-! ### What holds at any time -/

structure Sound (delay : Millis) (c : Course α) : Prop where
  delay_eq : c.debouncer.delay = delay
  clock_le : ∀ timer, c.debouncer.waiting = some timer → c.clock ≤ timer.deadline
  waiting_lt : ∀ timer, c.debouncer.waiting = some timer → timer.task.number < c.next
  starts_lt : ∀ start ∈ c.starts, start.call.number < c.next

theorem sound_begin (delay : Millis) : (begin delay : Course α).Sound delay where
  delay_eq := rfl
  clock_le := by simp [begin, ofDelay]
  waiting_lt := by simp [begin, ofDelay]
  starts_lt := by simp [begin]

theorem Sound.after (h : c.Sound delay) (e : Event α) : (c.after e).Sound delay := by
  cases e with
  | schedule task =>
    refine ⟨h.delay_eq, ?_, ?_, fun start hstart => Nat.lt_succ_of_lt (h.starts_lt start hstart)⟩
    · rintro _ ⟨⟩
      exact Nat.le_add_right ..
    · rintro _ ⟨⟩
      exact Nat.lt_succ_self _
  | cancel | drop => exact ⟨h.delay_eq, by rintro _ ⟨⟩, by rintro _ ⟨⟩, h.starts_lt⟩
  | pass time =>
    refine ⟨h.delay_eq, fun timer hwaiting => ?_, h.waiting_lt, h.starts_lt⟩
    have hclock : (c.after (.pass time)).clock = min (c.clock + time) timer.deadline :=
      limit_of_waiting hwaiting _
    exact hclock ▸ Nat.min_le_right ..
  | fire =>
    rcases c.after_fire_cases with ⟨heq, -⟩ | ⟨timer, hwaiting, -, heq⟩
    · rw [heq]
      exact h
    · rw [heq]
      refine ⟨h.delay_eq, by rintro _ ⟨⟩, by rintro _ ⟨⟩, ?_⟩
      refine List.forall_mem_append.mpr ⟨h.starts_lt, List.forall_mem_singleton.mpr ?_⟩
      exact h.waiting_lt timer hwaiting
  | finish => exact h

theorem sound_run (delay : Millis) (events : List (Event α)) : (run delay events).Sound delay :=
  List.foldlRecOn events after (sound_begin delay) fun _ h e _ => h.after e

/-! ### The start of a task -/

/-- The timer of a call that was made does not wait. -/
structure Gone (number : Nat) (c : Course α) : Prop where
  lt : number < c.next
  waiting_ne : ∀ timer, c.debouncer.waiting = some timer → timer.task.number ≠ number

theorem startsOf_append (c : Course α) (debouncer : Debouncer (Call α)) (start : Start α) :
    { c with debouncer, starts := c.starts ++ [start] }.startsOf number =
      c.startsOf number ++ if start.call.number = number then [start] else [] := by
  simp only [startsOf, List.filter_append, List.filter_cons, List.filter_nil, decide_eq_true_eq]

theorem Gone.after (h : Gone number c) (e : Event α) :
    Gone number (c.after e) ∧ (c.after e).startsOf number = c.startsOf number := by
  cases e with
  | schedule task =>
    refine ⟨⟨Nat.lt_succ_of_lt h.lt, ?_⟩, rfl⟩
    rintro _ ⟨⟩
    exact Nat.ne_of_gt h.lt
  | cancel | drop => exact ⟨⟨h.lt, by rintro _ ⟨⟩⟩, rfl⟩
  | pass | finish => exact ⟨⟨h.lt, h.waiting_ne⟩, rfl⟩
  | fire =>
    rcases c.after_fire_cases with ⟨heq, -⟩ | ⟨timer, hwaiting, -, heq⟩
    · rw [heq]
      exact ⟨h, rfl⟩
    · rw [heq, startsOf_append, if_neg (h.waiting_ne timer hwaiting), List.append_nil]
      exact ⟨⟨h.lt, by rintro _ ⟨⟩⟩, rfl⟩

theorem Gone.startsOf_foldl (h : Gone number c) (events : List (Event α)) :
    (events.foldl Course.after c).startsOf number = c.startsOf number := by
  induction events generalizing c with
  | nil => rfl
  | cons e events ih =>
    obtain ⟨hafter, heq⟩ := h.after e
    rw [List.foldl_cons, ih hafter, heq]

/-- Whether a timer fires that has `left` to go. -/
def fires (left : Millis) : List (Event α) → Bool
  | [] | .schedule _ :: _ | .cancel :: _ | .drop :: _ => false
  | .pass time :: events => fires (left - time) events
  | .fire :: events => left = 0 || fires left events
  | .finish _ :: events => fires left events

theorem sub_min_add (deadline clock time : Nat) :
    deadline - min (clock + time) deadline = deadline - clock - time := by
  omega

/-- The task of the call that waits starts once, at its deadline, or not at all. -/
theorem startsOf_foldl (hwaiting : c.debouncer.waiting = some timer)
    (hle : c.clock ≤ timer.deadline) (hlt : timer.task.number < c.next) (events : List (Event α)) :
    (events.foldl after c).startsOf timer.task.number = c.startsOf timer.task.number ++
      if fires (timer.deadline - c.clock) events then [⟨timer.deadline, timer.task⟩] else [] := by
  induction events generalizing c with
  | nil => exact (List.append_nil _).symm
  | cons e events ih =>
    have hgone (h : Gone timer.task.number (c.after e)) :
        ((e :: events).foldl after c).startsOf timer.task.number =
          (c.after e).startsOf timer.task.number := h.startsOf_foldl events
    cases e with
    | schedule task =>
      refine (hgone ⟨Nat.lt_succ_of_lt hlt, ?_⟩).trans (List.append_nil _).symm
      rintro _ ⟨⟩
      exact Nat.ne_of_gt hlt
    | cancel | drop => exact (hgone ⟨hlt, by rintro _ ⟨⟩⟩).trans (List.append_nil _).symm
    | pass time =>
      have hclock : (c.after (.pass time)).clock = min (c.clock + time) timer.deadline :=
        limit_of_waiting hwaiting _
      rw [fires, ← sub_min_add, ← hclock]
      exact ih hwaiting (hclock ▸ Nat.min_le_right ..) hlt
    | fire =>
      rcases c.after_fire_cases with ⟨heq, hearly⟩ | ⟨_, hwaiting', hdue, heq⟩
      · have hleft : timer.deadline - c.clock ≠ 0 := Nat.sub_ne_zero_of_lt (hearly timer hwaiting)
        rw [List.foldl_cons, heq, fires, decide_eq_false hleft, Bool.false_or]
        exact ih hwaiting hle hlt
      · obtain rfl : timer = _ := Option.some.inj (hwaiting.symm.trans hwaiting')
        have hclock : c.clock = timer.deadline := Nat.le_antisymm hle hdue
        rw [hgone (heq ▸ ⟨hlt, by rintro _ ⟨⟩⟩), heq, startsOf_append, if_pos rfl, fires, hclock,
          Nat.sub_self]
        rfl
    | finish => exact ih hwaiting hle hlt

/-- No call comes until a timer that has `left` to go has its turn at its time. -/
def Fires (left : Millis) (events : List (Event α)) : Prop :=
  ∃ calm rest, events = calm ++ .fire :: rest ∧ (∀ e ∈ calm, e.isCall = false) ∧
    left ≤ Event.elapsed calm

theorem fires_cons_iff (e : Event α) : Fires left (e :: events) ↔
    e = .fire ∧ left = 0 ∨ e.isCall = false ∧ Fires (left - e.time) events := by
  constructor
  · rintro ⟨calm, rest, heq, hcalm, hleft⟩
    cases calm with
    | nil =>
      obtain ⟨rfl, rfl⟩ := List.cons_eq_cons.mp heq
      exact Or.inl ⟨rfl, Nat.le_zero.mp hleft⟩
    | cons e calm =>
      obtain ⟨rfl, rfl⟩ := List.cons_eq_cons.mp heq
      obtain ⟨he, hcalm⟩ := List.forall_mem_cons.mp hcalm
      rw [Event.elapsed_cons] at hleft
      exact Or.inr ⟨he, calm, rest, rfl, hcalm, Nat.sub_le_iff_le_add'.mpr hleft⟩
  · rintro (⟨rfl, rfl⟩ | ⟨he, calm, rest, rfl, hcalm, hleft⟩)
    · exact ⟨[], events, rfl, List.forall_mem_nil _, Nat.le_refl _⟩
    · refine ⟨e :: calm, rest, rfl, List.forall_mem_cons.mpr ⟨he, hcalm⟩, ?_⟩
      rw [Event.elapsed_cons]
      exact Nat.sub_le_iff_le_add'.mp hleft

theorem fires_iff : fires left events = true ↔ Fires left events := by
  induction events generalizing left with
  | nil => simp [fires, Fires]
  | cons e events ih =>
    rw [fires_cons_iff]
    cases e <;> simp [fires, ih, Event.isCall, Event.time]

/-- What was scheduled starts at the end of its delay if no call comes until its timer fires, and
never if one does. -/
theorem startsOf_run (delay : Millis) (before behind : List (Event α)) (task : α) :
    let c := run delay before
    (run delay (before ++ .schedule task :: behind)).startsOf c.next =
      if fires delay behind then [⟨c.clock + delay, c.next, task⟩] else [] := by
  intro c
  have hsound : c.Sound delay := sound_run delay before
  have hnone : c.startsOf c.next = [] := by
    refine List.filter_eq_nil_iff.mpr fun start hstart => ?_
    simpa using Nat.ne_of_lt (hsound.starts_lt start hstart)
  have hstarts := startsOf_foldl (c := c.after (.schedule task)) rfl (Nat.le_add_right ..)
    (Nat.lt_succ_self _) behind
  have hleft : c.clock + c.debouncer.delay - c.clock = delay := by
    rw [Nat.add_sub_cancel_left, hsound.delay_eq]
  rw [run, List.foldl_append]
  refine hstarts.trans ?_
  show c.startsOf c.next ++
    (if fires (c.clock + c.debouncer.delay - c.clock) behind then _ else _) = _
  rw [hnone, hleft, List.nil_append, hsound.delay_eq]

-- The timer of the second call is cut off by the third one, which comes just when it is due.
example : (run 3 [.schedule 'a', .pass 1, .schedule 'b', .pass 3, .schedule 'c', .pass 5, .fire,
    .cancel]).starts = [⟨7, 2, 'c'⟩] := by decide

end Course
end ProseCheck.Debouncer
