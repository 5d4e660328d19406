import Mathlib.Data.List.Basic
import Mathlib.Data.List.Induction
import ProseCheck.Proofs.Session.Course

/-! # Timers as processes

A debouncer holds on to the process of its last timer, which may be over by then. A timer that fires
starts its task as a process of its own, and nobody holds on to that one. So a call stops the timer
that waits, if any, and no task.
-/

namespace ProseCheck.Debouncer

variable {α : Type}

inductive Stage where
  | alive
  | ended
  | aborted
  deriving DecidableEq, Repr

inductive Job (α : Type) where
  | timer (timer : Timer (Call α))
  | task (start : Start α)
  deriving DecidableEq, Repr

structure Process (α : Type) where
  job : Job α
  stage : Stage
  deriving DecidableEq, Repr

namespace Process

def timer? : Process α → Option (Timer (Call α))
  | ⟨.timer timer, .alive⟩ => some timer
  | _ => none

def start? : Process α → Option (Start α)
  | ⟨.timer _, _⟩ => none
  | ⟨.task start, _⟩ => some start

/-- The task that a process starts when it has its turn. -/
def due? (now : Millis) (p : Process α) : Option (Start α) :=
  (p.timer?.filter (·.deadline ≤ now)).map fun timer => ⟨now, timer.task⟩

def fire (now : Millis) (p : Process α) : Process α :=
  if (p.due? now).isSome then { p with stage := .ended } else p

def abort (p : Process α) : Process α :=
  if p.stage = .alive then { p with stage := .aborted } else p

def finish : Process α → Process α
  | ⟨.task start, .alive⟩ => ⟨.task start, .ended⟩
  | p => p

end Process

structure ProcessTable (α : Type) where
  clock : Millis
  next : Nat
  processes : List (Process α)
  /-- The process that the debouncer holds on to. -/
  handle : Option Nat
  deriving DecidableEq, Repr

namespace ProcessTable

def begin : ProcessTable α := ⟨0, 0, [], none⟩

def isAlive (r : ProcessTable α) (process : Nat) : Bool :=
  (r.processes[process]?).any (·.stage = .alive)

def isPending (r : ProcessTable α) : Bool := r.handle.any r.isAlive

/-- Lets go of the process that is held and aborts it, and says whether it was alive. -/
def cancel (r : ProcessTable α) : Bool × ProcessTable α :=
  match r.handle with
  | some process =>
    (r.isAlive process,
      { r with handle := none, processes := r.processes.modify process Process.abort })
  | none => (false, r)

def timers (r : ProcessTable α) : List (Timer (Call α)) := r.processes.filterMap Process.timer?

def after (delay : Millis) (r : ProcessTable α) : Event α → ProcessTable α
  | .schedule task =>
    let r := r.cancel.2
    { r with
      next := r.next + 1
      processes := r.processes ++ [⟨.timer ⟨r.clock + delay, r.next, task⟩, .alive⟩]
      handle := some r.processes.length }
  | .cancel | .drop => r.cancel.2
  | .pass time =>
    { r with clock := r.timers.foldr (fun timer time => min time timer.deadline) (r.clock + time) }
  | .fire =>
    { r with
      processes := r.processes.map (·.fire r.clock) ++
        (r.processes.filterMap (·.due? r.clock)).map (⟨.task ·, .alive⟩) }
  | .finish process => { r with processes := r.processes.modify process Process.finish }

def run (delay : Millis) (events : List (Event α)) : ProcessTable α :=
  events.foldl (after delay) begin

end ProcessTable

/-- The processes stand as the course of the debouncer says. -/
structure Mirrors (r : ProcessTable α) (c : Course α) : Prop where
  clock : r.clock = c.clock
  next : r.next = c.next
  timers : r.timers = c.debouncer.waiting.toList
  starts : r.processes.filterMap Process.start? = c.starts
  /-- What is held was started as a timer. -/
  held : ∀ process, r.handle = some process →
    ∃ timer stage, r.processes[process]? = some ⟨.timer timer, stage⟩
  waiting : ∀ timer, c.debouncer.waiting = some timer →
    ∃ process, r.handle = some process ∧ r.processes[process]? = some ⟨.timer timer, .alive⟩
  unaborted : ∀ p ∈ r.processes, p.start?.isSome → p.stage ≠ .aborted

variable {r : ProcessTable α} {c : Course α} {p : Process α} {delay now : Millis} {process : Nat}
  {events : List (Event α)}

/-! ### Modified lists -/

theorem filterMap_modify {β γ : Type} {f : β → β} {g : β → Option γ} (h : ∀ x, g (f x) = g x)
    (xs : List β) (i : Nat) : (xs.modify i f).filterMap g = xs.filterMap g := by
  rcases Nat.lt_or_ge i xs.length with hlt | hge
  · obtain ⟨before, x, behind, rfl, -, heq⟩ := List.exists_of_modify f hlt
    rw [heq, List.filterMap_append, List.filterMap_append, List.filterMap_cons, h,
      List.filterMap_cons]
  · rw [List.modify_eq_self hge]

theorem getElem?_modify_of_fixed {β : Type} {f : β → β} {xs : List β} {i : Nat} {x : β}
    (hx : f x = x) (h : xs[i]? = some x) (j : Nat) : (xs.modify j f)[i]? = some x := by
  rw [List.getElem?_modify, h]
  split <;> simp [hx]

theorem forall_mem_modify {β : Type} {f : β → β} {xs : List β} {P : β → Prop}
    (h : ∀ x ∈ xs, P x) (hf : ∀ x, P x → P (f x)) (i : Nat) : ∀ x ∈ xs.modify i f, P x := by
  intro x hx
  obtain ⟨j, hj⟩ := List.mem_iff_getElem?.mp hx
  rw [List.getElem?_modify] at hj
  obtain ⟨y, hy, rfl⟩ := Option.map_eq_some_iff.mp hj
  have hy := h y (List.mem_of_getElem? hy)
  split
  · exact hf y hy
  · exact hy

/-! ### Processes -/

namespace Process

theorem timer?_abort (p : Process α) : p.abort.timer? = none := by
  obtain ⟨job, stage⟩ := p
  cases job <;> cases stage <;> rfl

theorem timer?_finish (p : Process α) : p.finish.timer? = p.timer? := by
  obtain ⟨job, stage⟩ := p
  cases job <;> cases stage <;> rfl

theorem start?_finish (p : Process α) : p.finish.start? = p.start? := by
  obtain ⟨job, stage⟩ := p
  cases job <;> cases stage <;> rfl

theorem finish_ne_aborted (h : p.stage ≠ .aborted) : p.finish.stage ≠ .aborted := by
  obtain ⟨job, stage⟩ := p
  cases job with
  | timer => exact h
  | task =>
    cases stage with
    | alive => exact nofun
    | ended | aborted => exact h

theorem start?_abort (p : Process α) : p.abort.start? = p.start? := by
  obtain ⟨job, stage⟩ := p
  cases job <;> cases stage <;> rfl

theorem start?_fire (now : Millis) (p : Process α) : (p.fire now).start? = p.start? := by
  rw [fire]
  split
  · obtain ⟨job, stage⟩ := p
    cases job <;> rfl
  · rfl

theorem timer?_fire (now : Millis) (p : Process α) :
    (p.fire now).timer? = p.timer?.filter (now < ·.deadline) := by
  rw [fire, due?, Option.isSome_map]
  cases htimer : p.timer? with
  | none => exact htimer
  | some timer =>
    by_cases hdue : timer.deadline ≤ now
    · simp [Option.filter, hdue, Nat.not_lt_of_le hdue, timer?]
    · simp [Option.filter, hdue, Nat.lt_of_not_le hdue, htimer]

theorem fire_timer (now : Millis) (timer : Timer (Call α)) (stage : Stage) :
    ∃ stage', fire now ⟨.timer timer, stage⟩ = ⟨.timer timer, stage'⟩ := by
  rw [fire]
  split
  · exact ⟨.ended, rfl⟩
  · exact ⟨stage, rfl⟩

theorem fire_of_lt {timer : Timer (Call α)} (h : now < timer.deadline) :
    fire now ⟨.timer timer, .alive⟩ = ⟨.timer timer, .alive⟩ := by
  simp [fire, due?, timer?, Option.filter, Nat.not_le_of_lt h]

theorem fire_ne_aborted (now : Millis) (h : p.stage ≠ .aborted) :
    (p.fire now).stage ≠ .aborted := by
  rw [fire]
  split
  · exact nofun
  · exact h

end Process

/-! ### What is pending -/

theorem ProcessTable.cancel_fst (r : ProcessTable α) : r.cancel.1 = r.isPending := by
  rw [cancel, isPending]
  cases r.handle <;> rfl

namespace Mirrors

theorem isPending_eq (h : Mirrors r c) : r.isPending = c.debouncer.isPending := by
  rw [ProcessTable.isPending, Debouncer.isPending]
  cases hwaiting : c.debouncer.waiting with
  | none =>
    have hnone : r.timers = [] := by rw [h.timers, hwaiting, Option.toList_none]
    cases hhandle : r.handle with
    | none => rfl
    | some process =>
      obtain ⟨timer, stage, hprocess⟩ := h.held process hhandle
      have htimer := List.filterMap_eq_nil_iff.mp hnone _ (List.mem_of_getElem? hprocess)
      cases stage with
      | alive => cases htimer
      | ended | aborted => simp [ProcessTable.isAlive, hprocess]
  | some timer =>
    obtain ⟨process, hhandle, hprocess⟩ := h.waiting timer hwaiting
    simp [ProcessTable.isAlive, hhandle, hprocess]

theorem exists_split (h : Mirrors r c) (hhandle : r.handle = some process) :
    ∃ before timer stage behind, r.processes = before ++ ⟨.timer timer, stage⟩ :: behind ∧
      r.processes.modify process Process.abort =
        before ++ Process.abort ⟨.timer timer, stage⟩ :: behind ∧
      before.filterMap Process.timer? = [] ∧ behind.filterMap Process.timer? = [] := by
  obtain ⟨timer, stage, hprocess⟩ := h.held process hhandle
  obtain ⟨before, p, behind, hsplit, rfl, heq⟩ := List.exists_of_modify Process.abort
    (List.getElem?_eq_some_iff.mp hprocess).1
  have htimers : r.processes.filterMap Process.timer? = c.debouncer.waiting.toList := h.timers
  have hp : r.processes[before.length]? = some p := by simp [hsplit]
  obtain rfl : p = ⟨.timer timer, stage⟩ := Option.some.inj (hp.symm.trans hprocess)
  refine ⟨before, timer, stage, behind, hsplit, heq, ?_⟩
  rw [hsplit, List.filterMap_append] at htimers
  cases hwaiting : c.debouncer.waiting with
  | none =>
    rw [hwaiting, Option.toList_none, List.append_eq_nil_iff,
      List.filterMap_eq_nil_iff (l := _ :: _), List.forall_mem_cons,
      ← List.filterMap_eq_nil_iff] at htimers
    exact ⟨htimers.1, htimers.2.2⟩
  | some timer' =>
    obtain ⟨_, hhandle', hprocess'⟩ := h.waiting timer' hwaiting
    cases hhandle.symm.trans hhandle'
    cases hprocess.symm.trans hprocess'
    rw [hwaiting, Option.toList_some, List.filterMap_cons_some (f := Process.timer?) rfl]
      at htimers
    have hlength := congrArg List.length htimers
    rw [List.length_append, List.length_cons, List.length_singleton] at hlength
    exact ⟨List.eq_nil_of_length_eq_zero (by omega), List.eq_nil_of_length_eq_zero (by omega)⟩

end Mirrors

/-! ### Steps -/

theorem ProcessTable.dues_eq (r : ProcessTable α) : r.processes.filterMap (·.due? r.clock) =
    (r.timers.filter (·.deadline ≤ r.clock)).map fun timer => ⟨r.clock, timer.task⟩ := by
  rw [timers, List.filter_filterMap, List.map_filterMap]
  rfl

theorem ProcessTable.timers_after_fire (r : ProcessTable α) :
    (r.after delay .fire).timers = r.timers.filter (r.clock < ·.deadline) := by
  have hnone (starts : List (Start α)) :
      (starts.map (⟨.task ·, .alive⟩)).filterMap Process.timer? = [] := by
    refine List.filterMap_eq_nil_iff.mpr (List.forall_mem_map.mpr fun _ _ => rfl)
  rw [timers, after, List.filterMap_append, hnone, List.append_nil, List.filterMap_map, timers,
    List.filter_filterMap]
  exact List.filterMap_congr fun p _ => p.timer?_fire r.clock

theorem ProcessTable.starts_after_fire (r : ProcessTable α) :
    (r.after delay .fire).processes.filterMap Process.start? =
      r.processes.filterMap Process.start? ++ r.processes.filterMap (·.due? r.clock) := by
  have hall (starts : List (Start α)) :
      (starts.map (⟨.task ·, .alive⟩)).filterMap Process.start? = starts := by
    rw [List.filterMap_map]
    exact List.filterMap_some
  rw [after, List.filterMap_append, hall, List.filterMap_map]
  congr 1
  exact List.filterMap_congr fun p _ => p.start?_fire r.clock

namespace Mirrors

theorem cancel (h : Mirrors r c) :
    Mirrors r.cancel.2 { c with debouncer := c.debouncer.cancel.2 } := by
  rw [ProcessTable.cancel]
  cases hhandle : r.handle with
  | none =>
    have hnone : c.debouncer.waiting = none := by
      refine Option.eq_none_iff_forall_ne_some.mpr fun timer hwaiting => ?_
      obtain ⟨process, hprocess, -⟩ := h.waiting timer hwaiting
      rw [hhandle] at hprocess
      cases hprocess
    refine ⟨h.clock, h.next, ?_, h.starts, h.held, by rintro _ ⟨⟩, h.unaborted⟩
    rw [h.timers, hnone]
    rfl
  | some process =>
    obtain ⟨before, timer, stage, behind, hsplit, heq, hbefore, hbehind⟩ := h.exists_split hhandle
    refine ⟨h.clock, h.next, ?_, ?_, by rintro _ ⟨⟩, by rintro _ ⟨⟩, ?_⟩
    · show (r.processes.modify process Process.abort).filterMap Process.timer? = []
      rw [heq, List.filterMap_append, List.filterMap_cons, Process.timer?_abort, hbefore, hbehind]
      rfl
    · exact (filterMap_modify Process.start?_abort ..).trans h.starts
    · have hunaborted := h.unaborted
      rw [hsplit, List.forall_mem_append, List.forall_mem_cons] at hunaborted
      show ∀ p ∈ r.processes.modify process Process.abort, p.start?.isSome → p.stage ≠ .aborted
      rw [heq, List.forall_mem_append, List.forall_mem_cons, Process.start?_abort]
      exact ⟨hunaborted.1, fun hstart => absurd hstart Bool.false_ne_true, hunaborted.2.2⟩

theorem schedule (h : Mirrors r c) (hdelay : c.debouncer.delay = delay) (task : α) :
    Mirrors (r.after delay (.schedule task)) (c.after (.schedule task)) := by
  obtain ⟨hclock, hnext, htimers, hstarts, -, -, hunaborted⟩ := h.cancel
  have hnone : r.cancel.2.processes.filterMap Process.timer? = [] := htimers
  have htimer : (⟨r.cancel.2.clock + delay, r.cancel.2.next, task⟩ : Timer (Call α)) =
      ⟨c.clock + c.debouncer.delay, c.next, task⟩ := by
    rw [hclock, hnext, hdelay]
  have hheld := List.getElem?_concat_length (l := r.cancel.2.processes)
    (a := ⟨.timer ⟨c.clock + c.debouncer.delay, c.next, task⟩, .alive⟩)
  simp only [ProcessTable.after, htimer]
  refine ⟨hclock, congrArg (· + 1) hnext, ?_, ?_, ?_, ?_, ?_⟩
  · rw [ProcessTable.timers, List.filterMap_append, hnone]
    rfl
  · rw [List.filterMap_append, hstarts]
    exact List.append_nil _
  · rintro _ ⟨⟩
    exact ⟨_, _, hheld⟩
  · rintro _ ⟨⟩
    exact ⟨_, rfl, hheld⟩
  · exact List.forall_mem_append.mpr ⟨hunaborted, List.forall_mem_singleton.mpr nofun⟩

theorem pass (h : Mirrors r c) (time : Millis) :
    Mirrors (r.after delay (.pass time)) (c.after (.pass time)) := by
  refine ⟨?_, h.next, h.timers, h.starts, h.held, h.waiting, h.unaborted⟩
  show r.timers.foldr _ (r.clock + time) = c.limit (c.clock + time)
  rw [h.timers, h.clock, Course.limit]
  cases c.debouncer.waiting <;> rfl

theorem finish (h : Mirrors r c) (process : Nat) :
    Mirrors (r.after delay (.finish process)) (c.after (.finish process)) := by
  have hfixed {timer : Timer (Call α)} {stage : Stage} :
      Process.finish ⟨.timer timer, stage⟩ = ⟨.timer timer, stage⟩ := rfl
  refine ⟨h.clock, h.next, ?_, ?_, ?_, ?_, ?_⟩
  · exact (filterMap_modify Process.timer?_finish ..).trans h.timers
  · exact (filterMap_modify Process.start?_finish ..).trans h.starts
  · intro held hhandle
    obtain ⟨timer, stage, hheld⟩ := h.held held hhandle
    exact ⟨timer, stage, getElem?_modify_of_fixed hfixed hheld process⟩
  · intro timer hwaiting
    obtain ⟨held, hhandle, hheld⟩ := h.waiting timer hwaiting
    exact ⟨held, hhandle, getElem?_modify_of_fixed hfixed hheld process⟩
  · refine forall_mem_modify h.unaborted (fun p hp hstart => ?_) process
    rw [Process.start?_finish] at hstart
    exact Process.finish_ne_aborted (hp hstart)

theorem fire (h : Mirrors r c) : Mirrors (r.after delay .fire) (c.after .fire) := by
  have hprocess {process : Nat} {p : Process α} (hp : r.processes[process]? = some p) :
      (r.after delay .fire).processes[process]? = some (p.fire r.clock) := by
    have hlt : process < (r.processes.map (·.fire r.clock)).length := by
      rw [List.length_map]
      exact (List.getElem?_eq_some_iff.mp hp).1
    rw [ProcessTable.after, List.getElem?_append_left hlt, List.getElem?_map, hp, Option.map_some]
  refine ⟨h.clock, h.next, ?_, ?_, ?_, ?_, ?_⟩
  · rw [ProcessTable.timers_after_fire, c.waiting_after_fire, h.timers, h.clock]
    exact (Option.toList_filter ..).symm
  · rw [ProcessTable.starts_after_fire, c.starts_after_fire, h.starts, r.dues_eq, h.timers, h.clock]
  · intro process hhandle
    obtain ⟨timer, stage, hp⟩ := h.held process hhandle
    obtain ⟨stage', hfire⟩ := Process.fire_timer r.clock timer stage
    exact ⟨timer, stage', hfire ▸ hprocess hp⟩
  · intro timer hwaiting
    rw [c.waiting_after_fire] at hwaiting
    obtain ⟨hwaiting, hearly⟩ := Option.filter_eq_some_iff.mp hwaiting
    obtain ⟨process, hhandle, hp⟩ := h.waiting timer hwaiting
    rw [← h.clock, decide_eq_true_eq] at hearly
    exact ⟨process, hhandle, Process.fire_of_lt hearly ▸ hprocess hp⟩
  · refine List.forall_mem_append.mpr ⟨List.forall_mem_map.mpr fun p hp hstart => ?_, ?_⟩
    · rw [Process.start?_fire] at hstart
      exact Process.fire_ne_aborted r.clock (h.unaborted p hp hstart)
    · exact List.forall_mem_map.mpr fun _ _ => nofun

theorem after (h : Mirrors r c) (hc : c.Sound delay) (e : Event α) :
    Mirrors (r.after delay e) (c.after e) := by
  cases e with
  | schedule task => exact h.schedule hc.delay_eq task
  | cancel | drop => exact h.cancel
  | pass time => exact h.pass time
  | fire => exact h.fire
  | finish process => exact h.finish process

end Mirrors

/-! ### Runs -/

theorem mirrors_begin (delay : Millis) :
    Mirrors (ProcessTable.begin : ProcessTable α) (Course.begin delay) where
  clock := rfl
  next := rfl
  timers := rfl
  starts := rfl
  held := nofun
  waiting := nofun
  unaborted := nofun

theorem mirrors_run (delay : Millis) (events : List (Event α)) :
    Mirrors (ProcessTable.run delay events) (Course.run delay events) := by
  induction events using List.reverseRecOn with
  | nil => exact mirrors_begin delay
  | append_singleton events e ih =>
    rw [ProcessTable.run, Course.run, List.foldl_append, List.foldl_append]
    exact ih.after (Course.sound_run delay events) e

/-- A call does nothing to a task. -/
theorem Mirrors.getElem?_after_call (h : Mirrors r c) {e : Event α} (he : e.isCall = true)
    (hp : r.processes[process]? = some p) (hstart : p.start?.isSome) :
    (r.after delay e).processes[process]? = some p := by
  have hcancel : r.cancel.2.processes[process]? = some p := by
    rw [ProcessTable.cancel]
    cases hhandle : r.handle with
    | none => exact hp
    | some held =>
      obtain ⟨timer, stage, hheld⟩ := h.held held hhandle
      have hne : held ≠ process := by
        rintro rfl
        cases hp.symm.trans hheld
        cases hstart
      simp [hne, hp]
  cases e with
  | schedule task =>
    rw [ProcessTable.after, List.getElem?_append_left (List.getElem?_eq_some_iff.mp hcancel).1]
    exact hcancel
  | cancel | drop => exact hcancel
  | pass | fire | finish => cases he

/-! ### Calls and their tasks -/

/-- What a debouncer and its processes do when `events` happen. -/
structure Orderly (delay : Millis) (events : List (Event α)) : Prop where
  /-- The timer that the debouncer waits for is the only one. -/
  timers : (ProcessTable.run delay events).timers =
    (Course.run delay events).debouncer.waiting.toList
  single : (ProcessTable.run delay events).timers.length ≤ 1
  isPending : (Course.run delay events).debouncer.isPending = true ↔
    ∃ timer, timer ∈ (ProcessTable.run delay events).timers
  held : (ProcessTable.run delay events).isPending = (Course.run delay events).debouncer.isPending
  cancel : (Course.run delay events).debouncer.cancel.1 =
    (Course.run delay events).debouncer.isPending
  aborted : (ProcessTable.run delay events).cancel.1 = (ProcessTable.run delay events).isPending
  starts : (ProcessTable.run delay events).processes.filterMap Process.start? =
    (Course.run delay events).starts
  /-- No call stops a task. -/
  spared : ∀ e : Event α, e.isCall = true → ∀ (process : Nat) (p : Process α),
    (ProcessTable.run delay events).processes[process]? = some p → p.start?.isSome →
      p.stage ≠ .aborted ∧ (ProcessTable.run delay (events ++ [e])).processes[process]? = some p
  /-- A call at some time starts its task once, after the delay, if its timer fires before the next
  call, and not at all otherwise. -/
  scheduled : ∀ before task behind, events = before ++ .schedule task :: behind →
    let c := Course.run delay before
    let starts := (Course.run delay events).startsOf c.next
    (starts ≠ [] ↔ Course.Fires delay behind) ∧
      (Course.Fires delay behind → starts = [⟨c.clock + delay, c.next, task⟩])

theorem run_orderly (delay : Millis) (events : List (Event α)) : Orderly delay events := by
  have hmirrors := mirrors_run delay events
  constructor
  case timers => exact hmirrors.timers
  case single =>
    rw [hmirrors.timers]
    exact Option.length_toList_le
  case isPending =>
    rw [hmirrors.timers, Debouncer.isPending, Option.isSome_iff_exists]
    simp only [Option.mem_toList]
  case held => exact hmirrors.isPending_eq
  case cancel => rfl
  case aborted => exact ProcessTable.cancel_fst _
  case starts => exact hmirrors.starts
  case spared =>
    intro e he process p hp hstart
    refine ⟨hmirrors.unaborted p (List.mem_of_getElem? hp) hstart, ?_⟩
    rw [ProcessTable.run, List.foldl_append]
    exact hmirrors.getElem?_after_call he hp hstart
  case scheduled =>
    rintro before task behind rfl c starts
    have hstarts : starts =
        if Course.fires delay behind then [⟨c.clock + delay, c.next, task⟩] else [] :=
      Course.startsOf_run delay before behind task
    rw [← Course.fires_iff, hstarts]
    cases Course.fires delay behind <;> simp

end ProseCheck.Debouncer
