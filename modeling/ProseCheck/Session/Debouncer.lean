import ProseCheck.Time.Wait

/-! # Debouncing

A task is started once nothing new has been scheduled for a while. Scheduling replaces the task that
waits; a task that was started is out of reach.
-/

namespace ProseCheck

/-- A task and the time at which it is to be started. -/
structure Timer (α : Type) where
  deadline : Millis
  task : α
  deriving DecidableEq, Repr

structure Debouncer (α : Type) where
  delay : Millis
  waiting : Option (Timer α)
  deriving DecidableEq, Repr

namespace Debouncer

variable {α : Type}

def ofDelay (delay : Millis) : Debouncer α := ⟨delay, none⟩

def isPending (d : Debouncer α) : Bool := d.waiting.isSome

/-- Waits for the full delay from now on, with a new task. -/
def schedule (d : Debouncer α) (now : Millis) (task : α) : Debouncer α :=
  { d with waiting := some ⟨now + d.delay, task⟩ }

/-- Forgets the task that waits, and says whether there was one. -/
def cancel (d : Debouncer α) : Bool × Debouncer α := (d.isPending, { d with waiting := none })

/-- Lets time pass up to `now`: the task that is due by then, if any, is started. -/
def advance (d : Debouncer α) (now : Millis) : Option (Timer α) × Debouncer α :=
  match d.waiting with
  | some timer =>
    if timer.deadline ≤ now then (some timer, { d with waiting := none }) else (none, d)
  | none => (none, d)

theorem advance_cases (d : Debouncer α) (now : Millis) :
    (d.advance now = (none, d) ∧ ∀ timer, d.waiting = some timer → now < timer.deadline) ∨
    ∃ timer, d.waiting = some timer ∧ timer.deadline ≤ now ∧
      d.advance now = (some timer, { d with waiting := none }) := by
  obtain ⟨delay, waiting⟩ := d
  cases waiting with
  | none => exact Or.inl ⟨rfl, nofun⟩
  | some timer =>
    by_cases hdue : timer.deadline ≤ now
    · exact Or.inr ⟨timer, rfl, hdue, if_pos hdue⟩
    · refine Or.inl ⟨if_neg hdue, ?_⟩
      rintro _ ⟨⟩
      exact Nat.lt_of_not_le hdue

end Debouncer
end ProseCheck
