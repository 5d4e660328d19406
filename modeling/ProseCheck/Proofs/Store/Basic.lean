import ProseCheck.Store.Basic

/-! # Loading from a store

What is loaded from a store is told by the values that it holds. Loading changes nothing.
-/

namespace ProseCheck

section

variable {σ ε α β : Type} {x : ExceptT ε (StateM σ) α} {f : α → ExceptT ε (StateM σ) β} {t t' : σ}

theorem run_bind_of_ok {a : α} (h : x.run t = (.ok a, t')) : (x >>= f).run t = (f a).run t' := by
  show StateT.bind x.run (ExceptT.bindCont f) t = _
  simp only [StateT.bind, h]
  rfl

theorem run_bind_of_error {e : ε} (h : x.run t = (.error e, t')) :
    (x >>= f).run t = (.error e, t') := by
  show StateT.bind x.run (ExceptT.bindCont f) t = _
  simp only [StateT.bind, h]
  rfl

theorem run_adapt {ε' : Type} (g : ε → ε') (x : ExceptT ε (StateM σ) α) (t : σ) :
    (x.adapt g).run t = ((x.run t).1.mapError g, (x.run t).2) := rfl

theorem run_adapt_of_ok {ε' : Type} (g : ε → ε') {a : α} (h : x.run t = (.ok a, t')) :
    (x.adapt g).run t = (.ok a, t') := by
  rw [run_adapt, h]
  rfl

theorem run_adapt_of_error {ε' : Type} (g : ε → ε') {e : ε} (h : x.run t = (.error e, t')) :
    (x.adapt g).run t = (.error (g e), t') := by
  rw [run_adapt, h]
  rfl

end

namespace Store

variable {σ α : Type} {s : Store (StateM σ)} {contents : σ → Except StoreError Entries}

/-- Getting a value looks it up among those that a state contains, and changes nothing. -/
def Holds (s : Store (StateM σ)) (contents : σ → Except StoreError Entries) : Prop :=
  ∀ key t, (s.get? key).run t = ((contents t).map (·.lookup key), t)

/-- What is stored under a key, or what stands for it where nothing is. -/
def stored? (key : String) (read : Json.Source → Option α) (default : α) (es : Entries) :
    Option α :=
  match es.lookup key with
  | none => some default
  | some value => read value.toSource

def preferences? : Entries → Option Preferences :=
  stored? preferencesKey Preferences.ofSource? {}

def dictionary? : Entries → Option Dictionary :=
  stored? dictionaryKey Dictionary.ofSource? .empty

theorem load?_run (h : s.Holds contents) (key : String) (read : Json.Source → Option α)
    (default : α) (t : σ) :
    (do return (← s.load? key read).getD default : ExceptT StoreError (StateM σ) α).run t =
      ((contents t).bind fun es =>
        (stored? key read default es).elim (.error (.decode key)) .ok, t) := by
  have hget := h key t
  cases hes : contents t with
  | error e =>
    rw [hes] at hget
    exact run_bind_of_error (run_bind_of_error hget)
  | ok es =>
    rw [hes, Except.map] at hget
    cases hvalue : es.lookup key with
    | none =>
      rw [hvalue] at hget
      have hload : (s.load? key read).run t = (.ok none, t) := run_bind_of_ok hget
      simp only [Except.bind, stored?, hvalue]
      exact run_bind_of_ok hload
    | some value =>
      rw [hvalue] at hget
      simp only [Except.bind, stored?, hvalue]
      cases hread : read value.toSource with
      | none =>
        have hload : (s.load? key read).run t = (.error (.decode key), t) := by
          rw [load?, run_bind_of_ok hget]
          simp only [hread]
          rfl
        exact run_bind_of_error hload
      | some a =>
        have hload : (s.load? key read).run t = (.ok (some a), t) := by
          rw [load?, run_bind_of_ok hget]
          simp only [hread]
          rfl
        exact run_bind_of_ok hload

theorem load?_cases (h : s.Holds contents) (key : String) (read : Json.Source → Option α)
    (default : α) (t : σ) :
    let load : ExceptT StoreError (StateM σ) α := do
      return (← s.load? key read).getD default
    (∃ e, load.run t = (.error e, t)) ∨
    ∃ es a, contents t = .ok es ∧ stored? key read default es = some a ∧
      load.run t = (.ok a, t) := by
  intro load
  have hrun := load?_run h key read default t
  cases hes : contents t with
  | error e =>
    rw [hes] at hrun
    exact Or.inl ⟨e, hrun⟩
  | ok es =>
    rw [hes, Except.bind] at hrun
    cases ha : stored? key read default es with
    | none =>
      rw [ha] at hrun
      exact Or.inl ⟨.decode key, hrun⟩
    | some a =>
      rw [ha] at hrun
      exact Or.inr ⟨es, a, rfl, ha, hrun⟩

theorem loadPreferences_cases (h : s.Holds contents) (t : σ) :
    (∃ e, s.loadPreferences.run t = (.error e, t)) ∨
    ∃ es p, contents t = .ok es ∧ preferences? es = some p ∧ s.loadPreferences.run t = (.ok p, t) :=
  load?_cases h _ _ _ t

theorem loadDictionary_cases (h : s.Holds contents) (t : σ) :
    (∃ e, s.loadDictionary.run t = (.error e, t)) ∨
    ∃ es d, contents t = .ok es ∧ dictionary? es = some d ∧ s.loadDictionary.run t = (.ok d, t) :=
  load?_cases h _ _ _ t

end Store
end ProseCheck
