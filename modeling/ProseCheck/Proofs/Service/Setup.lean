import Mathlib.Tactic.Common
import ProseCheck.Proofs.Service.Basic

/-! # How services are set up

The backends stand for the preferences, and the active provider is available. So the preferences of
a service, its dictionary and its configuration are enough to set it up anew.
-/

namespace ProseCheck.Service

open Net

variable {σ : Type} {s s' : Service}

/-- The backends are those of the preferences, and the active one can be asked. -/
structure SetUp (s : Service) : Prop where
  languageTool : LanguageTool.Adapter.ofPreferences s.preferences.languageTool = .ok s.languageTool
  grazie : Grazie.Adapter.ofPreferences s.preferences.grazie = .ok s.grazie
  available : s.isAvailable s.active = true

theorem SetUp.of_eq (h : s.SetUp) (hpreferences : s'.preferences = s.preferences)
    (hlanguageTool : s'.languageTool = s.languageTool) (hgrazie : s'.grazie = s.grazie) :
    s'.SetUp where
  languageTool := by rw [hpreferences, hlanguageTool, h.languageTool]
  grazie := by rw [hpreferences, hgrazie, h.grazie]
  available := by
    have hactive : s'.active = s.active := by rw [active, active, hpreferences]
    have hbackend (p : Provider) : s'.backend p = s.backend p := by
      cases p <;> simp only [backend, hlanguageTool, hgrazie]
    rw [isAvailable, hactive, hbackend]
    exact h.available

theorem isAvailable_languageTool (s : Service) : s.isAvailable .languageTool = true := rfl

theorem setUp_activate {p : Provider} (hp : s.isAvailable p = true)
    (hlanguageTool :
      LanguageTool.Adapter.ofPreferences s.preferences.languageTool = .ok s.languageTool)
    (hgrazie : Grazie.Adapter.ofPreferences s.preferences.grazie = .ok s.grazie) :
    (s.activate p).SetUp where
  languageTool := hlanguageTool
  grazie := hgrazie
  available := by cases p <;> exact hp

theorem setUp_ensureActive
    (hlanguageTool :
      LanguageTool.Adapter.ofPreferences s.preferences.languageTool = .ok s.languageTool)
    (hgrazie : Grazie.Adapter.ofPreferences s.preferences.grazie = .ok s.grazie) :
    s.ensureActive.SetUp := by
  unfold ensureActive
  split
  next h => exact ⟨hlanguageTool, hgrazie, h⟩
  next =>
    have hfirst : s.available.headD .languageTool = .languageTool := by
      rw [available, Provider.all, List.filter_cons_of_pos s.isAvailable_languageTool]
      rfl
    rw [hfirst]
    exact setUp_activate s.isAvailable_languageTool hlanguageTool hgrazie

theorem setUp_ofPreferences {config : CheckerConfig} {tellsCuts : Bool} {preferences : Preferences}
    {dictionary : Dictionary} (h : ofPreferences config tellsCuts preferences dictionary = .ok s) :
    s.SetUp := by
  obtain ⟨languageTool, grazie, hlanguageTool, hgrazie, rfl⟩ := ofPreferences_eq_ok h
  exact setUp_ensureActive hlanguageTool hgrazie

theorem check_frame (s : Service) (link : Link σ) (markdown : List Char)
    (overrides : CheckOverrides) (world : σ) : ∃ last strips checker,
      (s.check link markdown overrides world).2.2.1 = { s with last, strips, checker } := by
  unfold check
  split
  next => exact ⟨s.last, s.strips, s.checker, rfl⟩
  next =>
    obtain ⟨last, strips, hs⟩ := s.strip_frame markdown
    simp only [hs]
    split
    · exact ⟨last, strips, s.checker, rfl⟩
    · exact ⟨last, strips, _, rfl⟩

theorem SetUp.perform (h : s.SetUp) (link : Link σ) (world : σ) (op : Operation) :
    (s.perform link world op).1.SetUp := by
  cases op with
  | check markdown overrides =>
    obtain ⟨last, strips, checker, heq⟩ := s.check_frame link markdown overrides world
    simp only [Service.perform, heq]
    exact h.of_eq rfl rfl rfl
  | strip markdown =>
    obtain ⟨last, strips, heq⟩ := s.strip_frame markdown
    simp only [Service.perform, heq]
    exact h.of_eq rfl rfl rfl
  | select p =>
    simp only [Service.perform, select]
    split
    next hp => exact setUp_activate hp h.languageTool h.grazie
    next => exact h
  | updateLanguageTool p =>
    simp only [Service.perform, updateLanguageTool]
    cases hp : LanguageTool.Adapter.ofPreferences p with
    | error => exact h
    | ok languageTool =>
      exact setUp_ensureActive
        (s := { s with languageTool, preferences := { s.preferences with languageTool := p } })
        hp h.grazie
  | updateGrazie p =>
    simp only [Service.perform, updateGrazie]
    cases hp : Grazie.Adapter.ofPreferences p with
    | error => exact h
    | ok grazie =>
      exact setUp_ensureActive
        (s := { s with grazie, preferences := { s.preferences with grazie := p } })
        h.languageTool hp
  | addWord now word rule =>
    simp only [Service.perform, addWord_eq]
    exact h.of_eq rfl rfl rfl
  | removeWord word rule =>
    simp only [Service.perform, removeWord_eq]
    exact h.of_eq rfl rfl rfl
  | clearCache => exact h.of_eq rfl rfl rfl
  | tellCuts on => exact h.of_eq rfl rfl rfl

/-- The service as it was when it was set up, but for its preferences and its dictionary. -/
def renewed (s : Service) : Service :=
  { s with last := none, strips := 0, checker := .start s.checker.config s.checker.tellsCuts }

theorem SetUp.ofPreferences_eq (h : s.SetUp) :
    ofPreferences s.checker.config s.checker.tellsCuts s.preferences s.dictionary =
      .ok s.renewed := by
  have hrenewed : s.renewed.SetUp := h.of_eq rfl rfl rfl
  have hensure : s.renewed.ensureActive = s.renewed := if_pos hrenewed.available
  simp only [ofPreferences, h.languageTool, h.grazie, bind, Except.bind, pure, Except.pure]
  exact congrArg Except.ok hensure

end ProseCheck.Service
