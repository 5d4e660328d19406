import Mathlib.Tactic.Common
import ProseCheck.Proofs.Backend
import ProseCheck.Proofs.Checker.Run
import ProseCheck.Service.Basic

/-! # Operations of services

Everything that can be done with a service, one operation after the other. An operation that fails
leaves the service as it is.
-/

namespace ProseCheck

open Markdown Net

inductive Operation where
  | check (markdown : List Char) (overrides : CheckOverrides)
  | strip (markdown : List Char)
  | select (p : Provider)
  | updateLanguageTool (p : LanguageToolPreferences)
  | updateGrazie (p : GraziePreferences)
  | addWord (now : Instant) (word : String) (rule : Option String)
  | removeWord (word : String) (rule : Option String)
  | clearCache
  | tellCuts (on : Bool)

namespace Service

variable {σ : Type} {link : Link σ} {s : Service} {markdown : List Char}
  {overrides : CheckOverrides} {world : σ}

/-- What the service is and where the world behind the link is after an operation. -/
def perform (link : Link σ) (s : Service) (world : σ) : Operation → Service × σ
  | .check markdown overrides => (s.check link markdown overrides world).2.2
  | .strip markdown => ((s.strip markdown).2, world)
  | .select p => ((s.select p).toOption.getD s, world)
  | .updateLanguageTool p => ((s.updateLanguageTool p).toOption.getD s, world)
  | .updateGrazie p => ((s.updateGrazie p).toOption.getD s, world)
  | .addWord now word rule => ((s.addWord now word rule).2, world)
  | .removeWord word rule => ((s.removeWord word rule).2, world)
  | .clearCache => (s.clearCache, world)
  | .tellCuts on => (s.tellCuts on, world)

/-! ### Stripping -/

/-- The document that is remembered is a stripped one. -/
def Remembers (s : Service) : Prop := ∀ d, s.last = some d → d = Markdown.strip d.markdown

theorem strip_eq (h : s.Remembers) (markdown : List Char) :
    (s.strip markdown).1 = Markdown.strip markdown := by
  unfold strip
  split
  next d hd =>
    obtain ⟨hlast, hmarkdown⟩ := Option.filter_eq_some_iff.mp hd
    rw [h d hlast, of_decide_eq_true hmarkdown]
  next => rfl

theorem strip_frame (s : Service) (markdown : List Char) :
    ∃ last strips, (s.strip markdown).2 = { s with last, strips } := by
  unfold strip
  split
  · exact ⟨s.last, s.strips, rfl⟩
  · exact ⟨_, _, rfl⟩

theorem remembers_strip (h : s.Remembers) (markdown : List Char) :
    (s.strip markdown).2.Remembers := by
  unfold strip
  split
  · exact h
  · intro d hd
    cases hd
    rfl

/-! ### The dictionary -/

theorem addWord_eq (s : Service) (now : Instant) (word : String) (rule : Option String) :
    (s.addWord now word rule).2 = { s with dictionary := (s.dictionary.add now word rule).2 } := by
  unfold addWord
  rcases s.dictionary.add now word rule with ⟨added, dictionary⟩
  rfl

theorem removeWord_eq (s : Service) (word : String) (rule : Option String) :
    (s.removeWord word rule).2 = { s with dictionary := (s.dictionary.remove word rule).2 } := by
  unfold removeWord
  rcases s.dictionary.remove word rule with ⟨removed, dictionary⟩
  rfl

/-! ### Preferences -/

/-- An operation that has to do with preferences only. -/
def Prefers : Operation → Prop
  | .select _ | .updateLanguageTool _ | .updateGrazie _ => True
  | _ => False

theorem ensureActive_frame (s : Service) :
    ∃ preferences, s.ensureActive = { s with preferences } := by
  unfold ensureActive
  split
  · exact ⟨_, rfl⟩
  · exact ⟨_, rfl⟩

theorem ofPreferences_eq_ok {config : CheckerConfig} {tellsCuts : Bool} {preferences : Preferences}
    {dictionary : Dictionary} (h : ofPreferences config tellsCuts preferences dictionary = .ok s) :
    ∃ languageTool grazie,
      LanguageTool.Adapter.ofPreferences preferences.languageTool = .ok languageTool ∧
      Grazie.Adapter.ofPreferences preferences.grazie = .ok grazie ∧
      s = ensureActive { preferences, languageTool, grazie, dictionary, last := none, strips := 0
                         checker := .start config tellsCuts } := by
  unfold ofPreferences at h
  simp only [bind, Except.bind, pure, Except.pure] at h
  split at h
  next => cases h
  next languageTool hlanguageTool =>
    split at h
    next => cases h
    next grazie hgrazie =>
      cases h
      exact ⟨languageTool, grazie, hlanguageTool, hgrazie, rfl⟩

theorem ofPreferences_frame {config : CheckerConfig} {tellsCuts : Bool} {preferences : Preferences}
    {dictionary : Dictionary} (h : ofPreferences config tellsCuts preferences dictionary = .ok s) :
    s.checker = .start config tellsCuts ∧ s.Remembers := by
  obtain ⟨languageTool, grazie, -, -, rfl⟩ := ofPreferences_eq_ok h
  obtain ⟨preferences', heq⟩ := ensureActive_frame
    { preferences, languageTool, grazie, dictionary, last := none, strips := 0
      checker := .start config tellsCuts }
  rw [heq]
  exact ⟨rfl, fun d hd => by cases hd⟩

theorem perform_of_prefers {op : Operation} (h : Prefers op) (s : Service) (link : Link σ)
    (world : σ) :
    ∃ preferences languageTool grazie, s.perform link world op =
      ({ s with preferences, languageTool, grazie }, world) := by
  cases op with
  | select p =>
    simp only [perform, select]
    split
    · exact ⟨_, _, _, rfl⟩
    · exact ⟨_, _, _, rfl⟩
  | updateLanguageTool p =>
    simp only [perform, updateLanguageTool]
    cases LanguageTool.Adapter.ofPreferences p with
    | error => exact ⟨_, _, _, rfl⟩
    | ok languageTool =>
      obtain ⟨preferences, hs⟩ := ensureActive_frame
        { s with languageTool, preferences := { s.preferences with languageTool := p } }
      exact ⟨preferences, languageTool, s.grazie, congrArg (·, world) hs⟩
  | updateGrazie p =>
    simp only [perform, updateGrazie]
    cases Grazie.Adapter.ofPreferences p with
    | error => exact ⟨_, _, _, rfl⟩
    | ok grazie =>
      obtain ⟨preferences, hs⟩ := ensureActive_frame
        { s with grazie, preferences := { s.preferences with grazie := p } }
      exact ⟨preferences, s.languageTool, grazie, congrArg (·, world) hs⟩
  | _ => cases h

/-! ### Operations without the caches -/

def LooksUp : Operation → Prop
  | .check .. | .clearCache => True
  | _ => False

theorem Remembers.of_eq {s' : Service} (h : s.Remembers) (hlast : s'.last = s.last) :
    s'.Remembers :=
  fun d hd => h d (hlast ▸ hd)

theorem perform_of_not_looksUp {op : Operation} (hop : ¬ LooksUp op) (h : s.Remembers)
    (link : Link σ) (world : σ) :
    (∃ on, (s.perform link world op).1.checker = { s.checker with tellsCuts := on }) ∧
      (s.perform link world op).1.Remembers := by
  have hprefers (op : Operation) (hop : Prefers op) :
      (∃ on, (s.perform link world op).1.checker = { s.checker with tellsCuts := on }) ∧
        (s.perform link world op).1.Remembers := by
    obtain ⟨preferences, languageTool, grazie, heq⟩ := perform_of_prefers hop s link world
    rw [heq]
    exact ⟨⟨s.checker.tellsCuts, rfl⟩, h.of_eq rfl⟩
  cases op with
  | check => exact absurd trivial hop
  | clearCache => exact absurd trivial hop
  | strip markdown =>
    obtain ⟨last, strips, heq⟩ := s.strip_frame markdown
    have hremembers := remembers_strip h markdown
    simp only [perform, heq] at hremembers ⊢
    exact ⟨⟨s.checker.tellsCuts, rfl⟩, hremembers⟩
  | addWord now word rule =>
    simp only [perform, addWord_eq]
    exact ⟨⟨s.checker.tellsCuts, rfl⟩, h.of_eq rfl⟩
  | removeWord word rule =>
    simp only [perform, removeWord_eq]
    exact ⟨⟨s.checker.tellsCuts, rfl⟩, h.of_eq rfl⟩
  | tellCuts on => exact ⟨⟨on, rfl⟩, h.of_eq rfl⟩
  | select p => exact hprefers (.select p) trivial
  | updateLanguageTool p => exact hprefers (.updateLanguageTool p) trivial
  | updateGrazie p => exact hprefers (.updateGrazie p) trivial

/-! ### Checking -/

theorem ending_askOver (pace : Pace) (world : σ) (start : Millis) (o : Order Backend) :
    (askOver link).ending pace world start o =
      some (o.backend.check link world o.options o.text).1 := by
  simp [Ask.ending, askOver, Conduct.ending]

def requestFor (s : Service) (overrides : CheckOverrides) (text : List Char) :
    CheckRequest Backend where
  backend := s.backend s.active
  provider := s.active
  options := s.preferences.checkOptions overrides s.active
  text

/-- Blank documents, and those with no prose, are not checked. -/
def IsBlank (markdown : List Char) : Prop :=
  Text.allBlank markdown = true ∨ Text.allBlank (Markdown.strip markdown).text = true

theorem provider_backend (s : Service) (p : Provider) : (s.backend p).provider = p := by
  cases p <;> rfl

theorem check_of_isBlank (h : s.Remembers) (hblank : IsBlank markdown) (link : Link σ)
    (overrides : CheckOverrides) (world : σ) :
    ∃ last strips, s.check link markdown overrides world =
        ([], none, { s with last, strips }, world) ∧
      { s with last, strips : Service }.Remembers := by
  unfold check
  by_cases hmarkdown : Text.allBlank markdown = true
  · rw [if_pos hmarkdown]
    exact ⟨s.last, s.strips, rfl, h⟩
  · have htext := hblank.resolve_left hmarkdown
    have heq := strip_eq h markdown
    have hnext := remembers_strip h markdown
    obtain ⟨last, strips, hs⟩ := s.strip_frame markdown
    rw [if_neg hmarkdown]
    simp only [heq, htext, hs, if_true] at hnext ⊢
    exact ⟨last, strips, rfl, hnext⟩

theorem check_of_not_isBlank (h : s.Remembers) (hblank : ¬ IsBlank markdown) (link : Link σ)
    (overrides : CheckOverrides) (world : σ) :
    ∃ last strips, s.check link markdown overrides world =
        (let d := Markdown.strip markdown
        let out := s.checker.check (askOver link) (s.requestFor overrides d.text) world
        (problems d s.dictionary out.1, out.2.1, { s with last, strips, checker := out.2.2.1 },
          out.2.2.2)) ∧
      { s with last, strips : Service }.Remembers := by
  have heq := strip_eq h markdown
  have hnext := remembers_strip h markdown
  obtain ⟨last, strips, hs⟩ := s.strip_frame markdown
  unfold check
  rw [if_neg fun h' => hblank (Or.inl h')]
  simp only [heq, hs] at hnext ⊢
  rw [if_neg fun h' => hblank (Or.inr h')]
  exact ⟨last, strips, rfl, hnext⟩

theorem mem_problems_of_mem_check {p : Problem} (h : s.Remembers)
    (hp : p ∈ (s.check link markdown overrides world).1) :
    p ∈ problems (Markdown.strip markdown) s.dictionary
      (s.checker.check (askOver link)
        (s.requestFor overrides (Markdown.strip markdown).text) world).1 := by
  by_cases hblank : IsBlank markdown
  · obtain ⟨last, strips, heq, -⟩ :=
      check_of_isBlank h hblank link overrides world
    rw [heq] at hp
    cases hp
  · obtain ⟨last, strips, heq, -⟩ :=
      check_of_not_isBlank h hblank link overrides world
    rw [heq] at hp
    exact hp

end Service
end ProseCheck
