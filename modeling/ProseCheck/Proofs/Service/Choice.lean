import Mathlib.Tactic.Common
import ProseCheck.Proofs.Service.Setup

/-! # Choices of providers

A user selects a provider or changes the preferences for one. Whatever is chosen in whatever order,
each backend stands for the preferences stored for it and the active one can be asked; a choice that
fails changes nothing.
-/

namespace ProseCheck

open Net

inductive Choice where
  | select (p : Provider)
  | languageTool (p : LanguageToolPreferences)
  | grazie (p : GraziePreferences)
  deriving DecidableEq, Repr

namespace Service

variable {s s' : Service}

def choose (s : Service) : Choice → Except ServiceError Service
  | .select p => s.select p
  | .languageTool p => (s.updateLanguageTool p).mapError .config
  | .grazie p => (s.updateGrazie p).mapError .config

def chosen (s : Service) (c : Choice) : Service := (s.choose c).toOption.getD s

/-- The backends hold the preferences stored for them and ask where these say, and the active
provider is available. -/
structure Consistent (s : Service) : Prop where
  active_available : s.isAvailable s.active = true
  languageTool_preferences : s.languageTool.preferences = s.preferences.languageTool
  languageTool_endpoint :
    Url.parse? s.preferences.languageTool.apiUrl = some s.languageTool.endpoint
  grazie_preferences : s.grazie.preferences = s.preferences.grazie
  grazie_endpoint : Url.parse? s.preferences.grazie.apiUrl = some s.grazie.endpoint

/-- The active provider of `s` stays active in `s'` if it is available there; else the first one
that is available takes its place. -/
def Succeeds (s s' : Service) : Prop :=
  if s'.isAvailable s.active then s'.active = s.active
  else s'.available.head? = some s'.active

def Refuses (s : Service) : Choice → ServiceError → Prop
  | .select p, e => s.isAvailable p = false ∧ e = .unavailable p
  | .languageTool p, e => Url.parse? p.apiUrl = none ∧ e = .config (.invalidUrl p.apiUrl)
  | .grazie p, e => Url.parse? p.apiUrl = none ∧ e = .config (.invalidUrl p.apiUrl)

/-- What a choice changes when it does not fail. -/
def Accepts (s : Service) : Choice → Service → Prop
  | .select p, s' => s.isAvailable p = true ∧ s' = s.activate p
  | .languageTool p, s' => ∃ url, Url.parse? p.apiUrl = some url ∧ s.Succeeds s' ∧
      s' = { s with
        languageTool := ⟨url, p⟩
        preferences := { s.preferences with languageTool := p, activeProvider := s'.active } }
  | .grazie p, s' => ∃ url, Url.parse? p.apiUrl = some url ∧ s.Succeeds s' ∧
      s' = { s with
        grazie := ⟨url, p⟩
        preferences := { s.preferences with grazie := p, activeProvider := s'.active } }

/-! ### Adapters -/

theorem languageTool_ofPreferences_iff {p : LanguageToolPreferences} {a : LanguageTool.Adapter} :
    LanguageTool.Adapter.ofPreferences p = .ok a ↔
      a.preferences = p ∧ Url.parse? p.apiUrl = some a.endpoint := by
  unfold LanguageTool.Adapter.ofPreferences
  cases Url.parse? p.apiUrl <;> cases a <;> simp [and_comm, eq_comm]

theorem grazie_ofPreferences_iff {p : GraziePreferences} {a : Grazie.Adapter} :
    Grazie.Adapter.ofPreferences p = .ok a ↔
      a.preferences = p ∧ Url.parse? p.apiUrl = some a.endpoint := by
  unfold Grazie.Adapter.ofPreferences
  cases Url.parse? p.apiUrl <;> cases a <;> simp [and_comm, eq_comm]

theorem setUp_iff_consistent : s.SetUp ↔ s.Consistent := by
  constructor
  · rintro ⟨hlanguageTool, hgrazie, havailable⟩
    obtain ⟨hp, hurl⟩ := languageTool_ofPreferences_iff.mp hlanguageTool
    obtain ⟨hp', hurl'⟩ := grazie_ofPreferences_iff.mp hgrazie
    exact ⟨havailable, hp, hurl, hp', hurl'⟩
  · rintro ⟨havailable, hp, hurl, hp', hurl'⟩
    exact ⟨languageTool_ofPreferences_iff.mpr ⟨hp, hurl⟩, grazie_ofPreferences_iff.mpr ⟨hp', hurl'⟩,
      havailable⟩

/-! ### One choice -/

theorem isAvailable_activate (s : Service) (p q : Provider) :
    (s.activate p).isAvailable q = s.isAvailable q := by
  cases q <;> rfl

theorem available_activate (s : Service) (p : Provider) :
    (s.activate p).available = s.available :=
  List.filter_congr fun q _ => s.isAvailable_activate p q

theorem exists_ensureActive_eq (s : Service) :
    ∃ p, s.ensureActive = s.activate p ∧ s.Succeeds (s.activate p) := by
  unfold ensureActive
  split
  next h =>
    refine ⟨s.active, rfl, ?_⟩
    rw [Succeeds, isAvailable_activate, if_pos h]
    rfl
  next h =>
    refine ⟨_, rfl, ?_⟩
    rw [Succeeds, isAvailable_activate, if_neg h, available_activate, available, Provider.all,
      List.filter_cons_of_pos s.isAvailable_languageTool]
    rfl

theorem choose_cases (s : Service) (c : Choice) :
    (∃ e, s.choose c = .error e ∧ s.Refuses c e) ∨ ∃ s', s.choose c = .ok s' ∧ s.Accepts c s' := by
  cases c with
  | select p =>
    cases hp : s.isAvailable p with
    | false => exact Or.inl ⟨_, by simp [choose, Service.select, hp], hp, rfl⟩
    | true => exact Or.inr ⟨_, by simp [choose, Service.select, hp], hp, rfl⟩
  | languageTool p =>
    cases hp : Url.parse? p.apiUrl with
    | none =>
      refine Or.inl ⟨_, ?_, hp, rfl⟩
      simp [choose, updateLanguageTool, LanguageTool.Adapter.ofPreferences, hp, bind, Except.bind,
        Except.mapError]
    | some url =>
      obtain ⟨q, hq, hsucceeds⟩ := exists_ensureActive_eq { s with
        languageTool := ⟨url, p⟩, preferences := { s.preferences with languageTool := p } }
      refine Or.inr ⟨_, ?_, url, hp, hsucceeds, rfl⟩
      simp [choose, updateLanguageTool, LanguageTool.Adapter.ofPreferences, hp, bind, Except.bind,
        Except.mapError, pure, Except.pure, hq]
  | grazie p =>
    cases hp : Url.parse? p.apiUrl with
    | none =>
      refine Or.inl ⟨_, ?_, hp, rfl⟩
      simp [choose, updateGrazie, Grazie.Adapter.ofPreferences, hp, bind, Except.bind,
        Except.mapError]
    | some url =>
      obtain ⟨q, hq, hsucceeds⟩ := exists_ensureActive_eq { s with
        grazie := ⟨url, p⟩, preferences := { s.preferences with grazie := p } }
      refine Or.inr ⟨_, ?_, url, hp, hsucceeds, rfl⟩
      simp [choose, updateGrazie, Grazie.Adapter.ofPreferences, hp, bind, Except.bind,
        Except.mapError, pure, Except.pure, hq]

/-! ### All choices -/

theorem chosen_of_error {c : Choice} {e : ServiceError} (h : s.choose c = .error e) :
    s.chosen c = s := by
  simp [chosen, h, Except.toOption]

theorem chosen_of_ok {c : Choice} (h : s.choose c = .ok s') : s.chosen c = s' := by
  simp [chosen, h, Except.toOption]

theorem Consistent.accept {c : Choice} (h : s.Consistent) (ha : s.Accepts c s') :
    s'.Consistent := by
  have hactive (hsucceeds : s.Succeeds s') : s'.isAvailable s'.active = true := by
    rw [Succeeds] at hsucceeds
    split at hsucceeds
    next havailable => rwa [hsucceeds]
    next => exact (List.mem_filter.mp (List.mem_of_head? hsucceeds)).2
  cases c with
  | select p =>
    obtain ⟨hp, rfl⟩ := ha
    refine ⟨?_, h.languageTool_preferences, h.languageTool_endpoint, h.grazie_preferences,
      h.grazie_endpoint⟩
    rw [isAvailable_activate]
    exact hp
  | languageTool p =>
    obtain ⟨url, hurl, hsucceeds, heq⟩ := ha
    have havailable := hactive hsucceeds
    rw [heq] at havailable ⊢
    exact ⟨havailable, rfl, hurl, h.grazie_preferences, h.grazie_endpoint⟩
  | grazie p =>
    obtain ⟨url, hurl, hsucceeds, heq⟩ := ha
    have havailable := hactive hsucceeds
    rw [heq] at havailable ⊢
    exact ⟨havailable, h.languageTool_preferences, h.languageTool_endpoint, rfl, hurl⟩

theorem Consistent.chosen (h : s.Consistent) (c : Choice) : (s.chosen c).Consistent := by
  rcases s.choose_cases c with ⟨e, he, -⟩ | ⟨s', hs', ha⟩
  · rw [chosen_of_error he]
    exact h
  · rw [chosen_of_ok hs']
    exact h.accept ha

theorem Consistent.foldl_chosen (h : s.Consistent) (cs : List Choice) :
    (cs.foldl Service.chosen s).Consistent := by
  induction cs generalizing s with
  | nil => exact h
  | cons c cs ih => exact ih (h.chosen c)

theorem exists_ofPreferences_eq {preferences : Preferences}
    (hlanguageTool : (Url.parse? preferences.languageTool.apiUrl).isSome = true)
    (hgrazie : (Url.parse? preferences.grazie.apiUrl).isSome = true) (config : CheckerConfig)
    (tellsCuts : Bool) (dictionary : Dictionary) :
    ∃ s, ofPreferences config tellsCuts preferences dictionary = .ok s := by
  obtain ⟨url, hurl⟩ := Option.isSome_iff_exists.mp hlanguageTool
  obtain ⟨url', hurl'⟩ := Option.isSome_iff_exists.mp hgrazie
  simp [ofPreferences, LanguageTool.Adapter.ofPreferences, Grazie.Adapter.ofPreferences, hurl,
    hurl', bind, Except.bind, pure, Except.pure]

/-- A service can be set up from preferences with good addresses, and whatever is chosen from then
on, it is consistent. A choice that fails does so for its own reason and changes nothing, and one
that succeeds changes what it is about and, only if need be, the active provider. -/
theorem choices_keep_consistent {preferences : Preferences}
    (hlanguageTool : (Url.parse? preferences.languageTool.apiUrl).isSome = true)
    (hgrazie : (Url.parse? preferences.grazie.apiUrl).isSome = true) (config : CheckerConfig)
    (tellsCuts : Bool) (dictionary : Dictionary) :
    ∃ start, ofPreferences config tellsCuts preferences dictionary = .ok start ∧
      ∀ cs : List Choice,
        let s := cs.foldl chosen start
        s.Consistent ∧ ∀ c,
          (∃ e, s.choose c = .error e ∧ s.Refuses c e ∧ s.chosen c = s) ∨
            ∃ s', s.choose c = .ok s' ∧ s.Accepts c s' ∧ s.chosen c = s' := by
  obtain ⟨start, hstart⟩ :=
    exists_ofPreferences_eq hlanguageTool hgrazie config tellsCuts dictionary
  have hconsistent := setUp_iff_consistent.mp (setUp_ofPreferences hstart)
  refine ⟨start, hstart, ?_⟩
  intro cs s
  refine ⟨hconsistent.foldl_chosen cs, ?_⟩
  intro c
  rcases s.choose_cases c with ⟨e, he, hrefuses⟩ | ⟨s', hs', haccepts⟩
  · exact Or.inl ⟨e, he, hrefuses, chosen_of_error he⟩
  · exact Or.inr ⟨s', hs', haccepts, chosen_of_ok hs'⟩

/-- Grazie is active and loses its token, and LanguageTool is given an address that is none. -/
theorem choices_keep_consistent_token :
    let preferences : Preferences :=
      { activeProvider := .grazie, grazie := { token := some "jwt" } }
    let cs : List Choice := [.languageTool { apiUrl := "::nope::" }, .grazie { token := some " " }]
    (Url.parse? preferences.languageTool.apiUrl).isSome = true ∧
      (Url.parse? preferences.grazie.apiUrl).isSome = true ∧
      ∃ start, ofPreferences {} false preferences .empty = .ok start ∧
        start.active = .grazie ∧ (cs.foldl chosen start).active = .languageTool ∧
        (cs.foldl chosen start).Consistent := by
  intro preferences cs
  have hlanguageTool : (Url.parse? preferences.languageTool.apiUrl).isSome = true := by
    decide +kernel
  have hgrazie : (Url.parse? preferences.grazie.apiUrl).isSome = true := by decide +kernel
  have key : (ofPreferences {} false preferences .empty).toOption.map
      (fun start => (start.active, (cs.foldl chosen start).active)) =
        some (.grazie, .languageTool) := by decide +kernel
  obtain ⟨start, hstart, hchoices⟩ :=
    choices_keep_consistent hlanguageTool hgrazie {} false .empty
  simp only [hstart, Except.toOption, Option.map_some, Option.some.injEq, Prod.mk.injEq] at key
  exact ⟨hlanguageTool, hgrazie, start, hstart, key.1, key.2, (hchoices cs).1⟩

end Service
end ProseCheck
