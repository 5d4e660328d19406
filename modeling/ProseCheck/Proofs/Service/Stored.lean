import ProseCheck.Proofs.Dictionary.Record
import ProseCheck.Proofs.Preferences.Record
import ProseCheck.Proofs.Service.Choice
import ProseCheck.Proofs.Store.File
import ProseCheck.Service.Stored

/-! # Services that are stored

A service is loaded with the stored preferences, settled on a provider that can be asked. Storing it
sets its preferences and its dictionary.
-/

namespace ProseCheck

open Json

namespace Preferences

def isAvailable (p : Preferences) : Provider → Bool
  | .languageTool => true
  | .grazie => p.grazie.usableToken?.isSome

/-- The preferences with a provider that is available. -/
def settled (p : Preferences) : Preferences :=
  if p.isAvailable p.activeProvider then p else { p with activeProvider := .languageTool }

theorem languageTool_settled (p : Preferences) : p.settled.languageTool = p.languageTool := by
  unfold settled
  split <;> rfl

theorem grazie_settled (p : Preferences) : p.settled.grazie = p.grazie := by
  unfold settled
  split <;> rfl

theorem activeProvider_settled (p : Preferences) : p.settled.activeProvider =
    if p.isAvailable p.activeProvider then p.activeProvider else .languageTool := by
  unfold settled
  split <;> rfl

theorem isAvailable_congr {p q : Preferences} (h : p.grazie = q.grazie) (provider : Provider) :
    p.isAvailable provider = q.isAvailable provider := by
  cases provider with
  | languageTool => rfl
  | grazie => rw [isAvailable, h, isAvailable]

end Preferences

namespace Service

variable {s s' : Service}

/-! ### Providers -/

theorem isAvailable_eq (h : s.grazie.preferences = s.preferences.grazie) (p : Provider) :
    s.isAvailable p = s.preferences.isAvailable p := by
  cases p with
  | languageTool => rfl
  | grazie => exact congrArg (·.usableToken?.isSome) h

theorem ensureActive_eq (h : s.grazie.preferences = s.preferences.grazie) :
    s.ensureActive = { s with preferences := s.preferences.settled } := by
  rw [ensureActive, isAvailable_eq h, Preferences.settled, active]
  split
  · rfl
  · rw [available, Provider.all, List.filter_cons_of_pos s.isAvailable_languageTool]
    rfl

theorem ensureActive_settled (h : s.grazie.preferences = s.preferences.grazie) :
    s.ensureActive.preferences = s.preferences.settled ∧
      s.ensureActive.dictionary = s.dictionary := by
  rw [ensureActive_eq h]
  exact ⟨rfl, rfl⟩

theorem ofPreferences_settled {config : CheckerConfig} {tellsCuts : Bool} {p : Preferences}
    {d : Dictionary} (h : ofPreferences config tellsCuts p d = .ok s) :
    s.preferences = p.settled ∧ s.dictionary = d := by
  obtain ⟨languageTool, grazie, -, hgrazie, rfl⟩ := ofPreferences_eq_ok h
  exact ensureActive_settled (grazie_ofPreferences_iff.mp hgrazie).1

theorem updateLanguageTool_settled {p : LanguageToolPreferences} (hs : s.SetUp)
    (h : s.updateLanguageTool p = .ok s') :
    s'.preferences = { s.preferences with languageTool := p }.settled ∧
      s'.dictionary = s.dictionary := by
  rw [updateLanguageTool] at h
  cases hadapter : LanguageTool.Adapter.ofPreferences p with
  | error e =>
    rw [hadapter] at h
    cases h
  | ok languageTool =>
    rw [hadapter] at h
    cases h
    exact ensureActive_settled (grazie_ofPreferences_iff.mp hs.grazie).1

theorem updateGrazie_settled {p : GraziePreferences} (h : s.updateGrazie p = .ok s') :
    s'.preferences = { s.preferences with grazie := p }.settled ∧
      s'.dictionary = s.dictionary := by
  rw [updateGrazie] at h
  cases hadapter : Grazie.Adapter.ofPreferences p with
  | error e =>
    rw [hadapter] at h
    cases h
  | ok grazie =>
    rw [hadapter] at h
    cases h
    exact ensureActive_settled (grazie_ofPreferences_iff.mp hadapter).1

/-! ### Loading -/

section

variable {σ : Type} {store : Store (StateM σ)} {contents : σ → Except StoreError Store.Entries}

theorem load_cases (h : store.Holds contents) (config : CheckerConfig) (tellsCuts : Bool) (t : σ) :
    (∃ e, (load store config tellsCuts).run t = (.error e, t)) ∨
    ∃ es p d s, contents t = .ok es ∧ Store.preferences? es = some p ∧
      Store.dictionary? es = some d ∧ ofPreferences config tellsCuts p d = .ok s ∧
      (load store config tellsCuts).run t = (.ok s, t) := by
  rcases Store.loadPreferences_cases h t with ⟨e, hrun⟩ | ⟨es, p, hes, hp, hrun⟩
  · exact Or.inl ⟨_, run_bind_of_error (run_adapt_of_error ServiceError.store hrun)⟩
  have hpreferences := run_adapt_of_ok ServiceError.store hrun
  rcases Store.loadDictionary_cases h t with ⟨e, hrun⟩ | ⟨es', d, hes', hd, hrun⟩
  · have hdictionary := run_adapt_of_error ServiceError.store hrun
    exact Or.inl ⟨_, (run_bind_of_ok hpreferences).trans (run_bind_of_error hdictionary)⟩
  obtain rfl : es = es' := Except.ok.inj (hes.symm.trans hes')
  have hdictionary := run_adapt_of_ok ServiceError.store hrun
  have hload : (load store config tellsCuts).run t =
      ((ofPreferences config tellsCuts p d).mapError .config, t) :=
    (run_bind_of_ok hpreferences).trans (run_bind_of_ok hdictionary)
  cases hs : ofPreferences config tellsCuts p d with
  | error e =>
    rw [hs] at hload
    exact Or.inl ⟨.config e, hload⟩
  | ok s =>
    rw [hs] at hload
    exact Or.inr ⟨es, p, d, s, hes, hp, hd, hs, hload⟩

end

/-! ### Storing -/

section

variable {path : String} {es : Store.Entries}

def stored (s : Service) (es : Store.Entries) : Store.Entries :=
  insertField Store.dictionaryKey s.dictionary.toJson
    (insertField Store.preferencesKey s.preferences.toJson es)

theorem lookup_stored {key : String} (hpreferences : key ≠ Store.preferencesKey)
    (hdictionary : key ≠ Store.dictionaryKey) : (s.stored es).lookup key = es.lookup key := by
  rw [stored, lookup_insertField, if_neg hdictionary, lookup_insertField, if_neg hpreferences]

theorem preferences?_stored : Store.preferences? (s.stored es) = some s.preferences := by
  have hkey : Store.preferencesKey ≠ Store.dictionaryKey := by decide
  rw [Store.preferences?, Store.stored?, stored, lookup_insertField, if_neg hkey,
    lookup_insertField, if_pos rfl]
  exact Preferences.ofSource?_toJson s.preferences

theorem dictionary?_insertField {d : Dictionary} (h : d.Dated) :
    Store.dictionary? (insertField Store.dictionaryKey d.toJson es) = some d := by
  rw [Store.dictionary?, Store.stored?, lookup_insertField, if_pos rfl]
  exact Dictionary.ofSource?_toJson h

theorem dated_of_dictionary? {d : Dictionary} (h : Store.dictionary? es = some d) : d.Dated := by
  rw [Store.dictionary?, Store.stored?] at h
  split at h
  · cases h
    exact List.forall_mem_nil _
  · exact Dictionary.dated_of_ofSource? h

theorem dictionary?_stored (h : s.dictionary.Dated) :
    Store.dictionary? (s.stored es) = some s.dictionary :=
  dictionary?_insertField h

theorem persist_cases (s : Service) (path : String) (t : FileTree)
    (hprint : ∀ es, Store.contents path t = .ok es → Printable es) :
    (∃ e t', (s.persist (Store.file path : Store (StateM FileTree))).run t = (.error e, t') ∧
      t.SameFiles t') ∨
    ∃ es t', (s.persist (Store.file path : Store (StateM FileTree))).run t = (.ok (), t') ∧
      Store.contents path t = .ok es ∧ Store.contents path t' = .ok (s.stored es) := by
  rcases Store.file_set_cases path Store.preferencesKey s.preferences.toJson t with
    ⟨e, t', hset, hsame⟩ | ⟨es, t₁, hset, hes, hready, hcontents⟩
  · exact Or.inl ⟨_, t', run_bind_of_error (run_adapt_of_error ServiceError.store hset), hsame⟩
  · have hprintable := (hprint es hes).insertField Store.preferencesKey
      (s.preferences.plain_toJson (maxDepth - 4))
    have hprintable' := hprintable.insertField Store.dictionaryKey
      (s.dictionary.plain_toJson (maxDepth - 3))
    obtain ⟨t₂, hset', hcontents'⟩ :=
      Store.file_set_of_ready hready (hcontents hprintable) hprintable'
    have hpreferences := run_adapt_of_ok ServiceError.store hset
    have hdictionary := run_adapt_of_ok ServiceError.store hset'
    exact Or.inr ⟨es, t₂, (run_bind_of_ok hpreferences).trans hdictionary, hes, hcontents'⟩

end
end Service
end ProseCheck
