import ProseCheck.Proofs.Service.Fidelity
import ProseCheck.Proofs.Service.Setup
import ProseCheck.Proofs.Service.Stored

/-! # Services that are stored in memory

The preferences and the dictionary of a service are read back as they were stored. They set up the
service anew, without its caches.
-/

namespace ProseCheck

open Net

namespace Store

variable {σ α : Type} {store : Store (StateM σ)} {contents : σ → Except StoreError Entries}
  {es : Entries} {t : σ}

/-! ### What is loaded -/

theorem load?_of_stored? {key : String} {read : Json.Source → Option α} {default a : α}
    (h : store.Holds contents) (hes : contents t = .ok es)
    (ha : stored? key read default es = some a) :
    (do return (← store.load? key read).getD default : ExceptT StoreError (StateM σ) α).run t =
      (.ok a, t) := by
  rw [load?_run h, hes, Except.bind, ha]
  rfl

theorem loadPreferences_of_preferences? {p : Preferences} (h : store.Holds contents)
    (hes : contents t = .ok es) (hp : preferences? es = some p) :
    store.loadPreferences.run t = (.ok p, t) :=
  load?_of_stored? h hes hp

theorem loadDictionary_of_dictionary? {d : Dictionary} (h : store.Holds contents)
    (hes : contents t = .ok es) (hd : dictionary? es = some d) :
    store.loadDictionary.run t = (.ok d, t) :=
  load?_of_stored? h hes hd

/-! ### In memory -/

theorem holds_memory : memory.Holds .ok := fun _ _ => rfl

theorem memory_set_run (key : String) (value : Json) (es : Entries) :
    (memory.set key value).run es = (.ok (), Json.insertField key value es) := rfl

end Store

namespace Service

variable {σ τ : Type} {link : Link σ} {s : Service} {config : CheckerConfig} {tellsCuts : Bool}

theorem Reachable.setUp (h : Reachable link s) : s.SetUp := by
  induction h with
  | start h => exact setUp_ofPreferences h
  | perform op world _ ih => exact ih.perform link world op
  | forget _ _ _ ih => exact ih.of_eq rfl rfl rfl

/-- Whatever the store is, a service that is stored there is loaded from it, with a new checker. -/
theorem SetUp.load_of_stored {store : Store (StateM τ)}
    {contents : τ → Except StoreError Store.Entries} {es : Store.Entries} {t : τ} (hs : s.SetUp)
    (hdated : s.dictionary.Dated) (h : store.Holds contents)
    (ht : contents t = .ok (s.stored es)) (config : CheckerConfig) (tellsCuts : Bool) :
    (load store config tellsCuts).run t =
      (.ok { s with last := none, strips := 0, checker := .start config tellsCuts }, t) := by
  have hanew : ofPreferences config tellsCuts s.preferences s.dictionary =
      .ok { s with last := none, strips := 0, checker := .start config tellsCuts } :=
    SetUp.ofPreferences_eq (s := { s with checker := .start config tellsCuts })
      (hs.of_eq rfl rfl rfl)
  have hpreferences := run_adapt_of_ok ServiceError.store
    (Store.loadPreferences_of_preferences? h ht preferences?_stored)
  have hdictionary := run_adapt_of_ok ServiceError.store
    (Store.loadDictionary_of_dictionary? h ht (dictionary?_stored hdated))
  have hload : (load store config tellsCuts).run t =
      ((ofPreferences config tellsCuts s.preferences s.dictionary).mapError .config, t) :=
    (run_bind_of_ok hpreferences).trans (run_bind_of_ok hdictionary)
  rw [hload, hanew]
  rfl

theorem persist_memory (s : Service) (es : Store.Entries) :
    (s.persist Store.memory).run es = (.ok (), s.stored es) := by
  have hpreferences := run_adapt_of_ok ServiceError.store
    (Store.memory_set_run Store.preferencesKey s.preferences.toJson es)
  have hdictionary := run_adapt_of_ok ServiceError.store
    (Store.memory_set_run Store.dictionaryKey s.dictionary.toJson
      (Json.insertField Store.preferencesKey s.preferences.toJson es))
  exact (run_bind_of_ok hpreferences).trans hdictionary

/-- Whatever was stored before, a service that is stored in memory is loaded from there as it was,
and what else is kept there stays. -/
theorem load_persist_memory (hs : s.Reachable link) (hdated : s.dictionary.Dated)
    (es : Store.Entries) (config : CheckerConfig) (tellsCuts : Bool) :
    ∃ es', (s.persist Store.memory).run es = (.ok (), es') ∧
      (∃ s', (load Store.memory config tellsCuts).run es' = (.ok s', es') ∧
        s'.preferences = s.preferences ∧ s'.active = s.active ∧ s'.dictionary = s.dictionary ∧
        s'.languageTool = s.languageTool ∧ s'.grazie = s.grazie) ∧
      ∀ key, key ≠ Store.preferencesKey → key ≠ Store.dictionaryKey →
        es'.lookup key = es.lookup key := by
  refine ⟨s.stored es, s.persist_memory es, ?_, ?_⟩
  · have hload := hs.setUp.load_of_stored hdated Store.holds_memory (t := s.stored es) rfl
      config tellsCuts
    exact ⟨_, hload, rfl, rfl, rfl, rfl, rfl⟩
  · intro key hpreferences hdictionary
    exact lookup_stored hpreferences hdictionary

/-- Grazie is active, a word is known to one rule, and a theme and older preferences are stored. -/
theorem load_persist_memory_token :
    let preferences : Preferences :=
      { activeProvider := .grazie, grazie := { token := some "jwt" } }
    let dictionary : Dictionary := ⟨[⟨"teh", ⟨1700000000, 5⟩, some "TYPO"⟩]⟩
    let es : Store.Entries :=
      [(Store.preferencesKey, .object []), ("theme", .string "dark")]
    ∃ s : Service, s.Reachable sayingTeh ∧ s.dictionary.Dated ∧ s.active = .grazie ∧
      ∃ es' s', (s.persist Store.memory).run es = (.ok (), es') ∧
        (load Store.memory {} true).run es' = (.ok s', es') ∧ s'.preferences = preferences ∧
        s'.dictionary = dictionary ∧ es'.lookup "theme" = some (.string "dark") := by
  intro preferences dictionary es
  have key : (ofPreferences {} false preferences dictionary).toOption.map
      (fun s => (s.preferences, s.dictionary)) = some (preferences, dictionary) := by decide +kernel
  cases hs : ofPreferences {} false preferences dictionary with
  | error e => simp [hs, Except.toOption] at key
  | ok s =>
    simp only [hs, Except.toOption, Option.map_some, Option.some.injEq, Prod.mk.injEq] at key
    obtain ⟨hpreferences, hdictionary⟩ := key
    have hreach : s.Reachable sayingTeh := .start hs
    have hdated : s.dictionary.Dated := by
      rw [hdictionary]
      intro item hitem
      obtain rfl := List.mem_singleton.mp hitem
      decide +kernel
    obtain ⟨es', hpersist, ⟨s', hload, hpreferences', -, hdictionary', -⟩, hothers⟩ :=
      load_persist_memory hreach hdated es {} true
    exact ⟨s, hreach, hdated, congrArg Preferences.activeProvider hpreferences, es', s', hpersist,
      hload, hpreferences'.trans hpreferences, hdictionary'.trans hdictionary,
      hothers "theme" (by decide) (by decide)⟩

end Service
end ProseCheck
