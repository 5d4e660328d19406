import ProseCheck.Cli.Run
import ProseCheck.Proofs.Service.Stored

/-! # What commands do to the store

A command that fails or only shows something leaves all files as they are. Any other one changes
what it is about in the values of the store, and nothing else.
-/

namespace ProseCheck

open Json

namespace Cli

/-! ### What is to change -/

structure LanguageToolChanges.Made (c : LanguageToolChanges) (p p' : LanguageToolPreferences) :
    Prop where
  language : p'.language = c.language.getD p.language
  level : match c.level with
    | none => p'.level = p.level
    | some text => CheckLevel.ofName? (Text.asciiLowercase text) = some p'.level
  motherTongue : p'.motherTongue = c.motherTongue.or p.motherTongue
  apiUrl : p'.apiUrl = c.url.getD p.apiUrl
  username : p'.username = c.username.or p.username
  apiKey : p'.apiKey = c.apiKey.or p.apiKey
  disabledRules : p'.disabledRules = p.disabledRules
  preferredVariants : p'.preferredVariants = p.preferredVariants

structure GrazieChanges.Made (c : GrazieChanges) (p p' : GraziePreferences) : Prop where
  token : p'.token = c.token.or p.token
  language : p'.language = c.language.getD p.language
  apiUrl : p'.apiUrl = c.url.getD p.apiUrl
  services : p'.services = p.services

/-- The active provider is the same, unless it was or is unavailable. -/
def KeepsProvider (p p' : Preferences) : Prop :=
  p'.activeProvider =
    if p.isAvailable p.activeProvider && p'.isAvailable p.activeProvider then p.activeProvider
    else .languageTool

section

variable (es es' : Store.Entries)

/-- The values of both stores differ in the preferences and the dictionary only. -/
def KeepsOthers : Prop :=
  ∀ key, key ≠ Store.preferencesKey → key ≠ Store.dictionaryKey → es'.lookup key = es.lookup key

def Edits (edit : Dictionary → Dictionary) : Prop :=
  ∃ d, Store.dictionary? es = some d ∧ Store.dictionary? es' = some (edit d)

def Prefers (change : Preferences → Preferences → Prop) : Prop :=
  ∃ p p', Store.preferences? es = some p ∧ Store.preferences? es' = some p' ∧ change p p'

end

namespace Command

/-- The command is to show something, and not to change anything. -/
def Shows : Command → Prop
  | check .. | strip .. | listWords | showProviders => True
  | _ => False

def Makes (now : Instant) (es es' : Store.Entries) : Command → Prop
  | addWord word rule =>
    es'.lookup Store.preferencesKey = es.lookup Store.preferencesKey ∧
      Edits es es' fun d => (d.add now word rule).2
  | removeWord word rule =>
    es'.lookup Store.preferencesKey = es.lookup Store.preferencesKey ∧
      Edits es es' fun d => (d.remove word rule).2
  | setProvider provider =>
    Edits es es' id ∧ Prefers es es' fun p p' => p' = { p with activeProvider := provider }
  | configureLanguageTool changes =>
    Edits es es' id ∧ Prefers es es' fun p p' =>
      changes.Made p.languageTool p'.languageTool ∧ p'.grazie = p.grazie ∧ KeepsProvider p p'
  | configureGrazie changes =>
    Edits es es' id ∧ Prefers es es' fun p p' =>
      changes.Made p.grazie p'.grazie ∧ p'.languageTool = p.languageTool ∧ KeepsProvider p p'
  | _ => es' = es

end Command

def Invocation.storePath (i : Invocation) (env : Environment) : String :=
  i.store.getD (defaultStore env)

/-- The program ends with exit code zero. -/
def Succeeds : Except UsageError Answer → Prop
  | .ok answer => answer.exitCode = 0
  | .error _ => False

/-! ### Showing -/

section

variable {ε α β : Type} {x : ExceptT ε (StateM FileTree) α}

/-- The program does not write to any file. -/
def Reads (x : ExceptT ε (StateM FileTree) α) : Prop := ∀ t, (x.run t).2 = t

theorem Reads.bind {f : α → ExceptT ε (StateM FileTree) β} (hx : Reads x) (hf : ∀ a, Reads (f a)) :
    Reads (x >>= f) := by
  intro t
  have hsame := hx t
  cases hrun : x.run t with
  | mk result t' =>
    rw [hrun] at hsame
    obtain rfl : t' = t := hsame
    cases result with
    | error e => rw [run_bind_of_error hrun]
    | ok a =>
      rw [run_bind_of_ok hrun]
      exact hf a t'

theorem reads_pure (a : α) : Reads (pure a : ExceptT ε (StateM FileTree) α) := fun _ => rfl

theorem orFail_run (diagnostic : ε → Diagnostic) (result : Except ε α) (t : FileTree) :
    (orFail diagnostic result : ExceptT Diagnostic (StateM FileTree) α).run t =
      (result.mapError diagnostic, t) := rfl

theorem reads_orFail (diagnostic : ε → Diagnostic) (result : Except ε α) :
    Reads (orFail diagnostic result : ExceptT Diagnostic (StateM FileTree) α) := fun t => by
  rw [orFail_run]

theorem reads_document (path : String) :
    Reads (document path : ExceptT Diagnostic (StateM FileTree) (List Char)) := fun _ => rfl

end

variable {σ : Type} {path : String} {t : FileTree}

theorem reads_load (path : String) (config : CheckerConfig) :
    Reads (load (Store.file path : Store (StateM FileTree)) config) := by
  intro t
  rw [load, run_adapt]
  rcases Service.load_cases (Store.holds_file path) config true t with
    ⟨e, hrun⟩ | ⟨es, p, d, s, -, -, -, -, hrun⟩
  · rw [hrun]
  · rw [hrun]

theorem reads_loadDictionary (path : String) :
    Reads (loadDictionary (Store.file path : Store (StateM FileTree))) := by
  intro t
  rw [loadDictionary, run_adapt]
  rcases Store.loadDictionary_cases (Store.holds_file path) t with
    ⟨e, hrun⟩ | ⟨es, d, -, -, hrun⟩
  · rw [hrun]
  · rw [hrun]

theorem Command.reads_of_shows {c : Command} (h : c.Shows) (around : Surroundings σ)
    (path : String) : Reads (c.run around path : ExceptT Diagnostic (StateM FileTree) Answer) := by
  cases c with
  | check file provider overrides json =>
    refine (reads_document file).bind fun markdown => ?_
    refine (reads_orFail _ _).bind fun config => ?_
    refine (reads_load path config).bind fun s => ?_
    cases provider with
    | none => exact (reads_pure s).bind fun s => reads_pure _
    | some p => exact (reads_orFail _ _).bind fun s => reads_pure _
  | strip file mapping => exact (reads_document file).bind fun markdown => reads_pure _
  | listWords => exact (reads_loadDictionary path).bind fun d => reads_pure _
  | showProviders => exact (reads_load path {}).bind fun s => reads_pure _
  | addWord => cases h
  | removeWord => cases h
  | setProvider => cases h
  | configureLanguageTool => cases h
  | configureGrazie => cases h

/-! ### Changing -/

/-- A program fails and leaves all files as they are, or changes the values in the store as they are
to change, and the others not at all. -/
inductive Outcome (path : String) (t : FileTree) (makes : Store.Entries → Store.Entries → Prop)
    (x : ExceptT Diagnostic (StateM FileTree) Answer) : Prop
  | fails {d : Diagnostic} {t' : FileTree} (hrun : x.run t = (.error d, t'))
      (hfiles : t.SameFiles t')
  | changes {answer : Answer} {t' : FileTree} {es es' : Store.Entries}
      (hrun : x.run t = (.ok answer, t')) (hzero : answer.exitCode = 0)
      (hes : Store.contents path t = .ok es) (hes' : Store.contents path t' = .ok es')
      (hothers : KeepsOthers es es') (hmakes : makes es es')

def editing (path : String) (edit : Dictionary → Bool × Dictionary) (done idle : String) :
    ExceptT Diagnostic (StateM FileTree) Answer := do
  match edit (← loadDictionary (Store.file path)) with
  | (true, d) =>
    saveDictionary (Store.file path) d
    return .say done
  | (false, _) => return .say idle

theorem addWord_eq (now : Instant) (path word : String) (rule : Option String) :
    addWord now (Store.file path) word rule = editing path (·.add now word rule)
      s!"Added \"{word}\"" s!"\"{word}\" is already in the dictionary" := by
  refine congrArg (loadDictionary (Store.file path) >>= ·) (funext fun d => ?_)
  beta_reduce
  rcases d.add now word rule with ⟨_ | _, d'⟩ <;> rfl

theorem removeWord_eq (path word : String) (rule : Option String) :
    removeWord (Store.file path) word rule = editing path (·.remove word rule)
      s!"Removed \"{word}\"" s!"\"{word}\" is not in the dictionary" := by
  refine congrArg (loadDictionary (Store.file path) >>= ·) (funext fun d => ?_)
  beta_reduce
  rcases d.remove word rule with ⟨_ | _, d'⟩ <;> rfl

section

variable (hprint : ∀ es, Store.contents path t = .ok es → Printable es)

include hprint

theorem outcome_editing {edit : Dictionary → Bool × Dictionary} {done idle : String}
    (hsame : ∀ d, (edit d).1 = false → (edit d).2 = d)
    (hdated : ∀ d, d.Dated → (edit d).2.Dated) :
    Outcome path t
      (fun es es' => es'.lookup Store.preferencesKey = es.lookup Store.preferencesKey ∧
        Edits es es' fun d => (edit d).2) (editing path edit done idle) := by
  rcases Store.loadDictionary_cases (Store.holds_file path) t with
    ⟨e, hrun⟩ | ⟨es, d, hes, hd, hrun⟩
  · exact .fails (run_bind_of_error (run_adapt_of_error StoreError.diagnostic hrun)) (.refl t)
  have hload := run_adapt_of_ok StoreError.diagnostic hrun
  have hthere := hsame d
  have hstays := hdated d (Service.dated_of_dictionary? hd)
  have hmakes {es' : Store.Entries} (hd' : Store.dictionary? es' = some (edit d).2) :
      Edits es es' fun d => (edit d).2 := ⟨d, hd, hd'⟩
  rcases hedit : edit d with ⟨_ | _, d'⟩
  · rw [hedit] at hthere hmakes
    obtain rfl : d' = d := hthere rfl
    have hidle : (editing path edit done idle).run t = (.ok (.say idle), t) := by
      refine (run_bind_of_ok hload).trans ?_
      rw [hedit]
      rfl
    exact .changes hidle rfl hes hes (fun _ _ _ => rfl) ⟨rfl, hmakes hd⟩
  · rw [hedit] at hstays hmakes
    have hsave : (editing path edit done idle).run t =
        (do
          saveDictionary (Store.file path) d'
          return .say done : ExceptT Diagnostic (StateM FileTree) Answer).run t := by
      refine (run_bind_of_ok hload).trans ?_
      rw [hedit]
    rcases Store.file_set_cases path Store.dictionaryKey d'.toJson t with
      ⟨e, t', hset, hfiles⟩ | ⟨es', t', hset, hes', -, hcontents⟩
    · have hset' := run_adapt_of_error StoreError.diagnostic hset
      exact .fails (hsave.trans (run_bind_of_error hset')) hfiles
    · obtain rfl : es = es' := Except.ok.inj (hes.symm.trans hes')
      have hset' := run_adapt_of_ok StoreError.diagnostic hset
      have hprintable := (hprint es hes).insertField Store.dictionaryKey
        (d'.plain_toJson (maxDepth - 3))
      refine .changes (hsave.trans (run_bind_of_ok hset')) rfl hes (hcontents hprintable) ?_
        ⟨?_, hmakes (Service.dictionary?_insertField hstays)⟩
      · intro key _ hdictionary
        rw [lookup_insertField, if_neg hdictionary]
      · rw [lookup_insertField, if_neg (by decide)]

/-- A stored service is the only thing that changes in the store. -/
theorem outcome_persist {x : ExceptT Diagnostic (StateM FileTree) Answer} {es : Store.Entries}
    {s : Service} {text : String} {makes : Store.Entries → Store.Entries → Prop}
    (hrun : x.run t = (do
      persist s (Store.file path)
      return .say text : ExceptT Diagnostic (StateM FileTree) Answer).run t)
    (hes : Store.contents path t = .ok es) (hdated : s.dictionary.Dated)
    (hmakes : ∀ es', Store.preferences? es' = some s.preferences →
      Store.dictionary? es' = some s.dictionary → makes es es') : Outcome path t makes x := by
  rcases s.persist_cases path t hprint with
    ⟨e, t', hpersist, hfiles⟩ | ⟨es', t', hpersist, hes', hcontents⟩
  · have hpersist' := run_adapt_of_error ServiceError.diagnostic hpersist
    exact .fails (hrun.trans (run_bind_of_error hpersist')) hfiles
  · obtain rfl : es = es' := Except.ok.inj (hes.symm.trans hes')
    have hpersist' := run_adapt_of_ok ServiceError.diagnostic hpersist
    refine .changes (hrun.trans (run_bind_of_ok hpersist')) rfl hes hcontents ?_ ?_
    · intro key hpreferences hdictionary
      exact Service.lookup_stored hpreferences hdictionary
    · exact hmakes _ Service.preferences?_stored (Service.dictionary?_stored hdated)

/-- What changes the preferences of the stored service stores them with its dictionary. -/
theorem outcome_change {ε : Type} {diagnostic : ε → Diagnostic} {text : String}
    (change : Service → Except ε Service) {makes : Preferences → Preferences → Prop}
    (hchange : ∀ p s s', s.SetUp → s.preferences = p.settled → change s = .ok s' →
      s'.dictionary = s.dictionary ∧ makes p s'.preferences) :
    Outcome path t (fun es es' => Edits es es' id ∧ Prefers es es' makes)
      (do
        let s ← orFail diagnostic (change (← load (Store.file path) {}))
        persist s (Store.file path)
        return .say text) := by
  rcases Service.load_cases (Store.holds_file path) {} true t with
    ⟨e, hrun⟩ | ⟨es, p, d, s, hes, hp, hd, hs, hrun⟩
  · exact .fails (run_bind_of_error (run_adapt_of_error ServiceError.diagnostic hrun)) (.refl t)
  have hload := run_adapt_of_ok ServiceError.diagnostic hrun
  let changed : ExceptT Diagnostic (StateM FileTree) Service := orFail diagnostic (change s)
  obtain ⟨hpreferences, hdictionary⟩ := Service.ofPreferences_settled hs
  cases hs' : change s with
  | error e =>
    have hchanged : changed.run t = (.error (diagnostic e), t) := by
      rw [orFail_run, hs']
      rfl
    exact .fails ((run_bind_of_ok hload).trans (run_bind_of_error hchanged)) (.refl t)
  | ok s' =>
    have hchanged : changed.run t = (.ok s', t) := by
      rw [orFail_run, hs']
      rfl
    obtain ⟨hsame, hmakes⟩ := hchange p s s' (Service.setUp_ofPreferences hs) hpreferences hs'
    have hd' : s'.dictionary = d := hsame.trans hdictionary
    refine outcome_persist hprint ((run_bind_of_ok hload).trans (run_bind_of_ok hchanged)) hes
      (hd' ▸ Service.dated_of_dictionary? hd) fun es' hpreferences' hdictionary' => ?_
    exact ⟨⟨d, hd, hd' ▸ hdictionary'⟩, ⟨p, s'.preferences, hp, hpreferences', hmakes⟩⟩

end

/-! ### Changing preferences -/

theorem keepsProvider_settled {p q : Preferences}
    (h : q.activeProvider = p.settled.activeProvider) : KeepsProvider p q.settled := by
  have havailable := Preferences.isAvailable_congr q.grazie_settled
  rw [KeepsProvider, Preferences.activeProvider_settled, havailable, h,
    Preferences.activeProvider_settled]
  by_cases hp : p.isAvailable p.activeProvider
  · simp only [hp, if_true, Bool.true_and]
  · simp only [hp, if_false, Bool.false_and, Bool.false_eq_true]
    exact ite_self _

theorem LanguageToolChanges.made_of_apply {c : LanguageToolChanges}
    {p p' : LanguageToolPreferences} (h : c.apply p = .ok p') : c.Made p p' := by
  unfold apply at h
  cases hlevel : c.level with
  | none =>
    simp only [hlevel, Option.mapM_none, pure_bind] at h
    cases h
    exact ⟨rfl, by rw [hlevel]; rfl, rfl, rfl, rfl, rfl, rfl, rfl⟩
  | some text =>
    simp only [hlevel, Option.mapM_some] at h
    cases hname : CheckLevel.ofName? (Text.asciiLowercase text) with
    | none =>
      simp only [checkLevel, hname] at h
      cases h
    | some level =>
      simp only [checkLevel, hname] at h
      cases h
      exact ⟨rfl, by rw [hlevel]; exact hname, rfl, rfl, rfl, rfl, rfl, rfl⟩

theorem GrazieChanges.made_apply (c : GrazieChanges) (p : GraziePreferences) :
    c.Made p (c.apply p) := ⟨rfl, rfl, rfl, rfl⟩

theorem select_made {p : Preferences} {s s' : Service} {provider : Provider}
    (hs : s.preferences = p.settled) (h : s.select provider = .ok s') :
    s'.dictionary = s.dictionary ∧ s'.preferences = { p with activeProvider := provider } := by
  unfold Service.select at h
  split at h
  · cases h
    have hactive : (s.activate provider).preferences =
        { s.preferences with activeProvider := provider } := rfl
    refine ⟨rfl, ?_⟩
    rw [hactive, hs, Preferences.settled]
    split <;> rfl
  · cases h

theorem changeLanguageTool_made {p : Preferences} {s s' : Service} {c : LanguageToolChanges}
    (hsetUp : s.SetUp) (hs : s.preferences = p.settled) (h : changeLanguageTool c s = .ok s') :
    s'.dictionary = s.dictionary ∧ c.Made p.languageTool s'.preferences.languageTool ∧
      s'.preferences.grazie = p.grazie ∧ KeepsProvider p s'.preferences := by
  unfold changeLanguageTool at h
  cases hq : c.apply s.preferences.languageTool with
  | error e =>
    rw [hq] at h
    cases h
  | ok q =>
    rw [hq] at h
    have hmade := LanguageToolChanges.made_of_apply hq
    cases hupdate : s.updateLanguageTool q with
    | error e =>
      simp only [bind, Except.bind, hupdate] at h
      cases h
    | ok updated =>
      simp only [bind, Except.bind, hupdate] at h
      cases h
      obtain ⟨hpreferences, hdictionary⟩ := Service.updateLanguageTool_settled hsetUp hupdate
      rw [hs, Preferences.languageTool_settled] at hmade
      rw [hpreferences, Preferences.languageTool_settled, Preferences.grazie_settled, hs,
        Preferences.grazie_settled]
      exact ⟨hdictionary, hmade, rfl, keepsProvider_settled rfl⟩

theorem changeGrazie_made {p : Preferences} {s s' : Service} {c : GrazieChanges}
    (hs : s.preferences = p.settled) (h : changeGrazie c s = .ok s') :
    s'.dictionary = s.dictionary ∧ c.Made p.grazie s'.preferences.grazie ∧
      s'.preferences.languageTool = p.languageTool ∧ KeepsProvider p s'.preferences := by
  unfold changeGrazie at h
  have hmade := c.made_apply p.grazie
  cases hupdate : s.updateGrazie (c.apply s.preferences.grazie) with
  | error e =>
    rw [hupdate] at h
    cases h
  | ok updated =>
    rw [hupdate] at h
    cases h
    obtain ⟨hpreferences, hdictionary⟩ := Service.updateGrazie_settled hupdate
    rw [hpreferences, Preferences.languageTool_settled, Preferences.grazie_settled, hs,
      Preferences.languageTool_settled, Preferences.grazie_settled]
    exact ⟨hdictionary, hmade, rfl, keepsProvider_settled rfl⟩

/-! ### Command lines -/

theorem Command.outcome_of_not_shows {c : Command} (hc : ¬ c.Shows) {around : Surroundings σ}
    (hnow : around.now.IsValid)
    (hprint : ∀ es, Store.contents path t = .ok es → Printable es) :
    Outcome path t (fun es es' => c.Makes around.now es es') (c.run around path) := by
  cases c with
  | addWord word rule =>
    show Outcome path t _ (Cli.addWord around.now (Store.file path) word rule)
    rw [addWord_eq]
    exact outcome_editing hprint (fun _ => Dictionary.add_of_idle) fun d hd => hd.add hnow word rule
  | removeWord word rule =>
    show Outcome path t _ (Cli.removeWord (Store.file path) word rule)
    rw [removeWord_eq]
    exact outcome_editing hprint (fun _ => Dictionary.remove_of_idle) fun d hd =>
      hd.remove word rule
  | setProvider provider =>
    exact outcome_change hprint (·.select provider) fun p s s' _ hs h =>
      select_made hs h
  | configureLanguageTool changes =>
    exact outcome_change hprint (changeLanguageTool changes) fun p s s' hsetUp hs h =>
      changeLanguageTool_made hsetUp hs h
  | configureGrazie changes =>
    exact outcome_change hprint (changeGrazie changes) fun p s s' _ hs h =>
      changeGrazie_made hs h
  | check => exact absurd trivial hc
  | strip => exact absurd trivial hc
  | listWords => exact absurd trivial hc
  | showProviders => exact absurd trivial hc

def Invocation.perform (i : Invocation) (around : Surroundings σ) :
    ExceptT Diagnostic (StateM FileTree) Answer :=
  i.command.run around (i.storePath around.environment)

def ended : Except Diagnostic Answer → Answer
  | .ok answer => answer
  | .error d => { exitCode := 1, reports := [.ofError d] }

theorem run_of_perform {around : Surroundings σ} {args : List String} {i : Invocation}
    {result : Except Diagnostic Answer} {t' : FileTree}
    (hi : Invocation.ofArguments around.environment args = .ok i)
    (h : (i.perform around).run t = (result, t')) :
    (run around args : StateM FileTree (Except UsageError Answer)) t =
      (.ok (ended result), t') := by
  rw [Invocation.perform, Invocation.storePath] at h
  unfold run
  simp only [hi]
  show StateT.bind (ExceptT.run _) _ t = _
  rw [StateT.bind, h]
  cases result <;> rfl

/-- A run that fails, and one that only shows something, leaves all files as they are. One that
succeeds changes in the store what it is about. -/
theorem run_frames_store (around : Surroundings σ) (args : List String) (t : FileTree)
    (hnow : around.now.IsValid)
    (hnumbers : ∀ i es, Invocation.ofArguments around.environment args = .ok i →
      Store.contents (i.storePath around.environment) t = .ok es →
        ∀ n ∈ fieldNumbers es, n.ReadsBack) :
    ∃ result t',
      (run around args : StateM FileTree (Except UsageError Answer)) t = (result, t') ∧
      (¬ Succeeds result → t.SameFiles t') ∧
      ∀ i, Invocation.ofArguments around.environment args = .ok i →
        (i.command.Shows → t' = t) ∧
        (¬ i.command.Shows → Succeeds result → ∃ es es',
          Store.contents (i.storePath around.environment) t = .ok es ∧
          Store.contents (i.storePath around.environment) t' = .ok es' ∧
          KeepsOthers es es' ∧ i.command.Makes around.now es es') := by
  cases hi : Invocation.ofArguments around.environment args with
  | error e => exact ⟨.error e, t, by rw [run, hi]; rfl, fun _ => .refl t, nofun⟩
  | ok i =>
    have hprint (es : Store.Entries)
        (hes : Store.contents (i.storePath around.environment) t = .ok es) : Printable es :=
      Store.printable_of_contents hes (hnumbers i es hi hes)
    by_cases hshows : i.command.Shows
    · have hsame : ((i.perform around).run t).2 = t := i.command.reads_of_shows hshows around _ t
      rcases hrun : (i.perform around).run t with ⟨result, t'⟩
      rw [hrun] at hsame
      obtain rfl : t' = t := hsame
      refine ⟨_, t', run_of_perform hi hrun, fun _ => .refl t', ?_⟩
      rintro j ⟨⟩
      exact ⟨fun _ => rfl, fun h => absurd hshows h⟩
    · rcases i.command.outcome_of_not_shows hshows hnow hprint with
        ⟨hrun, hfiles⟩ | ⟨hrun, hzero, hes, hes', hothers, hmakes⟩
      · refine ⟨_, _, run_of_perform hi hrun, fun _ => hfiles, ?_⟩
        rintro j ⟨⟩
        exact ⟨fun h => absurd h hshows, fun _ h => absurd h Nat.one_ne_zero⟩
      · refine ⟨_, _, run_of_perform hi hrun, fun h => absurd hzero h, ?_⟩
        rintro j ⟨⟩
        exact ⟨fun h => absurd h hshows, fun _ _ => ⟨_, _, hes, hes', hothers, hmakes⟩⟩

def themed : Store.Entries := [("theme", .number (.int 7))]

def themedTree : FileTree := ⟨[(["g.json"], .file (Json.object themed).pretty.toUTF8.toList)]⟩

def plainSurroundings : Surroundings Unit where
  environment _ := none
  now := ⟨1700000000, 0⟩
  link world _ := (none, world)
  world := ()

theorem readsBack_seven : (Number.int 7).ReadsBack := by
  have key : ((parse? (Json.number (.int 7)).pretty).bind fun j => j.toSource.int? 0 9) =
      some 7 := by decide +kernel
  obtain ⟨j, hparse, hj⟩ := Option.bind_eq_some_iff.mp key
  rw [Number.ReadsBack, hparse]
  cases j with
  | number n =>
    cases n with
    | int value =>
      obtain ⟨-, rfl⟩ : (0 ≤ value ∧ value ≤ 9) ∧ value = 7 := by
        simpa [toSource, Source.int?] using hj
      rfl
    | float value => cases hj
  | null => cases hj
  | bool b => cases hj
  | string s => cases hj
  | array items => cases hj
  | object fields => cases hj

theorem readsBack_themed : ∀ n ∈ fieldNumbers themed, n.ReadsBack := by
  intro n hn
  obtain rfl : n = .int 7 := by simpa [themed, fieldNumbers, Json.numbers] using hn
  exact readsBack_seven

theorem contents_themedTree : Store.contents "g.json" themedTree = .ok themed := by
  have hprint : Printable themed :=
    { inOrder := List.pairwise_singleton _ _
      kept := by
        rintro field hfield
        obtain rfl := List.mem_singleton.mp hfield
        rfl
      numbers := readsBack_themed }
  have hwrite : FileTree.empty.write "g.json" (Json.object themed).pretty.toUTF8.toList =
      .ok themedTree :=
    FileTree.write_eq_ok_iff.mpr ⟨["g.json"], by decide +kernel, by decide, rfl⟩
  exact Store.contents_of_write hprint hwrite

/-- A word is added, and the value that the program does not know stays. -/
theorem run_frames_store_themedTree :
    let args := ["--store", "g.json", "dictionary", "add", "teh"]
    plainSurroundings.now.IsValid ∧ (∀ n ∈ fieldNumbers themed, n.ReadsBack) ∧
      ∃ result t' es',
        (run plainSurroundings args : StateM FileTree (Except UsageError Answer)) themedTree =
          (result, t') ∧
        Succeeds result ∧ Store.contents "g.json" t' = .ok es' ∧
        es'.lookup "theme" = some (.number (.int 7)) ∧
        Store.dictionary? es' = some ⟨[⟨"teh", ⟨1700000000, 0⟩, none⟩]⟩ := by
  intro args
  have hargs : Invocation.ofArguments plainSurroundings.environment args =
      .ok ⟨some "g.json", .addWord "teh" none⟩ := by decide +kernel
  have hnow : plainSurroundings.now.IsValid := by decide +kernel
  have hnumbers : ∀ i es, Invocation.ofArguments plainSurroundings.environment args = .ok i →
      Store.contents (i.storePath plainSurroundings.environment) themedTree = .ok es →
        ∀ n ∈ fieldNumbers es, n.ReadsBack := by
    intro i es hi hes
    obtain rfl := Except.ok.inj (hargs.symm.trans hi)
    obtain rfl := Except.ok.inj (contents_themedTree.symm.trans hes)
    exact readsBack_themed
  obtain ⟨result, t', hrun, -, hcommand⟩ :=
    run_frames_store plainSurroundings args themedTree hnow hnumbers
  have hsucceeds : Succeeds result := by
    have key : ((run plainSurroundings args : StateM FileTree (Except UsageError Answer))
        themedTree).1.toOption.map (·.exitCode) = some 0 := by decide +kernel
    rw [hrun] at key
    cases result with
    | ok answer => exact Option.some.inj key
    | error e => cases key
  obtain ⟨es, es', hes, hes', hothers, -, d, hd, hd'⟩ :=
    (hcommand _ hargs).2 (fun h => h) hsucceeds
  obtain rfl := Except.ok.inj (contents_themedTree.symm.trans hes)
  refine ⟨hnow, readsBack_themed, result, t', es', hrun, hsucceeds, hes', ?_, ?_⟩
  · rw [hothers "theme" (by decide) (by decide), themed, Json.lookup_cons, if_pos rfl]
  · obtain rfl := Option.some.inj hd
    exact hd'.trans (by decide +kernel)

end Cli
end ProseCheck
