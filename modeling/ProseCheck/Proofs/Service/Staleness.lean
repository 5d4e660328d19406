import Mathlib.Tactic.Common
import ProseCheck.Proofs.Markdown.Strip
import ProseCheck.Proofs.Service.Ledger

/-! # Stale findings

New preferences leave the caches as they are. So a check finds what a service that is set up anew
finds only where no findings are kept that were asked for with another request.
-/

namespace ProseCheck.Service

open Markdown Net

variable {σ : Type} {f : Request → Option Response} {next : σ → Request → σ} {s : Service}
  {l : Ledger} {markdown : List Char} {overrides : CheckOverrides} {world : σ}

/-- The paragraphs that a check of a document looks up, as the keys of their results. -/
def keysOf (s : Service) (markdown : List Char) (overrides : CheckOverrides) : List CacheKey :=
  (s.requestFor overrides (Markdown.strip markdown).text).paragraphKeys s.checker.config

def ledgerAfter (s : Service) (f : Request → Option Response) (l : Ledger) : Operation → Ledger
  | .check markdown overrides =>
    if s.checker.caches.keeps then l.note f (s.backend s.active) (s.keysOf markdown overrides)
    else l
  | .clearCache => .empty
  | _ => l

/-- The services that there can be when a request always has the same response, with their
ledgers. -/
inductive Run (f : Request → Option Response) (next : σ → Request → σ) : Service → Ledger → Prop
  | start {config : CheckerConfig} {tellsCuts : Bool} {preferences : Preferences}
      {dictionary : Dictionary} {s : Service} :
      ofPreferences config tellsCuts preferences dictionary = .ok s → Run f next s .empty
  | perform {s : Service} {l : Ledger} (op : Operation) (world : σ) :
      Run f next s l → Run f next (s.perform (answering f next) world op).1 (s.ledgerAfter f l op)

def report (s : Service) (f : Request → Option Response) (l : Ledger) (markdown : List Char)
    (overrides : CheckOverrides) : List Problem :=
  let request := s.requestFor overrides (Markdown.strip markdown).text
  problems (Markdown.strip markdown) s.dictionary
    (resultOf (l.answer? f (s.backend s.active)) s.checker.config.separator
      (request.kept s.checker.config).key)

/-- The findings that are kept under the key were asked for with another request than the one that
would be sent now. -/
def Stale (s : Service) (l : Ledger) (key : CacheKey) : Prop :=
  ∃ b, l key = some b ∧
    b.request? key.options key.text ≠ (s.backend s.active).request? key.options key.text

/-- What holds of every service with its ledger. -/
structure Booked (f : Request → Option Response) (s : Service) (l : Ledger) : Prop where
  books : Books f l s.checker
  remembers : s.Remembers
  setUp : s.SetUp

theorem keysOf_of_isBlank (h : IsBlank markdown) : s.keysOf markdown overrides = [] := by
  have htext : Text.allBlank (Markdown.strip markdown).text = true :=
    h.elim allBlank_text_strip id
  rw [keysOf, CheckRequest.paragraphKeys, List.map_eq_nil_iff]
  refine Text.proseParagraphs_eq_nil (List.all_eq_true.mpr fun c hc => ?_)
  exact List.all_eq_true.mp htext c (List.mem_of_mem_take hc)

theorem report_of_keysOf_eq_nil (h : s.keysOf markdown overrides = []) :
    s.report f l markdown overrides = [] := by
  have hprose := List.map_eq_nil_iff.mp h
  simp only [report, resultOf, CheckRequest.key]
  rw [hprose]
  simp [problems, Finding.sort]

theorem Booked.check_eq_report (h : s.Booked f l) (markdown : List Char)
    (overrides : CheckOverrides) (next : σ → Request → σ) (world : σ) :
    (s.check (answering f next) markdown overrides world).1 = s.report f l markdown overrides := by
  by_cases hblank : IsBlank markdown
  · obtain ⟨last, strips, heq, -⟩ :=
      check_of_isBlank h.remembers hblank (answering f next) overrides world
    rw [heq, report_of_keysOf_eq_nil (keysOf_of_isBlank hblank)]
  · obtain ⟨last, strips, heq, -⟩ :=
      check_of_not_isBlank h.remembers hblank (answering f next) overrides world
    rw [heq]
    exact congrArg (problems _ _) (h.books.check (s.provider_backend s.active) next world).1

theorem Booked.check (h : s.Booked f l) (markdown : List Char) (overrides : CheckOverrides)
    (next : σ → Request → σ) (world : σ) :
    (s.perform (answering f next) world (.check markdown overrides)).1.Booked f
      (s.ledgerAfter f l (.check markdown overrides)) := by
  by_cases hblank : IsBlank markdown
  · obtain ⟨last, strips, heq, hremembers⟩ :=
      check_of_isBlank h.remembers hblank (answering f next) overrides world
    simp only [perform, heq, ledgerAfter, keysOf_of_isBlank hblank, Ledger.note_nil, ite_self]
    exact ⟨h.books, hremembers, h.setUp.of_eq rfl rfl rfl⟩
  · obtain ⟨last, strips, heq, hremembers⟩ :=
      check_of_not_isBlank h.remembers hblank (answering f next) overrides world
    simp only [perform, heq]
    exact ⟨(h.books.check (s.provider_backend s.active) next world).2.1, hremembers,
      h.setUp.of_eq rfl rfl rfl⟩

theorem Booked.perform (h : s.Booked f l) (op : Operation) (next : σ → Request → σ) (world : σ) :
    (s.perform (answering f next) world op).1.Booked f (s.ledgerAfter f l op) := by
  have hsetUp := h.setUp.perform (answering f next) world op
  by_cases hop : LooksUp op
  · cases op with
    | check markdown overrides => exact h.check markdown overrides next world
    | clearCache => exact ⟨h.books.clearCache, h.remembers, hsetUp⟩
    | _ => cases hop
  · obtain ⟨⟨on, hchecker⟩, hremembers⟩ :=
      perform_of_not_looksUp hop h.remembers (answering f next) world
    have hledger : s.ledgerAfter f l op = l := by
      cases op <;> first | rfl | exact absurd trivial hop
    rw [hledger]
    exact ⟨hchecker ▸ h.books.tellsCuts on, hremembers, hsetUp⟩

theorem booked_ofPreferences {config : CheckerConfig} {tellsCuts : Bool}
    {preferences : Preferences} {dictionary : Dictionary}
    (h : ofPreferences config tellsCuts preferences dictionary = .ok s) : s.Booked f .empty := by
  obtain ⟨hchecker, hremembers⟩ := ofPreferences_frame h
  exact ⟨hchecker ▸ Books.start f config tellsCuts, hremembers, setUp_ofPreferences h⟩

theorem Run.booked (h : Run f next s l) : s.Booked f l := by
  induction h with
  | start h => exact booked_ofPreferences h
  | perform op world _ ih => exact ih.perform op next world

theorem provider_of_mem_keysOf {key : CacheKey} (h : key ∈ s.keysOf markdown overrides) :
    key.provider = s.active := by
  obtain ⟨p, -, rfl⟩ := List.mem_map.mp h
  rfl

theorem Booked.answered {key : CacheKey} {b : Backend} (h : s.Booked f l)
    (hkey : key ∈ s.keysOf markdown overrides) (hb : l key = some b) :
    b.provider = (s.backend s.active).provider ∧ (b.answer? f key).isSome = true := by
  obtain ⟨hprovider, hanswer⟩ := h.books.answered key b hb
  rw [hprovider, provider_of_mem_keysOf hkey, provider_backend]
  exact ⟨rfl, hanswer⟩

/-- Findings that are not stale are those that would be found now. -/
theorem Booked.answer?_eq {key : CacheKey} (h : s.Booked f l)
    (hkey : key ∈ s.keysOf markdown overrides) (hfresh : ¬ s.Stale l key) :
    l.answer? f (s.backend s.active) key = (s.backend s.active).answer? f key := by
  cases hb : l key with
  | none => exact Ledger.answer?_of_eq_none hb
  | some b =>
    obtain ⟨hprovider, hanswer⟩ := h.answered hkey hb
    rw [Ledger.answer?_of_eq_some hb]
    refine Backend.answer?_eq_of_request?_eq hprovider (Backend.isAvailable_of_answer? hanswer)
      h.setUp.available ?_
    by_contra hne
    exact hfresh ⟨b, hb, hne⟩

theorem Booked.report_eq (h : s.Booked f l)
    (hfresh : ∀ key ∈ s.keysOf markdown overrides, ¬ s.Stale l key) :
    s.report f l markdown overrides = s.report f .empty markdown overrides := by
  simp only [report, resultOf]
  congr 2
  refine List.flatMap_congr fun p hp => ?_
  have hmem := List.mem_map_of_mem (f := fun p : Text.Segment =>
    ({ (s.requestFor overrides (Markdown.strip markdown).text).key with text := p.text } :
      CacheKey)) hp
  exact congrArg (fun a => Part.findings (p, a)) (h.answer?_eq hmem (hfresh _ hmem))

theorem Booked.stale_iff {key : CacheKey} (h : s.Booked f l)
    (hkey : key ∈ s.keysOf markdown overrides) : s.Stale l key ↔
      ∃ b, l key = some b ∧ ∃ g, b.answer? g key ≠ (s.backend s.active).answer? g key := by
  unfold Stale
  refine exists_congr fun b => and_congr_right fun hb => ?_
  obtain ⟨hprovider, hanswer⟩ := h.answered hkey hb
  rw [Ne, ← Backend.answers_alike_iff hprovider hanswer h.setUp.available, not_forall]

theorem Booked.stale_iff_agrees {key : CacheKey} (h : s.Booked f l)
    (hkey : key ∈ s.keysOf markdown overrides) : s.Stale l key ↔
      ∃ b, l key = some b ∧ ¬ b.Agrees key.options (s.backend s.active) := by
  unfold Stale
  refine exists_congr fun b => and_congr_right fun hb => ?_
  obtain ⟨hprovider, hanswer⟩ := h.answered hkey hb
  have htext : Text.allBlank key.text = false := by
    obtain ⟨p, hp, rfl⟩ := List.mem_map.mp hkey
    simpa [Text.Segment.isBlank] using (List.mem_filter.mp hp).2
  rw [Ne, Backend.request?_eq_iff hprovider (Backend.isAvailable_of_answer? hanswer)
    h.setUp.available htext]

/-- A check reports what the ledger says. A service that is set up anew reports the same if nothing
stale is kept for the paragraphs. What is stale are the findings that can differ from those that a
provider gives now: they were asked for with other preferences. -/
theorem check_eq_report_of_run (h : Run f next s l) (markdown : List Char)
    (overrides : CheckOverrides) (world : σ) :
    (s.check (answering f next) markdown overrides world).1 = s.report f l markdown overrides ∧
      (∃ s',
        ofPreferences s.checker.config s.checker.tellsCuts s.preferences s.dictionary = .ok s' ∧
        ∀ world', (s'.check (answering f next) markdown overrides world').1 =
          s.report f .empty markdown overrides) ∧
      ((∀ key ∈ s.keysOf markdown overrides, ¬ s.Stale l key) →
        s.report f l markdown overrides = s.report f .empty markdown overrides) ∧
      ∀ key ∈ s.keysOf markdown overrides,
        (s.Stale l key ↔
          ∃ b, l key = some b ∧ ∃ g, b.answer? g key ≠ (s.backend s.active).answer? g key) ∧
        (s.Stale l key ↔ ∃ b, l key = some b ∧ ¬ b.Agrees key.options (s.backend s.active)) := by
  have hs := h.booked
  refine ⟨hs.check_eq_report markdown overrides next world, ?_, hs.report_eq, fun key hkey => ?_⟩
  · exact ⟨s.renewed, hs.setUp.ofPreferences_eq,
      (booked_ofPreferences hs.setUp.ofPreferences_eq).check_eq_report markdown overrides next⟩
  · exact ⟨hs.stale_iff hkey, hs.stale_iff_agrees hkey⟩

def typo : Response :=
  responseOf "\x7b\"matches\":[\x7b\"message\":\"typo\",\"offset\":0,\"length\":3\x7d]\x7d"

theorem check_eq_report_of_run_typo :
    let link : Link Unit := answering (fun _ => some typo) fun _ _ => ()
    ∃ s s' : Service, (∃ l, Run (fun _ => some typo) (fun _ _ => ()) s l) ∧
      ofPreferences s.checker.config s.checker.tellsCuts s.preferences s.dictionary = .ok s' ∧
      (s.check link "teh end".toList {} ()).1 = (s'.check link "teh end".toList {} ()).1 ∧
      (s.check link "teh end".toList {} ()).1.length = 1 := by
  let f : Request → Option Response := fun _ => some typo
  let check : Operation := .check "teh end".toList {}
  let update : Operation := .updateLanguageTool { disabledRules := ["RULE"] }
  intro link
  have key : (ofPreferences {} false {} .empty).toOption.map (fun s =>
      let s₁ := (s.perform link () check).1
      let s₂ := (s₁.perform link () update).1
      let l := s₁.ledgerAfter f (s.ledgerAfter f .empty check) update
      ((s₂.keysOf "teh end".toList {}).all fun key => (l key).isNone,
        (s₂.check link "teh end".toList {} ()).1.length)) = some (true, 1) := by
    decide +kernel
  cases hs : ofPreferences {} false {} .empty with
  | error => simp [hs, Except.toOption] at key
  | ok s =>
    simp only [hs, Except.toOption, Option.map_some, Option.some.injEq, Prod.mk.injEq] at key
    obtain ⟨hnone, hlength⟩ := key
    have hrun : Run f (fun _ _ => ()) _ _ := .perform update () (.perform check () (.start hs))
    obtain ⟨hcheck, ⟨s', hs', hrenewed⟩, hequal, -⟩ :=
      check_eq_report_of_run hrun "teh end".toList {} ()
    refine ⟨_, s', ⟨_, hrun⟩, hs', ?_, hlength⟩
    rw [hcheck, hrenewed]
    refine hequal fun key hkey => ?_
    rintro ⟨b, hb, -⟩
    cases hb.symm.trans (Option.isNone_iff_eq_none.mp (List.all_eq_true.mp hnone key hkey))

def pedantic (r : Request) : Option Response :=
  match r.content with
  | .form fields =>
    if ("level", "picky") ∈ fields then some typo else some (responseOf "\x7b\"matches\":[]\x7d")
  | .json _ => some (responseOf "[]")

theorem isOk_pedantic {b : Backend} {options : CheckOptions} {text : List Char} {r : Request}
    (h : b.request? options text = some r) :
    (Answer.ofResponse b.provider (pedantic r)).isOk = true := by
  have htypo : (Answer.ofResponse .languageTool (some typo)).isOk = true := by decide +kernel
  have hnothing : (Answer.ofResponse .languageTool
      (some (responseOf "\x7b\"matches\":[]\x7d"))).isOk = true := by decide +kernel
  have hnone : (Answer.ofResponse .grazie (some (responseOf "[]"))).isOk = true := by
    decide +kernel
  cases b with
  | languageTool a =>
    obtain rfl := Option.some.inj h
    simp only [pedantic, LanguageTool.Adapter.request]
    split
    · exact htypo
    · exact hnothing
  | grazie a =>
    simp only [Backend.request?] at h
    split at h
    next =>
      obtain rfl := Option.some.inj h
      exact hnone
    next => cases h

/-- A provider answers every request, and what it has found is kept when it is told to be picky. -/
theorem check_stale_of_pedantic :
    (∀ (b : Backend) (options : CheckOptions) (text : List Char) (r : Request),
      b.request? options text = some r →
        (Answer.ofResponse b.provider (pedantic r)).isOk = true) ∧
    let link : Link Unit := answering pedantic fun _ _ => ()
    let markdown := "teh end".toList
    ∃ s s' : Service, ofPreferences {} false {} .empty = .ok s ∧
      let s₁ := (s.perform link () (.check markdown {})).1
      let s₂ := (s₁.perform link () (.updateLanguageTool { level := .picky })).1
      ofPreferences s₂.checker.config s₂.checker.tellsCuts s₂.preferences s₂.dictionary = .ok s' ∧
      (s₂.check link markdown {} ()).1 = [] ∧ (s'.check link markdown {} ()).1.length = 1 := by
  refine ⟨fun _ _ _ _ => isOk_pedantic, ?_⟩
  intro link markdown
  have key : (ofPreferences {} false {} .empty).toOption.map (fun s =>
      let s₁ := (s.perform link () (.check markdown {})).1
      let s₂ := (s₁.perform link () (.updateLanguageTool { level := .picky })).1
      ((s₂.check link markdown {} ()).1, (s₂.renewed.check link markdown {} ()).1.length)) =
      some ([], 1) := by
    decide +kernel
  cases hs : ofPreferences {} false {} .empty with
  | error => simp [hs, Except.toOption] at key
  | ok s =>
    simp only [hs, Except.toOption, Option.map_some, Option.some.injEq, Prod.mk.injEq] at key
    have hsetUp := ((setUp_ofPreferences hs).perform link ()
      (.check markdown {})).perform link () (.updateLanguageTool { level := .picky })
    exact ⟨s, _, rfl, hsetUp.ofPreferences_eq, key⟩

end ProseCheck.Service
