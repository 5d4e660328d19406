import Mathlib.Tactic.Common
import ProseCheck.Proofs.Finding.Fidelity
import ProseCheck.Proofs.Service.Basic

/-! # Faithful checks

Whatever was asked before and however much of it is still kept, a problem stems from a report of the
active provider on the text of a paragraph, and is over the characters that the report is over.
-/

namespace ProseCheck

open Markdown Net

variable {σ : Type} {link : Link σ}

/-- A finding in the text of a key that an answer over the link gives. -/
def Heard (link : Link σ) (key : CacheKey) (f : Finding) : Prop :=
  ∃ b : Backend, b.provider = key.provider ∧ ∃ answer, b.Hears link key.options key.text answer ∧
    f ∈ answer.findings key.text

/-- All findings are heard over the link; any paragraph may fail and any result be forgotten. -/
def hearing (link : Link σ) : Terms Backend where
  Sends o := o.backend.provider = o.provider
  Gives key a := ∀ f ∈ a.getD [], Heard link key f
  Dies := True
  gives_none _ _ _ hf := by cases hf
  Lasts := False

theorem hearing_bind (link : Link σ) (pace : Pace) :
    (hearing link).Bind pace (Service.askOver link) where
  gives world start o ho f hf := by
    rw [Service.ending_askOver, outcome, Option.bind_some] at hf
    cases hreply : (o.backend.check link world o.options o.text).1 with
    | error => simp [hreply, Except.toOption] at hf
    | ok fs =>
      rw [hreply] at hf
      exact ⟨o.backend, ho, Backend.exists_hears_of_mem hreply hf⟩
  dies _ _ _ _ := trivial

/-- The problem is what a report on a piece of a paragraph comes to. -/
def Problem.Tells (p : Problem) (answer : Answer) (paragraph piece : Text.Segment)
    (stretch : Span) : Prop :=
  ∃ f, answer.Reports paragraph.text piece stretch f ∧ p.finding = f.shift paragraph.start

theorem Problem.Tells.covered {p : Problem} {answer : Answer} {paragraph piece : Text.Segment}
    {chars : Span} {text flagged : List Char} {limit : Nat}
    (h : p.Tells answer paragraph piece (Text.span16 piece.text chars))
    (hparagraph : paragraph.In (text.take limit))
    (hflagged : Text.slice? piece.text chars = some flagged) :
    Text.slice? text p.finding.span = some flagged := by
  obtain ⟨f, hreports, hf⟩ := h
  obtain ⟨hle, hlen, -⟩ := Text.slice?_eq_some_iff.mp hflagged
  obtain ⟨hoffset, hlength⟩ := hreports.place hle hlen
  have hslice := Text.slice?_of_take
    (Text.slice?_shift hparagraph (Text.slice?_shift hreports.piece_in hflagged))
  have hspan : p.finding.span = (chars.shift piece.start).shift paragraph.start := by
    simp only [hf, Finding.span, Finding.shift, hoffset, hlength, Span.shift, Span.length,
      Span.mk.injEq]
    omega
  rw [hspan]
  exact hslice

namespace Service

/-- The services that there can be when everything is asked over a link. Kept results may get lost
at any time. -/
inductive Reachable (link : Link σ) : Service → Prop
  | start {config : CheckerConfig} {tellsCuts : Bool} {preferences : Preferences}
      {dictionary : Dictionary} {s : Service} :
      ofPreferences config tellsCuts preferences dictionary = .ok s → Reachable link s
  | perform {s : Service} (op : Operation) (world : σ) :
      Reachable link s → Reachable link (s.perform link world op).1
  | forget {s : Service} {caches : Caches} : Reachable link s →
      (∀ key fs, caches.paragraphs.find? key = some fs →
        s.checker.caches.paragraphs.find? key = some fs) →
      (∀ key fs, caches.texts.find? key = some fs →
        s.checker.caches.texts.find? key = some fs) →
      Reachable link { s with checker := { s.checker with caches } }

/-- What holds of every service that there can be. -/
structure Sound (link : Link σ) (s : Service) : Prop where
  checker : s.checker.Inv (hearing link) []
  remembers : s.Remembers

variable {s : Service} {markdown : List Char} {overrides : CheckOverrides} {world : σ}

theorem sendable_hearing (s : Service) (overrides : CheckOverrides) (text : List Char)
    (config : CheckerConfig) (known : Cache) :
    ((s.requestFor overrides text).kept config).Sendable (hearing link) config.separator known :=
  fun _ _ _ _ => s.provider_backend s.active

theorem Sound.check (h : s.Sound link) :
    (s.check link markdown overrides world).2.2.1.Sound link := by
  by_cases hblank : IsBlank markdown
  · obtain ⟨last, strips, heq, hremembers⟩ :=
      check_of_isBlank h.remembers hblank link overrides world
    rw [heq]
    exact ⟨h.checker, hremembers⟩
  · obtain ⟨last, strips, heq, hremembers⟩ :=
      check_of_not_isBlank h.remembers hblank link overrides world
    rw [heq]
    exact ⟨(h.checker.check (sendable_hearing _ _ _ _ _) (hearing_bind ..) world).2.1, hremembers⟩

theorem Sound.perform (h : s.Sound link) (op : Operation) :
    (s.perform link world op).1.Sound link := by
  by_cases hop : LooksUp op
  · cases op with
    | check markdown overrides =>
      simp only [Service.perform]
      exact h.check
    | clearCache =>
      simp only [Service.perform, clearCache]
      exact ⟨h.checker.clearCache, h.remembers⟩
    | _ => cases hop
  · obtain ⟨⟨on, hchecker⟩, hremembers⟩ := perform_of_not_looksUp hop h.remembers link world
    exact ⟨hchecker ▸ h.checker.tellsCuts on, hremembers⟩

theorem Reachable.sound (h : Reachable link s) : s.Sound link := by
  induction h with
  | start h =>
    obtain ⟨hchecker, hremembers⟩ := ofPreferences_frame h
    exact ⟨hchecker ▸ Checker.inv_start .., hremembers⟩
  | perform op world _ ih => exact ih.perform op
  | forget _ hparagraphs htexts ih =>
    exact ⟨ih.checker.forget id hparagraphs htexts, ih.remembers⟩

/-- A problem stems from what the active provider was told about a paragraph, now or earlier. -/
theorem exists_tells (h : s.Sound link) {p : Problem}
    (hp : p ∈ (s.check link markdown overrides world).1) :
    ∃ paragraph ∈ Text.paragraphs s.checker.config.separator
        ((Markdown.strip markdown).text.take s.checker.config.maxChars),
      ∃ (b : Backend) (answer : Answer) (piece : Text.Segment) (stretch : Span),
        b.provider = s.active ∧
        b.Hears link (s.preferences.checkOptions overrides s.active) paragraph.text answer ∧
        p.Tells answer paragraph piece stretch := by
  obtain ⟨f, hf, span, -, rfl⟩ := mem_problems.mp (mem_problems_of_mem_check h.remembers hp)
  obtain ⟨parts, hcovers, hfound⟩ := (h.checker.check
    (sendable_hearing s overrides (Markdown.strip markdown).text _ _) (hearing_bind ..) world).1
  rw [hfound, Finding.sort, List.mem_mergeSort, List.mem_flatMap] at hf
  obtain ⟨part, hpart, hf⟩ := hf
  obtain ⟨g, hg, rfl⟩ := List.mem_map.mp hf
  obtain ⟨b, hb, answer, hhears, hmem⟩ := (hcovers.gives part hpart).1 g hg
  obtain ⟨piece, stretch, hreports⟩ := Answer.mem_findings_iff.mp hmem
  have hprose := hcovers.perm.subset
    (List.mem_append_left _ (List.mem_map_of_mem (f := (·.1)) hpart))
  exact ⟨part.1, (List.mem_filter.mp hprose).1, b, answer, piece, stretch, hb, hhears, g, hreports,
    rfl⟩

/-- Every problem that a check reports stems from a report of the active provider on a paragraph of
the stripped text, and where a report is over the UTF-16 span of some characters, the problem is
over these characters in the markdown. -/
theorem check_faithful (hs : s.Reachable link) (markdown : List Char) (overrides : CheckOverrides)
    (world : σ) :
    ∀ p ∈ (s.check link markdown overrides world).1,
      let paragraphs := Text.paragraphs s.checker.config.separator
        ((Markdown.strip markdown).text.take s.checker.config.maxChars)
      (∃ paragraph ∈ paragraphs, ∃ (b : Backend) (answer : Answer) (piece : Text.Segment)
        (stretch : Span), b.provider = s.active ∧
          b.Hears link (s.preferences.checkOptions overrides s.active) paragraph.text answer ∧
          p.Tells answer paragraph piece stretch) ∧
      ∀ paragraph ∈ paragraphs, ∀ answer piece chars, chars.start < chars.finish →
        chars.finish ≤ piece.length →
        p.Tells answer paragraph piece (Text.span16 piece.text chars) →
        ∃ flagged, Text.slice? piece.text chars = some flagged ∧ p.Faithful markdown flagged := by
  intro p hp paragraphs
  refine ⟨exists_tells hs.sound hp, ?_⟩
  intro paragraph hparagraph answer piece chars hlt hle htells
  have hflagged : Text.slice? piece.text chars = some _ := if_pos ⟨Nat.le_of_lt hlt, hle⟩
  have hcovered := htells.covered (Text.in_of_mem_paragraphs hparagraph) hflagged
  exact ⟨_, hflagged,
    Problem.faithful_of_mem (mem_problems_of_mem_check hs.sound.remembers hp) hcovered⟩

/-- A link that has the same to say to every request. -/
def saying (body : String) : Link Unit := answering (fun _ => some (responseOf body)) fun _ _ => ()

def sayingTeh : Link Unit :=
  saying "\x7b\"matches\":[\x7b\"message\":\"typo\",\"offset\":3,\"length\":3\x7d]\x7d"

theorem check_faithful_teh :
    let markdown := "😀 **teh** end".toList
    ∃ s : Service, s.Reachable sayingTeh ∧
      ∃ p ∈ (s.check sayingTeh markdown {} ()).1, p.Faithful markdown "teh".toList := by
  let m : LanguageTool.Match := ⟨"typo", none, 3, 3, [], none⟩
  let rule : Rule := ⟨"UNKNOWN", none, none, none, none⟩
  let f : Finding := ⟨"typo", none, 2, 3, [], rule, .grammar, .medium, .languageTool⟩
  let paragraph : Text.Segment := ⟨0, "😀 teh end".toList⟩
  intro markdown
  have key : (ofPreferences {} false {} .empty).toOption.map
      (fun s => (s.checker.config, (s.check sayingTeh markdown {} ()).1)) =
        some ({}, [⟨f, 4, 3⟩]) := by decide +kernel
  cases hs : ofPreferences {} false {} .empty with
  | error => simp [hs, Except.toOption] at key
  | ok s =>
    simp only [hs, Except.toOption, Option.map_some, Option.some.injEq, Prod.mk.injEq] at key
    obtain ⟨hconfig, hcheck⟩ := key
    have hp : (⟨f, 4, 3⟩ : Problem) ∈ (s.check sayingTeh markdown {} ()).1 := by simp [hcheck]
    have hreach : s.Reachable sayingTeh := .start hs
    have hparagraph : paragraph ∈ Text.paragraphs s.checker.config.separator
        ((Markdown.strip markdown).text.take s.checker.config.maxChars) := by
      rw [hconfig]
      decide +kernel
    have htells : (⟨f, 4, 3⟩ : Problem).Tells (.languageTool [m]) paragraph paragraph
        (Text.span16 paragraph.text ⟨2, 5⟩) :=
      ⟨f, .languageTool (List.mem_singleton_self m) ⟨by decide, by decide⟩ (by decide +kernel), rfl⟩
    obtain ⟨flagged, hflagged, hfaithful⟩ := (check_faithful hreach markdown {} () _ hp).2
      paragraph hparagraph _ _ _ (by decide) (by decide) htells
    have hteh : Text.slice? paragraph.text ⟨2, 5⟩ = some "teh".toList := by decide
    cases hteh.symm.trans hflagged
    exact ⟨s, hreach, _, hp, hfaithful⟩

end Service
end ProseCheck
