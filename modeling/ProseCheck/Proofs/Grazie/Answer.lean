import Mathlib.Data.Option.Basic
import Mathlib.Tactic.Common
import ProseCheck.Grazie.Answer
import ProseCheck.Proofs.Text.Offset

/-! # Where the findings of Grazie lie

A problem in a sentence becomes a finding over the characters of the sentence that it highlights, if
the answer has the sentence at its position.
-/

namespace ProseCheck.Grazie

variable {p : ReportedProblem} {sentence : Text.Segment} {span : Span} {f : Finding}

theorem Span16.chars?_eq_some_iff {h : Span16} {text : List Char} : h.chars? text = some span ↔
    (0 ≤ h.start ∧ 0 ≤ h.finish) ∧ Text.charOffset? text h.start.toNat = some span.start ∧
      Text.charOffset? text h.finish.toNat = some span.finish ∧ span.start ≤ span.finish := by
  simp only [chars?, Option.bind_eq_bind, Option.bind_eq_some_iff, Option.guard_eq_some',
    Option.pure_def, Option.some.injEq, exists_and_left, exists_const]
  constructor
  · rintro ⟨hsign, start, hstart, finish, hfinish, hle, rfl⟩
    exact ⟨hsign, hstart, hfinish, hle⟩
  · rintro ⟨hsign, hstart, hfinish, hle⟩
    exact ⟨hsign, _, hstart, _, hfinish, hle, rfl⟩

namespace ReportedProblem

/-- The problem highlights a span of UTF-16 code units. -/
def Covers16 (p : ReportedProblem) (s : Span) : Prop := p.highlight = ⟨s.start, s.finish⟩

theorem span_of_finding? (h : p.finding? sentence = some f) :
    ∃ span, p.highlight.chars? sentence.text = some span ∧ span.start < span.finish ∧
      f.offset = sentence.start + span.start ∧ f.length = span.length := by
  simp only [finding?, Option.bind_eq_bind, Option.bind_eq_some_iff, Option.guard_eq_some',
    Option.pure_def, Option.some.injEq] at h
  obtain ⟨span, hspan, -, hlt, rfl⟩ := h
  exact ⟨span, hspan, hlt, rfl, rfl⟩

theorem exists_covers16 (h : p.highlight.chars? sentence.text = some span) : ∃ s, p.Covers16 s := by
  obtain ⟨⟨hstart, hfinish⟩, -⟩ := Span16.chars?_eq_some_iff.mp h
  refine ⟨⟨p.highlight.start.toNat, p.highlight.finish.toNat⟩, ?_⟩
  simp only [Covers16, Int.toNat_of_nonneg hstart, Int.toNat_of_nonneg hfinish]

theorem span_eq_of_covers16 {s : Span} (h : p.highlight.chars? sentence.text = some span)
    (hp : p.Covers16 (Text.span16 sentence.text s)) (hs : s.start ≤ s.finish)
    (hlen : s.finish ≤ sentence.length) : span = s := by
  obtain ⟨-, hstart, hfinish, -⟩ := Span16.chars?_eq_some_iff.mp h
  rw [hp, Int.toNat_natCast, Text.span16, Text.charOffset?_length16_take (Nat.le_trans hs hlen),
    Option.some.injEq] at hstart
  rw [hp, Int.toNat_natCast, Text.span16, Text.charOffset?_length16_take hlen,
    Option.some.injEq] at hfinish
  cases span
  cases s
  simp_all

end ReportedProblem

theorem mem_findings {answer : List CheckedSentence} {sent : List Text.Segment} :
    f ∈ findings answer sent ↔ ∃ sentence checked, (sentence, checked) ∈ sent.zip answer ∧
      checked.sentence.toList = sentence.text ∧
        ∃ p ∈ checked.problems, p.finding? sentence = some f := by
  simp only [findings, List.mem_flatMap, Prod.exists]
  refine exists_congr fun sentence => exists_congr fun checked => and_congr_right fun _ => ?_
  by_cases h : checked.sentence.toList = sentence.text <;> simp [h]

end ProseCheck.Grazie
