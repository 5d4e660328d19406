import Mathlib.Data.Option.Basic
import Mathlib.Tactic.Common
import ProseCheck.LanguageTool.Answer
import ProseCheck.Proofs.Text.Offset

/-! # Where the findings of LanguageTool lie

A match becomes a finding over the characters that its code units point at.
-/

namespace ProseCheck.LanguageTool

variable {m : Match} {text : List Char} {span : Span} {f : Finding}

namespace Match

/-- The match covers a span of UTF-16 code units. -/
def Covers16 (m : Match) (s : Span) : Prop := m.offset = s.start ∧ m.offset + m.length = s.finish

theorem span?_eq_some_iff : m.span? text = some span ↔
    (0 ≤ m.offset ∧ 0 ≤ m.length) ∧ m.offset.toNat + m.length.toNat ≤ maxOffset ∧
      Text.charOffset? text m.offset.toNat = some span.start ∧
      Text.charOffset? text (m.offset.toNat + m.length.toNat) = some span.finish ∧
      span.start < span.finish := by
  simp only [span?, addOffset?, Option.bind_eq_bind, Option.bind_eq_some_iff,
    Option.guard_eq_some', Option.ite_none_right_eq_some, Option.pure_def, Option.some.injEq,
    exists_and_left, exists_const]
  constructor
  · rintro ⟨hsign, start, hstart, _, ⟨hmax, rfl⟩, finish, hfinish, hlt, rfl⟩
    exact ⟨hsign, hmax, hstart, hfinish, hlt⟩
  · rintro ⟨hsign, hmax, hstart, hfinish, hlt⟩
    exact ⟨hsign, _, hstart, _, ⟨hmax, rfl⟩, _, hfinish, hlt, rfl⟩

theorem span_of_finding? (h : m.finding? text = some f) :
    ∃ span, m.span? text = some span ∧ f.offset = span.start ∧ f.length = span.length := by
  simp only [finding?, Option.bind_eq_bind, Option.bind_eq_some_iff, Option.pure_def,
    Option.some.injEq] at h
  obtain ⟨span, hspan, rfl⟩ := h
  exact ⟨span, hspan, rfl, rfl⟩

theorem exists_covers16 (h : m.span? text = some span) : ∃ s, m.Covers16 s := by
  obtain ⟨⟨hoffset, hlength⟩, -⟩ := span?_eq_some_iff.mp h
  exact ⟨⟨m.offset.toNat, (m.offset + m.length).toNat⟩, by simp only; omega, by simp only; omega⟩

theorem span_eq_of_covers16 {s : Span} (h : m.span? text = some span)
    (hm : m.Covers16 (Text.span16 text s)) (hs : s.start ≤ s.finish)
    (hlen : s.finish ≤ text.length) : span = s := by
  obtain ⟨⟨hoffset, hlength⟩, -, hstart, hfinish, -⟩ := span?_eq_some_iff.mp h
  obtain ⟨hstart16, hfinish16⟩ := hm
  have h₁ : m.offset.toNat = (Text.span16 text s).start := by omega
  have h₂ : m.offset.toNat + m.length.toNat = (Text.span16 text s).finish := by omega
  rw [h₁, Text.span16, Text.charOffset?_length16_take (by omega), Option.some.injEq] at hstart
  rw [h₂, Text.span16, Text.charOffset?_length16_take hlen, Option.some.injEq] at hfinish
  cases span
  cases s
  simp_all

end Match

theorem mem_findings {ms : List Match} :
    f ∈ findings ms text ↔ ∃ m ∈ ms, m.finding? text = some f := List.mem_filterMap

end ProseCheck.LanguageTool
