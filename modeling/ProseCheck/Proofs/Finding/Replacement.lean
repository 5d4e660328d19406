import Mathlib.Tactic.Common
import ProseCheck.Proofs.Finding.Placement

/-! # What a replacement changes

The place of a problem may run across code: what is flagged may lie on both sides of code that was
dropped. A replacement leaves everything outside the place as it is.
-/

namespace ProseCheck

open Markdown

/-- The spans have a position in common. -/
def Span.Meets (a b : Span) : Prop := a.start < b.finish ∧ b.start < a.finish

instance (a b : Span) : Decidable (a.Meets b) := inferInstanceAs (Decidable (_ ∧ _))

namespace Text

variable {text new : List Char} {place r : Span}

def replaced (text : List Char) (place : Span) (new : List Char) : List Char :=
  text.take place.start ++ new ++ text.drop place.finish

theorem slice?_replaced_of_le (hr : r.finish ≤ place.start) (hplace : place.start ≤ text.length) :
    slice? (replaced text place new) r = slice? text r := by
  have hlen : (text.take place.start).length = place.start := List.length_take_of_le hplace
  simp only [slice?, replaced, List.append_assoc, List.length_append, hlen]
  by_cases h : r.start ≤ r.finish
  · rw [if_pos ⟨h, by omega⟩, if_pos ⟨h, by omega⟩, List.drop_append_of_le_length (by omega),
      List.take_append_of_le_length (by rw [List.length_drop, Span.length]; omega), List.drop_take,
      List.take_take, Nat.min_eq_left (by rw [Span.length]; omega)]
  · rw [if_neg fun h' => h h'.1, if_neg fun h' => h h'.1]

theorem slice?_replaced_of_ge (hr : place.finish ≤ r.start) (hplace : place.start ≤ place.finish)
    (hlen : r.finish ≤ text.length) (h : r.start ≤ r.finish) :
    slice? (replaced text place new)
      ⟨r.start - place.length + new.length, r.finish - place.length + new.length⟩ =
        slice? text r := by
  have hbefore : (text.take place.start ++ new).length = place.start + new.length := by
    rw [List.length_append, List.length_take_of_le (by omega)]
  have htotal : (replaced text place new).length =
      place.start + new.length + (text.length - place.finish) := by
    rw [replaced, List.length_append, hbefore, List.length_drop]
  have hdrop : (replaced text place new).drop (r.start - place.length + new.length) =
      text.drop r.start := by
    rw [replaced, List.drop_append, List.drop_eq_nil_of_le, List.nil_append, List.drop_drop,
      hbefore]
    · congr 1
      simp only [Span.length]
      omega
    · simp only [hbefore, Span.length]
      omega
  have hlength : r.finish - place.length + new.length - (r.start - place.length + new.length) =
      r.finish - r.start := by
    simp only [Span.length]
    omega
  simp only [slice?, htotal]
  rw [if_pos ⟨by omega, by rw [Span.length]; omega⟩, if_pos ⟨h, hlen⟩, hdrop, Span.length, hlength,
    Span.length]

end Text

namespace Problem

variable {f : Finding} {span : Span} {markdown : List Char}

theorem applyReplacement?_eq (h : f.Placed markdown span) {k : Nat} {replacement : String}
    (hk : f.replacements[k]? = some replacement) :
    (⟨f, span.start, span.length⟩ : Problem).applyReplacement? markdown k =
      some (.ok (Text.replaced markdown span replacement.toList)) := by
  have hlt := h.start_lt
  have hle := h.span_le
  have hmax := h.span_le_max
  simp only [applyReplacement?, hk, replaceWith?, markdownSpan_eq h]
  rw [if_neg (Nat.not_lt_of_le hmax), if_pos ⟨by omega, hle⟩, Text.replaced]

end Problem

/-- Where something begins to fail, its last success is right before. -/
theorem exists_last_step {P : Nat → Prop} {a b : Nat} (hab : a ≤ b) (ha : P a) (hb : ¬ P b) :
    ∃ j, a ≤ j ∧ j < b ∧ P j ∧ ¬ P (j + 1) := by
  induction b with
  | zero => exact absurd (Nat.le_zero.mp hab ▸ ha) hb
  | succ b ih =>
    rcases Nat.eq_or_lt_of_le hab with rfl | hlt
    · exact absurd ha hb
    · have hle := Nat.le_of_lt_succ hlt
      by_cases h : P b
      · exact ⟨b, hle, Nat.lt_succ_self b, h, hb⟩
      · obtain ⟨j, haj, hjb, hj⟩ := ih hle h
        exact ⟨j, haj, Nat.lt_succ_of_lt hjb, hj⟩

/-- The start of a region lies between two neighbouring characters that the finding covers. -/
def Finding.Brackets (f : Finding) (markdown : List Char) (r : Span) : Prop :=
  ∃ j before behind, f.offset ≤ j ∧ j + 1 < f.offset + f.length ∧
    (strip markdown).positions.origin? j = some before ∧
    (strip markdown).positions.origin? (j + 1) = some behind ∧
    before < r.start ∧ r.start < behind

theorem Finding.Placed.meets_iff {f : Finding} {span r : Span} {markdown : List Char}
    (h : f.Placed markdown span) (hr : r ∈ codeRegions markdown)
    (hstart : r.contains span.start = false) : span.Meets r ↔ f.Brackets markdown r := by
  have hsorted := strip_sorted markdown
  have hlt := h.start_lt
  have hout : ¬ (r.start ≤ span.start ∧ span.start < r.finish) := by
    simpa [Span.contains] using hstart
  have hregion := (regionAt_of_mem hr).start_lt
  constructor
  · rintro ⟨hbehind, hbefore⟩
    have hfirst : span.start < r.start := by omega
    have hle := (hsorted.le_iff h.first h.last).mp (by omega)
    obtain ⟨j, hj, hj', ⟨before, hbefore, hlt₁⟩, hnot⟩ :=
      exists_last_step
        (P := fun j => ∃ o, (strip markdown).positions.origin? j = some o ∧ o < r.start) hle
        ⟨_, h.first, hfirst⟩ fun ⟨o, ho, hlt⟩ => by
          rw [h.last, Option.some.injEq] at ho
          omega
    have hlen := h.finish_le
    obtain ⟨behind, hbehind⟩ := PositionMap.origin?_of_lt (m := (strip markdown).positions)
      (i := j + 1) (by rw [Stripped.length_positions]; omega)
    obtain ⟨e, he, rfl⟩ := Stripped.origin?_eq_some_iff.mp hbehind
    have hne := origin_ne_start hr (List.mem_of_getElem? he)
      (h.char_ne (j + 1) e (by omega) (by omega) he)
    have hge : ¬ e.origin < r.start := fun hlt => hnot ⟨_, hbehind, hlt⟩
    exact ⟨j, before, e.origin, hj, by omega, hbefore, hbehind, hlt₁, by omega⟩
  · rintro ⟨j, before, behind, hj, hj', hbefore, hbehind, hlt₁, hlt₂⟩
    have h₁ := (hsorted.le_iff h.first hbefore).mpr hj
    have h₂ := (hsorted.le_iff hbehind h.last).mpr (by omega)
    exact ⟨by omega, by omega⟩

/-- Where a span that does not meet `place` is once `place` holds `size` characters. -/
def Span.movedBy (r place : Span) (size : Nat) : Span :=
  if r.finish ≤ place.start then r
  else ⟨r.start - place.length + size, r.finish - place.length + size⟩

/-- A problem starts outside code and meets a code region just when the region starts between two
neighbouring characters that the finding covers. Its replacements can be made and leave each region
that it does not meet as it is. -/
theorem problems_spare_code (markdown : List Char) (dictionary : Dictionary)
    (findings : List Finding) :
    ∀ p ∈ problems (strip markdown) dictionary findings,
      (∀ r ∈ codeRegions markdown, r.contains p.markdownSpan.start = false ∧
        (p.markdownSpan.Meets r ↔ p.finding.Brackets markdown r)) ∧
      ∀ k replacement, p.finding.replacements[k]? = some replacement →
        ∃ edited, p.applyReplacement? markdown k = some (.ok edited) ∧
          ∀ r ∈ codeRegions markdown, ¬ p.markdownSpan.Meets r →
            ∃ code, Text.slice? markdown r = some code ∧
              Text.slice? edited (r.movedBy p.markdownSpan replacement.toList.length) =
                some code := by
  intro p hp
  obtain ⟨f, -, span, hplace, rfl⟩ := mem_problems.mp hp
  have h := Finding.placed_of_place_eq_ok hplace
  have hlt := h.start_lt
  have hle := h.span_le
  obtain ⟨-, -, -, -, -, -, -, -, hcode⟩ := Finding.place_eq_ok_iff.mp hplace
  rw [Problem.markdownSpan_eq h]
  refine ⟨fun r hr => ⟨hcode r hr, h.meets_iff hr (hcode r hr)⟩, fun k replacement hk =>
    ⟨_, Problem.applyReplacement?_eq h hk, fun r hr hmeets => ?_⟩⟩
  obtain ⟨-, -, hrlt, hrle⟩ := regionAt_of_mem hr
  have hslice : Text.slice? markdown r = some ((markdown.drop r.start).take r.length) :=
    if_pos ⟨Nat.le_of_lt hrlt, hrle⟩
  refine ⟨_, hslice, ?_⟩
  rw [← hslice, Span.movedBy]
  split
  case isTrue hbefore => exact Text.slice?_replaced_of_le hbefore (by omega)
  case isFalse hbefore =>
    have hbehind : span.finish ≤ r.start := Nat.le_of_not_lt fun hb => hmeets ⟨by omega, by omega⟩
    exact Text.slice?_replaced_of_ge hbehind (by omega) hrle (by omega)

def misspelling (offset length : Nat) (replacement : String) : Finding where
  message := "Possible spelling mistake found."
  shortMessage := none
  offset
  length
  replacements := [replacement]
  rule := ⟨"SPELLER", none, none, none, none⟩
  kind := .spelling
  severity := .high
  provider := .languageTool

theorem problems_spare_code_beside :
    let markdown := "`x` teh `y`".toList
    let p : Problem := ⟨misspelling 1 3 "there", 4, 3⟩
    let r : Span := ⟨8, 11⟩
    p ∈ problems (strip markdown) .empty [p.finding] ∧ r ∈ codeRegions markdown ∧
      ∃ edited, p.applyReplacement? markdown 0 = some (.ok edited) ∧
        ∃ code, Text.slice? markdown r = some code ∧
          Text.slice? edited (r.movedBy p.markdownSpan 5) = some code := by
  intro markdown p r
  have hp : p ∈ problems (strip markdown) .empty [p.finding] := by decide +kernel
  have hr : r ∈ codeRegions markdown := by decide +kernel
  have hapart : ¬ p.markdownSpan.Meets r := by decide +kernel
  obtain ⟨edited, hedited, hkept⟩ :=
    (problems_spare_code markdown .empty [p.finding] p hp).2 0 "there" rfl
  exact ⟨hp, hr, edited, hedited, hkept r hr hapart⟩

/-- A finding over the two characters around a code span is placed over the span, and its
replacement takes the code out. -/
theorem exists_problem_over_code :
    ∃ markdown findings, ∃ p ∈ problems (strip markdown) .empty findings,
      ∃ r ∈ codeRegions markdown, p.markdownSpan.Meets r ∧
        ∃ edited, p.applyReplacement? markdown 0 = some (.ok edited) ∧ backtick ∉ edited := by
  let p : Problem := ⟨misspelling 1 2 " c", 1, 5⟩
  refine ⟨"a `x`b".toList, [p.finding], p, by decide +kernel, ⟨2, 5⟩, by decide +kernel,
    by decide +kernel, "a c".toList, by decide +kernel, by decide +kernel⟩

end ProseCheck
