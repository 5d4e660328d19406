import Mathlib.Tactic.Common
import ProseCheck.Finding.Placement
import ProseCheck.Proofs.Markdown.Code

/-! # Where findings are placed

A finding that is placed covers stripped characters, and its place goes from the position of the
first of them to just behind the position of the last.
-/

namespace ProseCheck

open Markdown

variable {d : Stripped} {dictionary : Dictionary} {code : List Span} {f : Finding} {span : Span}

def Finding.covered? (f : Finding) (d : Stripped) : Option (List Char) :=
  Text.slice? d.text ⟨f.offset, f.offset + f.length⟩

theorem ite_error_eq_ok {ε α : Type} {c : Prop} [Decidable c] {e : ε} {x : Except ε α} {a : α} :
    (if c then .error e else x) = .ok a ↔ ¬ c ∧ x = .ok a := by
  split <;> simp [*]

theorem Finding.place_eq_ok_iff :
    f.place d dictionary code = .ok span ↔
      0 < f.length ∧ f.offset + f.length ≤ maxOffset ∧ ∃ covered, f.covered? d = some covered ∧
        dictionary.contains (String.ofList covered) (some f.rule.id) = false ∧
        placeholder ∉ covered ∧
        d.positions.toMarkdownSpan? f.offset f.length = some span ∧
        span.finish ≤ d.markdown.length ∧ ∀ r ∈ code, r.contains span.start = false := by
  unfold Finding.place Finding.covered? addOffset?
  simp only [throw, throwThe, MonadExceptOf.throw, bind, Except.bind, pure, Except.pure,
    ite_error_eq_ok, Nat.pos_iff_ne_zero]
  refine and_congr_right fun _ => ?_
  by_cases hsum : f.offset + f.length ≤ maxOffset
  · simp only [hsum, if_true, true_and]
    cases Text.slice? d.text ⟨f.offset, f.offset + f.length⟩ with
    | none => simp
    | some covered =>
      cases d.positions.toMarkdownSpan? f.offset f.length with
      | none => simp [ite_error_eq_ok]
      | some place =>
        simp only [ite_error_eq_ok, Bool.not_eq_true, List.contains_eq_mem, decide_eq_false_iff_not,
          Nat.not_lt, List.any_eq_false, Except.ok.injEq, Option.some.injEq, exists_eq_left']
        refine and_congr_right fun _ => and_congr_right fun _ => ?_
        constructor
        · rintro ⟨hle, hcode, rfl⟩
          exact ⟨rfl, hle, hcode⟩
        · rintro ⟨rfl, hle, hcode⟩
          exact ⟨hle, hcode, rfl⟩
  · simp [hsum]

theorem mem_problems {findings : List Finding} {p : Problem} :
    p ∈ problems d dictionary findings ↔ ∃ f ∈ findings, ∃ span,
      f.place d dictionary (codeRegions d.markdown) = .ok span ∧
        p = ⟨f, span.start, span.length⟩ := by
  simp only [problems, List.mem_mergeSort, List.mem_filterMap, Finding.problem?]
  refine exists_congr fun f => and_congr_right fun _ => ?_
  cases f.place d dictionary (codeRegions d.markdown) with
  | error => simp
  | ok span => simp [eq_comm]

/-! ### Findings in stripped documents -/

/-- What is known of the place of a finding in a document. -/
structure Finding.Placed (markdown : List Char) (f : Finding) (span : Span) : Prop where
  length_pos : 0 < f.length
  finish_le : f.offset + f.length ≤ (strip markdown).length
  first : (strip markdown).positions.origin? f.offset = some span.start
  last : (strip markdown).positions.origin? (f.offset + f.length - 1) = some (span.finish - 1)
  start_lt : span.start < span.finish
  span_le : span.finish ≤ markdown.length
  span_le_max : span.finish ≤ maxOffset
  char_ne : ∀ j e, f.offset ≤ j → j < f.offset + f.length →
    (strip markdown).kept[j]? = some e → e.char ≠ placeholder

theorem Finding.covered?_eq_some {covered : List Char} (h : f.covered? d = some covered) :
    f.offset + f.length ≤ d.length ∧ covered = (d.text.drop f.offset).take f.length := by
  simp only [covered?, Text.slice?, Span.length, Option.ite_none_right_eq_some,
    Option.some.injEq, Nat.add_sub_cancel_left, Stripped.length_text] at h
  exact ⟨h.1.2, h.2.symm⟩

theorem Finding.placed_of_place_eq_ok {markdown : List Char}
    (h : f.place (strip markdown) dictionary code = .ok span) : f.Placed markdown span := by
  obtain ⟨hpos, -, covered, hcovered, -, hplaceholder, hspan, hle, -⟩ := place_eq_ok_iff.mp h
  obtain ⟨hlen, rfl⟩ := covered?_eq_some hcovered
  obtain ⟨-, hmax, hfirst, last, hlast, hfinish⟩ :=
    PositionMap.toMarkdownSpan?_spec hspan (by rwa [Stripped.length_positions])
  have hsorted := (strip_sorted markdown).le_iff hfirst hlast
  refine ⟨hpos, hlen, hfirst, by rwa [hfinish], by omega, hle, hmax, ?_⟩
  rintro j e hj hj' he hchar
  refine hplaceholder (List.mem_of_getElem? (i := j - f.offset) ?_)
  rw [List.getElem?_take_of_lt (by omega), List.getElem?_drop, Nat.add_sub_of_le hj, ← hchar]
  exact Stripped.text_eq_some_iff.mpr ⟨e, he, rfl⟩

theorem Problem.markdownSpan_eq {markdown : List Char} (h : f.Placed markdown span) :
    (⟨f, span.start, span.length⟩ : Problem).markdownSpan = span := by
  simp only [markdownSpan, Span.length]
  rw [Nat.add_sub_of_le (Nat.le_of_lt h.start_lt)]

theorem Problem.bounds_of_mem {markdown : List Char} {findings : List Finding} {p : Problem}
    (hp : p ∈ problems (strip markdown) dictionary findings) :
    p.markdownSpan.start < p.markdownSpan.finish ∧ p.markdownSpan.finish ≤ markdown.length ∧
      p.markdownSpan.finish ≤ maxOffset := by
  obtain ⟨f, -, span, hplace, rfl⟩ := mem_problems.mp hp
  have h := Finding.placed_of_place_eq_ok hplace
  rw [markdownSpan_eq h]
  exact ⟨h.start_lt, h.span_le, h.span_le_max⟩

end ProseCheck
