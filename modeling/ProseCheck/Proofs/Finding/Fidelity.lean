import Mathlib.Tactic.Common
import ProseCheck.Proofs.Finding.Placement
import ProseCheck.Proofs.Text.Offset

/-! # Faithful problems

The place of a problem starts and ends with the first and the last flagged character, and the
characters in between that were kept are the flagged ones and no others.
-/

namespace ProseCheck

open Markdown

variable {markdown flagged : List Char} {dictionary : Dictionary} {findings : List Finding}
  {f : Finding} {span : Span} {p : Problem}

/-- A problem that is over the flagged characters, both in the stripped text and in the markdown. -/
structure Problem.Faithful (markdown flagged : List Char) (p : Problem) : Prop where
  covered : Text.slice? (strip markdown).text p.finding.span = some flagged
  start_lt : p.markdownSpan.start < p.markdownSpan.finish
  finish_le : p.markdownSpan.finish ≤ markdown.length
  first : ∃ c, markdown[p.markdownSpan.start]? = some c ∧ flagged.head? = some c
  last : ∃ c, markdown[p.markdownSpan.finish - 1]? = some c ∧ flagged.getLast? = some c
  spelled : ((strip markdown).kept.filter (p.markdownSpan.contains ·.origin)).map (·.char) = flagged

theorem filter_eq_take_drop {α : Type} {l : List α} {q : α → Bool} {a n : Nat}
    (h : ∀ j x, l[j]? = some x → (q x = true ↔ a ≤ j ∧ j < a + n)) :
    l.filter q = (l.drop a).take n := by
  induction l generalizing a n with
  | nil => simp
  | cons x xs ih =>
    have hx := h 0 x rfl
    cases a with
    | succ a =>
      rw [List.filter_cons_of_neg (by rw [hx]; omega), List.drop_succ_cons]
      exact ih fun j y hy => by rw [h (j + 1) y hy]; omega
    | zero =>
      cases n with
      | zero =>
        rw [List.filter_cons_of_neg (by rw [hx]; omega), ih (a := 0) (n := 0), List.take_zero,
          List.take_zero]
        exact fun j y hy => by rw [h (j + 1) y hy]; omega
      | succ n =>
        rw [List.filter_cons_of_pos (by rw [hx]; omega), ih (a := 0) (n := n), List.drop_zero,
          List.drop_zero, List.take_succ_cons]
        exact fun j y hy => by rw [h (j + 1) y hy]; omega

namespace Finding.Placed

/-- The kept characters that come from the place of a finding are those that it covers. -/
theorem contains_iff (h : f.Placed markdown span) {j : Nat} {e : Kept}
    (he : (strip markdown).kept[j]? = some e) :
    span.contains e.origin = true ↔ f.offset ≤ j ∧ j < f.offset + f.length := by
  have hsorted := strip_sorted markdown
  have horigin := Stripped.origin?_eq_some_iff.mpr ⟨e, he, rfl⟩
  have hfirst := hsorted.le_iff h.first horigin
  have hlast := hsorted.le_iff horigin h.last
  have hlt := h.start_lt
  have hpos := h.length_pos
  simp only [Span.contains, Bool.and_eq_true, decide_eq_true_eq]
  omega

theorem markdown_eq (h : f.Placed markdown span) {j i : Nat} (hj : f.offset ≤ j)
    (hj' : j < f.offset + f.length) (hi : (strip markdown).positions.origin? j = some i) :
    markdown[i]? = (strip markdown).text[j]? := by
  obtain ⟨e, he, rfl⟩ := Stripped.origin?_eq_some_iff.mp hi
  have hchar := h.char_ne j e hj hj' he
  have htext : (strip markdown).text[j]? = some e.char := Stripped.text_eq_some_iff.mpr ⟨e, he, rfl⟩
  rcases strip_char he with h | ⟨start, t, ⟨-, rfl⟩ | ⟨-, -, rfl⟩⟩
  · rw [h, htext]
  · exact absurd rfl hchar
  · exact absurd rfl hchar

end Finding.Placed

theorem Problem.faithful_of_mem (hp : p ∈ problems (strip markdown) dictionary findings)
    (hflagged : Text.slice? (strip markdown).text p.finding.span = some flagged) :
    p.Faithful markdown flagged := by
  obtain ⟨f, -, span, hplace, rfl⟩ := mem_problems.mp hp
  have h := Finding.placed_of_place_eq_ok hplace
  have hpos := h.length_pos
  obtain ⟨-, hle, hslice⟩ := Text.slice?_eq_some_iff.mp hflagged
  simp only [Finding.span, Span.length, Nat.add_sub_cancel_left] at hle hslice
  have hlength : flagged.length = f.length := by
    rw [← hslice, List.length_take_of_le (by rw [List.length_drop]; omega)]
  have hget {k : Nat} (hk : k < f.length) :
      flagged[k]? = (strip markdown).text[f.offset + k]? := by
    rw [← hslice, List.getElem?_take_of_lt hk, List.getElem?_drop]
  have hsome {k : Nat} (hk : k < f.length) : ∃ c, flagged[k]? = some c :=
    ⟨flagged.get ⟨k, hlength ▸ hk⟩, List.getElem?_eq_getElem _⟩
  obtain ⟨first, hfirst⟩ := hsome hpos
  obtain ⟨last, hlast⟩ := hsome (Nat.sub_lt hpos Nat.one_pos)
  have hspan := markdownSpan_eq h
  constructor
  · exact hflagged
  · rw [hspan]
    exact h.start_lt
  · rw [hspan]
    exact h.span_le
  · refine ⟨first, ?_, List.head?_eq_getElem? ▸ hfirst⟩
    rw [hspan, h.markdown_eq (Nat.le_refl _) (by omega) h.first, ← hfirst, hget hpos, Nat.add_zero]
  · refine ⟨last, ?_, by rw [List.getLast?_eq_getElem?, hlength, hlast]⟩
    rw [hspan, h.markdown_eq (by omega) (by omega) h.last, ← hlast, hget (by omega)]
    congr 1
    omega
  · rw [hspan, filter_eq_take_drop fun j e he => h.contains_iff he, ← hslice, Stripped.text,
      List.map_take, List.map_drop]

end ProseCheck
