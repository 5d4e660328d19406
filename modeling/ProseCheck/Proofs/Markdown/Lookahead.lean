import Mathlib.Tactic.Common
import ProseCheck.Proofs.Markdown.Link
import ProseCheck.Text.Segment

/-! # How far a look ahead goes

Runs, code spans, urls and tags end with their line and link texts at a blank line. So what such a
scanner finds does not depend on what comes behind a blank line, except for comments.
-/

namespace ProseCheck.Markdown

open Text (blankLine)

variable (text rest : List Char)

theorem blankLine_append : blankLine ++ rest = '\n' :: '\n' :: rest := rfl

/-! ### Lines -/

theorem runLength_append_line : runLength (text ++ '\n' :: rest) = runLength text := by
  induction text with
  | nil => rfl
  | cons c cs ih => rw [List.cons_append, runLength_cons, runLength_cons, ih]

theorem closingRun?_append_line (run seen : Nat) :
    closingRun? run seen (text ++ '\n' :: rest) = closingRun? run seen text := by
  induction text generalizing seen with
  | nil => rfl
  | cons c cs ih => simp only [List.cons_append, closingRun?, ih]

theorem codeSpan?_append_line : codeSpan? (text ++ '\n' :: rest) = codeSpan? text := by
  simp only [codeSpan?, runLength_append_line,
    List.drop_append_of_le_length (runLength_le_length text), closingRun?_append_line]

theorem urlEnd?_append_line (depth : Nat) :
    urlEnd? depth (text ++ '\n' :: rest) = urlEnd? depth text := by
  induction text generalizing depth with
  | nil => rfl
  | cons c cs ih => simp only [List.cons_append, urlEnd?, ih]

theorem tagEnd?_append_line : tagEnd? (text ++ '\n' :: rest) = tagEnd? text := by
  induction text with
  | nil => rfl
  | cons c cs ih => simp only [List.cons_append, tagEnd?, ih]

theorem startsFence_append_line : startsFence (text ++ '\n' :: rest) = startsFence text := by
  rw [startsFence, runLength_append_line, startsFence]

theorem codeLength_append_line : codeLength (text ++ '\n' :: rest) = codeLength text := by
  rw [codeLength, codeSpan?_append_line, runLength_append_line, codeLength]

theorem codeLength_le_length : codeLength text ≤ text.length := by
  unfold codeLength
  cases hs : codeSpan? text with
  | none => exact runLength_le_length text
  | some n => exact (codeSpan?_spec hs).2.2.1

/-! ### Paragraphs -/

/-- At the end of a text a line feed is not the first half of a blank line, but it is in front of
one. -/
theorem head?_append_blankLine (c : Char) (h : ¬ (c = '\n' ∧ text.head? = some '\n')) :
    (c = '\n' ∧ (text ++ '\n' :: '\n' :: rest).head? = some '\n') ↔ c = '\n' ∧ text = [] := by
  cases text with
  | nil => simp
  | cons => simpa using h

theorem closeBracket?_append_blankLine (depth : Nat) :
    closeBracket? depth (text ++ blankLine ++ rest) = closeBracket? depth text := by
  rw [List.append_assoc, blankLine_append]
  have hnewline : '\n' ≠ backtick := by decide
  fun_induction closeBracket? depth text with
  | case1 => simp [closeBracket?, hnewline]
  | case2 depth cs n ih =>
    have hle : codeLength (backtick :: cs) - 1 ≤ cs.length := by
      have := codeLength_le_length (backtick :: cs)
      rw [List.length_cons] at this
      omega
    rw [← List.drop_append_of_le_length hle] at ih
    rw [List.cons_append, closeBracket?, if_pos rfl, ← List.cons_append, codeLength_append_line]
    exact congrArg (Option.map _) ih
  | case3 depth cs hb ih =>
    rw [List.cons_append, closeBracket?, if_neg hb, if_pos rfl, ih]
  | case4 depth cs hle hb ho =>
    rw [List.cons_append, closeBracket?, if_neg hb, if_neg ho, if_pos rfl, if_pos hle]
  | case5 depth cs hgt hb ho ih =>
    rw [List.cons_append, closeBracket?, if_neg hb, if_neg ho, if_pos rfl, if_neg hgt, ih]
  | case6 depth c cs hb ho hc hblank =>
    obtain ⟨rfl, hblank⟩ := hblank
    obtain ⟨rest', rfl⟩ := List.head?_eq_some_iff.mp hblank
    simp [closeBracket?, hnewline]
  | case7 depth c cs hb ho hc hblank ih =>
    rw [List.cons_append, closeBracket?, if_neg hb, if_neg ho, if_neg hc]
    simp only [head?_append_blankLine cs rest c hblank, ih]
    split
    · rename_i hend
      rw [hend.2, closeBracket?, Option.map_none]
    · rfl

theorem linkTarget?_append_blankLine :
    linkTarget? (text ++ blankLine ++ rest) = linkTarget? text := by
  simp only [linkTarget?, closeBracket?_append_blankLine, Option.bind_eq_bind]
  cases hclose : closeBracket? 0 text with
  | none => rfl
  | some close =>
    have hlt : close < text.length := (List.getElem?_eq_some_iff.mp (closeBracket?_spec hclose)).1
    rw [List.append_assoc, blankLine_append, Option.bind_some, Option.bind_some,
      List.drop_append_of_le_length hlt]
    cases text.drop (close + 1) with
    | nil => rfl
    | cons c cs =>
      simp only [List.cons_append]
      by_cases hc : c = '('
      · subst hc
        simp [urlEnd?_append_line]
      · simp [hc]

/-! ### Tags -/

theorem prefix_of_prefix_append_line {start : List Char} (hstart : '\n' ∉ start)
    (h : start <+: text ++ '\n' :: rest) : start <+: text := by
  rcases List.prefix_or_prefix_of_prefix h (List.prefix_append text _) with hle | ⟨more, rfl⟩
  · exact hle
  · cases more with
    | nil => simp
    | cons c cs =>
      rw [List.prefix_append_right_inj, List.cons_prefix_cons] at h
      exact absurd (h.1 ▸ List.mem_append_right _ List.mem_cons_self) hstart

def commentStart : List Char := ['<', '!', '-', '-']

theorem html?_of_not_comment {c : Char} {cs : List Char} (h : ¬ commentStart <+: '<' :: c :: cs) :
    html? ('<' :: c :: cs) = if c = '/' ∨ c.isAlpha then (tagEnd? cs).map (2 + ·) else none := by
  refine html?.eq_2 c cs fun cs' hc hcs => h ?_
  rw [hc, hcs]
  exact ⟨cs', rfl⟩

theorem html?_of_head_ne {c : Char} {cs : List Char} (h : c ≠ '<') : html? (c :: cs) = none := by
  unfold html?
  split <;> simp_all

/-- A comment may go on behind a blank line, so none may start here. -/
theorem html?_append_line (h : ¬ commentStart <+: text) :
    html? (text ++ '\n' :: rest) = html? text := by
  have h' : ¬ commentStart <+: text ++ '\n' :: rest :=
    fun h' => h (prefix_of_prefix_append_line text rest (by decide) h')
  cases text with
  | nil => exact html?_of_head_ne (by decide)
  | cons c cs =>
    by_cases hc : c = '<'
    · subst hc
      cases cs with
      | nil => exact html?_of_not_comment h'
      | cons d ds =>
        rw [List.cons_append, List.cons_append] at h' ⊢
        rw [html?_of_not_comment h', html?_of_not_comment h, tagEnd?_append_line]
    · rw [List.cons_append, html?_of_head_ne hc, html?_of_head_ne hc]

end ProseCheck.Markdown
