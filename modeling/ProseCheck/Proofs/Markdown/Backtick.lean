import Mathlib.Data.List.Basic
import Mathlib.Tactic.Common
import ProseCheck.Markdown.Backtick

/-! # Runs of backticks

A run is as long as it can be. A code span starts with a run, ends with a run of the same length,
and no further backtick follows it.
-/

namespace ProseCheck.Markdown

variable {text : List Char} {n : Nat}

@[simp] theorem runLength_nil : runLength [] = 0 := rfl

theorem runLength_cons (c : Char) (cs : List Char) :
    runLength (c :: cs) = if c = backtick then runLength cs + 1 else 0 := by
  by_cases h : c = backtick <;> simp [runLength, h]

theorem runLength_le_length (text : List Char) : runLength text ≤ text.length :=
  (List.takeWhile_prefix _).length_le

theorem getElem?_of_lt_runLength {k : Nat} (h : k < runLength text) :
    text[k]? = some backtick := by
  induction text generalizing k with
  | nil => simp at h
  | cons c cs ih =>
    rw [runLength_cons] at h
    split at h
    · cases k with
      | zero => simp_all
      | succ k => simpa using ih (by omega)
    · omega

theorem getElem?_runLength_ne (text : List Char) : text[runLength text]? ≠ some backtick := by
  induction text with
  | nil => simp
  | cons c cs ih =>
    rw [runLength_cons]
    split
    · simpa using ih
    · simpa

theorem runLength_pos_iff : 0 < runLength text ↔ text[0]? = some backtick := by
  cases text with
  | nil => simp
  | cons c cs => by_cases h : c = backtick <;> simp [runLength_cons, h]

theorem fenceLength_pos : 0 < fenceLength := by decide

theorem startsFence_iff : startsFence text = true ↔ fenceLength ≤ runLength text :=
  decide_eq_true_iff

/-! ### Code spans -/

theorem closingRun?_spec {run seen : Nat} (h : closingRun? run seen text = some n) :
    n ≤ text.length ∧ text[n]? ≠ some backtick ∧ (0 < run → 0 < n → text[n - 1]? = some backtick) ∧
      (n = 0 → seen = run) := by
  induction text generalizing seen n with
  | nil =>
    simp only [closingRun?, Option.ite_none_right_eq_some, Option.some.injEq] at h
    simp [← h.2, h.1]
  | cons c cs ih =>
    rw [closingRun?] at h
    split at h
    · rename_i hc
      obtain ⟨m, hm, rfl⟩ := Option.map_eq_some_iff.mp h
      obtain ⟨hle, hne, hlast, -⟩ := ih hm
      refine ⟨by simpa using hle, by simpa using hne, fun hrun _ => ?_, by simp⟩
      rcases Nat.eq_zero_or_pos m with rfl | hpos
      · simp [hc]
      · rw [Nat.add_sub_cancel, List.getElem?_cons, if_neg (Nat.ne_of_gt hpos), hlast hrun hpos]
    · rename_i hc
      split at h
      · rename_i hs
        obtain rfl : n = 0 := by simpa using h.symm
        simpa [hc] using hs
      · split at h
        · simp at h
        · obtain ⟨m, hm, rfl⟩ := Option.map_eq_some_iff.mp h
          obtain ⟨hle, hne, hlast, hzero⟩ := ih hm
          refine ⟨by simpa using hle, by simpa using hne, fun hrun _ => ?_, by simp⟩
          rcases Nat.eq_zero_or_pos m with rfl | hpos
          · exact absurd (hzero rfl) (by omega)
          · rw [Nat.add_sub_cancel, List.getElem?_cons, if_neg (Nat.ne_of_gt hpos), hlast hrun hpos]

theorem codeSpan?_spec (h : codeSpan? text = some n) :
    0 < runLength text ∧ runLength text < n ∧ n ≤ text.length ∧
      text[n - 1]? = some backtick ∧ text[n]? ≠ some backtick := by
  simp only [codeSpan?] at h
  split at h
  · simp at h
  · rename_i hrun
    obtain ⟨m, hm, rfl⟩ := Option.map_eq_some_iff.mp h
    obtain ⟨hle, hne, hlast, hzero⟩ := closingRun?_spec hm
    have hpos : 0 < m := Nat.pos_of_ne_zero fun h0 => hrun (hzero h0).symm
    have hl := hlast (Nat.pos_of_ne_zero hrun) hpos
    rw [List.getElem?_drop] at hl hne
    rw [List.length_drop] at hle
    exact ⟨Nat.pos_of_ne_zero hrun, by omega, by omega,
      by rwa [Nat.add_sub_assoc hpos], hne⟩

theorem codeLength_pos (h : text[0]? = some backtick) : 0 < codeLength text := by
  unfold codeLength
  cases hs : codeSpan? text with
  | none => simpa using runLength_pos_iff.mpr h
  | some n =>
    have := codeSpan?_spec hs
    simp only [Option.getD_some]
    omega

end ProseCheck.Markdown
