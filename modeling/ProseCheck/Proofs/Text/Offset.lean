import Mathlib.Tactic.Common
import ProseCheck.Text.Offset

/-! # Slices and UTF-16 offsets

Slices of slices are slices, and the UTF-16 length of a beginning of a text leads back to the number
of its characters.
-/

namespace ProseCheck

theorem Span.contains_iff {s : Span} {i : Nat} :
    s.contains i = true ↔ s.start ≤ i ∧ i < s.finish := by
  simp [Span.contains]

namespace Text

variable {text piece : List Char} {s : Span}

/-! ### Slices -/

theorem slice?_eq_some_iff : slice? text s = some piece ↔
    s.start ≤ s.finish ∧ s.finish ≤ text.length ∧ (text.drop s.start).take s.length = piece := by
  simp only [slice?, Option.ite_none_right_eq_some, Option.some.injEq, and_assoc]

theorem slice?_add {offset n : Nat} (h : offset + n ≤ text.length) :
    slice? text ⟨offset, offset + n⟩ = some ((text.drop offset).take n) := by
  rw [slice?, if_pos ⟨Nat.le_add_right .., h⟩, Span.length, Nat.add_sub_cancel_left]

theorem length_of_slice? (h : slice? text s = some piece) : piece.length = s.length := by
  obtain ⟨hle, hlen, rfl⟩ := slice?_eq_some_iff.mp h
  rw [List.length_take_of_le]
  rw [List.length_drop, Span.length]
  omega

theorem slice?_shift {inner : Span} {part : List Char} (h : slice? text s = some piece)
    (hpart : slice? piece inner = some part) : slice? text (inner.shift s.start) = some part := by
  obtain ⟨hle, hlen, rfl⟩ := slice?_eq_some_iff.mp h
  obtain ⟨hle', hlen', rfl⟩ := slice?_eq_some_iff.mp hpart
  rw [length_of_slice? h, Span.length] at hlen'
  refine slice?_eq_some_iff.mpr ⟨Nat.add_le_add_right hle' _, ?_, ?_⟩
  · simp only [Span.shift]
    omega
  · simp only [Span.shift, Span.length]
    rw [List.drop_take, List.drop_drop, List.take_take, Nat.min_eq_left (by omega),
      Nat.add_comm s.start, Nat.add_sub_add_right]

theorem slice?_of_take {limit : Nat} (h : slice? (text.take limit) s = some piece) :
    slice? text s = some piece := by
  have htake : slice? text ⟨0, min limit text.length⟩ = some (text.take limit) := by
    refine slice?_eq_some_iff.mpr ⟨Nat.zero_le _, Nat.min_le_right .., ?_⟩
    rw [Span.length, Nat.sub_zero, List.drop_zero, List.take_eq_take_iff, Nat.min_assoc,
      Nat.min_self]
  exact slice?_shift htake h

/-! ### UTF-16 -/

theorem units16_pos (c : Char) : 0 < units16 c := by
  unfold units16
  split <;> decide

theorem units16_le (c : Char) : units16 c ≤ 2 := by
  unfold units16
  split <;> omega

@[simp] theorem length16_cons (c : Char) (cs : List Char) :
    length16 (c :: cs) = units16 c + length16 cs := rfl

theorem length16_le (text : List Char) : length16 text ≤ 2 * text.length := by
  induction text with
  | nil => exact Nat.zero_le _
  | cons c cs ih =>
    have := units16_le c
    rw [length16_cons, List.length_cons]
    omega

theorem charOffset?_units16_add (c : Char) (cs : List Char) (u : Nat) :
    charOffset? (c :: cs) (units16 c + u) = (charOffset? cs u).map (· + 1) := by
  obtain ⟨n, hn⟩ := Nat.exists_eq_add_one_of_ne_zero (Nat.ne_of_gt (units16_pos c))
  rw [hn, Nat.add_right_comm, charOffset?, if_neg (by omega), Nat.add_right_comm, hn,
    Nat.add_sub_cancel_left]

theorem charOffset?_le {u k : Nat} (h : charOffset? text u = some k) : k ≤ text.length := by
  fun_induction charOffset? text u generalizing k with
  | case1 => exact Option.some.inj h ▸ Nat.zero_le _
  | case2 => cases h
  | case3 c cs u hlt => exact Option.some.inj h ▸ Nat.zero_le _
  | case4 c cs u hle ih =>
    obtain ⟨k', hk', rfl⟩ := Option.map_eq_some_iff.mp h
    exact Nat.succ_le_succ (ih hk')

/-- The UTF-16 length of the first `k` characters points at the character `k`. -/
theorem charOffset?_length16_take {k : Nat} (hk : k ≤ text.length) :
    charOffset? text (length16 (text.take k)) = some k := by
  induction text generalizing k with
  | nil =>
    obtain rfl : k = 0 := Nat.le_zero.mp hk
    rfl
  | cons c cs ih =>
    cases k with
    | zero => rfl
    | succ k =>
      rw [List.take_succ_cons, length16_cons, charOffset?_units16_add,
        ih (Nat.le_of_succ_le_succ hk)]
      rfl

def span16 (text : List Char) (s : Span) : Span :=
  ⟨length16 (text.take s.start), length16 (text.take s.finish)⟩

end Text
end ProseCheck
