import Mathlib.Tactic.Common
import ProseCheck.Text.Offset

/-! # Texts as bytes

A text lies in memory as UTF-8 and is cut there at a byte, which has to be the first of a character
or the end. The steps below give nothing where a cut or a number would go wrong.
-/

namespace ProseCheck

def subOffset? (a b : Nat) : Option Nat := if b ≤ a then some (a - b) else none

theorem addOffset?_of_le {a b : Nat} (h : a + b ≤ maxOffset) : addOffset? a b = some (a + b) :=
  if_pos h

theorem subOffset?_of_le {a b : Nat} (h : b ≤ a) : subOffset? a b = some (a - b) := if_pos h

namespace Text

/-- The most bytes that anything in memory takes. -/
def maxBytes : Nat := 9223372036854775807

theorem maxBytes_add_maxBytes_le : maxBytes + maxBytes ≤ maxOffset := by decide

/-- The text can lie in memory. -/
def Storable (text : List Char) : Prop := length8 text ≤ maxBytes

instance (text : List Char) : Decidable (Storable text) := inferInstanceAs (Decidable (_ ≤ _))

/-- The two sides of a cut at a byte, if a character starts or the text ends there. -/
def splitAtByte? : List Char → Nat → Option (List Char × List Char)
  | text, 0 => some ([], text)
  | [], _ + 1 => none
  | c :: cs, n + 1 =>
    if c.utf8Size ≤ n + 1 then
      (splitAtByte? cs (n + 1 - c.utf8Size)).map fun (front, back) => (c :: front, back)
    else none

@[simp] theorem length8_nil : length8 [] = 0 := rfl

@[simp] theorem length8_cons (c : Char) (cs : List Char) :
    length8 (c :: cs) = c.utf8Size + length8 cs := rfl

@[simp] theorem length8_append (xs ys : List Char) :
    length8 (xs ++ ys) = length8 xs + length8 ys := by
  induction xs with
  | nil => simp
  | cons c cs ih => simp [ih, Nat.add_assoc]

theorem length8_replicate (n : Nat) (c : Char) :
    length8 (List.replicate n c) = n * c.utf8Size := by
  induction n with
  | zero => simp
  | succ n ih => rw [List.replicate_succ, length8_cons, ih, Nat.succ_mul, Nat.add_comm]

theorem length_le_length8 (text : List Char) : text.length ≤ length8 text := by
  induction text with
  | nil => exact Nat.le_refl _
  | cons c cs ih =>
    have := c.utf8Size_pos
    rw [List.length_cons, length8_cons]
    omega

theorem length8_take_le (text : List Char) (k : Nat) : length8 (text.take k) ≤ length8 text := by
  have h := congrArg length8 (List.take_append_drop k text)
  rw [length8_append] at h
  omega

theorem length8_take_add (text : List Char) (j k : Nat) :
    length8 (text.take (j + k)) = length8 (text.take j) + length8 ((text.drop j).take k) := by
  rw [List.take_add, length8_append]

theorem byteOffset?_eq (text : List Char) (k : Nat) :
    byteOffset? text k = if k ≤ text.length then some (length8 (text.take k)) else none := by
  fun_induction byteOffset? text k with
  | case1 => simp
  | case2 => simp
  | case3 c cs k ih =>
    rw [ih, List.length_cons, List.take_succ_cons, length8_cons]
    by_cases h : k ≤ cs.length
    · rw [if_pos h, if_pos (Nat.succ_le_succ h), Option.map_some]
    · rw [if_neg h, if_neg fun h' => h (Nat.le_of_succ_le_succ h'), Option.map_none]

/-- A cut goes between two parts at the size of the first one. -/
theorem splitAtByte?_append (front back : List Char) :
    splitAtByte? (front ++ back) (length8 front) = some (front, back) := by
  induction front with
  | nil => cases back <;> rfl
  | cons c cs ih =>
    obtain ⟨n, hn⟩ := Nat.exists_eq_add_one_of_ne_zero
      (Nat.ne_of_gt (Nat.lt_add_right (length8 cs) c.utf8Size_pos))
    rw [length8_cons, List.cons_append, hn, splitAtByte?, ← hn, if_pos (Nat.le_add_right ..),
      Nat.add_sub_cancel_left, ih, Option.map_some]

theorem splitAtByte?_take (text : List Char) (k : Nat) :
    splitAtByte? text (length8 (text.take k)) = some (text.take k, text.drop k) := by
  have h := splitAtByte?_append (text.take k) (text.drop k)
  rwa [List.take_append_drop] at h

theorem splitAtByte?_take_take {text : List Char} {j k : Nat} (h : j ≤ k) :
    splitAtByte? (text.take k) (length8 (text.take j)) =
      some (text.take j, (text.drop j).take (k - j)) := by
  have hcut := splitAtByte?_take (text.take k) j
  rwa [List.take_take, Nat.min_eq_left h, List.drop_take] at hcut

end Text
end ProseCheck
