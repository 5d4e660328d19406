import Mathlib.Tactic.Common
import ProseCheck.Proofs.Text.Bytes
import ProseCheck.Proofs.Text.Offset

/-! # Characters with their bytes

A text in memory is walked by its characters, each with the byte it starts at. The end of the text
is not the start of a character, so whoever looks for it there has to count. Walks of this sort find
what the characters alone tell.
-/

namespace ProseCheck.Text

variable {text piece front covered back : List Char} {s : Span} {k byte : Nat}

/-- The characters of a text, each with the byte it starts at, where the text starts at `first`. -/
def indexed (first : Nat) : List Char → List (Nat × Char)
  | [] => []
  | c :: cs => (first, c) :: indexed (first + c.utf8Size) cs

theorem getElem?_indexed (first : Nat) (text : List Char) (k : Nat) :
    (indexed first text)[k]? = text[k]?.map fun c => (first + length8 (text.take k), c) := by
  induction text generalizing first k with
  | nil => rfl
  | cons c cs ih =>
    cases k with
    | zero => rfl
    | succ k =>
      rw [indexed, List.getElem?_cons_succ, ih, List.getElem?_cons_succ, List.take_succ_cons,
        length8_cons, Nat.add_assoc]

theorem getElem?_indexed_of_lt (first : Nat) (h : k < text.length) :
    (indexed first text)[k]? = some (first + length8 (text.take k), text[k]) := by
  rw [getElem?_indexed, List.getElem?_eq_getElem h, Option.map_some]

theorem getElem?_indexed_of_le (first : Nat) (h : text.length ≤ k) :
    (indexed first text)[k]? = none := by
  rw [getElem?_indexed, List.getElem?_eq_none h, Option.map_none]

/-! ### Offsets -/

def byteOffsetIndexed? (text : List Char) (k : Nat) : Option Nat :=
  if k = 0 then some 0
  else
    match (indexed 0 text)[k]? with
    | some (byte, _) => some byte
    | none => if text.length = k then some (length8 text) else none

theorem byteOffsetIndexed?_eq (text : List Char) (k : Nat) :
    byteOffsetIndexed? text k = byteOffset? text k := by
  rw [byteOffset?_eq, byteOffsetIndexed?]
  split
  case isTrue h => rw [h, if_pos (Nat.zero_le _), List.take_zero, length8_nil]
  case isFalse h =>
    rcases Nat.lt_trichotomy k text.length with hlt | rfl | hgt
    · rw [getElem?_indexed_of_lt 0 hlt, if_pos (Nat.le_of_lt hlt), Nat.zero_add]
    · rw [getElem?_indexed_of_le 0 (Nat.le_refl _), if_pos (Nat.le_refl _), List.take_length]
      exact if_pos rfl
    · rw [getElem?_indexed_of_le 0 (Nat.le_of_lt hgt), if_neg (Nat.not_le_of_lt hgt)]
      exact if_neg (Nat.ne_of_lt hgt)

theorem length8_eq_utf8ByteSize (text : List Char) :
    length8 text = (String.ofList text).utf8ByteSize := by
  induction text with
  | nil => rfl
  | cons c cs ih =>
    rw [length8_cons, String.ofList_cons, String.utf8ByteSize_append,
      String.utf8ByteSize_singleton, ih]

theorem byteOffset?_eq_some_iff : byteOffset? text k = some byte ↔
    k ≤ text.length ∧ byte = (String.ofList (text.take k)).utf8ByteSize := by
  rw [byteOffset?_eq, Option.ite_none_right_eq_some, Option.some.injEq, length8_eq_utf8ByteSize,
    eq_comm (a := byte)]

/-! ### Slices -/

/-- `slice?` by way of indexed characters, where each cut and each number may go wrong. -/
def sliceIndexed? (text : List Char) (s : Span) : Option (Option (List Char)) :=
  if s.finish < s.start then some none
  else
    match byteOffsetIndexed? text s.start with
    | none => some none
    | some first => do
      let (_, rest) ← splitAtByte? text first
      let size ← subOffset? s.finish s.start
      match (indexed 0 rest)[size]? with
      | some (further, _) =>
        let last ← addOffset? first further
        let (front, _) ← splitAtByte? text last
        let (_, piece) ← splitAtByte? front first
        some (some piece)
      | none => some (if rest.length = size then some rest else none)

theorem sliceIndexed?_eq (h : length8 text ≤ maxOffset) (s : Span) :
    sliceIndexed? text s = some (slice? text s) := by
  unfold sliceIndexed? slice?
  by_cases hle : s.start ≤ s.finish
  case neg => rw [if_pos (by omega), if_neg fun h' => hle h'.1]
  rw [if_neg (by omega), byteOffsetIndexed?_eq, byteOffset?_eq]
  by_cases hstart : s.start ≤ text.length
  case neg => rw [if_neg hstart, if_neg fun h' => hstart (Nat.le_trans hle h'.2)]
  simp only [if_pos hstart, splitAtByte?_take, subOffset?_of_le hle, Option.bind_eq_bind,
    Option.bind_some, List.length_drop]
  rcases Nat.lt_trichotomy s.finish text.length with hlt | heq | hgt
  · have hsum := Nat.le_trans (length8_take_le text s.finish) h
    have hlast := length8_take_add text s.start (s.finish - s.start)
    rw [Nat.add_sub_of_le hle] at hlast
    rw [getElem?_indexed_of_lt 0 (by rw [List.length_drop]; omega), Nat.zero_add]
    simp only [addOffset?_of_le (hlast ▸ hsum), ← hlast, Option.bind_some, splitAtByte?_take,
      splitAtByte?_take_take hle]
    rw [if_pos ⟨hle, Nat.le_of_lt hlt⟩, Span.length]
  · rw [getElem?_indexed_of_le 0 (by rw [List.length_drop]; omega)]
    simp only
    rw [if_pos (by omega), if_pos ⟨hle, Nat.le_of_eq heq⟩, Span.length, heq,
      List.take_of_length_le (Nat.le_of_eq List.length_drop)]
  · rw [getElem?_indexed_of_le 0 (by rw [List.length_drop]; omega)]
    simp only
    rw [if_neg (by omega), if_neg fun h' => Nat.not_le_of_lt hgt h'.2]

theorem slice?_eq_some_iff_parts {a b : Nat} : slice? text ⟨a, b⟩ = some piece ↔
    a ≤ b ∧ b ≤ text.length ∧
      ∃ front back, front ++ piece ++ back = text ∧ front.length = a ∧ piece.length = b - a := by
  rw [slice?_eq_some_iff]
  refine and_congr_right fun hle => and_congr_right fun hlen => ?_
  simp only [Span.length] at hle hlen ⊢
  constructor
  · rintro rfl
    refine ⟨text.take a, text.drop b, ?_, List.length_take_of_le (by omega), ?_⟩
    · rw [← List.take_add, Nat.add_sub_of_le hle, List.take_append_drop]
    · rw [List.length_take_of_le]
      rw [List.length_drop]
      omega
  · rintro ⟨front, back, rfl, rfl, hpiece⟩
    rw [List.append_assoc, List.drop_left, ← hpiece, List.take_left]

/-! ### Beginnings -/

/-- `truncate` by way of indexed characters, where the cut may go wrong. -/
def truncateIndexed? (text : List Char) (limit : Nat) : Option (List Char × Bool) :=
  match (indexed 0 text)[limit]? with
  | some (byte, _) => do
    let (kept, _) ← splitAtByte? text byte
    some (kept, true)
  | none => some (text, false)

theorem truncateIndexed?_eq (text : List Char) (limit : Nat) :
    truncateIndexed? text limit = some (truncate text limit) := by
  rw [truncateIndexed?, truncate]
  rcases Nat.lt_or_ge limit text.length with hlt | hge
  · rw [getElem?_indexed_of_lt 0 hlt, Nat.zero_add]
    simp only [splitAtByte?_take, Option.bind_eq_bind, Option.bind_some, hlt, decide_true]
  · rw [getElem?_indexed_of_le 0 hge, List.take_of_length_le hge,
      decide_eq_false (Nat.not_lt_of_le hge)]

theorem truncate_eq_iff {limit : Nat} {cut : Bool} : truncate text limit = (front, cut) ↔
    front <+: text ∧ front.length = min limit text.length ∧ (cut = true ↔ limit < text.length) := by
  rw [truncate, Prod.mk.injEq]
  constructor
  · rintro ⟨rfl, rfl⟩
    exact ⟨List.take_prefix .., List.length_take, decide_eq_true_iff⟩
  · rintro ⟨hfront, hlength, hcut⟩
    rw [List.prefix_iff_eq_take.mp hfront, hlength, Bool.eq_iff_iff, decide_eq_true_iff, hcut]
    exact ⟨List.take_eq_take_min .., Iff.rfl⟩

/-! ### Stretches of bytes -/

/-- Two parts of a text are told by the size of the first one. -/
theorem append_inj_of_length8 {front' back' : List Char} (h : front ++ back = front' ++ back')
    (hsize : length8 front = length8 front') : front = front' ∧ back = back' := by
  have hcut := splitAtByte?_append front back
  rw [h, hsize, splitAtByte?_append, Option.some.injEq, Prod.mk.injEq] at hcut
  exact ⟨hcut.1.symm, hcut.2.symm⟩

/-- A span of bytes is that of the middle one of three parts of a text. -/
structure Covers (s : Span) (text front covered back : List Char) : Prop where
  text_eq : front ++ covered ++ back = text
  start_eq : s.start = length8 front
  finish_eq : s.finish = length8 (front ++ covered)

namespace Covers

variable {front' covered' back' : List Char}

theorem unique (h : Covers s text front covered back) (h' : Covers s text front' covered' back') :
    front = front' ∧ covered = covered' ∧ back = back' := by
  obtain ⟨hfinish, rfl⟩ := append_inj_of_length8 (h.text_eq.trans h'.text_eq.symm)
    (h.finish_eq.symm.trans h'.finish_eq)
  obtain ⟨rfl, rfl⟩ := append_inj_of_length8 hfinish (h.start_eq.symm.trans h'.start_eq)
  exact ⟨rfl, rfl, rfl⟩

theorem extract_eq (h : Covers s text front covered back) :
    (String.ofList text).toUTF8.extract s.start s.finish = (String.ofList covered).toUTF8 := by
  rw [h.start_eq, h.finish_eq, ← h.text_eq, length8_append, List.append_assoc]
  simp only [length8_eq_utf8ByteSize, ← String.size_toByteArray, String.ofList_append,
    String.toUTF8_eq_toByteArray, String.toByteArray_append]
  exact (ByteArray.extract_append_size_add (i := 0)).trans (ByteArray.extract_append_eq_left rfl)

end Covers

end ProseCheck.Text
