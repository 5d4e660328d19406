import Mathlib.Tactic.Common
import ProseCheck.Proofs.Text.Offset

/-! # Characters by their code units

Each character takes one or two UTF-16 code units, so the length of a beginning of a text grows with
the number of its characters. An offset in code units points at the character that starts there or,
between the halves of a pair, at the character of the pair.
-/

namespace ProseCheck.Text

variable {text cs : List Char} {c : Char} {u j k : Nat}

/-! ### Lengths -/

theorem length16_append (xs ys : List Char) :
    length16 (xs ++ ys) = length16 xs + length16 ys := by
  induction xs with
  | nil => exact (Nat.zero_add _).symm
  | cons c cs ih => rw [List.cons_append, length16_cons, length16_cons, ih, Nat.add_assoc]

theorem length16_take_add (text : List Char) (j k : Nat) :
    length16 (text.take (j + k)) = length16 (text.take j) + length16 ((text.drop j).take k) := by
  rw [List.take_add, length16_append]

theorem length16_take_le (text : List Char) (k : Nat) : length16 (text.take k) ≤ length16 text := by
  have h := congrArg length16 (List.take_append_drop k text)
  rw [length16_append] at h
  omega

theorem length16_take_mono (text : List Char) (h : j ≤ k) :
    length16 (text.take j) ≤ length16 (text.take k) := by
  rw [← Nat.add_sub_of_le h, length16_take_add]
  exact Nat.le_add_right ..

theorem length16_take_lt (h : j < k) (hk : k ≤ text.length) :
    length16 (text.take j) < length16 (text.take k) := by
  obtain ⟨c, cs, ht⟩ : ∃ c cs, text.drop j = c :: cs :=
    ⟨_, _, List.drop_eq_getElem_cons (Nat.lt_of_lt_of_le h hk)⟩
  have hpos := units16_pos c
  obtain ⟨m, rfl⟩ := Nat.exists_eq_add_of_lt h
  rw [Nat.add_assoc, length16_take_add, ht, List.take_succ_cons, length16_cons]
  omega

/-! ### Pointing -/

/-- Of the beginnings of the text that take at most `u` code units, the longest has `k`
characters. -/
structure Points (text : List Char) (u k : Nat) : Prop where
  le_length : k ≤ text.length
  before : length16 (text.take k) ≤ u
  within : u ≤ length16 text
  greatest : ∀ j, j ≤ text.length → length16 (text.take j) ≤ u → j ≤ k

namespace Points

theorem unique (h : Points text u j) (h' : Points text u k) : j = k :=
  Nat.le_antisymm (h'.greatest j h.le_length h.before) (h.greatest k h'.le_length h'.before)

theorem lt_iff {v : Nat} (h : Points text u j) (h' : Points text v k) :
    j < k ↔ ∃ i ≤ text.length, u < length16 (text.take i) ∧ length16 (text.take i) ≤ v := by
  constructor
  · intro hlt
    refine ⟨k, h'.le_length, Nat.lt_of_not_le fun hle => ?_, h'.before⟩
    exact Nat.not_le_of_lt hlt (h.greatest k h'.le_length hle)
  · rintro ⟨i, hi, hu, hv⟩
    refine Nat.lt_of_lt_of_le (Nat.lt_of_not_le fun hle => ?_) (h'.greatest i hi hv)
    have := length16_take_mono text hle
    exact Nat.not_le_of_lt hu (Nat.le_trans this h.before)

theorem cons (c : Char) (h : Points cs u k) : Points (c :: cs) (units16 c + u) (k + 1) where
  le_length := Nat.succ_le_succ h.le_length
  before := Nat.add_le_add_left h.before _
  within := Nat.add_le_add_left h.within _
  greatest j hj hle := by
    cases j with
    | zero => exact Nat.zero_le _
    | succ j =>
      rw [List.take_succ_cons, length16_cons] at hle
      exact Nat.succ_le_succ
        (h.greatest j (Nat.le_of_succ_le_succ hj) (Nat.le_of_add_le_add_left hle))

end Points

theorem points_zero (text : List Char) : Points text 0 0 where
  le_length := Nat.zero_le _
  before := Nat.le_refl _
  within := Nat.zero_le _
  greatest j hj hle := by
    refine Nat.le_of_not_lt fun hpos => ?_
    exact Nat.not_lt_zero _ (Nat.lt_of_lt_of_le (length16_take_lt hpos hj) hle)

theorem points_first (cs : List Char) (h : u < units16 c) : Points (c :: cs) u 0 where
  le_length := Nat.zero_le _
  before := Nat.zero_le _
  within := Nat.le_trans (Nat.le_of_lt h) (Nat.le_add_right ..)
  greatest j hj hle := by
    refine Nat.le_of_not_lt fun hpos => ?_
    obtain ⟨m, rfl⟩ := Nat.exists_eq_add_one_of_ne_zero (Nat.ne_of_gt hpos)
    rw [List.take_succ_cons, length16_cons] at hle
    omega

theorem points_of_charOffset? (h : charOffset? text u = some k) : Points text u k := by
  fun_induction charOffset? text u generalizing k with
  | case1 text => exact Option.some.inj h ▸ points_zero text
  | case2 => cases h
  | case3 c cs u hlt => exact Option.some.inj h ▸ points_first cs hlt
  | case4 c cs u hge ih =>
    obtain ⟨k', hk', rfl⟩ := Option.map_eq_some_iff.mp h
    have hpoints := (ih hk').cons c
    rwa [Nat.add_sub_of_le (Nat.le_of_not_lt hge)] at hpoints

theorem exists_charOffset? (h : u ≤ length16 text) : ∃ k, charOffset? text u = some k := by
  fun_induction charOffset? text u with
  | case1 => exact ⟨0, rfl⟩
  | case2 u => exact absurd h (Nat.not_succ_le_zero u)
  | case3 => exact ⟨0, rfl⟩
  | case4 c cs u hge ih =>
    rw [length16_cons] at h
    obtain ⟨k, hk⟩ := ih (by omega)
    exact ⟨k + 1, by rw [hk, Option.map_some]⟩

theorem charOffset?_eq_some_iff : charOffset? text u = some k ↔ Points text u k := by
  constructor
  · exact points_of_charOffset?
  · intro h
    obtain ⟨j, hj⟩ := exists_charOffset? h.within
    rw [hj, (points_of_charOffset? hj).unique h]

theorem exists_points (h : u ≤ length16 text) : ∃ k, Points text u k := by
  obtain ⟨k, hk⟩ := exists_charOffset? h
  exact ⟨k, points_of_charOffset? hk⟩

/-- A character starts at the code unit `u`, or the text ends there. -/
def Starts16 (text : List Char) (u : Nat) : Prop := ∃ k ≤ text.length, length16 (text.take k) = u

instance (text : List Char) (u : Nat) : Decidable (Starts16 text u) :=
  inferInstanceAs (Decidable (∃ k ≤ text.length, _))

/-- The character that is pointed at starts at the offset if one starts there at all. -/
theorem Points.starts16_iff (h : Points text u k) :
    Starts16 text u ↔ length16 (text.take k) = u := by
  constructor
  · rintro ⟨j, hj, hu⟩
    have hle := length16_take_mono text (h.greatest j hj (Nat.le_of_eq hu))
    exact Nat.le_antisymm h.before (hu ▸ hle)
  · exact fun hu => ⟨k, h.le_length, hu⟩

/-- The offset after the first half of a pair points at the character of the pair. -/
theorem points_half (hc : text[k]? = some c) (hpair : units16 c = 2) :
    Points text (length16 (text.take k) + 1) k := by
  obtain ⟨hk, -⟩ := List.getElem?_eq_some_iff.mp hc
  have hnext : length16 (text.take (k + 1)) = length16 (text.take k) + 2 := by
    rw [List.take_add_one, hc, length16_append, Option.toList_some, length16_cons, hpair]
    rfl
  constructor
  · exact Nat.le_of_lt hk
  · exact Nat.le_succ _
  · have := length16_take_le text (k + 1)
    omega
  · intro j hj hle
    refine Nat.le_of_not_lt fun hlt => ?_
    have := length16_take_mono text (show k + 1 ≤ j from hlt)
    omega

/-- An offset points into a text exactly if it is not beyond the end of the text, and then at the
character behind the longest beginning that takes at most as many code units. So a later offset
never points further back, the length of a beginning points just behind it, and an offset between
the halves of a pair points at the character of the pair. -/
theorem charOffset?_longest (text : List Char) :
    (∀ u, (∃ k, charOffset? text u = some k) ↔ u ≤ length16 text) ∧
    (∀ u k, charOffset? text u = some k ↔ Points text u k) ∧
    (∀ u v j k, u ≤ v → charOffset? text u = some j → charOffset? text v = some k → j ≤ k) ∧
    (∀ k ≤ text.length, charOffset? text (length16 (text.take k)) = some k) ∧
    ∀ k c, text[k]? = some c → units16 c = 2 →
      charOffset? text (length16 (text.take k) + 1) = some k := by
  refine ⟨fun u => ?_, fun u k => charOffset?_eq_some_iff, ?_, ?_, ?_⟩
  · constructor
    · rintro ⟨k, hk⟩
      exact (points_of_charOffset? hk).within
    · exact exists_charOffset?
  · intro u v j k hle hj hk
    have hfirst := points_of_charOffset? hj
    exact (points_of_charOffset? hk).greatest j hfirst.le_length (Nat.le_trans hfirst.before hle)
  · exact fun k hk => charOffset?_length16_take hk
  · exact fun k c hc hpair => charOffset?_eq_some_iff.mpr (points_half hc hpair)

/-- The pair takes the offsets 1 and 2, of which the second lies between its halves. -/
theorem charOffset?_longest_pair :
    let text := ['a', '😀', 'b']
    charOffset? text 2 = some 1 ∧ charOffset? text 3 = some 2 ∧ charOffset? text 5 = none := by
  intro text
  obtain ⟨hsome, -, -, hprefix, hhalf⟩ := charOffset?_longest text
  refine ⟨hhalf 1 '😀' rfl rfl, hprefix 2 (by decide), ?_⟩
  cases h : charOffset? text 5 with
  | none => rfl
  | some k => exact absurd ((hsome 5).mp ⟨k, h⟩) (by decide)

end ProseCheck.Text
