import Mathlib.Data.Option.Basic
import Mathlib.Tactic.Common
import ProseCheck.Markdown.PositionMap

/-! # Position maps in order

A map whose positions increase can be searched by halving, and the spans of the markdown that it
gives hold the positions of the characters asked for and no others.
-/

namespace ProseCheck.Markdown

namespace PositionMap

variable {m : PositionMap} {i j origin base size : Nat}

def Sorted (m : PositionMap) : Prop := m.origins.Pairwise (· < ·)

theorem lt_length_of_origin? (h : m.origin? i = some origin) : i < m.length :=
  (List.getElem?_eq_some_iff.mp h).1

theorem origin?_of_lt (h : i < m.length) : ∃ origin, m.origin? i = some origin :=
  ⟨m.origins.get ⟨i, h⟩, List.getElem?_eq_getElem h⟩

theorem Sorted.lt_iff (hm : m.Sorted) {a b : Nat} (ha : m.origin? i = some a)
    (hb : m.origin? j = some b) : a < b ↔ i < j := by
  obtain ⟨hi, rfl⟩ := List.getElem?_eq_some_iff.mp ha
  obtain ⟨hj, rfl⟩ := List.getElem?_eq_some_iff.mp hb
  have key := List.pairwise_iff_getElem.mp hm
  constructor
  · intro h
    rcases Nat.lt_trichotomy i j with hlt | rfl | hgt
    · exact hlt
    · omega
    · have := key j i hj hi hgt
      omega
  · exact key i j hi hj

theorem Sorted.eq_iff (hm : m.Sorted) {a b : Nat} (ha : m.origin? i = some a)
    (hb : m.origin? j = some b) : a = b ↔ i = j := by
  have h₁ := hm.lt_iff ha hb
  have h₂ := hm.lt_iff hb ha
  omega

theorem Sorted.le_iff (hm : m.Sorted) {a b : Nat} (ha : m.origin? i = some a)
    (hb : m.origin? j = some b) : a ≤ b ↔ i ≤ j := by
  have := hm.lt_iff hb ha
  omega

/-! ### Searching -/

/-- An index in the stretch that is searched is the one that is left. -/
theorem Sorted.narrow_eq (hm : m.Sorted) (hj : m.origin? j = some origin) (hbase : base ≤ j)
    (hsize : j < base + size) (hlen : base + size ≤ m.length) : m.narrow origin base size = j := by
  fun_induction narrow m origin base size with
  | case1 base size hle => omega
  | case2 base size hgt half upper ih =>
    have hmid : base + half < m.length := by omega
    obtain ⟨middle, hmiddle⟩ := origin?_of_lt hmid
    have hupper : upper = true ↔ base + half ≤ j := by
      rw [← hm.le_iff hmiddle hj]
      simp [upper, hmiddle]
    refine ih ?_ ?_ ?_ <;> split <;> rename_i h <;> rw [hupper] at h <;> omega

theorem Sorted.stripped?_eq_some_iff (hm : m.Sorted) :
    m.stripped? origin = some j ↔ m.origin? j = some origin := by
  simp only [stripped?]
  constructor
  · intro h
    split at h
    · cases h
      assumption
    · cases h
  · intro h
    have hj := lt_length_of_origin? h
    rw [hm.narrow_eq h (Nat.zero_le _) (by omega) (by omega), if_pos h]

/-! ### Spans -/

theorem toMarkdown_of_origin? (h : m.origin? i = some origin) : m.toMarkdown i = origin := by
  simp [toMarkdown, h]

/-- A span that lies in the stripped text goes from the position of its first character to just
behind that of its last one. -/
theorem toMarkdownSpan?_spec {offset length : Nat} {span : Span}
    (h : m.toMarkdownSpan? offset length = some span) (hlen : offset + length ≤ m.length) :
    0 < length ∧ span.finish ≤ maxOffset ∧ m.origin? offset = some span.start ∧
      ∃ last, m.origin? (offset + length - 1) = some last ∧ span.finish = last + 1 := by
  simp only [toMarkdownSpan?, addOffset?, Option.bind_eq_bind, Option.bind_eq_some_iff,
    Option.guard_eq_some', Option.ite_none_right_eq_some, Option.some.injEq, Option.pure_def] at h
  obtain ⟨-, hpos, last, ⟨-, rfl⟩, finish, ⟨hle, rfl⟩, -, -, rfl⟩ := h
  obtain ⟨first, hfirst⟩ := origin?_of_lt (m := m) (i := offset) (by omega)
  obtain ⟨last, hlast⟩ := origin?_of_lt (m := m) (i := offset + length - 1) (by omega)
  rw [Nat.add_sub_assoc hpos] at hlast ⊢
  rw [toMarkdown_of_origin? hlast] at hle ⊢
  rw [toMarkdown_of_origin? hfirst]
  exact ⟨hpos, hle, hfirst, last, hlast, rfl⟩

end PositionMap
end ProseCheck.Markdown
