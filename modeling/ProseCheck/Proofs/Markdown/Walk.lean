import Mathlib.Logic.Relation
import ProseCheck.Proofs.Markdown.Agreement

/-! # The way from cursor to cursor

The next cursor is told by the one before it, so of two cursors that the reading of a document comes
by one leads to the other. The constructs stand side by side, and every position lies in one.
-/

namespace ProseCheck.Markdown

variable {markdown : List Char} {cur cur' next : Cursor} {c : Char} {cs : List Char} {i : Nat}

/-- The reading takes one construct from the first cursor to the second. -/
def Cursor.Next (markdown : List Char) (cur next : Cursor) : Prop :=
  ∃ c cs, markdown.drop cur.offset = c :: cs ∧ next = cur.after (cur.construct c cs) (c :: cs)

abbrev Cursor.Reaches (markdown : List Char) : Cursor → Cursor → Prop :=
  Relation.ReflTransGen (Cursor.Next markdown)

namespace Cursor

theorem next_rightUnique (markdown : List Char) : Relator.RightUnique (Cursor.Next markdown) := by
  rintro cur next next' ⟨c, cs, ht, rfl⟩ ⟨c', cs', ht', rfl⟩
  cases ht.symm.trans ht'
  rfl

theorem Next.offset_le (h : Next markdown cur next) : cur.offset ≤ next.offset := by
  obtain ⟨c, cs, -, rfl⟩ := h
  rw [offset_after]
  exact Nat.le_add_right _ _

theorem Reaches.offset_le (h : Reaches markdown cur cur') : cur.offset ≤ cur'.offset := by
  induction h with
  | refl => exact Nat.le_refl _
  | tail _ hnext ih => exact Nat.le_trans ih hnext.offset_le

end Cursor

open Cursor

theorem visits_iff_reaches : Visits markdown cur ↔ Reaches markdown .atStart cur := by
  constructor
  · intro h
    induction h with
    | start => exact .refl
    | next _ ht ih => exact ih.tail ⟨_, _, ht, rfl⟩
  · intro h
    induction h with
    | refl => exact .start
    | tail _ hnext ih =>
      obtain ⟨c, cs, ht, rfl⟩ := hnext
      exact ih.next ht

namespace Visits

theorem reaches (h : Visits markdown cur) (hr : Reaches markdown cur cur') : Visits markdown cur' :=
  visits_iff_reaches.mpr ((visits_iff_reaches.mp h).trans hr)

theorem offset_lt (h : Visits markdown cur) (hnext : Next markdown cur next) :
    cur.offset < next.offset := by
  obtain ⟨c, cs, ht, rfl⟩ := hnext
  have hpos := (h.fits.width_bounds ht (Construct.stands_construct ..)).1
  rw [offset_after]
  omega

theorem eq_or_behind (ht : markdown.drop cur.offset = c :: cs) (hr : Reaches markdown cur cur') :
    cur' = cur ∨ Reaches markdown (cur.after (cur.construct c cs) (c :: cs)) cur' := by
  rcases Relation.ReflTransGen.cases_head hr with rfl | ⟨next, ⟨c', cs', ht', rfl⟩, hrest⟩
  · exact Or.inl rfl
  · cases ht.symm.trans ht'
    exact Or.inr hrest

theorem reaches_of_le (h : Visits markdown cur) (h' : Visits markdown cur')
    (hle : cur.offset ≤ cur'.offset) : Reaches markdown cur cur' := by
  have hr := visits_iff_reaches.mp h
  have hr' := visits_iff_reaches.mp h'
  rcases Relation.ReflTransGen.total_of_right_unique (next_rightUnique markdown) hr hr' with hr | hr
  · exact hr
  · rcases Relation.ReflTransGen.cases_head hr with rfl | ⟨next, hnext, hrest⟩
    · exact .refl
    · have hlt := h'.offset_lt hnext
      have hback := Reaches.offset_le hrest
      omega

/-- No cursor is in the middle of a construct. -/
theorem eq_of_lt (h : Visits markdown cur) (ht : markdown.drop cur.offset = c :: cs)
    (h' : Visits markdown cur') (hle : cur.offset ≤ cur'.offset)
    (hlt : cur'.offset < cur.offset + (cur.construct c cs).width) : cur' = cur := by
  rcases eq_or_behind ht (h.reaches_of_le h' hle) with heq | hr
  · exact heq
  · have hbehind := hr.offset_le
    rw [offset_after] at hbehind
    omega

theorem eq_of_mem {c' : Char} {cs' : List Char} (h : Visits markdown cur)
    (ht : markdown.drop cur.offset = c :: cs) (h' : Visits markdown cur')
    (ht' : markdown.drop cur'.offset = c' :: cs') (hi : cur.offset ≤ i)
    (hlt : i < cur.offset + (cur.construct c cs).width) (hi' : cur'.offset ≤ i)
    (hlt' : i < cur'.offset + (cur'.construct c' cs').width) : cur' = cur := by
  rcases Nat.le_total cur.offset cur'.offset with hle | hle
  · exact h.eq_of_lt ht h' hle (Nat.lt_of_le_of_lt hi' hlt)
  · exact (h'.eq_of_lt ht' h hle (Nat.lt_of_le_of_lt hi hlt')).symm

/-- Every position that is still to be read lies in a construct. -/
theorem exists_covers (h : Visits markdown cur) (hi : cur.offset ≤ i) (hlt : i < markdown.length) :
    ∃ cur' c cs, Visits markdown cur' ∧ markdown.drop cur'.offset = c :: cs ∧ cur'.offset ≤ i ∧
      i < cur'.offset + (cur'.construct c cs).width := by
  induction h using Visits.backward with
  | finish cur h ht =>
    have := List.drop_eq_nil_iff.mp ht
    omega
  | step cur c cs h ht ih =>
    rcases Nat.lt_or_ge i (cur.offset + (cur.construct c cs).width) with hin | hbehind
    · exact ⟨cur, c, cs, h, ht, hi, hin⟩
    · exact ih hbehind

theorem stripped?_eq_none (h : Visits markdown cur) (ht : markdown.drop cur.offset = c :: cs)
    (hkept : (cur.construct c cs).kept cur.offset c = []) (hi : cur.offset ≤ i)
    (hlt : i < cur.offset + (cur.construct c cs).width) :
    (strip markdown).positions.stripped? i = none := by
  rw [Option.eq_none_iff_forall_ne_some]
  intro j hj
  have horigin := (strip_sorted markdown).stripped?_eq_some_iff.mp hj
  obtain ⟨e, he, rfl⟩ := Stripped.origin?_eq_some_iff.mp horigin
  obtain ⟨cur', c', cs', h', -, ht', he⟩ :=
    Visits.start.of_mem_read (List.mem_of_getElem? he)
  obtain ⟨hi', hlt'⟩ := kept_bounds (Construct.stands_construct cur' c' cs') he
  obtain rfl := h.eq_of_mem ht h' ht' hi hlt hi' hlt'
  cases ht.symm.trans ht'
  rw [hkept] at he
  cases he

end Visits

/-! ### The layout of a document -/

theorem Visits.of_mem_layout {j : Cursor × Construct} (h : Visits markdown cur)
    (hj : j ∈ cur.layout (markdown.drop cur.offset)) :
    Visits markdown j.1 ∧ ∃ c cs, markdown.drop j.1.offset = c :: cs ∧
      j.2 = j.1.construct c cs := by
  induction h using Visits.backward with
  | finish cur h ht =>
    rw [ht, Cursor.layout] at hj
    cases hj
  | step cur c cs h ht ih =>
    have hpos := (h.fits.width_bounds ht (Construct.stands_construct ..)).1
    rw [ht, Cursor.layout, List.mem_cons] at hj
    rcases hj with rfl | hj
    · exact ⟨h, c, cs, ht, rfl⟩
    · refine ih ?_
      rw [offset_after, drop_add_of_drop ht hpos]
      exact hj

theorem mem_layout_iff {k : Construct} : (cur, k) ∈ Cursor.atStart.layout markdown ↔
    Visits markdown cur ∧ ∃ c cs, markdown.drop cur.offset = c :: cs ∧ k = cur.construct c cs := by
  constructor
  · intro h
    exact Visits.start.of_mem_layout h
  · rintro ⟨h, c, cs, ht, rfl⟩
    exact h.mem_layout ht

end ProseCheck.Markdown
