import Mathlib.Data.List.Basic
import Mathlib.Tactic.Common
import ProseCheck.Finding.Basic

/-! # Sorted findings

A stable sort keeps the order of items that tie. So only this order decides what sorted lists are,
and blocks of findings that start apart from each other may come in any order.
-/

namespace ProseCheck

section

variable {α γ : Type} {le : α → α → Bool} {l l' : List α}

/-- Each of the items may come first. -/
def ties (le : α → α → Bool) (a b : α) : Bool := le a b && le b a

theorem ties_iff {a b : α} : ties le a b = true ↔ le a b = true ∧ le b a = true := by
  rw [ties, Bool.and_eq_true]

theorem eq_of_filter_ties (total : ∀ a b, (le a b || le b a) = true)
    (hl : l.Pairwise (le · ·)) (hl' : l'.Pairwise (le · ·))
    (h : ∀ a, l.filter (ties le a) = l'.filter (ties le a)) : l = l' := by
  have hrefl (a : α) : ties le a a = true := by simpa [ties] using total a a
  have hmem {m m' : List α} (h : ∀ a, m.filter (ties le a) = m'.filter (ties le a)) {a : α}
      (ha : a ∈ m) : a ∈ m' :=
    (List.mem_filter.mp (h a ▸ List.mem_filter.mpr ⟨ha, hrefl a⟩)).1
  induction l generalizing l' with
  | nil =>
    cases l' with
    | nil => rfl
    | cons b l' => exact absurd (hmem (fun a => (h a).symm) (List.mem_cons_self (a := b))) (by simp)
  | cons a l ih =>
    cases l' with
    | nil => exact absurd (hmem h (List.mem_cons_self (a := a))) (by simp)
    | cons b l' =>
      have hle {x y : α} {m : List α} (hm : (x :: m).Pairwise (le · ·)) (hy : y ∈ x :: m) :
          le x y = true := by
        rcases List.mem_cons.mp hy with rfl | hy
        · exact (ties_iff.mp (hrefl y)).1
        · exact (List.pairwise_cons.mp hm).1 y hy
      have hab : ties le a b = true := ties_iff.mpr
        ⟨hle hl (hmem (fun a => (h a).symm) List.mem_cons_self),
          hle hl' (hmem h List.mem_cons_self)⟩
      obtain rfl : a = b := by
        have := h a
        rw [List.filter_cons_of_pos (hrefl a), List.filter_cons_of_pos hab] at this
        exact (List.cons.inj this).1
      rw [ih (List.pairwise_cons.mp hl).2 (List.pairwise_cons.mp hl').2 fun x => ?_]
      have := h x
      by_cases hx : ties le x a = true
      · rw [List.filter_cons_of_pos hx, List.filter_cons_of_pos hx] at this
        exact (List.cons.inj this).2
      · rwa [List.filter_cons_of_neg hx, List.filter_cons_of_neg hx] at this

theorem filter_ties_mergeSort (trans : ∀ a b c, le a b = true → le b c = true → le a c = true)
    (total : ∀ a b, (le a b || le b a) = true) (l : List α) (a : α) :
    (l.mergeSort le).filter (ties le a) = l.filter (ties le a) := by
  have hsorted : (l.filter (ties le a)).Pairwise (le · ·) :=
    List.pairwise_of_forall_mem_list fun x hx y hy =>
      trans x a y (ties_iff.mp (List.mem_filter.mp hx).2).2
        (ties_iff.mp (List.mem_filter.mp hy).2).1
  have hsub := (List.sublist_mergeSort trans total hsorted List.filter_sublist).filter (ties le a)
  rw [List.filter_filter] at hsub
  simp only [Bool.and_self] at hsub
  exact (hsub.eq_of_length ((List.mergeSort_perm l le).filter _).length_eq.symm).symm

/-- A stable sort makes two items change places only where the second has to come before the
first. -/
theorem pairwise_mergeSort_iff
    (trans : ∀ a b c, le a b = true → le b c = true → le a c = true)
    (total : ∀ a b, (le a b || le b a) = true) {R : α → α → Prop} (l : List α) :
    (l.mergeSort le).Pairwise R ↔ l.Pairwise fun a b => if le a b = true then R a b else R b a := by
  induction l with
  | nil => simp
  | cons a l ih =>
    obtain ⟨front, back, hcons, htail, hfront⟩ := List.mergeSort_cons trans total a l
    have hsorted := List.pairwise_mergeSort trans total (a :: l)
    rw [hcons, List.pairwise_append, List.pairwise_cons] at hsorted
    have hback : ∀ b ∈ back, le a b = true := hsorted.2.1.1
    have hmem (b : α) : b ∈ l ↔ b ∈ front ∨ b ∈ back := by
      rw [← List.mem_append, ← htail]
      exact (List.mergeSort_perm l le).mem_iff.symm
    rw [hcons, List.pairwise_cons, ← ih, htail, List.pairwise_append, List.pairwise_append,
      List.pairwise_cons]
    constructor
    · rintro ⟨hf, ⟨ha, hb⟩, hfb⟩
      refine ⟨fun b hmem' => ?_, hf, hb, fun x hx y hy => hfb x hx y (List.mem_cons_of_mem _ hy)⟩
      rcases (hmem b).mp hmem' with hb' | hb'
      · rw [if_neg (by simpa using hfront b hb')]
        exact hfb b hb' a List.mem_cons_self
      · rw [if_pos (hback b hb')]
        exact ha b hb'
    · rintro ⟨ha, hf, hb, hfb⟩
      refine ⟨hf, ⟨fun b hb' => ?_, hb⟩, fun x hx y hy => ?_⟩
      · have := ha b ((hmem b).mpr (Or.inr hb'))
        rwa [if_pos (hback b hb')] at this
      · rcases List.mem_cons.mp hy with rfl | hy
        · have := ha x ((hmem x).mpr (Or.inl hx))
          rwa [if_neg (by simpa using hfront x hx)] at this
        · exact hfb x hx y hy

theorem mergeSort_eq_of_filter_ties
    (trans : ∀ a b c, le a b = true → le b c = true → le a c = true)
    (total : ∀ a b, (le a b || le b a) = true)
    (h : ∀ a, l.filter (ties le a) = l'.filter (ties le a)) :
    l.mergeSort le = l'.mergeSort le := by
  refine eq_of_filter_ties total (List.pairwise_mergeSort trans total l)
    (List.pairwise_mergeSort trans total l') fun a => ?_
  rw [filter_ties_mergeSort trans total, filter_ties_mergeSort trans total, h a]

/-- The order of blocks does not matter if no item of one ties with an item of another. -/
theorem filter_ties_flatMap (trans : ∀ a b c, le a b = true → le b c = true → le a c = true)
    {block : γ → List α} {xs ys : List γ} (h : xs.Perm ys)
    (hapart : xs.Pairwise fun x y => ∀ f ∈ block x, ∀ g ∈ block y, ties le f g = false) (a : α) :
    (xs.flatMap block).filter (ties le a) = (ys.flatMap block).filter (ties le a) := by
  induction h with
  | nil => rfl
  | cons x _ ih =>
    simp only [List.flatMap_cons, List.filter_append]
    rw [ih (List.pairwise_cons.mp hapart).2]
  | swap x y l =>
    simp only [List.flatMap_cons, List.filter_append, ← List.append_assoc]
    congr 1
    have hxy := (List.pairwise_cons.mp hapart).1 x List.mem_cons_self
    by_cases hy : ∃ f ∈ block y, ties le a f = true
    · obtain ⟨f, hf, hfa⟩ := hy
      have hx : (block x).filter (ties le a) = [] := by
        refine List.filter_eq_nil_iff.mpr fun g hg hga => ?_
        have htie : ties le f g = true := ties_iff.mpr
          ⟨trans f a g (ties_iff.mp hfa).2 (ties_iff.mp hga).1,
            trans g a f (ties_iff.mp hga).2 (ties_iff.mp hfa).1⟩
        rw [hxy f hf g hg] at htie
        cases htie
      rw [hx, List.append_nil, List.nil_append]
    · have hnil : (block y).filter (ties le a) = [] :=
        List.filter_eq_nil_iff.mpr fun f hf hfa => hy ⟨f, hf, hfa⟩
      rw [hnil, List.append_nil, List.nil_append]
  | trans h₁ _ ih₁ ih₂ =>
    refine (ih₁ hapart).trans (ih₂ ((h₁.pairwise_iff fun hxy f hf g hg => ?_).mp hapart))
    rw [ties, Bool.and_comm]
    exact hxy g hg f hf

end

namespace Finding

theorem precedes_iff {f g : Finding} :
    f.precedes g = true ↔ f.offset < g.offset ∨ f.offset = g.offset ∧ f.length ≤ g.length := by
  simp [precedes]

theorem precedes_trans (f g h : Finding) (hfg : f.precedes g = true) (hgh : g.precedes h = true) :
    f.precedes h = true := by
  rw [precedes_iff] at *
  omega

theorem precedes_total (f g : Finding) : (f.precedes g || g.precedes f) = true := by
  rw [Bool.or_eq_true, precedes_iff, precedes_iff]
  omega

/-- Blocks of findings that start apart from each other are sorted alike in any order. -/
theorem sort_flatMap {γ : Type} {block : γ → List Finding} {xs ys : List γ} (h : xs.Perm ys)
    (hapart : xs.Pairwise fun x y => ∀ f ∈ block x, ∀ g ∈ block y, f.offset ≠ g.offset) :
    sort (xs.flatMap block) = sort (ys.flatMap block) := by
  refine mergeSort_eq_of_filter_ties precedes_trans precedes_total
    (filter_ties_flatMap precedes_trans h (hapart.imp fun hxy f hf g hg => ?_))
  have := hxy f hf g hg
  rw [Bool.eq_false_iff, Ne, ties_iff, precedes_iff, precedes_iff]
  omega

end Finding
end ProseCheck
