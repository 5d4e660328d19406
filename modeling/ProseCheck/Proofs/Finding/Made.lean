import Mathlib.Data.List.Forall2
import Mathlib.Tactic.Common

/-! # Findings made one by one

An answer is turned into findings item by item, and an item of which none can be made is left out.
So the items that yield a finding stand beside the findings in the same order.
-/

namespace ProseCheck

variable {α β γ : Type} {l : List α} {keeps : α → Bool} {make : α → Option β} {R : α → β → Prop}

theorem forall₂_filterMap (hkeeps : ∀ a ∈ l, keeps a = (make a).isSome)
    (hmake : ∀ a ∈ l, ∀ b, make a = some b → R a b) :
    List.Forall₂ R (l.filter keeps) (l.filterMap make) := by
  induction l with
  | nil => exact .nil
  | cons a l ih =>
    have htail := ih (fun x hx => hkeeps x (List.mem_cons_of_mem a hx))
      fun x hx => hmake x (List.mem_cons_of_mem a hx)
    have hhead := hkeeps a List.mem_cons_self
    cases hb : make a with
    | none =>
      rw [List.filterMap_cons_none hb, List.filter_cons_of_neg (by simp [hhead, hb])]
      exact htail
    | some b =>
      rw [List.filterMap_cons_some hb, List.filter_cons_of_pos (by simp [hhead, hb])]
      exact .cons (hmake a List.mem_cons_self b hb) htail

theorem keeps_of_forall₂_filterMap
    (hkeeps : ∀ a ∈ l, keeps a = true → (make a).isSome = true)
    (h : List.Forall₂ R (l.filter keeps) (l.filterMap make)) {a : α} (ha : a ∈ l)
    (hmake : (make a).isSome = true) : keeps a = true := by
  let makers := l.filter fun a => (make a).isSome
  have hfilter : l.filter keeps = makers.filter keeps := by
    rw [List.filter_filter]
    refine List.filter_congr fun x hx => ?_
    cases hx' : keeps x with
    | false => rfl
    | true => exact (hkeeps x hx hx').symm
  have hlength : makers.length = (l.filterMap make).length := by
    rw [List.length_filterMap_eq_countP, List.countP_eq_length_filter]
  have hsublist : (l.filter keeps).Sublist makers := by
    rw [hfilter]
    exact List.filter_sublist
  have heq := hsublist.eq_of_length (h.length_eq.trans hlength.symm)
  have hin : a ∈ l.filter keeps := heq ▸ List.mem_filter.mpr ⟨ha, hmake⟩
  exact (List.mem_filter.mp hin).2

theorem forall₂_filter_iff {bs : List β} (hkeeps : ∀ a b, make a = some b → keeps a = true) :
    List.Forall₂ (fun a b => make a = some b) (l.filter keeps) bs ↔
      (∀ a ∈ l, keeps a = true → ∃ b, make a = some b) ∧ l.filterMap make = bs := by
  constructor
  · intro h
    induction l generalizing bs with
    | nil =>
      cases h
      exact ⟨nofun, rfl⟩
    | cons a l ih =>
      by_cases ha : keeps a = true
      · rw [List.filter_cons_of_pos ha] at h
        obtain ⟨b, bs, hb, htail, rfl⟩ := List.forall₂_cons_left_iff.mp h
        obtain ⟨hall, rfl⟩ := ih htail
        exact ⟨List.forall_mem_cons.mpr ⟨fun _ => ⟨b, hb⟩, hall⟩, List.filterMap_cons_some hb⟩
      · rw [List.filter_cons_of_neg ha] at h
        obtain ⟨hall, rfl⟩ := ih h
        refine ⟨List.forall_mem_cons.mpr ⟨fun hkept => absurd hkept ha, hall⟩, ?_⟩
        exact List.filterMap_cons_none
          (Option.eq_none_iff_forall_ne_some.mpr fun b hb => ha (hkeeps a b hb))
  · rintro ⟨hall, rfl⟩
    refine forall₂_filterMap (fun a ha => ?_) fun _ _ _ hb => hb
    rw [Bool.eq_iff_iff, Option.isSome_iff_exists]
    exact ⟨hall a ha, fun ⟨b, hb⟩ => hkeeps a b hb⟩

theorem mapM_filterMap_eq_some_iff {take : α → Option β} {make : β → Option γ} {cs : List γ} :
    (l.filterMap take).mapM make = some cs ↔
      List.Forall₂ (fun a c => (take a).bind make = some c) (l.filter fun a => (take a).isSome)
        cs := by
  induction l generalizing cs with
  | nil => simp [eq_comm]
  | cons a l ih =>
    cases htake : take a with
    | none =>
      rw [List.filterMap_cons_none htake, List.filter_cons_of_neg (by simp [htake])]
      exact ih
    | some b =>
      rw [List.filterMap_cons_some htake, List.filter_cons_of_pos (by simp [htake]),
        List.forall₂_cons_left_iff, List.mapM_cons]
      simp only [htake, Option.bind_some, Option.bind_eq_bind, Option.bind_eq_some_iff,
        Option.pure_def, Option.some.injEq, ih]
      constructor
      · rintro ⟨c, hc, cs, hcs, rfl⟩
        exact ⟨c, cs, hc, hcs, rfl⟩
      · rintro ⟨c, cs, hc, hcs, rfl⟩
        exact ⟨c, hc, cs, hcs, rfl⟩

end ProseCheck
