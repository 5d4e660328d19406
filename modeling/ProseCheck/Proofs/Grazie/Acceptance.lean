import Mathlib.Data.List.Pairwise
import Mathlib.Data.List.Permutation
import Mathlib.Tactic.Common
import ProseCheck.Proofs.Grazie.Fix

/-! # The order of the parts of a fix

Where two changes begin at one place they stay in the order of their parts, and the second one has
to begin where the first one ends. So an insertion in front of what is replaced has to be listed
before it, and one within what is replaced cannot be made, though neither has a character in common
with what is replaced.
-/

namespace ProseCheck.Grazie

variable {sentence : List Char} {highlight : Span} {p q : FixPart} {f g : Fix}
  {c d : Change}

/-- Something is inserted in front of what the other change replaces, or within it. -/
def Change.Pins (c d : Change) : Prop :=
  c.span.start = c.span.finish ∧ d.span.start ≤ c.span.start ∧ c.span.start < d.span.finish

theorem Change.clears_iff (hc : c.span.start ≤ c.span.finish) (hd : d.span.start ≤ d.span.finish) :
    c.Clears d ↔ ¬ c.Shares d ∧ ¬ d.Pins c ∧ (c.Pins d → c.span.start = d.span.start) := by
  constructor
  · intro h
    refine ⟨h.not_shares, ?_⟩
    simp only [Clears, byStart_iff] at h
    simp only [Pins]
    split at h <;> omega
  · rintro ⟨hshares, hdc, hcd⟩
    have hends : c.span.start = c.span.finish ∨ d.span.start = d.span.finish ∨
        c.span.finish ≤ d.span.start ∨ d.span.finish ≤ c.span.start := by
      by_contra hends
      apply hshares
      refine ⟨max c.span.start d.span.start, ?_, ?_⟩ <;> rw [Span.contains_iff] <;> omega
    simp only [Pins] at hdc hcd
    simp only [Clears, byStart_iff]
    split <;> omega

namespace Fix

/-- Something is inserted in front of what another part replaces, or within it. -/
def Pinned (f : Fix) (sentence : List Char) : Prop :=
  ∃ p ∈ f.parts, ∃ q ∈ f.parts, ∃ c d, p.Asks sentence c ∧ q.Asks sentence d ∧ c.Pins d

theorem pinned_perm (h : g.parts.Perm f.parts) : g.Pinned sentence ↔ f.Pinned sentence := by
  simp only [Pinned, h.mem_iff]

theorem Unfit.perm (h : f.parts.Perm g.parts) (hf : f.Unfit sentence highlight) :
    g.Unfit sentence highlight := by
  cases hf with
  | unchanging hnone => exact .unchanging fun p hp => hnone p (h.mem_iff.mpr hp)
  | unplaced hp hchange hnone => exact .unplaced (h.mem_iff.mp hp) hchange hnone
  | outside hp hc hout => exact .outside (h.mem_iff.mp hp) hc hout
  | @sharing p q c d hpq hc hd hshares =>
    obtain ⟨pair, hpair, hsub⟩ := h.subperm_left.mp hpq.subperm
    rcases List.perm_pair.mp hpair with rfl | rfl
    · exact .sharing hsub hc hd hshares
    · exact .sharing hsub hd hc hshares.symm

theorem unfit_perm (h : f.parts.Perm g.parts) :
    f.Unfit sentence highlight ↔ g.Unfit sentence highlight :=
  ⟨Unfit.perm h, Unfit.perm h.symm⟩

end Fix

/-- The first part may be listed before the second one: an insertion may come before what begins at
its place, and nothing else that it is pinned to. -/
def FixPart.Leads (sentence : List Char) (p q : FixPart) : Prop :=
  ∀ c, p.Asks sentence c → ∀ d, q.Asks sentence d →
    ¬ d.Pins c ∧ (c.Pins d → c.span.start = d.span.start)

/-- A fix makes something if its changes can be made at once and its insertions are listed before
what they are pinned to. -/
theorem isSome_replacement?_iff : (f.replacement? sentence highlight).isSome = true ↔
    ¬ f.Unfit sentence highlight ∧ f.parts.Pairwise (FixPart.Leads sentence) := by
  constructor
  · intro h
    obtain ⟨r, hr⟩ := Option.isSome_iff_exists.mp h
    refine ⟨not_unfit_of_replacement? hr, ?_⟩
    obtain ⟨changes, hasks, -, hrow, -⟩ := replacement?_eq_some_iff.mp hr
    have hclears := (inRow_mergeSort_iff.mp hrow).2
    obtain ⟨-, rfl⟩ := asks_iff.mp hasks
    simp only [List.pairwise_filterMap, FixPart.change?_eq_some_iff] at hclears
    apply hclears.imp
    intro p q hpq c hc d hd
    exact ((Change.clears_iff hc.ordered hd.ordered).mp (hpq c hc d hd)).2
  · rintro ⟨hfit, hleads⟩
    obtain ⟨changes, hasks, hne, hwithin, hapart⟩ := not_unfit_iff.mp hfit
    have hclears : changes.Pairwise Change.Clears := by
      obtain ⟨-, rfl⟩ := asks_iff.mp hasks
      simp only [List.pairwise_filterMap, FixPart.change?_eq_some_iff] at hapart ⊢
      apply (hapart.and hleads).imp
      rintro p q ⟨hshares, hpq⟩ c hc d hd
      exact (Change.clears_iff hc.ordered hd.ordered).mpr ⟨hshares c hc d hd, hpq c hc d hd⟩
    exact Option.isSome_iff_exists.mpr ⟨_, replacement?_eq_some_iff.mpr
      ⟨changes, hasks, hne, inRow_mergeSort_iff.mpr ⟨hwithin, hclears⟩, rfl⟩⟩

theorem isSome_replacement?_iff_of_not_pinned (h : ¬ f.Pinned sentence) :
    (f.replacement? sentence highlight).isSome = true ↔ ¬ f.Unfit sentence highlight := by
  rw [isSome_replacement?_iff, and_iff_left_iff_imp]
  intro _
  apply List.pairwise_of_forall_mem_list
  intro p hp q hq c hc d hd
  exact ⟨fun hpins => h ⟨q, hq, p, hp, d, c, hd, hc, hpins⟩,
    fun hpins => absurd ⟨p, hp, q, hq, c, d, hc, hd, hpins⟩ h⟩

theorem exists_perm_not_leads (h : f.Pinned sentence) :
    ∃ g : Fix, g.parts.Perm f.parts ∧ ¬ g.parts.Pairwise (FixPart.Leads sentence) := by
  obtain ⟨p, hp, q, hq, c, d, hc, hd, hpins⟩ := h
  have hne : q ≠ p := by
    rintro rfl
    obtain rfl : c = d := Option.some.inj
      ((FixPart.change?_eq_some_iff.mpr hc).symm.trans (FixPart.change?_eq_some_iff.mpr hd))
    obtain ⟨hempty, hle, hlt⟩ := hpins
    omega
  have hnodup : [q, p].Nodup := by simpa using hne
  have hsubset : [q, p] ⊆ f.parts := by simp [hp, hq]
  obtain ⟨pair, hpair, hsub⟩ := List.subperm_of_subset hnodup hsubset
  obtain ⟨rest, hrest⟩ := hsub.exists_perm_append
  refine ⟨⟨[q, p] ++ rest⟩, (hrest.trans (hpair.append_right rest)).symm, ?_⟩
  intro hleads
  obtain ⟨hq, -⟩ := List.pairwise_cons.mp hleads
  exact (hq p List.mem_cons_self d hd c hc).1 hpins

/-- A fix is taken or left out in every order of its parts, and left out only if its changes cannot
be made at once within the highlight, exactly if this is so anyway or nothing is inserted in front
of or within what it replaces. -/
theorem acceptance_perm_iff (f : Fix) (sentence : List Char) (highlight : Span) :
    (∀ g : Fix, g.parts.Perm f.parts →
      ((g.replacement? sentence highlight).isSome = true ↔
        (f.replacement? sentence highlight).isSome = true) ∧
      ((g.replacement? sentence highlight).isSome = true ↔ ¬ g.Unfit sentence highlight)) ↔
      f.Unfit sentence highlight ∨ ¬ f.Pinned sentence := by
  constructor
  · intro h
    by_cases hunfit : f.Unfit sentence highlight
    · exact Or.inl hunfit
    · right
      intro hpinned
      obtain ⟨g, hperm, hleads⟩ := exists_perm_not_leads hpinned
      have htaken := (h g hperm).2.mpr (mt (Fix.unfit_perm hperm).mp hunfit)
      exact hleads (isSome_replacement?_iff.mp htaken).2
  · rintro (hunfit | hfree) g hperm
    · have hnone {g : Fix} (hg : g.Unfit sentence highlight) :
          ¬ (g.replacement? sentence highlight).isSome = true :=
        fun htaken => (isSome_replacement?_iff.mp htaken).1 hg
      have hg := (Fix.unfit_perm hperm).mpr hunfit
      exact ⟨iff_of_false (hnone hg) (hnone hunfit), iff_of_false (hnone hg) (not_not_intro hg)⟩
    · rw [isSome_replacement?_iff_of_not_pinned (mt (Fix.pinned_perm hperm).mp hfree),
        isSome_replacement?_iff_of_not_pinned hfree, Fix.unfit_perm hperm]
      exact ⟨Iff.rfl, Iff.rfl⟩

/-- An article in front of a replaced word is taken if it is listed before the word, and not if it
is listed behind it. -/
theorem exists_order_left_out :
    let sentence := "cat sat".toList
    let article : FixPart := ⟨none, some ⟨0, 0⟩, some "a "⟩
    let word : FixPart := ⟨none, some ⟨0, 3⟩, some "dog"⟩
    (Fix.mk [article, word]).replacement? sentence ⟨0, 3⟩ = some "a dog".toList ∧
      (Fix.mk [word, article]).replacement? sentence ⟨0, 3⟩ = none ∧
      ¬ (Fix.mk [word, article]).Unfit sentence ⟨0, 3⟩ := by
  intro sentence article word
  have hperm : (Fix.mk [article, word]).parts.Perm (Fix.mk [word, article]).parts :=
    List.Perm.swap word article []
  let insertion : Change := ⟨⟨0, 0⟩, "a ".toList⟩
  let replacement : Change := ⟨⟨0, 3⟩, "dog".toList⟩
  have hsorted (c d : Change) (h : c.span.start = d.span.start) :
      [c, d].mergeSort byStart = [c, d] :=
    List.mergeSort_of_pairwise (by simp [byStart, h])
  have hchanges : (Fix.mk [article, word]).changes? sentence = some [insertion, replacement] := by
    decide +kernel
  have hchanges' : (Fix.mk [word, article]).changes? sentence = some [replacement, insertion] := by
    decide +kernel
  have htaken : (Fix.mk [article, word]).replacement? sentence ⟨0, 3⟩ = some "a dog".toList := by
    rw [replacement?_of_changes? hchanges, hsorted insertion replacement rfl]
    decide
  refine ⟨htaken, ?_, mt (Fix.unfit_perm hperm).mpr (not_unfit_of_replacement? htaken)⟩
  rw [replacement?_of_changes? hchanges', hsorted replacement insertion rfl]
  decide

end ProseCheck.Grazie
