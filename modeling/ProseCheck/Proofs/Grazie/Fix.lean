import Mathlib.Data.List.Forall2
import Mathlib.Data.List.Pairwise
import Mathlib.Tactic.Common
import ProseCheck.Proofs.Finding.Made
import ProseCheck.Proofs.Grazie.Answer
import ProseCheck.Proofs.Grazie.Change

/-! # What a fix makes of a sentence

A fix asks for changes to the sentence, in any order. They are sorted by where they begin and made
from the last one to the first within the highlight. A fix whose changes cannot all be made at once
makes nothing.
-/

namespace ProseCheck.Grazie

variable {sentence r : List Char} {highlight : Span} {p q : FixPart} {f : Fix}
  {changes : List Change} {c d : Change} {start finish : Nat}

/-! ### Parts -/

/-- The part has new text and a place for it, and is more than a description. -/
def FixPart.IsChange (p : FixPart) : Prop :=
  p.kind ≠ some "Context" ∧ p.span.isSome = true ∧ p.text.isSome = true

instance (p : FixPart) : Decidable p.IsChange := inferInstanceAs (Decidable (_ ∧ _))

/-- The part is a change of the sentence: the ends of its place point at characters of it. -/
structure FixPart.Asks (p : FixPart) (sentence : List Char) (c : Change) : Prop where
  not_context : p.kind ≠ some "Context"
  place : ∃ span, p.span = some span ∧ span.chars? sentence = some c.span
  text : p.text.map String.toList = some c.text

/-- The changes of a fix are what its parts ask for, one by one. -/
def Fix.Asks (f : Fix) (sentence : List Char) (changes : List Change) : Prop :=
  List.Forall₂ (fun p c => FixPart.Asks p sentence c) (f.parts.filter fun p => p.IsChange) changes

def FixPart.change? (p : FixPart) (sentence : List Char) : Option Change :=
  p.edit?.bind fun (span, text) => (span.chars? sentence).map (⟨·, text.toList⟩)

theorem FixPart.isSome_edit? (p : FixPart) : p.edit?.isSome = decide p.IsChange := by
  obtain ⟨kind, span, text⟩ := p
  by_cases hkind : kind = some "Context" <;> cases span <;> cases text <;>
    simp [edit?, IsChange, hkind]

theorem FixPart.change?_eq_some_iff : p.change? sentence = some c ↔ p.Asks sentence c := by
  obtain ⟨kind, span, text⟩ := p
  obtain ⟨place, new⟩ := c
  constructor
  · intro h
    by_cases hkind : kind = some "Context"
    · simp [change?, edit?, hkind] at h
    · cases span <;> cases text <;> simp [change?, edit?, hkind] at h
      obtain ⟨hplace, rfl⟩ := h
      exact ⟨hkind, ⟨_, rfl, hplace⟩, rfl⟩
  · rintro ⟨hkind, ⟨span', hspan, hplace⟩, htext⟩
    obtain ⟨text', htext', rfl⟩ := Option.map_eq_some_iff.mp htext
    cases hspan
    cases htext'
    simp_all [change?, edit?]

theorem FixPart.Asks.isChange (h : p.Asks sentence c) : p.IsChange := by
  obtain ⟨span, hspan, -⟩ := h.place
  obtain ⟨text, htext, -⟩ := Option.map_eq_some_iff.mp h.text
  exact ⟨h.not_context, by rw [hspan]; rfl, by rw [htext]; rfl⟩

theorem FixPart.Asks.ordered (h : p.Asks sentence c) : c.span.start ≤ c.span.finish := by
  obtain ⟨span, -, hchars⟩ := h.place
  exact (Span16.chars?_eq_some_iff.mp hchars).2.2.2

theorem FixPart.isChange_of_change? (h : p.change? sentence = some c) :
    decide p.IsChange = true :=
  decide_eq_true (change?_eq_some_iff.mp h).isChange

theorem changes?_eq_some_iff : f.changes? sentence = some changes ↔ f.Asks sentence changes := by
  rw [Fix.changes?, mapM_filterMap_eq_some_iff, Fix.Asks]
  simp only [FixPart.isSome_edit?, ← FixPart.change?_eq_some_iff]
  rfl

theorem asks_iff : f.Asks sentence changes ↔
    (∀ p ∈ f.parts, p.IsChange → ∃ c, p.Asks sentence c) ∧
      f.parts.filterMap (·.change? sentence) = changes := by
  simp only [Fix.Asks, ← FixPart.change?_eq_some_iff]
  rw [forall₂_filter_iff fun p c => FixPart.isChange_of_change?]
  simp only [decide_eq_true_eq]

theorem Fix.Asks.ordered (h : f.Asks sentence changes) :
    ∀ c ∈ changes, c.span.start ≤ c.span.finish := by
  obtain ⟨-, rfl⟩ := asks_iff.mp h
  intro c hc
  obtain ⟨p, -, hp⟩ := List.mem_filterMap.mp hc
  exact (FixPart.change?_eq_some_iff.mp hp).ordered

/-! ### Order -/

/-- The changes are made in the order of where they begin. -/
def byStart (c d : Change) : Bool := c.span.start ≤ d.span.start

theorem byStart_iff : byStart c d = true ↔ c.span.start ≤ d.span.start := decide_eq_true_iff

theorem byStart_trans (a b c : Change) (hab : byStart a b = true) (hbc : byStart b c = true) :
    byStart a c = true := by
  rw [byStart_iff] at *
  omega

theorem byStart_total (a b : Change) : (byStart a b || byStart b a) = true := by
  rw [Bool.or_eq_true, byStart_iff, byStart_iff]
  omega

theorem ties_byStart_iff (a b : Change) :
    ties byStart a b = true ↔ a.span.start = b.span.start := by
  rw [ties_iff, byStart_iff, byStart_iff]
  omega

/-- The change that begins first, or is listed first where both begin, ends before the other one
begins. -/
def Change.Clears (c d : Change) : Prop :=
  if byStart c d = true then c.span.finish ≤ d.span.start else d.span.finish ≤ c.span.start

theorem inRow_mergeSort_iff : InRow (changes.mergeSort byStart) start finish ↔
    (∀ c ∈ changes, c.Within start finish) ∧ changes.Pairwise Change.Clears := by
  have happart := pairwise_mergeSort_iff byStart_trans byStart_total changes
    (R := fun c d => c.span.finish ≤ d.span.start)
  constructor
  · rintro ⟨hwithin, hrow⟩
    exact ⟨fun c hc => hwithin c (List.mem_mergeSort.mpr hc), happart.mp hrow⟩
  · rintro ⟨hwithin, hrow⟩
    exact ⟨fun c hc => hwithin c (List.mem_mergeSort.mp hc), happart.mpr hrow⟩

theorem Change.Clears.not_shares (h : c.Clears d) : ¬ c.Shares d := by
  rintro ⟨i, hc, hd⟩
  rw [Span.contains_iff] at hc hd
  rw [Clears] at h
  split at h <;> omega

theorem Fix.Asks.fits_iff (h : f.Asks sentence changes) :
    fits finish start (changes.mergeSort byStart) = true ↔
      InRow (changes.mergeSort byStart) start finish :=
  Grazie.fits_iff fun c hc => h.ordered c (List.mem_mergeSort.mp hc)

theorem replacement?_of_changes? (h : f.changes? sentence = some changes) :
    f.replacement? sentence highlight =
      if !changes.isEmpty && fits highlight.finish highlight.start (changes.mergeSort byStart) then
        some ((changes.mergeSort byStart).foldr (·.apply highlight.start)
          ((sentence.drop highlight.start).take highlight.length))
      else none := by
  have hsort : changes.mergeSort (fun c d => c.span.start ≤ d.span.start) =
      changes.mergeSort byStart := rfl
  rw [Fix.replacement?, h]
  simp only [Option.bind_eq_bind, Option.bind_some, hsort]
  cases changes.isEmpty <;>
    cases fits highlight.finish highlight.start (changes.mergeSort byStart) <;> rfl

theorem replacement?_eq_some_iff : f.replacement? sentence highlight = some r ↔
    ∃ changes, f.Asks sentence changes ∧ changes ≠ [] ∧
      InRow (changes.mergeSort byStart) highlight.start highlight.finish ∧
      (changes.mergeSort byStart).foldr (·.apply highlight.start)
        ((sentence.drop highlight.start).take highlight.length) = r := by
  cases hchanges : f.changes? sentence with
  | none =>
    simp [Fix.replacement?, hchanges, ← changes?_eq_some_iff]
  | some changes =>
    have hasks := changes?_eq_some_iff.mp hchanges
    simp only [← changes?_eq_some_iff, hchanges, Option.some.injEq, exists_eq_left']
    rw [replacement?_of_changes? hchanges, Option.ite_none_right_eq_some, Bool.and_eq_true,
      hasks.fits_iff, Bool.not_eq_true', List.isEmpty_eq_false_iff, and_assoc, Option.some.injEq]

/-! ### Fixes that make nothing -/

/-- The changes of a fix cannot all be made at once within the highlight. -/
inductive Fix.Unfit (f : Fix) (sentence : List Char) (highlight : Span) : Prop
  /-- There is none. -/
  | unchanging : (∀ p ∈ f.parts, ¬ p.IsChange) → Unfit f sentence highlight
  /-- The place of one is no place of the sentence. -/
  | unplaced {p : FixPart} : p ∈ f.parts → p.IsChange → (∀ c, ¬ p.Asks sentence c) →
      Unfit f sentence highlight
  /-- One leaves the highlight. -/
  | outside {p : FixPart} {c : Change} : p ∈ f.parts → p.Asks sentence c →
      ¬ c.Within highlight.start highlight.finish → Unfit f sentence highlight
  /-- Two have a character in common. -/
  | sharing {p q : FixPart} {c d : Change} : [p, q].Sublist f.parts → p.Asks sentence c →
      q.Asks sentence d → c.Shares d → Unfit f sentence highlight

theorem not_unfit_iff : ¬ f.Unfit sentence highlight ↔
    ∃ changes, f.Asks sentence changes ∧ changes ≠ [] ∧
      (∀ c ∈ changes, c.Within highlight.start highlight.finish) ∧
      changes.Pairwise fun c d => ¬ c.Shares d := by
  constructor
  · intro h
    have hplaced (p : FixPart) (hp : p ∈ f.parts) (hchange : p.IsChange) :
        ∃ c, p.Asks sentence c := by
      by_contra hnone
      exact h (.unplaced hp hchange fun c hc => hnone ⟨c, hc⟩)
    refine ⟨_, asks_iff.mpr ⟨hplaced, rfl⟩, ?_, ?_, ?_⟩
    · intro hnil
      apply h
      apply Fix.Unfit.unchanging
      intro p hp hchange
      obtain ⟨c, hc⟩ := hplaced p hp hchange
      have hnone := List.filterMap_eq_nil_iff.mp hnil p hp
      rw [FixPart.change?_eq_some_iff.mpr hc] at hnone
      cases hnone
    · intro c hc
      obtain ⟨p, hp, hchange⟩ := List.mem_filterMap.mp hc
      by_contra hwithin
      exact h (.outside hp (FixPart.change?_eq_some_iff.mp hchange) hwithin)
    · rw [List.pairwise_filterMap, List.pairwise_iff_forall_sublist]
      intro p q hpq c hc d hd hshares
      exact h (.sharing hpq (FixPart.change?_eq_some_iff.mp hc) (FixPart.change?_eq_some_iff.mp hd)
        hshares)
  · rintro ⟨changes, hasks, hne, hwithin, hapart⟩ hunfit
    obtain ⟨hplaced, rfl⟩ := asks_iff.mp hasks
    cases hunfit with
    | unchanging hnone =>
      apply hne
      rw [List.filterMap_eq_nil_iff]
      intro p hp
      apply Option.eq_none_iff_forall_ne_some.mpr
      intro c hc
      exact hnone p hp (FixPart.change?_eq_some_iff.mp hc).isChange
    | unplaced hp hchange hnone =>
      obtain ⟨c, hc⟩ := hplaced _ hp hchange
      exact hnone c hc
    | outside hp hc hout =>
      exact hout (hwithin _ (List.mem_filterMap.mpr ⟨_, hp, FixPart.change?_eq_some_iff.mpr hc⟩))
    | sharing hpq hc hd hshares =>
      rw [List.pairwise_filterMap, List.pairwise_iff_forall_sublist] at hapart
      exact hapart hpq _ (FixPart.change?_eq_some_iff.mpr hc) _
        (FixPart.change?_eq_some_iff.mpr hd) hshares

theorem not_unfit_of_replacement? (h : f.replacement? sentence highlight = some r) :
    ¬ f.Unfit sentence highlight := by
  obtain ⟨changes, hasks, hne, hrow, -⟩ := replacement?_eq_some_iff.mp h
  obtain ⟨hwithin, hclears⟩ := inRow_mergeSort_iff.mp hrow
  exact not_unfit_iff.mpr ⟨changes, hasks, hne, hwithin, hclears.imp Change.Clears.not_shares⟩

/-! ### Replacements -/

/-- `Fix.replacement?`, where each change may go wrong. -/
def Fix.replacementChecked? (f : Fix) (sentence : List Char) (highlight : Span) :
    Option (Option (List Char)) :=
  match f.changes? sentence with
  | none => some none
  | some changes =>
    let sorted := changes.mergeSort byStart
    if !changes.isEmpty && fits highlight.finish highlight.start sorted then
      (sorted.foldrM (Change.applyChecked? highlight.start)
        ((sentence.drop highlight.start).take highlight.length)).map some
    else some none

theorem length_highlight (hordered : highlight.start ≤ highlight.finish)
    (hfinish : highlight.finish ≤ sentence.length) :
    highlight.start + ((sentence.drop highlight.start).take highlight.length).length =
      highlight.finish := by
  rw [List.length_take, List.length_drop, Span.length]
  omega

theorem highlight_append (hordered : highlight.start ≤ highlight.finish) :
    (sentence.drop highlight.start).take highlight.length ++ sentence.drop highlight.finish =
      sentence.drop highlight.start := by
  conv_rhs => rw [← List.take_append_drop highlight.length (sentence.drop highlight.start)]
  rw [List.drop_drop, Span.length, Nat.add_sub_cancel' hordered]

theorem replacementChecked?_eq (hordered : highlight.start ≤ highlight.finish)
    (hfinish : highlight.finish ≤ sentence.length) :
    f.replacementChecked? sentence highlight = some (f.replacement? sentence highlight) := by
  have hlength := length_highlight hordered hfinish
  cases hchanges : f.changes? sentence with
  | none => simp [Fix.replacementChecked?, Fix.replacement?, hchanges]
  | some changes =>
    rw [replacement?_of_changes? hchanges]
    simp only [Fix.replacementChecked?, hchanges]
    split
    next hfits =>
      have hrow := (changes?_eq_some_iff.mp hchanges).fits_iff.mp (Bool.and_eq_true_iff.mp hfits).2
      rw [foldrM_applyChecked? (hlength.symm ▸ hrow), Option.map_some]
    next => rfl

/-- What a fix puts in the place of the highlight makes of the sentence what all its changes make of
it at once. No cut of it goes wrong. A fix whose changes cannot be made at once within the highlight
is left out. -/
theorem replacement_simultaneous (f : Fix) (hordered : highlight.start ≤ highlight.finish)
    (hfinish : highlight.finish ≤ sentence.length) :
    f.replacementChecked? sentence highlight = some (f.replacement? sentence highlight) ∧
      (∀ r, f.replacement? sentence highlight = some r → ∃ changes, f.Asks sentence changes ∧
        sentence.take highlight.start ++ (r ++ sentence.drop highlight.finish) =
          changed changes 0 sentence) ∧
      (f.Unfit sentence highlight → f.replacement? sentence highlight = none) := by
  refine ⟨replacementChecked?_eq hordered hfinish, fun r hr => ?_, fun hunfit => ?_⟩
  · obtain ⟨changes, hasks, -, hrow, rfl⟩ := replacement?_eq_some_iff.mp hr
    have hbefore : (sentence.take highlight.start).length = highlight.start := by
      rw [List.length_take]
      omega
    have hfirst : ∀ c ∈ changes.mergeSort byStart,
        0 + (sentence.take highlight.start).length ≤ c.span.start := by
      intro c hc
      rw [hbefore, Nat.zero_add]
      exact (hrow.within c hc).start_le
    refine ⟨changes, hasks, ?_⟩
    rw [foldr_apply_eq_changed ((length_highlight hordered hfinish).symm ▸ hrow),
      highlight_append hordered]
    calc sentence.take highlight.start ++
          changed (changes.mergeSort byStart) highlight.start (sentence.drop highlight.start)
      _ = changed (changes.mergeSort byStart) 0
            (sentence.take highlight.start ++ sentence.drop highlight.start) := by
        rw [changed_append_before hfirst, hbefore, Nat.zero_add]
      _ = changed changes 0 sentence := by
        rw [List.take_append_drop,
          changed_mergeSort byStart_trans byStart_total ties_byStart_iff]
  · apply Option.eq_none_iff_forall_ne_some.mpr
    intro r hr
    exact not_unfit_of_replacement? hr hunfit

/-- Insertions at one place come in the order of the parts, and before what replaces the next
character. -/
theorem replacement_simultaneous_insertions :
    let sentence := "the a cat".toList
    let part (start finish : Int) (text : String) : FixPart :=
      ⟨none, some ⟨start, finish⟩, some text⟩
    let f : Fix :=
      ⟨[part 5 5 "n", part 4 5 "A", part 0 0 "(", part 0 1 "T", part 5 5 " big"]⟩
    f.replacement? sentence ⟨0, 5⟩ = some "(The An big".toList ∧
      ∃ changes, f.Asks sentence changes ∧
        "(The An big cat".toList = changed changes 0 sentence := by
  intro sentence part f
  let change (start finish : Nat) (text : String) : Change := ⟨⟨start, finish⟩, text.toList⟩
  let changes := [change 5 5 "n", change 4 5 "A", change 0 0 "(", change 0 1 "T", change 5 5 " big"]
  let sorted := [change 0 0 "(", change 0 1 "T", change 4 5 "A", change 5 5 "n", change 5 5 " big"]
  have hchanges : f.changes? sentence = some changes := by decide +kernel
  have hsorted : changes.mergeSort byStart = sorted := by
    simp [List.mergeSort, List.MergeSort.Internal.splitInTwo, byStart, changes, sorted, change]
  have hr : f.replacement? sentence ⟨0, 5⟩ = some "(The An big".toList := by
    rw [replacement?_of_changes? hchanges, hsorted]
    decide
  have hordered : (⟨0, 5⟩ : Span).start ≤ (⟨0, 5⟩ : Span).finish := by decide
  have hfinish : (⟨0, 5⟩ : Span).finish ≤ sentence.length := by decide
  obtain ⟨-, hmade, -⟩ := replacement_simultaneous f hordered hfinish
  exact ⟨hr, hmade _ hr⟩

end ProseCheck.Grazie
