import Mathlib.Tactic.Common
import ProseCheck.Proofs.Finding.Made
import ProseCheck.Proofs.Json.Record
import ProseCheck.Proofs.LanguageTool.Answer
import ProseCheck.Proofs.Text.Utf16

/-! # Which matches become findings

A match should become a finding over the characters whose code units it covers, or be dropped if an
end of it is no boundary of a character. That is so unless it ends between the halves of a pair: as
an offset there points at the character of the pair, such a match is kept with other ends as soon as
they lie in different characters.
-/

namespace ProseCheck.LanguageTool

open Json

variable {s : Source} {ms : List Match} {m : Match} {text : List Char} {span : Span} {f : Finding}

/-! ### Numbers in answers -/

namespace Match

def Summable (m : Match) : Prop := m.offset.toNat + m.length.toNat ≤ maxOffset

theorem summable_of_ofSource? (h : Match.ofSource? s = some m) : m.Summable := by
  simp only [ofSource?, Option.bind_eq_bind, Option.bind_eq_some_iff, Option.pure_def,
    Option.some.injEq] at h
  obtain ⟨r, -, -, -, -, -, -, -, offset, hoffset, length, hlength, -, -, -, -, rfl⟩ := h
  obtain ⟨s, -, hs⟩ := Option.bind_eq_some_iff.mp hoffset
  obtain ⟨s', -, hs'⟩ := Option.bind_eq_some_iff.mp hlength
  have hoffset := signed?_bounds hs
  have hlength := signed?_bounds hs'
  simp only [Summable, maxOffset]
  omega

end Match

theorem summable_of_matches? (h : matches? s = some ms) : ∀ m ∈ ms, m.Summable := by
  simp only [matches?, Option.bind_eq_bind, Option.bind_eq_some_iff] at h
  obtain ⟨r, -, h⟩ := h
  unfold Record.defaulted? at h
  split at h
  · exact forall_of_list?_eq_some h fun _ _ => Match.summable_of_ofSource?
  · cases h
    nofun

/-! ### Ends of matches -/

namespace Match

/-- A character ends within the match. -/
def Reaches (m : Match) (text : List Char) : Prop :=
  ∃ k ≤ text.length, m.offset < (Text.length16 (text.take k) : Int) ∧
    (Text.length16 (text.take k) : Int) ≤ m.offset + m.length

def EndsWhole (m : Match) (text : List Char) : Prop :=
  Text.Starts16 text m.offset.toNat ∧ Text.Starts16 text (m.offset + m.length).toNat

/-- The match covers some characters of the text as a whole. -/
def Lands (m : Match) (text : List Char) : Prop :=
  0 ≤ m.offset ∧ 0 < m.length ∧ m.offset + m.length ≤ Text.length16 text ∧ m.EndsWhole text

/-- The match lies in the text and does not stay within a character, but has an end between the
halves of a pair. -/
def Splits (m : Match) (text : List Char) : Prop :=
  0 ≤ m.offset ∧ m.offset + m.length ≤ Text.length16 text ∧ m.Reaches text ∧ ¬ m.EndsWhole text

instance (m : Match) (text : List Char) : Decidable (m.Reaches text) :=
  inferInstanceAs (Decidable (∃ k ≤ text.length, _))

instance (m : Match) (text : List Char) : Decidable (m.EndsWhole text) :=
  inferInstanceAs (Decidable (_ ∧ _))

instance (m : Match) (text : List Char) : Decidable (m.Lands text) :=
  inferInstanceAs (Decidable (_ ∧ _))

instance (m : Match) (text : List Char) : Decidable (m.Splits text) :=
  inferInstanceAs (Decidable (_ ∧ _))

theorem span?_eq_some_iff_points (hsum : m.Summable) : m.span? text = some span ↔
    0 ≤ m.offset ∧ 0 ≤ m.length ∧ Text.Points text m.offset.toNat span.start ∧
      Text.Points text (m.offset + m.length).toNat span.finish ∧ span.start < span.finish := by
  rw [span?_eq_some_iff, and_assoc]
  refine and_congr_right fun hoffset => and_congr_right fun hlength => ?_
  have hmax : m.offset.toNat + m.length.toNat ≤ maxOffset := hsum
  rw [and_iff_right hmax, Text.charOffset?_eq_some_iff, Text.charOffset?_eq_some_iff,
    ← Int.toNat_add hoffset hlength]

/-- What is dropped does not lie in the text or stays within a character. -/
theorem exists_span?_iff (hsum : m.Summable) : (∃ span, m.span? text = some span) ↔
    0 ≤ m.offset ∧ m.offset + m.length ≤ Text.length16 text ∧ m.Reaches text := by
  simp only [span?_eq_some_iff_points hsum]
  constructor
  · rintro ⟨span, hoffset, hlength, hstart, hfinish, hlt⟩
    obtain ⟨k, hk, hbehind, hwithin⟩ := (hstart.lt_iff hfinish).mp hlt
    have hin := hfinish.within
    exact ⟨hoffset, by omega, k, hk, by omega, by omega⟩
  · rintro ⟨hoffset, hin, k, hk, hbehind, hwithin⟩
    have hfirst : m.offset.toNat ≤ Text.length16 text := by omega
    have hlast : (m.offset + m.length).toNat ≤ Text.length16 text := by omega
    obtain ⟨start, hstart⟩ := Text.exists_points hfirst
    obtain ⟨finish, hfinish⟩ := Text.exists_points hlast
    refine ⟨⟨start, finish⟩, hoffset, by omega, hstart, hfinish, ?_⟩
    exact (hstart.lt_iff hfinish).mpr ⟨k, hk, by omega, by omega⟩

theorem Lands.reaches (h : m.Lands text) : m.Reaches text := by
  obtain ⟨hoffset, hlength, -, -, k, hk, hlast⟩ := h
  exact ⟨k, hk, by omega, by omega⟩

theorem lands_or_splits_iff : m.Lands text ∨ m.Splits text ↔
    0 ≤ m.offset ∧ m.offset + m.length ≤ Text.length16 text ∧ m.Reaches text := by
  constructor
  · rintro (h | ⟨hoffset, hin, hreaches, -⟩)
    · exact ⟨h.1, h.2.2.1, h.reaches⟩
    · exact ⟨hoffset, hin, hreaches⟩
  · rintro ⟨hoffset, hin, hreaches⟩
    by_cases hends : m.EndsWhole text
    · obtain ⟨k, -, hbehind, hwithin⟩ := hreaches
      exact Or.inl ⟨hoffset, by omega, hin, hends⟩
    · exact Or.inr ⟨hoffset, hin, hreaches, hends⟩

/-- The finding covers the characters that take the code units of the match. -/
structure Exact (m : Match) (text : List Char) (f : Finding) : Prop where
  made : m.finding? text = some f
  within : f.offset + f.length ≤ text.length
  before : (Text.length16 (text.take f.offset) : Int) = m.offset
  covered : (Text.length16 ((text.drop f.offset).take f.length) : Int) = m.length

theorem isSome_finding? : (m.finding? text).isSome = true ↔ ∃ span, m.span? text = some span := by
  rw [finding?]
  cases m.span? text with
  | none => simp
  | some span => simp

theorem isSome_finding?_iff (hsum : m.Summable) :
    (m.finding? text).isSome = true ↔ m.Lands text ∨ m.Splits text := by
  rw [isSome_finding?, exists_span?_iff hsum, lands_or_splits_iff]

theorem Lands.exact (h : m.Lands text) (hsum : m.Summable) (hf : m.finding? text = some f) :
    m.Exact text f := by
  obtain ⟨-, -, -, hfirst, hlast⟩ := h
  obtain ⟨span, hspan, hoffset, hlength⟩ := span_of_finding? hf
  obtain ⟨hnonneg, hpos, hstart, hfinish, hlt⟩ := (span?_eq_some_iff_points hsum).mp hspan
  have hbefore := hstart.starts16_iff.mp hfirst
  have hbehind := hfinish.starts16_iff.mp hlast
  have hend : f.offset + f.length = span.finish := by
    rw [hoffset, hlength, Span.length]
    omega
  have hsplit := Text.length16_take_add text f.offset f.length
  rw [hend, hbehind, hoffset, hbefore] at hsplit
  refine ⟨hf, hend ▸ hfinish.le_length, ?_, ?_⟩
  · rw [hoffset, hbefore, Int.toNat_of_nonneg hnonneg]
  · rw [hoffset]
    omega

end Match

/-- The matches of an answer that cover whole characters of the text, and no others, become findings
over just these characters, in their order, exactly if no match has an end between the halves of a
pair and reaches into another character. -/
theorem findings_exact_iff (hread : matches? s = some ms) (text : List Char) :
    List.Forall₂ (fun m f => m.Exact text f) (ms.filter fun m => decide (m.Lands text))
        (findings ms text) ↔
      ∀ m ∈ ms, ¬ m.Splits text := by
  have hsum := summable_of_matches? hread
  constructor
  · intro h m hm hsplits
    have hkeeps (m : Match) (hm : m ∈ ms) (h : decide (m.Lands text) = true) :
        (m.finding? text).isSome = true :=
      (Match.isSome_finding?_iff (hsum m hm)).mpr (Or.inl (of_decide_eq_true h))
    have hmade := (Match.isSome_finding?_iff (hsum m hm)).mpr (Or.inr hsplits)
    have hlands := keeps_of_forall₂_filterMap hkeeps h hm hmade
    exact hsplits.2.2.2 (of_decide_eq_true hlands).2.2.2
  · intro hwhole
    refine forall₂_filterMap (fun m hm => ?_) fun m hm f hf => ?_
    · rw [Bool.eq_iff_iff, decide_eq_true_iff, Match.isSome_finding?_iff (hsum m hm)]
      exact (or_iff_left (hwhole m hm)).symm
    · have hkept := (Match.isSome_finding?_iff (hsum m hm)).mp (by rw [hf]; rfl)
      exact (hkept.resolve_right (hwhole m hm)).exact (hsum m hm) hf

def answerOf (spans : List (Int × Int)) : Source :=
  .object [(some "matches", .array (spans.map fun (offset, length) => .object
    [(some "message", .string (some "typo")), (some "offset", .number (some (.int offset))),
      (some "length", .number (some (.int length)))]))]

def typoAt (offset length : Int) : Match := ⟨"typo", none, offset, length, [], none⟩

theorem findings_exact_iff_pairs :
    let text := "a😀b".toList
    let ms := [typoAt 1 2, typoAt (-1) 2, typoAt 3 9, typoAt 1 0, typoAt 0 4]
    let split := [typoAt 0 2]
    matches? (answerOf [(1, 2), (-1, 2), (3, 9), (1, 0), (0, 4)]) = some ms ∧
      List.Forall₂ (fun m f => m.Exact text f) (ms.filter fun m => decide (m.Lands text))
        (findings ms text) ∧
      (findings ms text).map (fun f => (f.offset, f.length)) = [(1, 1), (0, 3)] ∧
      matches? (answerOf [(0, 2)]) = some split ∧
      ¬ List.Forall₂ (fun m f => m.Exact text f) (split.filter fun m => decide (m.Lands text))
        (findings split text) := by
  intro text ms split
  have hms : matches? (answerOf [(1, 2), (-1, 2), (3, 9), (1, 0), (0, 4)]) = some ms := rfl
  have hsplit : matches? (answerOf [(0, 2)]) = some split := rfl
  refine ⟨hms, (findings_exact_iff hms text).mpr ?_, ?_, hsplit, fun h => ?_⟩
  · decide +kernel
  · decide +kernel
  · exact absurd ((findings_exact_iff hsplit text).mp h) (by decide +kernel)

/-- The match starts in the middle of a pair and becomes a finding over both halves. -/
theorem exists_split_match : ∃ s ms text, matches? s = some ms ∧
    (∀ m ∈ ms, ¬ Text.Starts16 text m.offset.toNat) ∧
      (findings ms text).map (fun f => (f.offset, f.length)) = [(1, 1)] := by
  refine ⟨answerOf [(2, 1)], [typoAt 2 1], "a😀b".toList, rfl, ?_, ?_⟩
  · decide +kernel
  · decide +kernel

end ProseCheck.LanguageTool
