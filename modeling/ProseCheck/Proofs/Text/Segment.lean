import Mathlib.Data.List.DropRight
import Mathlib.Data.List.TakeWhile
import Mathlib.Tactic.Common
import ProseCheck.Proofs.Text.Offset
import ProseCheck.Text.Segment

/-! # Where paragraphs and sentences lie

Pieces with separators between them are the text again, so each of them is the slice of the text at
its start. Trimming a slice gives a slice.
-/

namespace ProseCheck.Text

variable {separator text piece before : List Char} {s t : Segment}

namespace Segment

def span (s : Segment) : Span := ⟨s.start, s.start + s.length⟩

def In (s : Segment) (text : List Char) : Prop := slice? text s.span = some s.text

theorem In.finish_le (h : s.In text) : s.start + s.length ≤ text.length :=
  (slice?_eq_some_iff.mp h).2.1

end Segment

/-! ### Pieces -/

theorem cut_eq (separator text : List Char) :
    text = (cut separator text).1 ++ ((cut separator text).2.map (separator ++ ·)).getD [] := by
  induction text with
  | nil => rfl
  | cons c cs ih =>
    simp only [cut]
    split
    next h =>
      obtain ⟨rest, hrest⟩ := List.isPrefixOf_iff_prefix.mp h
      simp [← hrest]
    next h =>
      rw [List.cons_append, ← ih]

theorem pieces_ne_nil (hs : separator ≠ []) (text : List Char) : pieces separator hs text ≠ [] := by
  rw [pieces]
  split <;> simp

theorem intercalate_pieces (hs : separator ≠ []) (text : List Char) :
    separator.intercalate (pieces separator hs text) = text := by
  fun_induction pieces separator hs text with
  | case1 text h =>
    have heq := cut_eq separator text
    rw [h] at heq
    simpa [List.intercalate_singleton] using heq.symm
  | case2 text rest h ih =>
    have heq := cut_eq separator text
    rw [h] at heq
    rw [List.intercalate_cons_of_ne_nil (pieces_ne_nil hs rest), ih, List.append_assoc]
    exact heq.symm

theorem flatten_sentencePieces (text : List Char) : (sentencePieces text).flatten = text := by
  fun_induction sentencePieces text with
  | case1 => rfl
  | case2 c cs h ih => rw [List.flatten_cons, ih, List.singleton_append]
  | case3 c cs h hnil ih =>
    rw [hnil] at ih
    rw [← ih]
    rfl
  | case4 c cs h piece rest hrest ih =>
    rw [hrest] at ih
    rw [← ih]
    rfl

theorem intercalate_nil_eq_flatten (ps : List (List Char)) :
    List.intercalate [] ps = ps.flatten := by
  induction ps with
  | nil => rfl
  | cons p ps ih =>
    cases ps with
    | nil => simp [List.intercalate_singleton]
    | cons q qs =>
      rw [List.intercalate_cons_of_ne_nil (List.cons_ne_nil _ _), ih, List.append_nil]
      rfl

/-! ### Segments -/

theorem in_append (before piece after : List Char) :
    (⟨before.length, piece⟩ : Segment).In (before ++ (piece ++ after)) := by
  refine slice?_eq_some_iff.mpr ⟨Nat.le_add_right _ _, ?_, ?_⟩
  · simp [Segment.span, Segment.length]
  · simp [Segment.span, Segment.length, Span.length]

/-- Pieces placed with a gap between them lie in the text that they make up. -/
theorem in_of_mem_placed (gap before : List Char) {ps : List (List Char)}
    (h : s ∈ placed gap.length before.length ps) : s.In (before ++ gap.intercalate ps) := by
  induction ps generalizing before with
  | nil => simp [placed] at h
  | cons piece ps ih =>
    rcases List.mem_cons.mp h with rfl | h
    · cases ps with
      | nil => simpa [List.intercalate_singleton] using in_append before piece []
      | cons p ps =>
        rw [List.intercalate_cons_of_ne_nil (List.cons_ne_nil _ _), List.append_assoc]
        exact in_append ..
    · have hne : ps ≠ [] := by
        rintro rfl
        simp [placed] at h
      rw [List.intercalate_cons_of_ne_nil hne, ← List.append_assoc, ← List.append_assoc]
      refine ih _ ?_
      rwa [List.length_append, List.length_append]

theorem start_le_of_mem_placed {gap start : Nat} {ps : List (List Char)}
    (h : s ∈ placed gap start ps) : start ≤ s.start := by
  induction ps generalizing start with
  | nil => simp [placed] at h
  | cons piece ps ih =>
    rcases List.mem_cons.mp h with rfl | h
    · exact Nat.le_refl _
    · have := ih h
      omega

theorem placed_pairwise (gap start : Nat) (ps : List (List Char)) :
    (placed gap start ps).Pairwise fun s t => s.start + s.length ≤ t.start := by
  induction ps generalizing start with
  | nil => exact List.Pairwise.nil
  | cons piece ps ih =>
    refine List.pairwise_cons.mpr ⟨fun t ht => ?_, ih _⟩
    have := start_le_of_mem_placed ht
    simp only [Segment.length]
    omega

/-! ### Paragraphs -/

theorem in_of_mem_paragraphs (h : s ∈ paragraphs separator text) : s.In text := by
  unfold paragraphs at h
  split at h
  next hs =>
    obtain rfl := List.mem_singleton.mp h
    simpa using in_append [] text []
  next hs =>
    have := in_of_mem_placed separator [] (List.mem_filter.mp h).1
    rwa [List.nil_append, intercalate_pieces] at this

theorem paragraphs_pairwise (separator text : List Char) :
    (paragraphs separator text).Pairwise fun s t => s.start + s.length ≤ t.start := by
  unfold paragraphs
  split
  · exact List.pairwise_singleton _ _
  · exact (placed_pairwise ..).filter _

/-! ### Sentences -/

theorem trim_split (text : List Char) : ∃ before behind,
    text = before ++ (trim text ++ behind) ∧ before.length = (text.takeWhile isBlank).length ∧
      allBlank before = true ∧ allBlank behind = true := by
  refine ⟨text.takeWhile isBlank, (trimStart text).rtakeWhile isBlank, ?_, rfl, ?_, ?_⟩
  · have hend : trim text ++ (trimStart text).rtakeWhile isBlank = trimStart text :=
      List.rdropWhile_append_rtakeWhile
    rw [hend]
    exact List.takeWhile_append_dropWhile.symm
  · exact List.all_eq_true.mpr fun c hc => List.mem_takeWhile_imp hc
  · exact List.all_eq_true.mpr fun c hc => List.mem_rtakeWhile_imp hc

theorem slice?_trim (text : List Char) :
    slice? text ⟨(text.takeWhile isBlank).length,
      (text.takeWhile isBlank).length + (trim text).length⟩ = some (trim text) := by
  obtain ⟨before, behind, htext, hlength, -⟩ := trim_split text
  have hin := in_append before (trim text) behind
  rwa [← htext, hlength] at hin

theorem Segment.In.trim (h : s.In text) : s.trim.In text := by
  have hslice := slice?_shift h (slice?_trim s.text)
  rw [Span.shift, Nat.add_comm, Nat.add_comm _ s.span.start, ← Nat.add_assoc] at hslice
  exact hslice

theorem in_of_mem_placed_sentencePieces (h : s ∈ placed 0 0 (sentencePieces text)) : s.In text := by
  have hin := in_of_mem_placed [] [] h
  rwa [List.nil_append, intercalate_nil_eq_flatten, flatten_sentencePieces] at hin

theorem in_of_mem_sentences (h : s ∈ sentences text) : s.In text := by
  obtain ⟨t, ht, rfl⟩ := List.mem_map.mp (List.mem_filter.mp h).1
  exact (in_of_mem_placed_sentencePieces ht).trim

theorem map_text_placed (gap start : Nat) (ps : List (List Char)) :
    (placed gap start ps).map (·.text) = ps := by
  induction ps generalizing start with
  | nil => rfl
  | cons piece ps ih => rw [placed, List.map_cons, ih]

theorem allBlank_of_trim_eq_nil (h : trim text = []) : allBlank text = true := by
  rw [trim, trimEnd, List.reverse_eq_nil_iff, List.dropWhile_eq_nil_iff] at h
  have hstart : trimStart text = [] := by
    by_contra hne
    have hhead := h _ (List.mem_reverse.mpr (List.head_mem hne))
    exact Bool.false_ne_true ((List.head_dropWhile_not isBlank hne).symm.trans hhead)
  exact List.all_eq_true.mpr (List.dropWhile_eq_nil_iff.mp hstart)

theorem allBlank_of_sentences_eq_nil (h : sentences text = []) : allBlank text = true := by
  refine List.all_eq_true.mpr fun c hc => ?_
  rw [← flatten_sentencePieces text, ← map_text_placed 0 0 (sentencePieces text)] at hc
  obtain ⟨piece, hpiece, hc⟩ := List.mem_flatten.mp hc
  obtain ⟨s, hs, rfl⟩ := List.mem_map.mp hpiece
  have hempty := List.filter_eq_nil_iff.mp h s.trim (List.mem_map_of_mem hs)
  have htrim : trim s.text = [] := by simpa [Segment.trim] using hempty
  exact List.all_eq_true.mp (allBlank_of_trim_eq_nil htrim) c hc

end ProseCheck.Text
