import Mathlib.Data.List.Infix
import Mathlib.Tactic.Common
import ProseCheck.Proofs.Text.Bytes
import ProseCheck.Proofs.Text.Segment

/-! # Paragraphs and what lies between them

A text is nothing but its paragraphs and whole separators: at least one between two paragraphs, and
any number before the first and behind the last. As it is cut at the first separator there is, no
piece of it holds one.
-/

namespace ProseCheck.Text

variable {separator text piece : List Char} {s : Segment}

/-! ### Pieces -/

theorem not_infix_cut (hs : separator ≠ []) (text : List Char) :
    ¬ separator <:+: (cut separator text).1 := by
  induction text with
  | nil =>
    intro h
    exact hs (List.infix_nil.mp h)
  | cons c cs ih =>
    have hbegins : (cut separator (c :: cs)).1 <+: c :: cs := ⟨_, (cut_eq separator _).symm⟩
    simp only [cut] at hbegins ⊢
    split
    next =>
      intro h
      exact hs (List.infix_nil.mp h)
    next hhere =>
      rw [if_neg hhere] at hbegins
      intro h
      rcases List.infix_cons_iff.mp h with hfirst | hlater
      · exact hhere (List.isPrefixOf_iff_prefix.mpr (hfirst.trans hbegins))
      · exact ih hlater

theorem not_infix_of_mem_pieces (hs : separator ≠ []) (h : piece ∈ pieces separator hs text) :
    ¬ separator <:+: piece := by
  fun_induction pieces separator hs text with
  | case1 text hlast =>
    obtain rfl := List.mem_singleton.mp h
    exact not_infix_cut hs text
  | case2 text rest hrest ih =>
    rcases List.mem_cons.mp h with rfl | h
    · exact not_infix_cut hs text
    · exact ih h

/-! ### Separators -/

def separators (separator : List Char) (n : Nat) : List Char :=
  (List.replicate n separator).flatten

theorem separators_succ (separator : List Char) (n : Nat) :
    separators separator (n + 1) = separators separator n ++ separator := by
  rw [separators, List.replicate_succ', List.flatten_concat, separators]

/-- A text that begins at `start` is made up of the segments and of separators. Any number of them
stand before a segment, and behind it at least one unless the text ends with it. -/
inductive Spaced (separator : List Char) : Nat → List Segment → List Char → Prop
  | none (start n : Nat) : Spaced separator start [] (separators separator n)
  | last (start n : Nat) (piece : List Char) :
      Spaced separator start [⟨start + n * separator.length, piece⟩]
        (separators separator n ++ piece)
  | next {start : Nat} {segments : List Segment} {text : List Char} (n : Nat)
      (piece : List Char) :
      Spaced separator (start + n * separator.length + piece.length + separator.length) segments
        text →
      Spaced separator start (⟨start + n * separator.length, piece⟩ :: segments)
        (separators separator n ++ (piece ++ (separator ++ text)))

/-- Pieces, the first of them behind some more separators, are spaced when the empty ones are left
out: the separators around those come together. -/
theorem spaced_placed (separator : List Char) {ps : List (List Char)} (hps : ps ≠ [])
    (start n : Nat) :
    Spaced separator start
      ((placed separator.length (start + n * separator.length) ps).filter (!·.text.isEmpty))
      (separators separator n ++ separator.intercalate ps) := by
  induction ps generalizing start n with
  | nil => exact absurd rfl hps
  | cons piece ps ih =>
    cases ps with
    | nil =>
      rw [List.intercalate_singleton]
      cases piece with
      | nil =>
        rw [List.append_nil]
        exact .none start n
      | cons c cs => exact .last start n (c :: cs)
    | cons q ps =>
      have hne := List.cons_ne_nil q ps
      rw [List.intercalate_cons_of_ne_nil hne, List.append_assoc]
      cases piece with
      | nil =>
        have hspaced := ih hne start (n + 1)
        rw [separators_succ, List.append_assoc, Nat.succ_mul, ← Nat.add_assoc] at hspaced
        exact hspaced
      | cons c cs =>
        have hspaced := ih hne
          (start + n * separator.length + (c :: cs).length + separator.length) 0
        rw [Nat.zero_mul, Nat.add_zero] at hspaced
        exact .next n (c :: cs) hspaced

/-! ### Paragraphs -/

/-- What the paragraphs of a text are, where something separates them. -/
structure Partition (separator text : List Char) (segments : List Segment) : Prop where
  nonempty : ∀ s ∈ segments, s.text ≠ []
  whole : ∀ s ∈ segments, ¬ separator <:+: s.text
  sliced : ∀ s ∈ segments, s.In text
  increasing : segments.Pairwise fun s t => s.start < t.start
  disjoint : segments.Pairwise fun s t => s.start + s.length ≤ t.start
  spaced : Spaced separator 0 segments text

theorem paragraphs_of_ne_nil (hs : separator ≠ []) (text : List Char) :
    paragraphs separator text =
      (placed separator.length 0 (pieces separator hs text)).filter (!·.text.isEmpty) := by
  rw [paragraphs, dif_neg hs]

theorem text_ne_nil_of_mem_paragraphs (hs : separator ≠ [])
    (h : s ∈ paragraphs separator text) : s.text ≠ [] := by
  rw [paragraphs_of_ne_nil hs] at h
  intro hempty
  simpa [hempty] using (List.mem_filter.mp h).2

/-- Nothing of a text gets lost in its paragraphs, and nothing is added: besides them the text has
separators only, at least one between two paragraphs. With nothing to separate them, the whole text
is one paragraph. -/
theorem paragraphs_partition (text : List Char) :
    paragraphs [] text = [⟨0, text⟩] ∧
      ∀ separator, separator ≠ [] →
        Partition separator text (paragraphs separator text) := by
  refine ⟨rfl, fun separator hs => ?_⟩
  have hnonempty : ∀ s ∈ paragraphs separator text, s.text ≠ [] :=
    fun s h => text_ne_nil_of_mem_paragraphs hs h
  have hdisjoint := paragraphs_pairwise separator text
  constructor
  case nonempty => exact hnonempty
  case whole =>
    intro s h
    rw [paragraphs_of_ne_nil hs] at h
    have hpiece := List.mem_map_of_mem (f := Segment.text) (List.mem_filter.mp h).1
    rw [map_text_placed] at hpiece
    exact not_infix_of_mem_pieces hs hpiece
  case sliced => exact fun s h => in_of_mem_paragraphs h
  case increasing =>
    refine hdisjoint.imp_of_mem fun {s t} h _ hle => ?_
    have hpos : 0 < s.length := List.length_pos_iff.mpr (hnonempty s h)
    omega
  case disjoint => exact hdisjoint
  case spaced =>
    have hspaced := spaced_placed separator (pieces_ne_nil hs text) 0 0
    rw [intercalate_pieces, Nat.zero_mul, Nat.add_zero] at hspaced
    rw [paragraphs_of_ne_nil hs]
    exact hspaced

/-- Of five line feeds four are separators, and the last one begins a paragraph. -/
theorem paragraphs_partition_blankLine :
    let text := "\n\né\n\n\n\n\nb\n\n".toList
    let segments : List Segment := [⟨2, ['é']⟩, ⟨7, ['\n', 'b']⟩]
    paragraphs blankLine text = segments ∧ Partition blankLine text segments := by
  intro text segments
  have hsegments : paragraphs blankLine text = segments := by decide +kernel
  have hs : blankLine ≠ [] := by decide
  exact ⟨hsegments, hsegments ▸ (paragraphs_partition text).2 blankLine hs⟩

/-! ### Places -/

/-- `placed`, where the place of the next piece may go wrong. It is computed behind the last piece
too. -/
def placedChecked? (gap start : Nat) : List (List Char) → Option (List Segment)
  | [] => some []
  | piece :: rest => do
    let size ← addOffset? piece.length gap
    let next ← addOffset? start size
    let segments ← placedChecked? gap next rest
    return ⟨start, piece⟩ :: segments

def paragraphsChecked? (separator text : List Char) : Option (List Segment) :=
  if hs : separator = [] then some [⟨0, text⟩]
  else
    (placedChecked? separator.length 0 (pieces separator hs text)).map
      (·.filter (!·.text.isEmpty))

theorem placedChecked?_eq (ps : List (List Char)) {start : Nat}
    (h : start + (separator.intercalate ps).length + separator.length ≤ maxOffset) :
    placedChecked? separator.length start ps = some (placed separator.length start ps) := by
  induction ps generalizing start with
  | nil => rfl
  | cons piece ps ih =>
    have hlength : (separator.intercalate (piece :: ps)).length =
        piece.length + (if ps = [] then 0 else
          separator.length + (separator.intercalate ps).length) := by
      cases ps with
      | nil => simp [List.intercalate_singleton]
      | cons q ps => simp [List.intercalate_cons_of_ne_nil (List.cons_ne_nil q ps)]
    have hsize : addOffset? piece.length separator.length =
        some (piece.length + separator.length) := addOffset?_of_le (by omega)
    have hnext : addOffset? start (piece.length + separator.length) =
        some (start + piece.length + separator.length) := by
      rw [addOffset?_of_le (by omega), Nat.add_assoc]
    have hrest : placedChecked? separator.length (start + piece.length + separator.length) ps =
        some (placed separator.length (start + piece.length + separator.length) ps) := by
      by_cases hps : ps = []
      · rw [hps]
        rfl
      · rw [if_neg hps] at hlength
        exact ih (by omega)
    rw [placedChecked?, hsize, placed]
    simp only [Option.bind_eq_bind, Option.bind_some, hnext, hrest]
    rfl

/-- The places of the paragraphs are offsets, as long as the text and the separator can lie in
memory. -/
theorem paragraphsChecked?_eq (htext : Storable text) (hseparator : Storable separator) :
    paragraphsChecked? separator text = some (paragraphs separator text) := by
  unfold paragraphsChecked? paragraphs
  split
  next => rfl
  next hs =>
    have hplaced : placedChecked? separator.length 0 (pieces separator hs text) =
        some (placed separator.length 0 (pieces separator hs text)) := by
      apply placedChecked?_eq
      rw [intercalate_pieces, Nat.zero_add]
      have htext := (length_le_length8 text).trans htext
      have hseparator := (length_le_length8 separator).trans hseparator
      exact (Nat.add_le_add htext hseparator).trans maxBytes_add_maxBytes_le
    rw [hplaced, Option.map_some]

end ProseCheck.Text
