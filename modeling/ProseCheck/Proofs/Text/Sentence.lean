import Mathlib.Data.List.Chain
import ProseCheck.Proofs.Text.Segment

/-! # Sentences and what lies between them

A text is cut behind every character that ends a sentence, and what can be seen of a piece is a
sentence. So only blank characters are left out, a sentence does not go on behind its end, and
cutting it again leaves it as it is.
-/

namespace ProseCheck.Text

variable {text piece before : List Char} {ps : List (List Char)} {s t p : Segment} {c : Char}
  {next : Option Char} {i start : Nat}

/-! ### Ends of sentences -/

/-- The characters that end a sentence in front of a blank one. -/
def stops : List Char := ['.', '!', '?']

theorem isBlank_of_mem_stops (h : c ∈ stops) : isBlank c = false := by
  rw [stops, List.mem_cons, List.mem_cons, List.mem_singleton] at h
  rcases h with rfl | rfl | rfl <;> decide

theorem endsSentence_iff :
    endsSentence c next = true ↔ c = '\n' ∨ c ∈ stops ∧ next.all isBlank = true := by
  simp [endsSentence, stops, or_assoc]

/-- A sentence ends only with the last character, if at all. -/
def Unbroken (text : List Char) : Prop := text.IsChain fun c d => endsSentence c (some d) = false

theorem Unbroken.of_appended {before behind : List Char}
    (h : Unbroken (before ++ (text ++ behind))) : Unbroken text :=
  (List.isChain_append.mp (List.isChain_append.mp h).2.1).1

theorem Unbroken.not_ends (h : Unbroken text) {d : Char} (hc : text[i]? = some c)
    (hd : text[i + 1]? = some d) : endsSentence c (some d) = false := by
  obtain ⟨-, rfl⟩ := List.getElem?_eq_some_iff.mp hc
  obtain ⟨hlt, rfl⟩ := List.getElem?_eq_some_iff.mp hd
  exact List.IsChain.getElem h i hlt

/-! ### Pieces -/

theorem ne_nil_of_mem_sentencePieces (h : piece ∈ sentencePieces text) : piece ≠ [] := by
  fun_induction sentencePieces text with
  | case1 => cases h
  | case2 c cs hend ih =>
    rcases List.mem_cons.mp h with rfl | h
    · exact List.cons_ne_nil c []
    · exact ih h
  | case3 c cs hend hnil ih =>
    obtain rfl := List.mem_singleton.mp h
    exact List.cons_ne_nil c []
  | case4 c cs hend first rest hcs ih =>
    rcases List.mem_cons.mp h with rfl | h
    · exact List.cons_ne_nil c first
    · exact ih (hcs ▸ List.mem_cons_of_mem first h)

theorem head?_of_sentencePieces_eq_cons {rest : List (List Char)}
    (h : sentencePieces text = piece :: rest) : text.head? = piece.head? := by
  have hne : piece ≠ [] := ne_nil_of_mem_sentencePieces (h ▸ List.mem_cons_self)
  rw [← flatten_sentencePieces text, h, List.flatten_cons, List.head?_append_of_ne_nil _ hne]

theorem unbroken_of_mem_sentencePieces (h : piece ∈ sentencePieces text) : Unbroken piece := by
  fun_induction sentencePieces text generalizing piece with
  | case1 => cases h
  | case2 c cs hend ih =>
    rcases List.mem_cons.mp h with rfl | h
    · exact .singleton c
    · exact ih h
  | case3 c cs hend hnil ih =>
    obtain rfl := List.mem_singleton.mp h
    exact .singleton c
  | case4 c cs hend first rest hcs ih =>
    rcases List.mem_cons.mp h with rfl | h
    · have hfirst := ih (hcs ▸ List.mem_cons_self)
      rw [head?_of_sentencePieces_eq_cons hcs] at hend
      cases first with
      | nil => exact .singleton c
      | cons d ds => exact List.isChain_cons_cons.mpr ⟨Bool.eq_false_iff.mpr hend, hfirst⟩
    · exact ih (hcs ▸ List.mem_cons_of_mem first h)

/-- The first of two pieces ends a sentence in front of the second one. -/
def Ends (p q : List Char) : Prop :=
  ∃ c d, p.getLast? = some c ∧ q.head? = some d ∧ endsSentence c (some d) = true

theorem isChain_sentencePieces (text : List Char) : (sentencePieces text).IsChain Ends := by
  fun_induction sentencePieces text with
  | case1 => exact .nil
  | case2 c cs hend ih =>
    refine List.isChain_cons.mpr ⟨fun q hq => ?_, ih⟩
    obtain ⟨rest, hcs⟩ := List.head?_eq_some_iff.mp hq
    obtain ⟨d, ds, rfl⟩ := List.exists_cons_of_ne_nil
      (ne_nil_of_mem_sentencePieces (hcs ▸ List.mem_cons_self))
    rw [head?_of_sentencePieces_eq_cons hcs] at hend
    exact ⟨c, d, rfl, rfl, hend⟩
  | case3 => exact .singleton _
  | case4 c cs hend first rest hcs ih =>
    have hne : first ≠ [] := ne_nil_of_mem_sentencePieces (hcs ▸ List.mem_cons_self)
    rw [hcs, List.isChain_cons] at ih
    refine List.isChain_cons.mpr ⟨fun q hq => ?_, ih.2⟩
    rw [Ends, List.getLast?_cons_of_ne_nil hne]
    exact ih.1 q hq

/-- A piece that the text goes on behind ends a sentence. -/
theorem ends_of_mem_placed (hps : ps.IsChain Ends) (h : s ∈ placed 0 before.length ps)
    (hlt : s.start + s.length < (before ++ ps.flatten).length) :
    ∃ c d, s.text.getLast? = some c ∧ (before ++ ps.flatten)[s.start + s.length]? = some d ∧
      endsSentence c (some d) = true := by
  induction ps generalizing before with
  | nil => cases h
  | cons piece ps ih =>
    have hlength : (before ++ piece).length = before.length + piece.length := List.length_append
    rw [List.flatten_cons, ← List.append_assoc] at hlt ⊢
    rcases List.mem_cons.mp h with rfl | h
    · simp only [Segment.length, ← hlength] at hlt ⊢
      cases ps with
      | nil => simp at hlt
      | cons q qs =>
        obtain ⟨c, d, hc, hd, hend⟩ := (List.isChain_cons_cons.mp hps).1
        obtain ⟨ds, rfl⟩ := List.head?_eq_some_iff.mp hd
        refine ⟨c, d, hc, ?_, hend⟩
        rw [List.getElem?_append_right (Nat.le_refl _), Nat.sub_self]
        rfl
    · exact ih (List.isChain_cons.mp hps).2 (hlength ▸ h) hlt

theorem exists_mem_placed (hle : start ≤ i) (hlt : i < start + ps.flatten.length) :
    ∃ s ∈ placed 0 start ps, s.start ≤ i ∧ i < s.start + s.length := by
  induction ps generalizing start with
  | nil =>
    simp only [List.flatten_nil, List.length_nil] at hlt
    omega
  | cons piece ps ih =>
    rw [List.flatten_cons, List.length_append] at hlt
    rcases Nat.lt_or_ge i (start + piece.length) with hin | hbehind
    · exact ⟨⟨start, piece⟩, List.mem_cons_self, hle, hin⟩
    · have hlt' : i < start + piece.length + ps.flatten.length := by omega
      obtain ⟨s, hs, hstart, hfinish⟩ := ih hbehind hlt'
      exact ⟨s, List.mem_cons_of_mem _ hs, hstart, hfinish⟩

/-! ### What can be seen of a piece -/

theorem isBlank_of_getLast?_trim (h : (trim text).getLast? = some c) : isBlank c = false := by
  obtain ⟨hne, rfl⟩ := List.mem_getLast?_eq_getLast h
  exact Bool.eq_false_iff.mpr (List.rdropWhile_last_not isBlank (trimStart text) hne)

theorem isBlank_of_head?_trim (h : (trim text).head? = some c) : isBlank c = false := by
  obtain ⟨behind, hbehind⟩ : trim text <+: trimStart text := List.rdropWhile_prefix isBlank _
  have hhead : (trimStart text).head? = some c := by
    rw [← hbehind, List.head?_append, h, Option.some_or]
  rw [← List.head_of_head?_eq_some hhead]
  exact List.head_dropWhile_not isBlank _

theorem trim_eq_self (hfirst : ∀ c, text.head? = some c → isBlank c = false)
    (hlast : ∀ c, text.getLast? = some c → isBlank c = false) :
    text.takeWhile isBlank = [] ∧ trim text = text := by
  cases text with
  | nil => exact ⟨rfl, rfl⟩
  | cons c cs =>
    have hc : ¬ isBlank c = true := Bool.eq_false_iff.mp (hfirst c rfl)
    refine ⟨List.takeWhile_cons_of_neg hc, ?_⟩
    rw [trim, trimStart, List.dropWhile_cons_of_neg hc]
    refine List.rdropWhile_eq_self_iff.mpr fun hne => Bool.eq_false_iff.mp (hlast _ ?_)
    exact List.getLast?_eq_some_getLast hne

/-- A text in which no sentence ends before the last character is one piece. -/
theorem Unbroken.sentencePieces_eq (h : Unbroken text) (hne : text ≠ []) :
    sentencePieces text = [text] := by
  induction text with
  | nil => exact absurd rfl hne
  | cons c cs ih =>
    rw [sentencePieces]
    cases cs with
    | nil =>
      split <;> rfl
    | cons d ds =>
      obtain ⟨hend, hrest⟩ := List.isChain_cons_cons.mp h
      rw [List.head?_cons, hend, ih hrest (List.cons_ne_nil d ds)]
      rfl

theorem Unbroken.sentences_trim (h : Unbroken text) (hne : trim text ≠ []) :
    sentences (trim text) = [⟨0, trim text⟩] := by
  obtain ⟨before, behind, htext, -⟩ := trim_split text
  have hself : (trim text).takeWhile isBlank = [] ∧ trim (trim text) = trim text :=
    trim_eq_self (fun c hc => isBlank_of_head?_trim hc) fun c hc => isBlank_of_getLast?_trim hc
  rw [htext] at h
  rw [sentences, h.of_appended.sentencePieces_eq hne]
  simp [placed, Segment.trim, hself, hne]

/-! ### Sentences in their text -/

namespace Segment

theorem In.getElem? (h : s.In text) (hi : i < s.length) : text[s.start + i]? = s.text[i]? := by
  obtain ⟨-, -, hslice⟩ := slice?_eq_some_iff.mp h
  have hlength : s.span.length = s.length := Nat.add_sub_cancel_left ..
  rw [← hslice, List.getElem?_take_of_lt (hlength ▸ hi), List.getElem?_drop]
  rfl

theorem trim_cases (p : Segment) : ∃ before behind,
    p.text = before ++ (p.trim.text ++ behind) ∧ p.trim.start = p.start + before.length ∧
      p.start + p.length = p.trim.start + p.trim.length + behind.length ∧
      (∀ c ∈ before, Text.isBlank c = true) ∧ ∀ c ∈ behind, Text.isBlank c = true := by
  obtain ⟨before, behind, htext, hlength, hbefore, hbehind⟩ := trim_split p.text
  refine ⟨before, behind, htext, by rw [hlength]; rfl, ?_, List.all_eq_true.mp hbefore,
    List.all_eq_true.mp hbehind⟩
  have hsize := congrArg List.length htext
  simp only [List.length_append] at hsize
  simp only [Segment.length, Segment.trim, ← hlength]
  omega

theorem trim_bounds (p : Segment) :
    p.start ≤ p.trim.start ∧ p.trim.start + p.trim.length ≤ p.start + p.length := by
  obtain ⟨before, behind, -, hstart, hfinish, -⟩ := p.trim_cases
  omega

theorem contains_span_trim (hin : p.In text) (hc : text[i]? = some c)
    (hvisible : Text.isBlank c = false) (hle : p.start ≤ i) (hlt : i < p.start + p.length) :
    p.trim.span.contains i = true := by
  obtain ⟨before, behind, htext, hstart, hfinish, hbefore, hbehind⟩ := p.trim_cases
  obtain ⟨j, rfl⟩ := Nat.exists_eq_add_of_le hle
  rw [hin.getElem? (Nat.lt_of_add_lt_add_left hlt), htext] at hc
  refine Span.contains_iff.mpr ⟨?_, ?_⟩
  · refine Nat.le_of_not_lt fun hfirst => ?_
    simp only [span, hstart] at hfirst
    rw [List.getElem?_append_left (by omega)] at hc
    exact Bool.eq_false_iff.mp hvisible (hbefore c (List.mem_of_getElem? hc))
  · refine Nat.lt_of_not_le fun hlast => ?_
    simp only [span, hstart, Segment.length] at hlast
    rw [← List.append_assoc, List.getElem?_append_right (by rw [List.length_append]; omega)] at hc
    exact Bool.eq_false_iff.mp hvisible (hbehind c (List.mem_of_getElem? hc))

end Segment

/-- Between two segments there is the end of a sentence: the first one stops in front of a blank
character, or a line ends behind it. -/
def Parted (text : List Char) (s t : Segment) : Prop :=
  (∃ c d, s.text.getLast? = some c ∧ c ∈ stops ∧ text[s.start + s.length]? = some d ∧
    isBlank d = true) ∨
  ∃ i, s.start + s.length ≤ i ∧ i < t.start ∧ text[i]? = some '\n'

/-- What the sentences of a text are. -/
structure SentencePartition (text : List Char) (segments : List Segment) : Prop where
  sliced : ∀ s ∈ segments, s.In text
  nonempty : ∀ s ∈ segments, s.text ≠ []
  visibleStart : ∀ s ∈ segments, ∀ c, s.text.head? = some c → isBlank c = false
  visibleEnd : ∀ s ∈ segments, ∀ c, s.text.getLast? = some c → isBlank c = false
  oneLine : ∀ s ∈ segments, '\n' ∉ s.text
  ordered : segments.Pairwise fun s t => s.start + s.length ≤ t.start
  /-- Every character that can be seen lies in exactly one segment. -/
  covering : ∀ i c, text[i]? = some c → isBlank c = false →
    ∃! s, s ∈ segments ∧ s.span.contains i = true
  unbroken : ∀ s ∈ segments, ∀ i c d, s.text[i]? = some c → s.text[i + 1]? = some d → c ∈ stops →
    isBlank d = false
  parted : segments.Pairwise (Parted text)
  /-- Each segment has one sentence, which is the whole segment. -/
  stable : ∀ s ∈ segments, sentences s.text = [⟨0, s.text⟩]

theorem mem_sentences_iff : s ∈ sentences text ↔
    ∃ p ∈ placed 0 0 (sentencePieces text), p.trim = s ∧ s.text ≠ [] := by
  simp only [sentences, List.mem_filter, List.mem_map, Bool.not_eq_true', List.isEmpty_eq_false_iff]
  constructor
  · rintro ⟨⟨p, hp, rfl⟩, hne⟩
    exact ⟨p, hp, rfl, hne⟩
  · rintro ⟨p, hp, rfl, hne⟩
    exact ⟨⟨p, hp, rfl⟩, hne⟩

theorem unbroken_of_mem_placed (h : p ∈ placed 0 0 (sentencePieces text)) : Unbroken p.text := by
  have hpiece := List.mem_map_of_mem (f := Segment.text) h
  rw [map_text_placed] at hpiece
  exact unbroken_of_mem_sentencePieces hpiece

theorem unbroken_of_mem_sentences (h : s ∈ sentences text) : Unbroken s.text := by
  obtain ⟨p, hp, rfl, -⟩ := mem_sentences_iff.mp h
  obtain ⟨before, behind, htext, -⟩ := p.trim_cases
  have hpiece := unbroken_of_mem_placed hp
  rw [htext] at hpiece
  exact hpiece.of_appended

theorem Unbroken.newline_not_mem (h : Unbroken text)
    (hlast : ∀ c, text.getLast? = some c → isBlank c = false) : '\n' ∉ text := by
  intro hmem
  obtain ⟨before, behind, rfl⟩ := List.append_of_mem hmem
  cases behind with
  | nil => exact absurd (hlast '\n' List.getLast?_concat) (by decide)
  | cons d ds =>
    have hend := List.isChain_iff_forall_rel_of_append_cons_cons.mp h rfl
    rw [endsSentence_iff.mpr (Or.inl rfl)] at hend
    cases hend

theorem exists_mem_sentences (hc : text[i]? = some c) (hvisible : isBlank c = false) :
    ∃ s ∈ sentences text, s.span.contains i = true := by
  obtain ⟨hlt, -⟩ := List.getElem?_eq_some_iff.mp hc
  have hlt' : i < 0 + (sentencePieces text).flatten.length := by
    rwa [flatten_sentencePieces, Nat.zero_add]
  obtain ⟨p, hp, hle, hlt⟩ := exists_mem_placed (Nat.zero_le i) hlt'
  have hcontains :=
    Segment.contains_span_trim (in_of_mem_placed_sentencePieces hp) hc hvisible hle hlt
  refine ⟨p.trim, mem_sentences_iff.mpr ⟨p, hp, rfl, ?_⟩, hcontains⟩
  intro hnil
  rw [Span.contains_iff, Segment.span, Segment.length, hnil] at hcontains
  exact Nat.not_lt_of_le hcontains.1 hcontains.2

/-- The end of a sentence that a piece has is behind what can be seen of it, or its last
character. -/
theorem parted_of_ends (hin : p.In text) (hne : p.trim.text ≠ []) {d : Char}
    (hc : p.text.getLast? = some c) (hd : text[p.start + p.length]? = some d)
    (hend : endsSentence c (some d) = true) (hle : p.start + p.length ≤ t.start) :
    Parted text p.trim t := by
  obtain ⟨before, behind, htext, -, hfinish, -, hbehind⟩ := p.trim_cases
  rw [htext, ← List.append_assoc] at hc
  rcases endsSentence_iff.mp hend with rfl | ⟨hstop, hblank⟩
  · obtain ⟨rest, rfl⟩ : ∃ rest, behind = rest ++ ['\n'] := by
      refine List.getLast?_eq_some_iff.mp ?_
      rcases List.eq_nil_or_concat' behind with rfl | ⟨rest, e, rfl⟩
      · rw [List.append_nil, List.getLast?_append_of_ne_nil _ hne] at hc
        exact absurd (isBlank_of_getLast?_trim hc) (by decide)
      · rwa [List.getLast?_append_of_ne_nil _ (by simp)] at hc
    have hlength : p.length = (before ++ (p.trim.text ++ rest)).length + 1 := by
      rw [Segment.length, htext]
      simp only [List.length_append, List.length_singleton]
      omega
    refine Or.inr ⟨p.start + (before ++ (p.trim.text ++ rest)).length, ?_, ?_, ?_⟩
    · rw [List.length_append, List.length_singleton] at hfinish
      omega
    · omega
    · rw [hin.getElem? (by omega), htext, ← List.append_assoc, ← List.append_assoc,
        ← List.append_assoc, List.getElem?_append_right (Nat.le_refl _), Nat.sub_self]
      rfl
  · obtain rfl : behind = [] := by
      rcases List.eq_nil_or_concat' behind with rfl | ⟨rest, e, rfl⟩
      · rfl
      · rw [List.getLast?_append_of_ne_nil _ (by simp), List.getLast?_concat] at hc
        obtain rfl := Option.some.inj hc
        have hvisible := isBlank_of_mem_stops hstop
        rw [hbehind e (by simp)] at hvisible
        cases hvisible
    rw [List.append_nil, List.getLast?_append_of_ne_nil _ hne] at hc
    rw [List.length_nil, Nat.add_zero] at hfinish
    exact Or.inl ⟨c, d, hc, hstop, hfinish ▸ hd, hblank⟩

/-- The sentences of a text lie in it one behind the other, with an end of a sentence between them,
and show all that can be seen of it. A sentence is neither blank at its ends nor broken by the end
of another one, and cutting it again leaves it as it is. -/
theorem sentences_partition (text : List Char) : SentencePartition text (sentences text) := by
  have hordered : (sentences text).Pairwise fun s t => s.start + s.length ≤ t.start := by
    refine List.Pairwise.filter _ (List.pairwise_map.mpr ?_)
    refine (placed_pairwise 0 0 (sentencePieces text)).imp fun {p q} hle => ?_
    exact p.trim_bounds.2.trans (hle.trans q.trim_bounds.1)
  constructor
  case sliced => exact fun s h => in_of_mem_sentences h
  case nonempty =>
    intro s h
    obtain ⟨p, -, -, hne⟩ := mem_sentences_iff.mp h
    exact hne
  case visibleStart =>
    intro s h c hc
    obtain ⟨p, -, rfl, -⟩ := mem_sentences_iff.mp h
    exact isBlank_of_head?_trim hc
  case visibleEnd =>
    intro s h c hc
    obtain ⟨p, -, rfl, -⟩ := mem_sentences_iff.mp h
    exact isBlank_of_getLast?_trim hc
  case oneLine =>
    intro s h
    obtain ⟨p, -, rfl, -⟩ := mem_sentences_iff.mp h
    exact (unbroken_of_mem_sentences h).newline_not_mem fun c hc => isBlank_of_getLast?_trim hc
  case ordered => exact hordered
  case covering =>
    intro i c hc hvisible
    obtain ⟨s, hs, hcontains⟩ := exists_mem_sentences hc hvisible
    refine ⟨s, ⟨hs, hcontains⟩, ?_⟩
    rintro t ⟨ht, hcontains'⟩
    by_contra hne
    have hapart : (sentences text).Pairwise fun s t =>
        ¬ (s.span.contains i = true ∧ t.span.contains i = true) := by
      refine hordered.imp fun {s t} hle h => ?_
      simp only [Span.contains_iff, Segment.span] at h
      omega
    have : Std.Symm fun s t : Segment =>
        ¬ (s.span.contains i = true ∧ t.span.contains i = true) := ⟨fun s t h h' => h h'.symm⟩
    exact hapart.forall ht hs hne ⟨hcontains', hcontains⟩
  case unbroken =>
    intro s h i c d hc hd hstop
    have hend := (unbroken_of_mem_sentences h).not_ends hc hd
    refine Bool.eq_false_iff.mpr fun hblank => ?_
    have hstops : (some d).all isBlank = true := hblank
    rw [endsSentence_iff.mpr (Or.inr ⟨hstop, hstops⟩)] at hend
    cases hend
  case parted =>
    refine List.pairwise_filter.mpr (List.pairwise_map.mpr ?_)
    refine (placed_pairwise 0 0 (sentencePieces text)).imp_of_mem
      fun {p q} hp hq hle hne hne' => ?_
    simp only [Bool.not_eq_true', List.isEmpty_eq_false_iff] at hne hne'
    have hstart := q.trim_bounds
    have hfinish := (in_of_mem_placed_sentencePieces hq).finish_le
    have hpos : 0 < q.trim.length := List.length_pos_iff.mpr hne'
    have hlt : p.start + p.length < ([] ++ (sentencePieces text).flatten).length := by
      rw [List.nil_append, flatten_sentencePieces]
      omega
    obtain ⟨c, d, hc, hd, hend⟩ := ends_of_mem_placed (isChain_sentencePieces text) hp hlt
    rw [List.nil_append, flatten_sentencePieces] at hd
    exact parted_of_ends (in_of_mem_placed_sentencePieces hp) hne hc hd hend
      (hle.trans hstart.1)
  case stable =>
    intro s h
    obtain ⟨p, hp, rfl, hne⟩ := mem_sentences_iff.mp h
    exact (unbroken_of_mem_placed hp).sentences_trim hne

-- A no-break space is blank, and a stop in the middle of a word ends nothing.
example : sentences "One.\u00a0Two?!\n v1.2 ".toList =
    [⟨0, "One.".toList⟩, ⟨5, "Two?!".toList⟩, ⟨12, "v1.2".toList⟩] := by decide +kernel

end ProseCheck.Text
