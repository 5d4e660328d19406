import Mathlib.Data.List.Nodup
import Mathlib.Tactic.Common
import ProseCheck.Proofs.Finding.Made
import ProseCheck.Proofs.Grazie.Answer
import ProseCheck.Proofs.Text.Segment
import ProseCheck.Proofs.Text.Utf16

/-! # Problems of sentences that come back

What the service says about a sentence stands at the position of the sentence and repeats it. Only
where it does are its problems taken, one after the other, and each of them that highlights some
characters becomes a finding over the same characters of the text.
-/

namespace ProseCheck.Grazie

variable {answer : List CheckedSentence} {sent : List Text.Segment} {text sentence : List Char}
  {items seen : List String} {span : Span} {f : Finding}

/-! ### Replacements -/

/-- `distinct`, when some items have been seen before. -/
def distinctFrom (seen items : List String) : List String :=
  items.foldl (fun seen item => if seen.contains item then seen else seen ++ [item]) seen

theorem distinctFrom_cons_of_mem {item : String} (h : item ∈ seen) :
    distinctFrom seen (item :: items) = distinctFrom seen items := by
  rw [distinctFrom, List.foldl_cons, if_pos (List.contains_iff_mem.mpr h), distinctFrom]

theorem distinctFrom_cons_of_not_mem {item : String} (h : item ∉ seen) :
    distinctFrom seen (item :: items) = distinctFrom (seen ++ [item]) items := by
  rw [distinctFrom, List.foldl_cons, if_neg (mt List.contains_iff_mem.mp h), distinctFrom]

theorem nodup_distinctFrom (h : seen.Nodup) : (distinctFrom seen items).Nodup := by
  induction items generalizing seen with
  | nil => exact h
  | cons item items ih =>
    by_cases hitem : item ∈ seen
    · rw [distinctFrom_cons_of_mem hitem]
      exact ih h
    · rw [distinctFrom_cons_of_not_mem hitem]
      refine ih (List.nodup_append.mpr ⟨h, List.nodup_singleton _, fun a ha b hb => ?_⟩)
      rintro rfl
      exact hitem (List.mem_singleton.mp hb ▸ ha)

theorem mem_distinctFrom {x : String} : x ∈ distinctFrom seen items ↔ x ∈ seen ∨ x ∈ items := by
  induction items generalizing seen with
  | nil => simp [distinctFrom]
  | cons item items ih =>
    by_cases hitem : item ∈ seen
    · rw [distinctFrom_cons_of_mem hitem, ih, List.mem_cons, ← or_assoc]
      refine or_congr_left ⟨Or.inl, ?_⟩
      rintro (hx | rfl)
      · exact hx
      · exact hitem
    · rw [distinctFrom_cons_of_not_mem hitem, ih, List.mem_append, List.mem_singleton,
        List.mem_cons, or_assoc]

theorem nodup_distinct (items : List String) : (distinct items).Nodup :=
  nodup_distinctFrom List.nodup_nil

theorem mem_distinct {x : String} : x ∈ distinct items ↔ x ∈ items :=
  mem_distinctFrom.trans (by simp)

/-! ### Highlights -/

namespace ReportedProblem

variable {p : ReportedProblem}

/-- The ends of the highlight point at the ends of the span. -/
structure Highlights (p : ReportedProblem) (sentence : List Char) (span : Span) : Prop where
  start_nonneg : 0 ≤ p.highlight.start
  finish_nonneg : 0 ≤ p.highlight.finish
  first : Text.Points sentence p.highlight.start.toNat span.start
  last : Text.Points sentence p.highlight.finish.toNat span.finish
  ordered : span.start ≤ span.finish

theorem chars?_eq_some_iff_highlights :
    p.highlight.chars? sentence = some span ↔ p.Highlights sentence span := by
  rw [Span16.chars?_eq_some_iff, Text.charOffset?_eq_some_iff, Text.charOffset?_eq_some_iff]
  constructor
  · rintro ⟨⟨hstart, hfinish⟩, hfirst, hlast, hle⟩
    exact ⟨hstart, hfinish, hfirst, hlast, hle⟩
  · rintro ⟨hstart, hfinish, hfirst, hlast, hle⟩
    exact ⟨⟨hstart, hfinish⟩, hfirst, hlast, hle⟩

def marks (p : ReportedProblem) (sentence : List Char) : Bool :=
  (p.highlight.chars? sentence).any fun span => decide (span.start < span.finish)

theorem isSome_finding?_eq (p : ReportedProblem) (s : Text.Segment) :
    (p.finding? s).isSome = p.marks s.text := by
  rw [finding?, marks]
  cases p.highlight.chars? s.text with
  | none => rfl
  | some span => by_cases h : span.start < span.finish <;> simp [h]

theorem replacements_of_finding? {s : Text.Segment} (h : p.finding? s = some f)
    (hspan : p.Highlights s.text span) : f.replacements.Nodup ∧
      ∀ r, r ∈ f.replacements ↔
        ∃ fix ∈ p.fixes, (fix.replacement? s.text span).map String.ofList = some r := by
  rw [← chars?_eq_some_iff_highlights] at hspan
  simp only [finding?, hspan, Option.bind_eq_bind, Option.bind_some, Option.bind_eq_some_iff,
    Option.pure_def, Option.some.injEq] at h
  obtain ⟨-, -, rfl⟩ := h
  refine ⟨nodup_distinct _, fun r => ?_⟩
  simp only [mem_distinct, List.mem_map, List.mem_filterMap, Option.map_eq_some_iff]
  constructor
  · rintro ⟨chars, ⟨fix, hfix, hchars⟩, rfl⟩
    exact ⟨fix, hfix, chars, hchars, rfl⟩
  · rintro ⟨fix, hfix, chars, hchars, rfl⟩
    exact ⟨chars, ⟨fix, hfix, hchars⟩, rfl⟩

end ReportedProblem

/-! ### Sentences -/

/-- A problem in a sentence that came back, with the position of the sentence. -/
structure Echo where
  index : Nat
  sentence : Text.Segment
  checked : CheckedSentence
  problem : ReportedProblem

/-- The problems in the sentences that an answer repeats, in the order of the answer. -/
def echoes (answer : List CheckedSentence) (sent : List Text.Segment) : List Echo :=
  (sent.zip answer).zipIdx.flatMap fun ((sentence, checked), index) =>
    if checked.sentence.toList = sentence.text then
      checked.problems.map fun problem => ⟨index, sentence, checked, problem⟩
    else []

theorem mem_echoes {e : Echo} : e ∈ echoes answer sent ↔
    sent[e.index]? = some e.sentence ∧ answer[e.index]? = some e.checked ∧
      e.checked.sentence.toList = e.sentence.text ∧ e.problem ∈ e.checked.problems := by
  simp only [echoes, List.mem_flatMap, Prod.exists, List.mk_mem_zipIdx_iff_getElem?,
    List.getElem?_zip_eq_some]
  constructor
  · rintro ⟨sentence, checked, index, ⟨hsentence, hchecked⟩, he⟩
    split at he
    next hecho =>
      obtain ⟨problem, hproblem, rfl⟩ := List.mem_map.mp he
      exact ⟨hsentence, hchecked, hecho, hproblem⟩
    next => cases he
  · rintro ⟨hsentence, hchecked, hecho, hproblem⟩
    refine ⟨e.sentence, e.checked, e.index, ⟨hsentence, hchecked⟩, ?_⟩
    rw [if_pos hecho]
    exact List.mem_map.mpr ⟨e.problem, hproblem, rfl⟩

theorem findings_eq_filterMap_echoes (answer : List CheckedSentence) (sent : List Text.Segment) :
    findings answer sent =
      (echoes answer sent).filterMap fun e => e.problem.finding? e.sentence := by
  rw [findings, echoes, List.filterMap_flatMap]
  conv_lhs => rw [← List.zipIdx_map_fst 0 (sent.zip answer), List.flatMap_map]
  refine List.flatMap_congr ?_
  rintro ⟨⟨sentence, checked⟩, index⟩ -
  by_cases hecho : checked.sentence.toList = sentence.text
  · simp only [if_pos hecho, List.filterMap_map]
    rfl
  · simp only [if_neg hecho, List.filterMap_nil]

/-- The finding lies in the sentence of the problem, over the characters that the problem
highlights. -/
structure Echo.PlacedAt (e : Echo) (text : List Char) (span : Span) (f : Finding) : Prop where
  highlights : e.problem.Highlights e.checked.sentence.toList span
  whole : ∀ s, s.start ≤ s.finish → s.finish ≤ e.sentence.length →
    e.problem.Covers16 (Text.span16 e.checked.sentence.toList s) → span = s
  offset_eq : f.offset = e.sentence.start + span.start
  length_eq : f.length = span.length
  length_pos : 0 < f.length
  start_le : e.sentence.start ≤ f.offset
  finish_le : f.offset + f.length ≤ e.sentence.start + e.sentence.length
  covers : ∃ covered, Text.slice? e.checked.sentence.toList span = some covered ∧
    Text.slice? text ⟨f.offset, f.offset + f.length⟩ = some covered
  nodup : f.replacements.Nodup
  suggests : ∀ r, r ∈ f.replacements ↔ ∃ fix ∈ e.problem.fixes,
    (fix.replacement? e.sentence.text span).map String.ofList = some r

theorem exists_placedAt {e : Echo} (hin : e.sentence.In text)
    (hecho : e.checked.sentence.toList = e.sentence.text)
    (hf : e.problem.finding? e.sentence = some f) : ∃ span, e.PlacedAt text span f := by
  obtain ⟨span, hspan, hlt, hoffset, hlength⟩ := ReportedProblem.span_of_finding? hf
  have hhighlights := ReportedProblem.chars?_eq_some_iff_highlights.mp hspan
  obtain ⟨hnodup, hsuggests⟩ := ReportedProblem.replacements_of_finding? hf hhighlights
  have hend : span.finish ≤ e.sentence.length := hhighlights.last.le_length
  have hsum : f.offset + f.length = e.sentence.start + span.finish := by
    rw [hoffset, hlength, Span.length]
    omega
  obtain ⟨covered, hcovered⟩ : ∃ covered, Text.slice? e.sentence.text span = some covered :=
    ⟨_, Text.slice?_eq_some_iff.mpr ⟨Nat.le_of_lt hlt, hend, rfl⟩⟩
  refine ⟨span, ?_, fun s hs hlen hcovers => ?_, hoffset, hlength, ?_, ?_, ?_, ⟨covered, ?_, ?_⟩,
    hnodup, hsuggests⟩
  · rwa [hecho]
  · exact ReportedProblem.span_eq_of_covers16 hspan (hecho ▸ hcovers) hs hlen
  · rw [hlength]
    exact Nat.sub_pos_of_lt hlt
  · rw [hoffset]
    exact Nat.le_add_right ..
  · rw [hsum]
    exact Nat.add_le_add_left hend _
  · rwa [hecho]
  · have hshift := Text.slice?_shift hin hcovered
    rw [Span.shift, Text.Segment.span, Nat.add_comm, Nat.add_comm span.finish] at hshift
    rwa [hsum, hoffset]

/-- The problems in the sentences that an answer repeats at their positions, as far as they
highlight some characters, become the findings in their order. Each finding lies in the sentence of
its problem, over the characters that the problem highlights there, and no suggestion comes
twice. -/
theorem findings_placed (text : List Char) (answer : List CheckedSentence) :
    List.Forall₂ (fun e f => (Text.sentences text)[e.index]? = some e.sentence ∧
        answer[e.index]? = some e.checked ∧ e.checked.sentence.toList = e.sentence.text ∧
        e.problem ∈ e.checked.problems ∧ ∃ span, e.PlacedAt text span f)
      ((echoes answer (Text.sentences text)).filter fun e => e.problem.marks e.sentence.text)
      (findings answer (Text.sentences text)) := by
  rw [findings_eq_filterMap_echoes]
  refine forall₂_filterMap (fun e _ => (e.problem.isSome_finding?_eq e.sentence).symm)
    fun e he f hf => ?_
  obtain ⟨hsentence, hchecked, hecho, hproblem⟩ := mem_echoes.mp he
  have hin := Text.in_of_mem_sentences (List.mem_of_getElem? hsentence)
  exact ⟨hsentence, hchecked, hecho, hproblem, exists_placedAt hin hecho hf⟩

end ProseCheck.Grazie
