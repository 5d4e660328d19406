import Mathlib.Tactic.Common
import ProseCheck.Proofs.Finding.Replacement
import ProseCheck.Proofs.Text.Indexed
import ProseCheck.Report

/-! # What a label is at

A report labels some bytes of a file, and a replacement counts characters. Both mean the same part
of the markdown: the one that is gone whatever takes its place.
-/

namespace ProseCheck

open Markdown

variable {p : Problem} {markdown front taken back front' taken' back' : List Char}

/-- A front is no longer than another if both make the same text with whatever comes behind them. -/
theorem length_le_of_forall_append {α : Type} {x y : α} (hne : x ≠ y) {as bs cs ds : List α}
    (h : ∀ new, as ++ new ++ bs = cs ++ new ++ ds) : cs.length ≤ as.length := by
  refine Nat.le_of_not_lt fun hlt => hne ?_
  have hat (z : α) : cs[as.length]? = some z := by
    have hz := congrArg (·[as.length]?) (h [z])
    simp only [List.append_assoc, List.getElem?_append_right (Nat.le_refl _), Nat.sub_self,
      List.getElem?_append_left hlt] at hz
    exact hz.symm
  exact Option.some.inj ((hat x).symm.trans (hat y))

namespace Problem

/-- Whatever the replacement is, it takes the place of the middle one of three parts. -/
structure Takes (p : Problem) (markdown front taken back : List Char) : Prop where
  markdown_eq : front ++ taken ++ back = markdown
  replaceWith?_eq : ∀ replacement,
    p.replaceWith? markdown replacement = some (.ok (front ++ replacement ++ back))

theorem Takes.unique (h : p.Takes markdown front taken back)
    (h' : p.Takes markdown front' taken' back') :
    front = front' ∧ taken = taken' ∧ back = back' := by
  have hsame (new : List Char) : front ++ new ++ back = front' ++ new ++ back' :=
    Except.ok.inj (Option.some.inj ((h.replaceWith?_eq new).symm.trans (h'.replaceWith?_eq new)))
  have hne : 'a' ≠ 'b' := by decide
  have hlength : front.length = front'.length :=
    Nat.le_antisymm (length_le_of_forall_append hne fun new => (hsame new).symm)
      (length_le_of_forall_append hne hsame)
  have hnone := hsame []
  rw [List.append_nil, List.append_nil] at hnone
  obtain ⟨rfl, rfl⟩ := List.append_inj hnone hlength
  have hparts := h.markdown_eq.trans h'.markdown_eq.symm
  exact ⟨rfl, List.append_cancel_left (List.append_cancel_right hparts), rfl⟩

end Problem

/-! ### Places in the markdown -/

theorem Problem.parts_eq (hle : p.markdownSpan.start ≤ p.markdownSpan.finish)
    (markdown : List Char) : markdown.take p.markdownSpan.start ++
      (markdown.drop p.markdownSpan.start).take p.markdownSpan.length ++
        markdown.drop p.markdownSpan.finish = markdown := by
  rw [← List.take_add, Span.length, Nat.add_sub_of_le hle, List.take_append_drop]

theorem Problem.takes_place (hle : p.markdownSpan.start ≤ p.markdownSpan.finish)
    (hfinish : p.markdownSpan.finish ≤ markdown.length)
    (hmax : p.markdownSpan.finish ≤ maxOffset) :
    p.Takes markdown (markdown.take p.markdownSpan.start)
      ((markdown.drop p.markdownSpan.start).take p.markdownSpan.length)
      (markdown.drop p.markdownSpan.finish) where
  markdown_eq := parts_eq hle markdown
  replaceWith?_eq _ := by
    rw [replaceWith?, if_neg (Nat.not_lt_of_le hmax), if_pos ⟨Nat.le_trans hle hfinish, hfinish⟩]

theorem Report.byteSpan_eq (hle : p.markdownSpan.start ≤ p.markdownSpan.finish)
    (hfinish : p.markdownSpan.finish ≤ markdown.length) :
    byteSpan markdown p = ⟨Text.length8 (markdown.take p.markdownSpan.start),
      Text.length8 (markdown.take p.markdownSpan.finish)⟩ := by
  have hstart := Nat.le_trans hle hfinish
  simp only [byteSpan, Text.byteOffset?_eq, if_pos hstart, if_pos hfinish, Option.getD_some]

theorem Report.covers_place (hle : p.markdownSpan.start ≤ p.markdownSpan.finish)
    (hfinish : p.markdownSpan.finish ≤ markdown.length) :
    Text.Covers (byteSpan markdown p) markdown (markdown.take p.markdownSpan.start)
      ((markdown.drop p.markdownSpan.start).take p.markdownSpan.length)
      (markdown.drop p.markdownSpan.finish) where
  text_eq := Problem.parts_eq hle markdown
  start_eq := by rw [byteSpan_eq hle hfinish]
  finish_eq := by
    rw [byteSpan_eq hle hfinish, ← List.take_add, Span.length, Nat.add_sub_of_le hle]

/-- The part that a replacement takes out is the one whose bytes the label is at. -/
theorem Report.takes_iff_covers (hle : p.markdownSpan.start ≤ p.markdownSpan.finish)
    (hfinish : p.markdownSpan.finish ≤ markdown.length)
    (hmax : p.markdownSpan.finish ≤ maxOffset) :
    p.Takes markdown front taken back ↔
      Text.Covers (byteSpan markdown p) markdown front taken back := by
  constructor
  · intro h
    obtain ⟨rfl, rfl, rfl⟩ := h.unique (p.takes_place hle hfinish hmax)
    exact covers_place hle hfinish
  · intro h
    obtain ⟨rfl, rfl, rfl⟩ := h.unique (covers_place hle hfinish)
    exact p.takes_place hle hfinish hmax

/-- Offsets, slices and beginnings of a text come out the same by its bytes and by its characters.
So the label of a problem is at the bytes of the very part of the markdown that a replacement takes
out, and the place that is told is where this part begins. -/
theorem labels_replaced_bytes (text : List Char) :
    (∀ k, Text.byteOffsetIndexed? text k = Text.byteOffset? text k ∧
      ∀ byte, Text.byteOffset? text k = some byte ↔
        k ≤ text.length ∧ byte = (String.ofList (text.take k)).utf8ByteSize) ∧
    (∀ a b, (Text.Storable text →
        Text.sliceIndexed? text ⟨a, b⟩ = some (Text.slice? text ⟨a, b⟩)) ∧
      ∀ piece, Text.slice? text ⟨a, b⟩ = some piece ↔ a ≤ b ∧ b ≤ text.length ∧
        ∃ front back, front ++ piece ++ back = text ∧ front.length = a ∧ piece.length = b - a) ∧
    (∀ limit, Text.truncateIndexed? text limit = some (Text.truncate text limit) ∧
      ∀ kept cut, Text.truncate text limit = (kept, cut) ↔
        kept <+: text ∧ kept.length = min limit text.length ∧
          (cut = true ↔ limit < text.length)) ∧
    ∀ file dictionary findings, ∀ p ∈ problems (strip text) dictionary findings,
      ∃ span, (Report.ofProblem file text p).bytes = some span ∧
        (∀ front taken back,
          p.Takes text front taken back ↔ Text.Covers span text front taken back) ∧
        ∃ front taken back, p.Takes text front taken back ∧ taken ≠ [] ∧
          (Report.ofProblem file text p).location = some (.ofIndex file text front.length) ∧
          (String.ofList text).toUTF8.extract span.start span.finish =
            (String.ofList taken).toUTF8 := by
  refine ⟨fun k => ⟨Text.byteOffsetIndexed?_eq text k, fun byte => Text.byteOffset?_eq_some_iff⟩,
    fun a b => ⟨fun h => ?_, fun piece => Text.slice?_eq_some_iff_parts⟩,
    fun limit => ⟨Text.truncateIndexed?_eq text limit, fun kept cut => Text.truncate_eq_iff⟩,
    fun file dictionary findings p hp => ?_⟩
  · exact Text.sliceIndexed?_eq (Nat.le_trans h (by decide)) _
  · obtain ⟨hlt, hfinish, hmax⟩ := Problem.bounds_of_mem hp
    have hle := Nat.le_of_lt hlt
    refine ⟨_, rfl, fun front taken back => Report.takes_iff_covers hle hfinish hmax, _, _, _,
      p.takes_place hle hfinish hmax, ?_, ?_, (Report.covers_place hle hfinish).extract_eq⟩
    · rw [Ne, List.take_eq_nil_iff, List.drop_eq_nil_iff, Span.length]
      omega
    · rw [List.length_take_of_le (Nat.le_trans hle hfinish)]
      rfl

/-- Two characters before the word and one in it take two bytes each. -/
theorem labels_replaced_bytes_umlaut :
    let markdown := "Ünïcode **wörd** 😀".toList
    let p : Problem := ⟨misspelling 8 4 "word", 10, 4⟩
    Text.Storable markdown ∧ p ∈ problems (strip markdown) .empty [p.finding] ∧
      Text.sliceIndexed? markdown ⟨10, 14⟩ = some (some "wörd".toList) ∧
      p.Takes markdown "Ünïcode **".toList "wörd".toList "** 😀".toList ∧
      (Report.ofProblem "notes.md" markdown p).bytes = some ⟨12, 17⟩ := by
  intro markdown p
  have hstorable : Text.Storable markdown := by decide +kernel
  have hp : p ∈ problems (strip markdown) .empty [p.finding] := by decide +kernel
  obtain ⟨-, hslice, -, hlabel⟩ := labels_replaced_bytes markdown
  obtain ⟨span, hspan, htakes, -⟩ := hlabel "notes.md" .empty [p.finding] p hp
  have hbytes : (Report.ofProblem "notes.md" markdown p).bytes = some ⟨12, 17⟩ := by
    decide +kernel
  obtain rfl := Option.some.inj (hspan.symm.trans hbytes)
  refine ⟨hstorable, hp, ?_, (htakes _ _ _).mpr ⟨?_, ?_, ?_⟩, hbytes⟩
  · rw [(hslice 10 14).1 hstorable]
    decide +kernel
  all_goals decide +kernel

end ProseCheck
