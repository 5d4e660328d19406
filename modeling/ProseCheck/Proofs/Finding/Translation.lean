import Mathlib.Order.Monotone.Basic
import Mathlib.Order.WellFounded
import ProseCheck.Proofs.Finding.Checked

/-! # Positions and spans that are translated

Positions of the stripped text go to positions of the markdown in strictly increasing order, which
only the largest offset cuts off. So a span in the stripped text has a span in the markdown that
takes in nothing else of what was kept.
-/

namespace ProseCheck

/-- The spans have a position in common, if neither is empty. -/
def Span.Overlaps (s t : Span) : Prop := s.start < t.finish ∧ t.start < s.finish

namespace Markdown

variable {m : PositionMap} {j origin position offset length : Nat}

namespace PositionMap

/-! ### Without a largest offset -/

/-- Where a stripped position would lie in the markdown if there were no largest offset. -/
def extended (m : PositionMap) (position : Nat) : Nat :=
  match m.origin? position, m.origins.getLast? with
  | some origin, _ => origin
  | none, some last => last + (position - (m.length - 1))
  | none, none => position

theorem extended_of_origin? (h : m.origin? j = some origin) : m.extended j = origin := by
  rw [extended, h]

theorem origin?_eq_getLast? : m.origin? (m.length - 1) = m.origins.getLast? :=
  List.getLast?_eq_getElem?.symm

theorem extended_eq_add {last : Nat} (hlast : m.origins.getLast? = some last)
    (h : m.length ≤ j + 1) : m.extended j = last + (j - (m.length - 1)) := by
  cases horigin : m.origin? j with
  | some origin =>
    have hj : j = m.length - 1 := by
      have := lt_length_of_origin? horigin
      omega
    rw [hj, origin?_eq_getLast?, hlast] at horigin
    cases horigin
    rw [hj, extended_of_origin? (origin?_eq_getLast?.trans hlast), Nat.sub_self, Nat.add_zero]
  | none => rw [extended, horigin, hlast]

theorem extended_succ (h : m.length ≤ j + 1) : m.extended (j + 1) = m.extended j + 1 := by
  cases hlast : m.origins.getLast? with
  | some last =>
    rw [extended_eq_add hlast h, extended_eq_add hlast (Nat.le_succ_of_le h)]
    omega
  | none =>
    have hnone (i : Nat) : m.origin? i = none := by
      rw [origin?, List.getLast?_eq_none_iff.mp hlast, List.getElem?_nil]
    simp only [extended, hnone, hlast]

theorem Sorted.strictMono_extended (hm : m.Sorted) : StrictMono m.extended := by
  refine strictMono_nat_of_lt_succ fun j => ?_
  rcases Nat.lt_or_ge (j + 1) m.length with hlt | hge
  · obtain ⟨a, ha⟩ := origin?_of_lt (Nat.lt_of_succ_lt hlt)
    obtain ⟨b, hb⟩ := origin?_of_lt hlt
    rw [extended_of_origin? ha, extended_of_origin? hb, hm.lt_iff ha hb]
    exact Nat.lt_succ_self j
  · rw [extended_succ hge]
    exact Nat.lt_succ_self _

theorem Sorted.le_origin (hm : m.Sorted) (h : m.origin? j = some origin) : j ≤ origin := by
  rw [← extended_of_origin? h]
  exact hm.strictMono_extended.le_apply

/-! ### Positions -/

/-- Every position of the map is an offset and has one after it. -/
def Bounded (m : PositionMap) : Prop := ∀ j origin, m.origin? j = some origin → origin < maxOffset

theorem Bounded.toMarkdown_eq (hb : m.Bounded) (h : position ≤ maxOffset) :
    m.toMarkdown position = min (m.extended position) maxOffset := by
  unfold toMarkdown extended
  cases horigin : m.origin? position with
  | some origin => exact (Nat.min_eq_left (Nat.le_of_lt (hb _ _ horigin))).symm
  | none =>
    cases m.origins.getLast? with
    | some last => rfl
    | none => exact (Nat.min_eq_left h).symm

theorem Sorted.le_toMarkdown (hm : m.Sorted) (hb : m.Bounded) (h : position ≤ maxOffset) :
    position ≤ m.toMarkdown position := by
  rw [hb.toMarkdown_eq h]
  exact Nat.le_min.mpr ⟨hm.strictMono_extended.le_apply, h⟩

theorem Bounded.toMarkdown_le (hb : m.Bounded) (h : position ≤ maxOffset) :
    m.toMarkdown position ≤ maxOffset := by
  rw [hb.toMarkdown_eq h]
  exact Nat.min_le_right _ _

/-- Of two positions the first comes first, up to the largest offset. -/
theorem Sorted.toMarkdown_lt (hm : m.Sorted) (hb : m.Bounded) (hlt : j < position)
    (h : position ≤ maxOffset) :
    m.toMarkdown j < m.toMarkdown position ∨
      m.toMarkdown j = maxOffset ∧ m.toMarkdown position = maxOffset := by
  have hext := hm.strictMono_extended hlt
  rw [hb.toMarkdown_eq h, hb.toMarkdown_eq (Nat.le_trans (Nat.le_of_lt hlt) h)]
  omega

theorem Sorted.toMarkdown_mono (hm : m.Sorted) (hb : m.Bounded) (hle : j ≤ position)
    (h : position ≤ maxOffset) : m.toMarkdown j ≤ m.toMarkdown position := by
  rcases Nat.lt_or_eq_of_le hle with hlt | rfl
  · rcases hm.toMarkdown_lt hb hlt h with hlt | ⟨hj, hposition⟩
    · exact Nat.le_of_lt hlt
    · rw [hj, hposition]
  · exact Nat.le_refl _

/-! ### Spans -/

theorem toMarkdownSpan?_eq (hpos : 0 < length) (hle : offset + (length - 1) ≤ maxOffset)
    (hlt : m.toMarkdown (offset + (length - 1)) < maxOffset)
    (horder : m.toMarkdown offset ≤ m.toMarkdown (offset + (length - 1))) :
    m.toMarkdownSpan? offset length =
      some ⟨m.toMarkdown offset, m.toMarkdown (offset + (length - 1)) + 1⟩ := by
  have hlast : addOffset? offset (length - 1) = some (offset + (length - 1)) := if_pos hle
  have hfinish : addOffset? (m.toMarkdown (offset + (length - 1))) 1 =
      some (m.toMarkdown (offset + (length - 1)) + 1) := if_pos hlt
  simp only [toMarkdownSpan?, guard, if_pos hpos, hlast, hfinish, if_pos (Nat.lt_succ_of_le horder),
    Option.bind_eq_bind, Option.pure_def, Option.bind_some]

theorem Sorted.toMarkdownSpan?_eq_none_iff (hm : m.Sorted) (hb : m.Bounded) :
    m.toMarkdownSpan? offset length = none ↔
      length = 0 ∨ maxOffset < offset + (length - 1) ∨
        m.toMarkdown (offset + (length - 1)) = maxOffset := by
  rcases Nat.eq_zero_or_pos length with rfl | hpos
  · exact ⟨fun _ => Or.inl rfl, fun _ => rfl⟩
  rcases Nat.lt_or_ge maxOffset (offset + (length - 1)) with hover | hle
  · have hlast : addOffset? offset (length - 1) = none := if_neg (Nat.not_le_of_lt hover)
    simp only [toMarkdownSpan?, hlast, Option.bind_eq_bind, Option.bind_none, Option.bind_fun_none,
      hover, true_or, or_true]
  rcases Nat.lt_or_eq_of_le (hb.toMarkdown_le hle) with hlt | heq
  · have horder := hm.toMarkdown_mono hb (Nat.le_add_right offset (length - 1)) hle
    rw [toMarkdownSpan?_eq hpos hle hlt horder]
    constructor
    · intro h
      cases h
    · rintro (h | h | h) <;> omega
  · have hlast : addOffset? offset (length - 1) = some (offset + (length - 1)) := if_pos hle
    have hfinish : addOffset? maxOffset 1 = none := rfl
    simp only [toMarkdownSpan?, hlast, heq, hfinish, Option.bind_eq_bind, Option.bind_none,
      Option.bind_some, Option.bind_fun_none, or_true]

theorem Sorted.exists_toMarkdownSpan? (hm : m.Sorted) (hb : m.Bounded) (hpos : 0 < length)
    (hle : offset + length ≤ m.length) : ∃ span, m.toMarkdownSpan? offset length = some span := by
  obtain ⟨last, hlast⟩ := origin?_of_lt (m := m) (i := offset + (length - 1)) (by omega)
  have hbound := hb _ _ hlast
  have hindex := hm.le_origin hlast
  refine Option.ne_none_iff_exists'.mp fun hnone => ?_
  rcases (hm.toMarkdownSpan?_eq_none_iff hb).mp hnone with h | h | h
  · omega
  · omega
  · rw [toMarkdown_of_origin? hlast] at h
    omega

theorem Sorted.contains_toMarkdownSpan? (hm : m.Sorted) {span : Span}
    (h : m.toMarkdownSpan? offset length = some span) (hle : offset + length ≤ m.length)
    (horigin : m.origin? j = some origin) :
    span.contains origin = true ↔ offset ≤ j ∧ j < offset + length := by
  obtain ⟨hpos, -, hfirst, last, hlast, hfinish⟩ := toMarkdownSpan?_spec h hle
  have hstart := hm.le_iff hfirst horigin
  have hend := hm.le_iff horigin hlast
  rw [Span.contains, Bool.and_eq_true, decide_eq_true_iff, decide_eq_true_iff, hfinish,
    Nat.lt_succ_iff, hstart, hend]
  omega

theorem Sorted.toMarkdownSpan?_order (hm : m.Sorted) {offset' length' : Nat} {s t : Span}
    (hs : m.toMarkdownSpan? offset length = some s) (hsle : offset + length ≤ m.length)
    (ht : m.toMarkdownSpan? offset' length' = some t) (htle : offset' + length' ≤ m.length) :
    (s.start ≤ t.start ↔ offset ≤ offset') ∧
      (s.finish ≤ t.finish ↔ offset + length ≤ offset' + length') ∧
      (s.start < t.finish ↔ offset < offset' + length') ∧
      (t.start < s.finish ↔ offset' < offset + length) := by
  obtain ⟨hpos, -, hfirst, last, hlast, hfinish⟩ := toMarkdownSpan?_spec hs hsle
  obtain ⟨hpos', -, hfirst', last', hlast', hfinish'⟩ := toMarkdownSpan?_spec ht htle
  have hstarts := hm.le_iff hfirst hfirst'
  have hends := hm.le_iff hlast hlast'
  have hbefore := hm.le_iff hfirst hlast'
  have hafter := hm.le_iff hfirst' hlast
  rw [hfinish, hfinish']
  omega

end PositionMap

/-! ### Stripped documents -/

theorem origin_lt_of_strip {markdown : List Char}
    (h : (strip markdown).positions.origin? j = some origin) : origin < markdown.length := by
  obtain ⟨e, he, rfl⟩ := Stripped.origin?_eq_some_iff.mp h
  exact strip_origin_lt (List.mem_of_getElem? he)

theorem bounded_strip {markdown : List Char} (h : markdown.length ≤ maxOffset) :
    (strip markdown).positions.Bounded :=
  fun _ _ horigin => Nat.lt_of_lt_of_le (origin_lt_of_strip horigin) h

theorem length_strip_le (markdown : List Char) : (strip markdown).length ≤ markdown.length := by
  rcases Nat.eq_zero_or_pos (strip markdown).length with hzero | hpos
  · rw [hzero]
    exact Nat.zero_le _
  · obtain ⟨origin, horigin⟩ := PositionMap.origin?_of_lt (m := (strip markdown).positions)
      (i := (strip markdown).length - 1) (by rw [Stripped.length_positions]; omega)
    have hle := (strip_sorted markdown).le_origin horigin
    have hlt := origin_lt_of_strip horigin
    omega

/-- A span of the stripped text goes to one of the markdown in which nothing else was kept. Spans
keep their order, and so do positions up to the largest offset. No sum on the way is too large, and
a span is lost only where no offset is left behind it. -/
theorem strip_translates {markdown : List Char} (h : markdown.length ≤ maxOffset) :
    let m := (strip markdown).positions
    (∀ offset length, 0 < length → offset + length ≤ (strip markdown).length →
      ∃ span, m.toMarkdownSpan? offset length = some span ∧ span.start < span.finish ∧
        span.finish ≤ markdown.length ∧ ∀ j origin, m.origin? j = some origin →
          (span.contains origin = true ↔ offset ≤ j ∧ j < offset + length)) ∧
    (∀ offset length offset' length' s t, offset + length ≤ (strip markdown).length →
      offset' + length' ≤ (strip markdown).length → m.toMarkdownSpan? offset length = some s →
      m.toMarkdownSpan? offset' length' = some t →
      (s.Overlaps t ↔ Span.Overlaps ⟨offset, offset + length⟩ ⟨offset', offset' + length'⟩) ∧
      (s.start ≤ t.start ↔ offset ≤ offset') ∧
      (s.finish ≤ t.finish ↔ offset + length ≤ offset' + length') ∧
      (s.finish ≤ t.start ↔ offset + length ≤ offset')) ∧
    (∀ position ≤ maxOffset, m.toMarkdownChecked? position = some (m.toMarkdown position) ∧
      position ≤ m.toMarkdown position ∧ m.toMarkdown position ≤ maxOffset ∧
      ∀ earlier < position, m.toMarkdown earlier < m.toMarkdown position ∨
        m.toMarkdown earlier = maxOffset ∧ m.toMarkdown position = maxOffset) ∧
    ∀ offset length,
      m.toMarkdownSpanChecked? offset length = some (m.toMarkdownSpan? offset length) ∧
      (m.toMarkdownSpan? offset length = none ↔ length = 0 ∨ maxOffset < offset + (length - 1) ∨
        m.toMarkdown (offset + (length - 1)) = maxOffset) := by
  intro m
  have hm : m.Sorted := strip_sorted markdown
  have hb : m.Bounded := bounded_strip h
  have hlength : m.length = (strip markdown).length := Stripped.length_positions _
  rw [← hlength]
  refine ⟨?_, ?_, ?_, ?_⟩
  · intro offset length hpos hle
    obtain ⟨span, hspan⟩ := hm.exists_toMarkdownSpan? hb hpos hle
    obtain ⟨-, -, hfirst, last, hlast, hfinish⟩ := PositionMap.toMarkdownSpan?_spec hspan hle
    have horder := (hm.le_iff hfirst hlast).mpr (by omega)
    have hbound := origin_lt_of_strip hlast
    refine ⟨span, hspan, by omega, by omega, ?_⟩
    intro j origin horigin
    exact hm.contains_toMarkdownSpan? hspan hle horigin
  · intro offset length offset' length' s t hsle htle hs ht
    obtain ⟨hstarts, hends, hbefore, hafter⟩ := hm.toMarkdownSpan?_order hs hsle ht htle
    refine ⟨and_congr hbefore hafter, hstarts, hends, ?_⟩
    rw [← Nat.not_lt, hafter, Nat.not_lt]
  · intro position hposition
    refine ⟨m.toMarkdownChecked?_eq position, hm.le_toMarkdown hb hposition,
      hb.toMarkdown_le hposition, ?_⟩
    intro earlier hearlier
    exact hm.toMarkdown_lt hb hearlier hposition
  · intro offset length
    exact ⟨m.toMarkdownSpanChecked?_eq offset length, hm.toMarkdownSpan?_eq_none_iff hb⟩

/-- The span of a word leaves the markers around it out, and no span goes on to the last offset. -/
theorem strip_translates_bold :
    let markdown := "**Bold** `x` end".toList
    let m := (strip markdown).positions
    markdown.length ≤ maxOffset ∧ m.toMarkdownSpan? 0 4 = some ⟨2, 6⟩ ∧
      m.toMarkdownSpan? 4 2 = some ⟨8, 13⟩ ∧ ¬ Span.Overlaps ⟨2, 6⟩ ⟨8, 13⟩ ∧
      m.toMarkdown 100 < m.toMarkdown maxOffset ∧
      m.toMarkdownSpan? 1 maxOffset = none := by
  intro markdown m
  have hlength : markdown.length ≤ maxOffset := by decide
  have hword : m.toMarkdownSpan? 0 4 = some ⟨2, 6⟩ := by decide +kernel
  have hgap : m.toMarkdownSpan? 4 2 = some ⟨8, 13⟩ := by decide +kernel
  have hend : m.toMarkdown 100 ≠ maxOffset := by decide +kernel
  obtain ⟨-, horder, hpositions, hnone⟩ := strip_translates hlength
  obtain ⟨hoverlaps, -⟩ := horder 0 4 4 2 _ _ (by decide +kernel) (by decide +kernel) hword hgap
  obtain ⟨-, -, -, hlt⟩ := hpositions maxOffset (Nat.le_refl _)
  refine ⟨hlength, hword, hgap, ?_, ?_, ?_⟩
  · rw [hoverlaps]
    rintro ⟨-, hlt⟩
    exact absurd hlt (by decide)
  · exact (hlt 100 (by decide)).resolve_right fun h => hend h.1
  · have hlast : m.toMarkdown (1 + (maxOffset - 1)) = maxOffset := by decide +kernel
    exact (hnone 1 maxOffset).2.mpr (Or.inr (Or.inr hlast))

end Markdown
end ProseCheck
