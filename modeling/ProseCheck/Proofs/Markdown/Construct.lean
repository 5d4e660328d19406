import Mathlib.Tactic.Common
import ProseCheck.Markdown.Stripped
import ProseCheck.Proofs.Markdown.Link

/-! # What stands at a cursor

Each construct has conditions of its own, of which all else about the reading of a document
follows: how far the cursor moves, what is kept, and that the cursor stays in the document.
-/

namespace ProseCheck.Markdown

namespace Construct

/-- The conditions under which a construct stands at a cursor that has `c` and then `cs` ahead. -/
def Stands (cur : Cursor) (c : Char) (cs : List Char) : Construct → Prop
  | fence => startsFence (c :: cs) = true
  | fenced => startsFence (c :: cs) = false ∧ cur.fenced = true
  | code n => c = backtick ∧ cur.fenced = false ∧ startsFence (c :: cs) = false ∧
      codeSpan? (c :: cs) = some n
  | backticks n => c = backtick ∧ cur.fenced = false ∧ startsFence (c :: cs) = false ∧
      codeSpan? (c :: cs) = none ∧ n = runLength (c :: cs)
  | linkEnd n => c ≠ backtick ∧ cur.fenced = false ∧
      ∃ t, cur.link = some t ∧ cur.offset = t.closeBracket ∧ n = t.finish - cur.offset
  | image t => c = '!' ∧ cur.fenced = false ∧ cs.head? = some '[' ∧ linkTarget? cs = some t
  | linkStart t => c = '[' ∧ cur.fenced = false ∧
      cur.link.filter (cur.offset ≤ ·.closeBracket) = none ∧ linkTarget? (c :: cs) = some t
  | marker => (c = '*' ∨ c = '_') ∧ cur.fenced = false
  | html n => c ≠ backtick ∧ cur.fenced = false ∧ html? (c :: cs) = some n
  | plain => c ≠ backtick ∧ cur.fenced = false

theorem stands_construct (cur : Cursor) (c : Char) (cs : List Char) :
    (cur.construct c cs).Stands cur c cs := by
  unfold Cursor.construct
  dsimp only
  split
  · assumption
  rename_i hfence
  rw [Bool.not_eq_true] at hfence
  split
  · exact ⟨hfence, ‹_›⟩
  rename_i hfenced
  rw [Bool.not_eq_true] at hfenced
  split
  · rename_i hc
    split
    · exact ⟨hc, hfenced, hfence, ‹_›⟩
    · exact ⟨hc, hfenced, hfence, ‹_›, rfl⟩
  rename_i hc
  split
  · rename_i t ht
    simp only [Option.filter_eq_some_iff, decide_eq_true_eq] at ht
    exact ⟨hc, hfenced, t, ht.1.1, ht.2, rfl⟩
  split
  · rename_i t ht
    simp only [Option.ite_none_right_eq_some] at ht
    exact ⟨ht.1.1, hfenced, ht.1.2, ht.2⟩
  split
  · rename_i t ht
    simp only [Option.ite_none_right_eq_some, Option.isNone_iff_eq_none] at ht
    exact ⟨ht.1.1, hfenced, ht.1.2, ht.2⟩
  split
  · rename_i hm
    exact ⟨hm.1, hfenced⟩
  split
  · exact ⟨hc, hfenced, ‹_›⟩
  · exact ⟨hc, hfenced⟩

end Construct

namespace Cursor

/-- The cursor is in the document, it knows the character before, and its link is one that stands
before it. -/
structure Fits (markdown : List Char) (cur : Cursor) : Prop where
  offset_le : cur.offset ≤ markdown.length
  before_eq : cur.before = if cur.offset = 0 then none else markdown[cur.offset - 1]?
  link : ∀ t, cur.link = some t →
    ∃ o < cur.offset, ∃ u, linkTarget? (markdown.drop o) = some u ∧ t = u.shift o

variable {markdown : List Char} {cur : Cursor} {c : Char} {cs : List Char}

@[simp] theorem offset_after (cur : Cursor) (k : Construct) (text : List Char) :
    (cur.after k text).offset = cur.offset + k.width := rfl

theorem fits_atStart (markdown : List Char) : atStart.Fits markdown where
  offset_le := Nat.zero_le _
  before_eq := rfl
  link := by simp [atStart]

theorem Fits.link_finish (h : cur.Fits markdown) {t : LinkTarget} (ht : cur.link = some t) :
    t.closeBracket < t.finish ∧ t.finish ≤ markdown.length ∧
      markdown[t.finish - 1]? = some ')' := by
  obtain ⟨o, -, u, hu, rfl⟩ := h.link t ht
  have hin := linkTarget?_spec hu
  have hfinish := hin.finish_le
  have hurl := hin.urlStart_eq
  have hlt := hin.urlStart_lt
  rw [List.length_drop] at hfinish
  have hlast := getElem?_last_of_drop (by omega) hin.last_eq
  rw [Nat.add_comm] at hlast
  exact ⟨by simp only [LinkTarget.shift]; omega, by simp only [LinkTarget.shift]; omega, hlast⟩

theorem Fits.width_bounds (h : cur.Fits markdown) (ht : markdown.drop cur.offset = c :: cs)
    {k : Construct} (hk : k.Stands cur c cs) : 0 < k.width ∧ k.width ≤ (c :: cs).length := by
  have hlen : (c :: cs).length = markdown.length - cur.offset := by rw [← ht, List.length_drop]
  cases k with
  | fence =>
    exact ⟨fenceLength_pos, Nat.le_trans (startsFence_iff.mp hk) (runLength_le_length _)⟩
  | fenced | linkStart | marker | plain => simp [Construct.width]
  | code n =>
    have := codeSpan?_spec hk.2.2.2
    simp only [Construct.width]
    omega
  | backticks n =>
    obtain ⟨rfl, -, -, -, rfl⟩ := hk
    exact ⟨runLength_pos_iff.mpr rfl, runLength_le_length _⟩
  | linkEnd n =>
    obtain ⟨-, -, t, htl, ho, rfl⟩ := hk
    have := h.link_finish htl
    simp only [Construct.width]
    omega
  | image t =>
    have hin := linkTarget?_spec hk.2.2.2
    have := hin.finish_le
    simp only [Construct.width, List.length_cons]
    omega
  | html n =>
    have := html?_spec hk.2.2
    simp only [Construct.width]
    omega

theorem Fits.after (h : cur.Fits markdown) (ht : markdown.drop cur.offset = c :: cs)
    {k : Construct} (hk : k.Stands cur c cs) : (cur.after k (c :: cs)).Fits markdown := by
  obtain ⟨hpos, hle⟩ := h.width_bounds ht hk
  have hlen : (c :: cs).length = markdown.length - cur.offset := by rw [← ht, List.length_drop]
  refine ⟨?_, ?_, ?_⟩
  · have := h.offset_le
    rw [offset_after]
    omega
  · have hne : (cur.after k (c :: cs)).offset ≠ 0 := by
      rw [offset_after]
      omega
    rw [if_neg hne]
    simp only [Cursor.after]
    rw [← ht, List.getElem?_drop, Nat.add_sub_assoc hpos]
  · intro t hlink
    cases k with
    | linkStart u =>
      obtain rfl : u.shift cur.offset = t := by simpa [Cursor.after] using hlink
      refine ⟨cur.offset, ?_, u, ?_, rfl⟩
      · simp [Construct.width]
      · rw [ht]
        exact hk.2.2.2
    | _ =>
      obtain ⟨o, ho, hu⟩ := h.link t hlink
      exact ⟨o, Nat.lt_of_lt_of_le ho (Nat.le_add_right _ _), hu⟩

end Cursor
end ProseCheck.Markdown
