import Mathlib.Tactic.Common
import ProseCheck.Proofs.Markdown.Lookahead
import ProseCheck.Proofs.Markdown.Strip

/-! # Reading paragraph by paragraph

What stands in a paragraph is decided there, whatever follows behind its blank line. A paragraph
that leaves no fence open leaves nothing to the next one but its position, so what is kept of a
document is what is kept of its paragraphs.
-/

namespace ProseCheck.Markdown

open Text (blankLine)

variable {markdown text rest : List Char} {cur cur' : Cursor} {c : Char} {cs : List Char}
  {delta : Nat}

/-- The cursor behind a text that is read from a cursor on. -/
def Cursor.behind (cur : Cursor) : List Char → Cursor
  | [] => cur
  | c :: cs =>
    let k := cur.construct c cs
    behind (cur.after k (c :: cs)) (cs.drop (k.width - 1))
termination_by text => text.length

/-! ### Before a blank line -/

theorem head?_append_line (text rest : List Char) {x : Char} (hx : '\n' ≠ x) :
    (text ++ '\n' :: rest).head? = some x ↔ text.head? = some x := by
  cases text <;> simp [hx]

theorem any_touchesWord_append_line :
    (text ++ '\n' :: rest).head?.any touchesWord = text.head?.any touchesWord := by
  have hnewline : touchesWord '\n' = false := by decide
  cases text with
  | nil => exact hnewline
  | cons => rfl

namespace Cursor

/-- What stands at a cursor is decided before the next blank line, unless it is a comment. -/
theorem construct_append_blankLine (cur : Cursor) (h : ¬ commentStart <+: c :: cs)
    (rest : List Char) : cur.construct c (cs ++ blankLine ++ rest) = cur.construct c cs := by
  have htail : cs ++ blankLine ++ rest = cs ++ '\n' :: '\n' :: rest := List.append_assoc ..
  have htext : c :: (cs ++ '\n' :: '\n' :: rest) = (c :: cs) ++ '\n' :: '\n' :: rest := rfl
  have hlink : linkTarget? (c :: cs ++ blankLine ++ rest) = linkTarget? (c :: cs) :=
    linkTarget?_append_blankLine ..
  have hnext := head?_append_line cs ('\n' :: rest) (by decide : '\n' ≠ '[')
  unfold construct
  rw [List.cons_append, List.cons_append] at hlink
  simp only [hlink, linkTarget?_append_blankLine]
  rw [htail]
  simp only [htext, hnext, any_touchesWord_append_line]
  rw [startsFence_append_line, codeSpan?_append_line, runLength_append_line,
    html?_append_line _ _ h]

theorem after_append {k : Construct} (hpos : 0 < k.width) (hle : k.width ≤ text.length)
    (cur : Cursor) (rest : List Char) : cur.after k (text ++ rest) = cur.after k text := by
  simp only [after, List.getElem?_append_left (by omega : k.width - 1 < text.length)]

end Cursor

namespace Visits

theorem drop_after (h : Visits markdown cur) (ht : markdown.drop cur.offset = c :: cs) :
    markdown.drop (cur.after (cur.construct c cs) (c :: cs)).offset =
      cs.drop ((cur.construct c cs).width - 1) :=
  drop_add_of_drop ht (h.fits.width_bounds ht (Construct.stands_construct ..)).1

theorem behind (h : Visits markdown cur) :
    Visits markdown (cur.behind (markdown.drop cur.offset)) ∧
      (cur.behind (markdown.drop cur.offset)).offset = markdown.length := by
  induction h using Visits.backward with
  | finish cur h ht =>
    rw [ht, Cursor.behind]
    exact ⟨h, Nat.le_antisymm h.fits.offset_le (List.drop_eq_nil_iff.mp ht)⟩
  | step cur c cs h ht ih =>
    rw [ht, Cursor.behind]
    rwa [h.drop_after ht] at ih

/-- Up to a blank line behind a document without comments, everything is read as if the document
ended there. -/
theorem read_append_blankLine (h : Visits markdown cur)
    (hcomment : ¬ commentStart <:+: markdown) (rest : List Char) :
    cur.read (markdown.drop cur.offset ++ blankLine ++ rest) =
      cur.read (markdown.drop cur.offset) ++
        (cur.behind (markdown.drop cur.offset)).read (blankLine ++ rest) := by
  induction h using Visits.backward with
  | finish cur h ht => simp [ht, Cursor.read, Cursor.behind]
  | step cur c cs h ht ih =>
    obtain ⟨hpos, hle⟩ := h.fits.width_bounds ht (Construct.stands_construct ..)
    have hstart : ¬ commentStart <+: c :: cs := by
      intro hstart
      exact hcomment ((ht ▸ hstart).isInfix.trans (List.drop_suffix ..).isInfix)
    have hconstruct := cur.construct_append_blankLine hstart rest
    have hafter : cur.after (cur.construct c cs) (c :: (cs ++ blankLine ++ rest)) =
        cur.after (cur.construct c cs) (c :: cs) := by
      simpa using cur.after_append hpos hle (blankLine ++ rest)
    have hdrop : (cs ++ blankLine ++ rest).drop ((cur.construct c cs).width - 1) =
        cs.drop ((cur.construct c cs).width - 1) ++ blankLine ++ rest := by
      rw [List.length_cons] at hle
      rw [List.append_assoc, List.append_assoc, List.drop_append_of_le_length (by omega)]
    rw [h.drop_after ht] at ih
    rw [ht, List.cons_append, List.cons_append, Cursor.read, Cursor.read, Cursor.behind, hconstruct,
      hafter, hdrop, ih, List.append_assoc]

end Visits

/-! ### At a blank line -/

namespace Cursor

def openLink (cur : Cursor) : Option LinkTarget := cur.link.filter (cur.offset ≤ ·.closeBracket)

theorem construct_newline (hfenced : cur.fenced = false) (hlink : cur.openLink = none) :
    cur.construct '\n' cs = .plain := by
  have hfence : startsFence ('\n' :: cs) = false := rfl
  have hhtml : html? ('\n' :: cs) = none := html?_of_head_ne (by decide)
  have hb : '\n' ≠ backtick := by decide
  rw [openLink] at hlink
  simp [construct, hfence, hfenced, hb, hlink, hhtml]

theorem openLink_eq_none_of_le (h : cur.openLink = none) (hlink : cur'.link = cur.link)
    (hle : cur.offset ≤ cur'.offset) : cur'.openLink = none := by
  rw [openLink, Option.filter_eq_none_iff] at h ⊢
  intro t ht
  have := h t (hlink ▸ ht)
  simp only [decide_eq_true_eq] at this ⊢
  omega

theorem read_newline (cur : Cursor) (hfenced : cur.fenced = false) (hlink : cur.openLink = none)
    (text : List Char) :
    cur.read ('\n' :: text) = ⟨'\n', cur.offset⟩ ::
      ({ cur with offset := cur.offset + 1, before := some '\n' }).read text := by
  rw [read, construct_newline hfenced hlink]
  rfl

theorem read_blankLine (hfenced : cur.fenced = false) (hlink : cur.openLink = none)
    (rest : List Char) :
    cur.read (blankLine ++ rest) =
      ⟨'\n', cur.offset⟩ :: ⟨'\n', cur.offset + 1⟩ ::
        ({ cur with offset := cur.offset + 2, before := some '\n' }).read rest := by
  let next := { cur with offset := cur.offset + 1, before := some '\n' }
  have hnext : next.openLink = none := openLink_eq_none_of_le hlink rfl (Nat.le_succ _)
  rw [blankLine_append, read_newline cur hfenced hlink]
  exact congrArg _ (read_newline next hfenced hnext rest)

end Cursor

/-! ### Behind a blank line -/

def Kept.shift (e : Kept) (delta : Nat) : Kept := { e with origin := e.origin + delta }

@[simp] theorem Kept.char_shift (e : Kept) (delta : Nat) : (e.shift delta).char = e.char := rfl

@[simp] theorem Kept.origin_shift (e : Kept) (delta : Nat) :
    (e.shift delta).origin = e.origin + delta := rfl

theorem Kept.shift_shift (e : Kept) (a b : Nat) : (e.shift a).shift b = e.shift (b + a) := by
  simp only [shift, Nat.add_assoc, Nat.add_comm a]

theorem Construct.kept_add (k : Construct) (offset delta : Nat) (c : Char) :
    k.kept (offset + delta) c = (k.kept offset c).map (·.shift delta) := by
  cases k with
  | backticks n =>
    rw [kept, kept, List.map_map]
    refine List.map_congr_left fun m _ => ?_
    simp only [Function.comp_apply, Kept.shift, Nat.add_right_comm]
  | image t =>
    rw [kept, kept, Nat.add_right_comm offset delta, Nat.add_right_comm (offset + 1)]
    rfl
  | _ => rfl

namespace Cursor

/-- The second cursor sees what the first one sees, `delta` positions on. -/
structure Moved (delta : Nat) (cur cur' : Cursor) : Prop where
  offset : cur'.offset = cur.offset + delta
  before : cur'.before.any touchesWord = cur.before.any touchesWord
  fenced : cur'.fenced = cur.fenced
  openLink : cur'.openLink = cur.openLink.map (·.shift delta)

theorem Moved.construct (h : Moved delta cur cur') (c : Char) (cs : List Char) :
    cur'.construct c cs = cur.construct c cs := by
  obtain ⟨hoffset, hbefore, hfenced, hlink⟩ := h
  unfold Cursor.construct
  rw [Cursor.openLink, Cursor.openLink] at hlink
  simp only [hlink, hfenced, hbefore]
  cases hopen : cur.link.filter (cur.offset ≤ ·.closeBracket) with
  | none => rfl
  | some t =>
    have hat : cur'.offset = (t.shift delta).closeBracket ↔ cur.offset = t.closeBracket := by
      simp only [hoffset, LinkTarget.shift]
      omega
    have hrest : (t.shift delta).finish - cur'.offset = t.finish - cur.offset := by
      simp only [hoffset, LinkTarget.shift]
      omega
    by_cases hend : cur.offset = t.closeBracket <;> simp [Option.filter_some, hat, hend, hrest]

theorem openLink_after_linkStart (cur : Cursor) (t : LinkTarget) (text : List Char) :
    (cur.after (.linkStart t) text).openLink =
      if 0 < t.closeBracket then some (t.shift cur.offset) else none := by
  have hopen : (cur.after (.linkStart t) text).openLink =
      (some (t.shift cur.offset)).filter (cur.offset + 1 ≤ ·.closeBracket) := rfl
  have hin : cur.offset + 1 ≤ (t.shift cur.offset).closeBracket ↔ 0 < t.closeBracket := by
    simp only [LinkTarget.shift]
    omega
  rw [hopen, Option.filter_some]
  simp only [hin, decide_eq_true_eq]

theorem openLink_after (cur : Cursor) {k : Construct} (hk : ∀ t, k ≠ .linkStart t)
    (text : List Char) :
    (cur.after k text).openLink =
      cur.openLink.filter fun t => cur.offset + k.width ≤ t.closeBracket := by
  have hlink : (cur.after k text).link = cur.link := by
    cases k with
    | linkStart t => exact absurd rfl (hk t)
    | _ => rfl
  rw [openLink, hlink, openLink, Option.filter_filter]
  congr 1
  ext t
  rw [← Bool.decide_and, decide_eq_decide, offset_after]
  omega

theorem Moved.after (h : Moved delta cur cur') (k : Construct) (text : List Char) :
    Moved delta (cur.after k text) (cur'.after k text) where
  offset := by
    rw [offset_after, offset_after, h.offset]
    omega
  before := rfl
  fenced := by simp only [Cursor.after, h.fenced]
  openLink := by
    cases k with
    | linkStart t =>
      rw [openLink_after_linkStart, openLink_after_linkStart, h.offset]
      split
      · simp only [LinkTarget.shift, Option.map_some, Nat.add_assoc]
      · rfl
    | _ =>
      rw [openLink_after _ (by simp), openLink_after _ (by simp), h.openLink, h.offset,
        Option.filter_map]
      congr 2
      ext t
      simp only [LinkTarget.shift, Function.comp_apply, decide_eq_decide]
      omega

theorem Moved.read (h : Moved delta cur cur') (text : List Char) :
    cur'.read text = (cur.read text).map (·.shift delta) := by
  fun_induction Cursor.read cur text generalizing cur' with
  | case1 => simp [Cursor.read]
  | case2 cur c cs k =>
    rename_i ih
    rw [Cursor.read, h.construct, h.offset, Construct.kept_add, List.map_append]
    exact congrArg _ (ih (h.after k (c :: cs)))

/-- Behind a line feed, outside of fences and links, a cursor is like one at the start. -/
theorem moved_atStart (cur : Cursor) (hbefore : cur.before = some '\n')
    (hfenced : cur.fenced = false) (hlink : cur.openLink = none) :
    Moved cur.offset atStart cur where
  offset := (Nat.zero_add _).symm
  before := by
    rw [hbefore]
    decide
  fenced := hfenced
  openLink := hlink

end Cursor

/-! ### Documents -/

/-- What is kept of a blank line and of the document behind it. -/
def keptBehind (q : List Char) : List Kept :=
  ⟨'\n', 0⟩ :: ⟨'\n', 1⟩ :: (strip q).kept.map (·.shift 2)

theorem Cursor.read_blankLine_append (hfenced : cur.fenced = false) (hlink : cur.openLink = none)
    (q : List Char) : cur.read (blankLine ++ q) = (keptBehind q).map (·.shift cur.offset) := by
  let next := { cur with offset := cur.offset + 2, before := some '\n' }
  have hnext : next.openLink = none := openLink_eq_none_of_le hlink rfl (Nat.le_add_right ..)
  have hmoved : Moved (cur.offset + 2) atStart next := moved_atStart next rfl hfenced hnext
  rw [read_blankLine hfenced hlink, hmoved.read, keptBehind, strip, List.map_cons, List.map_cons,
    List.map_map]
  simp only [Function.comp_def, Kept.shift_shift]
  simp only [Kept.shift, Nat.zero_add, Nat.add_comm 1]

theorem Cursor.Fits.openLink_eq_none (h : cur.Fits markdown)
    (hoffset : cur.offset = markdown.length) : cur.openLink = none := by
  rw [openLink, Option.filter_eq_none_iff]
  intro t ht
  obtain ⟨hlt, hle, -⟩ := h.link_finish ht
  simp only [decide_eq_true_eq]
  omega

/-- No comment starts in a document, and its reading ends outside of fences. -/
structure SelfContained (markdown : List Char) : Prop where
  no_comment : ¬ commentStart <:+: markdown
  unfenced : (Cursor.atStart.behind markdown).fenced = false

theorem kept_strip_append_blankLine {p : List Char} (h : SelfContained p) (q : List Char) :
    (strip (p ++ blankLine ++ q)).kept =
      (strip p).kept ++ (keptBehind q).map (·.shift p.length) := by
  have hstart : Visits p .atStart := .start
  have hread := hstart.read_append_blankLine h.no_comment q
  obtain ⟨hvisits, hoffset⟩ := hstart.behind
  have hdrop : p.drop Cursor.atStart.offset = p := rfl
  rw [hdrop] at hread hvisits hoffset
  rwa [Cursor.read_blankLine_append h.unfenced (hvisits.fits.openLink_eq_none hoffset), hoffset]
    at hread

/-- The parts of a document on the two sides of a blank line are stripped on their own, if the first
one is self-contained. So what is kept behind the blank line is the same for all such first parts,
but for the length of these. -/
theorem strip_append_blankLine {p : List Char} (h : SelfContained p) (q : List Char) :
    (strip (p ++ blankLine ++ q)).text = (strip p).text ++ blankLine ++ (strip q).text ∧
      (strip (p ++ blankLine ++ q)).positions.origins =
        (strip p).positions.origins ++ [p.length, p.length + 1] ++
          (strip q).positions.origins.map (· + (p.length + 2)) ∧
      ∃ behind : List Kept, ∀ p', SelfContained p' →
        (strip (p' ++ blankLine ++ q)).kept =
          (strip p').kept ++ behind.map (·.shift p'.length) := by
  have hkept := kept_strip_append_blankLine h q
  refine ⟨?_, ?_, keptBehind q, fun p' h' => kept_strip_append_blankLine h' q⟩
  · rw [Stripped.text, hkept]
    simp [Stripped.text, keptBehind, Function.comp_def, blankLine]
  · rw [Stripped.positions, hkept]
    simp [Stripped.positions, keptBehind, Function.comp_def, Nat.add_comm, Nat.add_left_comm]

/-- Brackets, backticks and tags that are open at the blank line do not close behind it. -/
theorem strip_append_blankLine_open :
    let p := "# *a* [b `c <d".toList
    let q := "e` f](g) h> ![i](j)".toList
    SelfContained p ∧ (strip p).text = "# a [b `c <d".toList ∧
      (strip q).text = "e` f](g) h> \u2042\u2042".toList ∧
      (strip (p ++ blankLine ++ q)).text = (strip p).text ++ blankLine ++ (strip q).text := by
  intro p q
  have h : SelfContained p := ⟨by decide +kernel, by decide +kernel⟩
  exact ⟨h, by decide +kernel, by decide +kernel, (strip_append_blankLine h q).1⟩

end ProseCheck.Markdown
