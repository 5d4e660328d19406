import Mathlib.Tactic.Common
import ProseCheck.Proofs.Markdown.Construct
import ProseCheck.Text.Blank
import ProseCheck.Proofs.Markdown.PositionMap

/-! # What the reading of a document keeps

A document is read from cursor to cursor. What is kept at a cursor comes from the characters of the
construct that stands there, so positions only grow, and a kept character is the one at its position
unless it stands for an image.
-/

namespace ProseCheck.Markdown

variable {markdown : List Char} {cur : Cursor} {c : Char} {cs : List Char}

/-- The cursors that the reading of a document comes by. -/
inductive Visits (markdown : List Char) : Cursor → Prop
  | start : Visits markdown .atStart
  | next {cur : Cursor} {c : Char} {cs : List Char} : Visits markdown cur →
      markdown.drop cur.offset = c :: cs →
      Visits markdown (cur.after (cur.construct c cs) (c :: cs))

theorem Visits.fits (h : Visits markdown cur) : cur.Fits markdown := by
  induction h with
  | start => exact Cursor.fits_atStart markdown
  | next _ ht ih => exact ih.after ht (Construct.stands_construct ..)

theorem Visits.read_eq (h : Visits markdown cur) (ht : markdown.drop cur.offset = c :: cs) :
    cur.read (c :: cs) =
      (cur.construct c cs).kept cur.offset c ++
        (cur.after (cur.construct c cs) (c :: cs)).read
          (markdown.drop (cur.offset + (cur.construct c cs).width)) := by
  have hpos := (h.fits.width_bounds ht (Construct.stands_construct ..)).1
  rw [Cursor.read, ← drop_cons_of_pos c cs hpos, ← ht, List.drop_drop]

theorem Visits.kept_eq (h : Visits markdown cur) :
    ∃ before, (strip markdown).kept = before ++ cur.read (markdown.drop cur.offset) := by
  induction h with
  | start => exact ⟨[], rfl⟩
  | next h ht ih =>
    obtain ⟨before, hbefore⟩ := ih
    rw [ht, h.read_eq ht, ← List.append_assoc] at hbefore
    exact ⟨_, hbefore⟩

/-- Induction along the reading: from the cursor behind a construct back to the one before it. -/
theorem Visits.backward {P : ∀ cur, Visits markdown cur → Prop}
    (finish : ∀ cur h, markdown.drop cur.offset = [] → P cur h)
    (step : ∀ cur c cs h (ht : markdown.drop cur.offset = c :: cs),
      P (cur.after (cur.construct c cs) (c :: cs)) (h.next ht) → P cur h)
    (h : Visits markdown cur) : P cur h := by
  induction hn : markdown.length - cur.offset using Nat.strongRecOn generalizing cur with
  | ind n ih =>
    cases ht : markdown.drop cur.offset with
    | nil => exact finish cur h ht
    | cons c cs =>
      have hpos := (h.fits.width_bounds ht (Construct.stands_construct ..)).1
      have hlen : (c :: cs).length = markdown.length - cur.offset := by
        rw [← ht, List.length_drop]
      rw [List.length_cons] at hlen
      refine step cur c cs h ht (ih _ ?_ (h.next ht) rfl)
      rw [Cursor.offset_after]
      omega

theorem Visits.of_mem_read {e : Kept} (h : Visits markdown cur)
    (he : e ∈ cur.read (markdown.drop cur.offset)) :
    ∃ cur' c cs, Visits markdown cur' ∧ cur.offset ≤ cur'.offset ∧
      markdown.drop cur'.offset = c :: cs ∧ e ∈ (cur'.construct c cs).kept cur'.offset c := by
  induction h using Visits.backward with
  | finish cur h ht => simp [ht, Cursor.read] at he
  | step cur c cs h ht ih =>
    rw [ht, h.read_eq ht, List.mem_append] at he
    rcases he with he | he
    · exact ⟨cur, c, cs, h, Nat.le_refl _, ht, he⟩
    · obtain ⟨cur', c', cs', hv, hle, hrest⟩ := ih he
      exact ⟨cur', c', cs', hv, Nat.le_trans (Nat.le_add_right _ _) hle, hrest⟩

/-! ### Positions -/

theorem kept_bounds {k : Construct} (hk : k.Stands cur c cs) {e : Kept}
    (he : e ∈ k.kept cur.offset c) :
    cur.offset ≤ e.origin ∧ e.origin < cur.offset + k.width := by
  cases k with
  | backticks n =>
    simp only [Construct.kept, List.mem_map, List.mem_range] at he
    obtain ⟨m, hm, rfl⟩ := he
    simp only [Construct.width]
    omega
  | image t =>
    have hlt := (linkTarget?_spec hk.2.2.2).urlStart_lt
    simp only [Construct.kept, List.mem_cons, List.not_mem_nil, or_false] at he
    rcases he with rfl | rfl <;> simp only [Construct.width] <;> omega
  | plain =>
    obtain rfl : e = ⟨c, cur.offset⟩ := by simpa [Construct.kept] using he
    simp [Construct.width]
  | _ => simp [Construct.kept] at he

theorem kept_sorted (k : Construct) (offset : Nat) (c : Char) :
    (k.kept offset c).Pairwise (·.origin < ·.origin) := by
  cases k with
  | backticks n =>
    rw [Construct.kept, List.pairwise_map]
    exact List.pairwise_lt_range.imp fun h => Nat.add_lt_add_left h _
  | image t =>
    simp only [Construct.kept, List.pairwise_cons, List.mem_cons, List.not_mem_nil, or_false,
      forall_eq, List.Pairwise.nil, and_true, false_implies, implies_true]
    omega
  | _ => simp [Construct.kept]

theorem Visits.origin_bounds {e : Kept} (h : Visits markdown cur)
    (he : e ∈ cur.read (markdown.drop cur.offset)) :
    cur.offset ≤ e.origin ∧ e.origin < markdown.length := by
  obtain ⟨cur', c, cs, hv, hle, ht, he⟩ := h.of_mem_read he
  have hk := Construct.stands_construct cur' c cs
  have hbounds := kept_bounds hk he
  have hwidth := (hv.fits.width_bounds ht hk).2
  rw [← ht, List.length_drop] at hwidth
  have := hv.fits.offset_le
  omega

theorem Visits.read_sorted (h : Visits markdown cur) :
    (cur.read (markdown.drop cur.offset)).Pairwise (·.origin < ·.origin) := by
  induction h using Visits.backward with
  | finish cur h ht => simp [ht, Cursor.read]
  | step cur c cs h ht ih =>
    have hk := Construct.stands_construct cur c cs
    rw [ht, h.read_eq ht, List.pairwise_append]
    refine ⟨kept_sorted .., ih, fun e he e' he' => ?_⟩
    exact Nat.lt_of_lt_of_le (kept_bounds hk he).2 ((h.next ht).origin_bounds he').1

theorem strip_sorted (markdown : List Char) : (strip markdown).positions.Sorted :=
  List.pairwise_map.mpr Visits.start.read_sorted

theorem strip_origin_lt {e : Kept} (he : e ∈ (strip markdown).kept) :
    e.origin < markdown.length :=
  (Visits.start.origin_bounds he).2

/-! ### Characters -/

namespace Stripped

variable {d : Stripped} {j start : Nat} {e : Kept}

/-- An image starts at `start`, and its placeholders are the characters `j` and `j + 1` of the
stripped text. -/
structure ImageAt (d : Stripped) (j start : Nat) (t : LinkTarget) : Prop where
  bang : d.markdown[start]? = some '!'
  bracket : d.markdown[start + 1]? = some '['
  target : linkTarget? (d.markdown.drop (start + 1)) = some t
  first : d.kept[j]? = some ⟨placeholder, start⟩
  second : d.kept[j + 1]? = some ⟨placeholder, start + 1 + t.urlStart⟩

theorem length_text (d : Stripped) : d.text.length = d.length := List.length_map _

theorem length_positions (d : Stripped) : d.positions.length = d.length := List.length_map _

theorem text_eq_some_iff {x : Char} :
    d.text[j]? = some x ↔ ∃ e, d.kept[j]? = some e ∧ e.char = x := by
  simp [text]

theorem origin?_eq_some_iff {i : Nat} :
    d.positions.origin? j = some i ↔ ∃ e, d.kept[j]? = some e ∧ e.origin = i := by
  simp [positions, PositionMap.origin?]

theorem index_eq (hd : d.positions.Sorted) {j' : Nat} (hj : d.kept[j]? = some e)
    (hj' : d.kept[j']? = some e) : j = j' :=
  (hd.eq_iff (origin?_eq_some_iff.mpr ⟨e, hj, rfl⟩) (origin?_eq_some_iff.mpr ⟨e, hj', rfl⟩)).mp rfl

end Stripped

theorem Visits.imageAt (h : Visits markdown cur) (ht : markdown.drop cur.offset = c :: cs)
    {t : LinkTarget} (hk : cur.construct c cs = .image t) :
    ∃ j, (strip markdown).ImageAt j cur.offset t := by
  obtain ⟨before, hbefore⟩ := h.kept_eq
  obtain ⟨rfl, -, hbracket, htarget⟩ := hk ▸ Construct.stands_construct cur c cs
  have hcs : markdown.drop (cur.offset + 1) = cs := drop_succ_of_drop ht
  rw [ht, h.read_eq ht, hk, Construct.kept] at hbefore
  refine ⟨before.length, ?_, ?_, hcs.symm ▸ htarget, ?_, ?_⟩
  · exact getElem?_add_of_drop ht 0
  · exact (getElem?_add_of_drop hcs 0).trans (List.head?_eq_getElem? ▸ hbracket)
  · simp [hbefore]
  · simp [hbefore]

/-- A kept character is the one at its position, or one of the two that stand for an image. -/
theorem strip_char {j : Nat} {e : Kept} (hj : (strip markdown).kept[j]? = some e) :
    markdown[e.origin]? = some e.char ∨ ∃ start t,
      (strip markdown).ImageAt j start t ∧ e = ⟨placeholder, start⟩ ∨
        0 < j ∧ (strip markdown).ImageAt (j - 1) start t ∧
          e = ⟨placeholder, start + 1 + t.urlStart⟩ := by
  obtain ⟨cur, c, cs, hv, -, ht, he⟩ := Visits.start.of_mem_read (List.mem_of_getElem? hj)
  have hk := Construct.stands_construct cur c cs
  cases hc : cur.construct c cs with
  | backticks n =>
    rw [hc] at hk he
    simp only [Construct.kept, List.mem_map, List.mem_range] at he
    obtain ⟨m, hm, rfl⟩ := he
    obtain ⟨-, -, -, -, rfl⟩ := hk
    exact Or.inl ((getElem?_add_of_drop ht m).trans (getElem?_of_lt_runLength hm))
  | image t =>
    obtain ⟨j', himage⟩ := hv.imageAt ht hc
    rw [hc] at he
    simp only [Construct.kept, List.mem_cons, List.not_mem_nil, or_false] at he
    refine Or.inr ⟨cur.offset, t, ?_⟩
    rcases he with rfl | rfl
    · obtain rfl := Stripped.index_eq (strip_sorted markdown) hj himage.first
      exact Or.inl ⟨himage, rfl⟩
    · obtain rfl := Stripped.index_eq (strip_sorted markdown) hj himage.second
      exact Or.inr ⟨Nat.succ_pos _, himage, rfl⟩
  | plain =>
    rw [hc] at he
    obtain rfl : e = ⟨c, cur.offset⟩ := by simpa [Construct.kept] using he
    exact Or.inl (getElem?_add_of_drop ht 0)
  | _ => simp [hc, Construct.kept] at he

theorem allBlank_text_strip (h : Text.allBlank markdown = true) :
    Text.allBlank (strip markdown).text = true := by
  have hblank {i : Nat} {x : Char} (hx : markdown[i]? = some x) : Text.isBlank x = true :=
    List.all_eq_true.mp h x (List.mem_of_getElem? hx)
  refine List.all_eq_true.mpr fun x hx => ?_
  obtain ⟨e, he, rfl⟩ := List.mem_map.mp hx
  obtain ⟨j, hj⟩ := List.mem_iff_getElem?.mp he
  rcases strip_char hj with hchar | ⟨start, t, ⟨himage, -⟩ | ⟨-, himage, -⟩⟩
  · exact hblank hchar
  all_goals exact absurd (hblank himage.bang) (by decide)

/-- The positions of the stripped text increase and lie in the document, each kept character is the
one at its position or one of the two next to each other that stand for an image, and the search
for a position finds every kept character and only these. -/
theorem strip_positions_faithful (markdown : List Char) :
    (strip markdown).text.length = (strip markdown).positions.length ∧
      (strip markdown).positions.Sorted ∧
      (∀ i ∈ (strip markdown).positions.origins, i < markdown.length) ∧
      (∀ j i, (strip markdown).positions.origin? j = some i →
        (strip markdown).text[j]? = markdown[i]? ∨
          (strip markdown).text[j]? = some placeholder ∧ ∃ start t,
            (strip markdown).ImageAt j start t ∧ i = start ∨
              0 < j ∧ (strip markdown).ImageAt (j - 1) start t ∧ i = start + 1 + t.urlStart) ∧
      ∀ i j, (strip markdown).positions.origin? j = some i ↔
        (strip markdown).positions.stripped? i = some j := by
  refine ⟨?_, strip_sorted markdown, fun i hi => ?_, fun j i hj => ?_, fun i j => ?_⟩
  · rw [Stripped.length_text, Stripped.length_positions]
  · obtain ⟨e, he, rfl⟩ := List.mem_map.mp hi
    exact strip_origin_lt he
  · obtain ⟨e, he, rfl⟩ := Stripped.origin?_eq_some_iff.mp hj
    have htext : (strip markdown).text[j]? = some e.char :=
      Stripped.text_eq_some_iff.mpr ⟨e, he, rfl⟩
    rcases strip_char he with h | ⟨start, t, ⟨h, rfl⟩ | ⟨hpos, h, rfl⟩⟩
    · exact Or.inl (htext.trans h.symm)
    · exact Or.inr ⟨htext, start, t, Or.inl ⟨h, rfl⟩⟩
    · exact Or.inr ⟨htext, start, t, Or.inr ⟨hpos, h, rfl⟩⟩
  · exact (strip_sorted markdown).stripped?_eq_some_iff.symm

end ProseCheck.Markdown
