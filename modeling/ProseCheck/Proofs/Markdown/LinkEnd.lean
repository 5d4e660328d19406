import ProseCheck.Proofs.Markdown.Rendering
import ProseCheck.Proofs.Markdown.Walk

/-! # How links end

The url of a link is dropped when the reading comes to the bracket that closes the text of the link.
That bracket is searched for beforehand, and the search knows code and brackets but no images, tags
or fences. Where the reading meets one of these in the text, it may go past the bracket.
-/

namespace ProseCheck.Markdown

variable {markdown : List Char} {cur cur' next : Cursor} {c : Char} {cs : List Char}
  {t u : LinkTarget} {depth n k : Nat}

/-- Whether the search for a closing bracket takes the construct for text. -/
def Construct.isOverlooked : Construct → Bool
  | fence | image _ | html _ => true
  | _ => false

/-- The reading goes past a position in the middle of a construct, or comes there in a fence. -/
def Overtaken (markdown : List Char) (position : Nat) : Prop :=
  ∃ j ∈ Cursor.atStart.layout markdown,
    j.1.offset < position ∧ position < (j.2.span j.1).finish ∨
      j.1.offset = position ∧ j.1.fenced = true

instance (markdown : List Char) (position : Nat) : Decidable (Overtaken markdown position) :=
  inferInstanceAs (Decidable (∃ j ∈ Cursor.atStart.layout markdown, _))

theorem overtaken_iff {position : Nat} : Overtaken markdown position ↔
    ∃ cur c cs, Visits markdown cur ∧ markdown.drop cur.offset = c :: cs ∧
      (cur.offset < position ∧ position < cur.offset + (cur.construct c cs).width ∨
        cur.offset = position ∧ cur.fenced = true) := by
  constructor
  · rintro ⟨⟨cur, k⟩, hj, hover⟩
    obtain ⟨h, c, cs, ht, rfl⟩ := mem_layout_iff.mp hj
    exact ⟨cur, c, cs, h, ht, hover⟩
  · rintro ⟨cur, c, cs, h, ht, hover⟩
    exact ⟨(cur, cur.construct c cs), h.mem_layout ht, hover⟩

/-! ### Searching for the bracket -/

theorem closeBracket?_of_linkTarget? {text : List Char} (h : linkTarget? text = some t) :
    closeBracket? 0 text = some t.closeBracket := by
  obtain ⟨close, url, n, hclose, -, -, rfl⟩ := linkTarget?_eq_some_iff.mp h
  exact hclose

theorem closeBracket?_code (hc : c = backtick) (hcode : codeLength (c :: cs) = k)
    (h : closeBracket? depth (c :: cs) = some n) :
    0 < k ∧ ∃ m, closeBracket? depth (cs.drop (k - 1)) = some m ∧ n = k + m := by
  subst hc hcode
  rw [closeBracket?, if_pos rfl] at h
  obtain ⟨m, hm, rfl⟩ := Option.map_eq_some_iff.mp h
  exact ⟨codeLength_pos rfl, m, hm, rfl⟩

/-- As long as the search has not come to the bracket, one bracket at least is open. -/
theorem closeBracket?_cons (hc : c ≠ backtick) (hpos : 0 < n)
    (h : closeBracket? (depth + 1) (c :: cs) = some n) :
    ∃ depth' m, closeBracket? (depth' + 1) cs = some m ∧ n = 1 + m := by
  rw [closeBracket?, if_neg hc] at h
  split at h
  · obtain ⟨m, hm, rfl⟩ := Option.map_eq_some_iff.mp h
    exact ⟨depth + 1, m, hm, Nat.add_comm _ _⟩
  split at h
  · split at h
    · cases h
      exact absurd hpos (Nat.lt_irrefl 0)
    · rename_i hdepth
      obtain ⟨m, hm, rfl⟩ := Option.map_eq_some_iff.mp h
      obtain ⟨depth', rfl⟩ : ∃ depth', depth = depth' + 1 :=
        Nat.exists_eq_add_one_of_ne_zero (by omega)
      exact ⟨depth', m, hm, Nat.add_comm _ _⟩
  split at h
  · cases h
  · obtain ⟨m, hm, rfl⟩ := Option.map_eq_some_iff.mp h
    exact ⟨depth, m, hm, Nat.add_comm _ _⟩

/-! ### In the text of a link -/

namespace Cursor

theorem construct_ne_linkStart (hopen : cur.openLink = some u) (c : Char) (cs : List Char)
    (t : LinkTarget) : cur.construct c cs ≠ .linkStart t := by
  intro hk
  have hstands := hk ▸ Construct.stands_construct cur c cs
  have hnone : cur.openLink = none := hstands.2.2.1
  rw [hopen] at hnone
  cases hnone

/-- Up to its closing bracket a link stays open. -/
theorem Next.openLink (h : Next markdown cur next) (hopen : cur.openLink = some u)
    (hle : next.offset ≤ u.closeBracket) : next.openLink = some u := by
  obtain ⟨c, cs, ht, rfl⟩ := h
  rw [offset_after] at hle
  rw [openLink_after cur (construct_ne_linkStart hopen c cs), hopen, Option.filter_some,
    if_pos (decide_eq_true hle)]

theorem Reaches.openLink (h : Reaches markdown cur cur') (hopen : cur.openLink = some u)
    (hle : cur'.offset ≤ u.closeBracket) : cur'.openLink = some u := by
  induction h with
  | refl => exact hopen
  | tail _ hnext ih => exact hnext.openLink (ih (Nat.le_trans hnext.offset_le hle)) hle

/-- The cursor is in the text of a link, outside of fences, and the search for the bracket that
closes the text comes by it. -/
structure InLabel (markdown : List Char) (u : LinkTarget) (cur : Cursor) : Prop where
  openLink : cur.openLink = some u
  unfenced : cur.fenced = false
  search : ∃ depth n, closeBracket? (depth + 1) (markdown.drop cur.offset) = some n ∧
    cur.offset + n = u.closeBracket

theorem InLabel.offset_le (h : cur.InLabel markdown u) : cur.offset ≤ u.closeBracket := by
  obtain ⟨depth, n, -, hn⟩ := h.search
  omega

theorem inLabel_after_linkStart (ht : markdown.drop cur.offset = c :: cs)
    (hk : (Construct.linkStart t).Stands cur c cs) :
    (cur.after (.linkStart t) (c :: cs)).InLabel markdown (t.shift cur.offset) := by
  obtain ⟨rfl, hfenced, -, htarget⟩ := hk
  have hclose := closeBracket?_of_linkTarget? htarget
  rw [closeBracket?, if_neg (by decide), if_pos rfl] at hclose
  obtain ⟨n, hn, hclose⟩ := Option.map_eq_some_iff.mp hclose
  refine ⟨?_, hfenced, 0, n, ?_, ?_⟩
  · rw [openLink_after_linkStart, if_pos (by omega)]
  · rw [offset_after, Construct.width, drop_succ_of_drop ht]
    exact hn
  · simp only [offset_after, Construct.width, LinkTarget.shift]
    omega

theorem InLabel.search_construct (h : cur.InLabel markdown u)
    (ht : markdown.drop cur.offset = c :: cs) (hlt : cur.offset < u.closeBracket)
    (hk : (cur.construct c cs).isOverlooked = false) :
    0 < (cur.construct c cs).width ∧ ∃ depth n,
      closeBracket? (depth + 1) (cs.drop ((cur.construct c cs).width - 1)) = some n ∧
        cur.offset + (cur.construct c cs).width + n = u.closeBracket := by
  obtain ⟨hopen, hfenced, depth, n, hsearch, hn⟩ := h
  rw [ht] at hsearch
  have hcode {k : Nat} (hc : c = backtick) (hlength : codeLength (c :: cs) = k) : 0 < k ∧
      ∃ depth n, closeBracket? (depth + 1) (cs.drop (k - 1)) = some n ∧
        cur.offset + k + n = u.closeBracket := by
    obtain ⟨hpos, m, hm, rfl⟩ := closeBracket?_code hc hlength hsearch
    exact ⟨hpos, depth, m, hm, by omega⟩
  have htext (hc : c ≠ backtick) : 0 < 1 ∧
      ∃ depth n, closeBracket? (depth + 1) (cs.drop (1 - 1)) = some n ∧
        cur.offset + 1 + n = u.closeBracket := by
    obtain ⟨depth', m, hm, rfl⟩ := closeBracket?_cons hc (by omega) hsearch
    exact ⟨Nat.one_pos, depth', m, hm, by omega⟩
  have hstands := Construct.stands_construct cur c cs
  cases hconstruct : cur.construct c cs <;> rw [hconstruct] at hstands
  case fence | image | html =>
    rw [hconstruct] at hk
    cases hk
  case fenced =>
    rw [hstands.2] at hfenced
    cases hfenced
  case code k =>
    obtain ⟨hc, -, -, hspan⟩ := hstands
    have hlength : codeLength (c :: cs) = k := by rw [codeLength, hspan, Option.getD_some]
    exact hcode hc hlength
  case backticks k =>
    obtain ⟨hc, -, -, hspan, rfl⟩ := hstands
    have hlength : codeLength (c :: cs) = runLength (c :: cs) := by
      rw [codeLength, hspan, Option.getD_none]
    exact hcode hc hlength
  case linkStart t => exact absurd hconstruct (construct_ne_linkStart hopen c cs t)
  case linkEnd k =>
    obtain ⟨-, -, t, hlink, hat, -⟩ := hstands
    rw [Cursor.openLink, hlink] at hopen
    cases (Option.filter_eq_some_iff.mp hopen).1
    exact absurd hlt (hat ▸ Nat.lt_irrefl _)
  case marker =>
    refine htext ?_
    rcases hstands.1 with rfl | rfl <;> decide
  case plain => exact htext hstands.1

/-- One construct further on, the search is still where the reading is. -/
theorem InLabel.after (h : cur.InLabel markdown u) (ht : markdown.drop cur.offset = c :: cs)
    (hlt : cur.offset < u.closeBracket) (hk : (cur.construct c cs).isOverlooked = false) :
    (cur.after (cur.construct c cs) (c :: cs)).InLabel markdown u := by
  obtain ⟨hpos, depth, n, hsearch, hn⟩ := h.search_construct ht hlt hk
  have hfence : cur.construct c cs ≠ .fence := by
    intro heq
    rw [heq] at hk
    cases hk
  have hnext : Next markdown cur (cur.after (cur.construct c cs) (c :: cs)) := ⟨c, cs, ht, rfl⟩
  refine ⟨hnext.openLink h.openLink ?_, ?_, depth, n, ?_, hn⟩
  · rw [offset_after]
    omega
  · rw [fenced_after, if_neg hfence, h.unfenced]
  · rw [offset_after, drop_add_of_drop ht hpos]
    exact hsearch

/-- If the text of a link holds nothing that the search overlooks, it stays where the reading is up
to the bracket. -/
theorem InLabel.reaches (h : cur.InLabel markdown u) (hv : Visits markdown cur)
    (hknown : ∀ j ∈ Cursor.atStart.layout markdown, cur.offset ≤ j.1.offset →
      j.1.offset < u.closeBracket → j.2.isOverlooked = false)
    (hr : Reaches markdown cur cur') (hle : cur'.offset ≤ u.closeBracket) :
    cur'.InLabel markdown u := by
  induction hr with
  | refl => exact h
  | @tail middle cur' hmiddle hnext ih =>
    have hvisits := hv.reaches hmiddle
    have hlt := hvisits.offset_lt hnext
    obtain ⟨c, cs, ht, rfl⟩ := hnext
    have hlabel := ih (by omega)
    have hfrom := Reaches.offset_le hmiddle
    exact hlabel.after ht (by omega) (hknown _ (hvisits.mem_layout ht) hfrom (by simp only; omega))

end Cursor

/-! ### At the bracket -/

open Cursor

theorem LinkTarget.closeBracket_shift (t : LinkTarget) (delta : Nat) :
    (t.shift delta).closeBracket = delta + t.closeBracket := Nat.add_comm _ _

theorem getElem?_closeBracket (hj : (cur, .linkStart t) ∈ Cursor.atStart.layout markdown) :
    markdown[cur.offset + t.closeBracket]? = some ']' := by
  obtain ⟨-, c, cs, ht, hk⟩ := mem_layout_iff.mp hj
  have hstands := hk.symm ▸ Construct.stands_construct cur c cs
  exact (getElem?_add_of_drop ht _).trans (linkTarget?_spec hstands.2.2.2).closeBracket_eq

theorem exists_inLabel (hj : (cur, .linkStart t) ∈ Cursor.atStart.layout markdown) :
    ∃ first, Visits markdown first ∧ first.offset = cur.offset + 1 ∧
      first.InLabel markdown (t.shift cur.offset) ∧
      ∀ cur', Visits markdown cur' → cur.offset < cur'.offset → Reaches markdown first cur' := by
  obtain ⟨h, c, cs, ht, hk⟩ := mem_layout_iff.mp hj
  refine ⟨cur.after (.linkStart t) (c :: cs), hk ▸ h.next ht, rfl,
    inLabel_after_linkStart ht (hk.symm ▸ Construct.stands_construct cur c cs), ?_⟩
  intro cur' h' hlt
  rcases Visits.eq_or_behind ht (h.reaches_of_le h' (Nat.le_of_lt hlt)) with rfl | hr
  · exact absurd hlt (Nat.lt_irrefl _)
  · rwa [← hk] at hr

/-- A bracket that is not overtaken ends the link, and the url goes with it. -/
theorem exists_linkEnd (hj : (cur, .linkStart t) ∈ Cursor.atStart.layout markdown)
    (hclear : ¬ Overtaken markdown (cur.offset + t.closeBracket)) :
    ∃ cur' cs', Visits markdown cur' ∧ cur'.offset = cur.offset + t.closeBracket ∧
      markdown.drop cur'.offset = ']' :: cs' ∧
      cur'.construct ']' cs' = .linkEnd (t.finish - t.closeBracket) := by
  have hbracket := getElem?_closeBracket hj
  obtain ⟨first, -, hfirst, hlabel, hreaches⟩ := exists_inLabel hj
  have hpos := hlabel.offset_le
  rw [LinkTarget.closeBracket_shift, hfirst] at hpos
  obtain ⟨cur', c', cs', h', ht', hle, hlt⟩ := Visits.start.exists_covers (Nat.zero_le _)
    (List.getElem?_eq_some_iff.mp hbracket).1
  rw [overtaken_iff] at hclear
  have hat : cur'.offset = cur.offset + t.closeBracket := by
    refine Nat.le_antisymm hle (Nat.le_of_not_lt fun hbefore => hclear ?_)
    exact ⟨cur', c', cs', h', ht', Or.inl ⟨hbefore, hlt⟩⟩
  have hfenced : cur'.fenced = false := by
    rw [← Bool.not_eq_true]
    intro hfenced
    exact hclear ⟨cur', c', cs', h', ht', Or.inr ⟨hat, hfenced⟩⟩
  obtain rfl : c' = ']' := by
    have hhead := getElem?_add_of_drop ht' 0
    rw [Nat.add_zero, hat, hbracket] at hhead
    exact (Option.some.inj hhead).symm
  have hclose : cur'.offset = (t.shift cur.offset).closeBracket := by
    rw [hat, LinkTarget.closeBracket_shift]
  have hopen : cur'.openLink = some (t.shift cur.offset) :=
    (hreaches cur' h' (by omega)).openLink hlabel.openLink (Nat.le_of_eq hclose)
  have hwidth : (t.shift cur.offset).finish - cur'.offset = t.finish - t.closeBracket := by
    show t.finish + cur.offset - cur'.offset = _
    omega
  exact ⟨cur', cs', h', hat, ht', hwidth ▸ construct_linkEnd hfenced hopen hclose⟩

/-- A bracket is overtaken only if the text of its link holds something that the search for the
bracket overlooks. -/
theorem exists_overlooked (hj : (cur, .linkStart t) ∈ Cursor.atStart.layout markdown)
    (hover : Overtaken markdown (cur.offset + t.closeBracket)) :
    ∃ j ∈ Cursor.atStart.layout markdown, cur.offset < j.1.offset ∧
      j.1.offset < cur.offset + t.closeBracket ∧ j.2.isOverlooked = true := by
  by_contra hnone
  obtain ⟨first, hvisits, hfirst, hlabel, hreaches⟩ := exists_inLabel hj
  have hpos := hlabel.offset_le
  have hknown : ∀ j ∈ Cursor.atStart.layout markdown, first.offset ≤ j.1.offset →
      j.1.offset < (t.shift cur.offset).closeBracket → j.2.isOverlooked = false := by
    intro j hj hge hlt
    rw [LinkTarget.closeBracket_shift] at hlt
    exact Bool.eq_false_iff.mpr fun hk => hnone ⟨j, hj, by omega, hlt, hk⟩
  rw [← LinkTarget.closeBracket_shift] at hover
  obtain ⟨cur', c', cs', h', ht', hover⟩ := overtaken_iff.mp hover
  rcases Nat.lt_or_ge cur.offset cur'.offset with hlt | hge
  · have hr := hreaches cur' h' hlt
    rcases hover with ⟨hbefore, hpast⟩ | ⟨hat, hfenced⟩
    · have hin := hlabel.reaches hvisits hknown hr (Nat.le_of_lt hbefore)
      have hnext := (hin.after ht' hbefore (hknown _ (h'.mem_layout ht')
        (Reaches.offset_le hr) hbefore)).offset_le
      rw [offset_after] at hnext
      omega
    · have hin := hlabel.reaches hvisits hknown hr (Nat.le_of_eq hat)
      rw [hin.unfenced] at hfenced
      cases hfenced
  · have hbehind := Visits.eq_or_behind ht' (h'.reaches_of_le hvisits (by omega))
    rcases hbehind with rfl | hr
    · omega
    · have hstart := Reaches.offset_le hr
      rw [offset_after] at hstart
      omega

/-- Unless the reading goes past the bracket that closes the text of a link, nothing is kept of the
bracket and of the url behind it. The reading goes past only if there is an image, a tag, a comment
or a fence in the text. -/
theorem linkEnd_dropped (hj : (cur, .linkStart t) ∈ Cursor.atStart.layout markdown) :
    (¬ Overtaken markdown (cur.offset + t.closeBracket) →
      ∀ i, cur.offset + t.closeBracket ≤ i → i < cur.offset + t.finish →
        (strip markdown).positions.stripped? i = none) ∧
    (Overtaken markdown (cur.offset + t.closeBracket) →
      ∃ j ∈ Cursor.atStart.layout markdown, cur.offset < j.1.offset ∧
        j.1.offset < cur.offset + t.closeBracket ∧ j.2.isOverlooked = true) := by
  constructor
  · intro hclear i hi hlt
    obtain ⟨cur', cs', h', hat, ht', hend⟩ := exists_linkEnd hj hclear
    refine h'.stripped?_eq_none ht' (by rw [hend, Construct.kept]) (by omega) ?_
    rw [hend, Construct.width]
    omega
  · exact exists_overlooked hj

/-- Tags and code that lie in the text of a link leave the bracket alone; a tag that does not is
one that the search for the bracket overlooked. -/
theorem linkEnd_dropped_tag :
    let markdown := "[<i>a</i> `]`](u) e".toList
    let t : LinkTarget := ⟨13, 15, 17⟩
    let wild := "[a <b](u>rl)".toList
    let t' : LinkTarget := ⟨5, 7, 12⟩
    (Cursor.atStart, Construct.linkStart t) ∈ Cursor.atStart.layout markdown ∧
      ¬ Overtaken markdown 13 ∧ (strip markdown).positions.stripped? 15 = none ∧
      (Cursor.atStart, Construct.linkStart t') ∈ Cursor.atStart.layout wild ∧
      Overtaken wild 5 ∧ ∃ j ∈ Cursor.atStart.layout wild, 0 < j.1.offset ∧ j.1.offset < 5 ∧
        j.2.isOverlooked = true := by
  intro markdown t wild t'
  have hj : (Cursor.atStart, Construct.linkStart t) ∈ Cursor.atStart.layout markdown := by
    decide +kernel
  have hclear : ¬ Overtaken markdown 13 := by decide +kernel
  have hj' : (Cursor.atStart, Construct.linkStart t') ∈ Cursor.atStart.layout wild := by
    decide +kernel
  have hover : Overtaken wild 5 := by decide +kernel
  exact ⟨hj, hclear, (linkEnd_dropped hj).1 hclear 15 (by decide) (by decide), hj', hover,
    (linkEnd_dropped hj').2 hover⟩

/-- The tag in the text of the link takes the bracket with it, and the end of the url is kept. -/
theorem exists_kept_url : ∃ markdown cur t i j,
    (cur, Construct.linkStart t) ∈ Cursor.atStart.layout markdown ∧
      cur.offset + t.closeBracket ≤ i ∧ i < cur.offset + t.finish ∧
      (strip markdown).positions.stripped? i = some j := by
  refine ⟨"[a <b](u>rl)".toList, .atStart, ⟨5, 7, 12⟩, 9, 2, ?_, ?_, ?_, ?_⟩
  · decide +kernel
  · decide
  · decide
  · decide +kernel

end ProseCheck.Markdown
