import Mathlib.Tactic.Common
import ProseCheck.Proofs.Markdown.Code

/-! # Where the reading and the search for code agree

The reading of a document jumps over urls, images and tags and does not look for code in there,
which the search for code does. As long as no code region reaches out of such a jump, both come by
the same positions, and nothing that lies in code is kept.
-/

namespace ProseCheck.Markdown

variable {markdown text : List Char} {cur : Cursor} {c : Char} {cs : List Char}
  {offset stop n : Nat} {fence fence' : Option Nat}

/-! ### Jumps -/

/-- Whether the construct is passed in one go, code or not. -/
def Construct.isJump : Construct → Bool
  | image _ | linkEnd _ | html _ => true
  | _ => false

def Construct.span (k : Construct) (cur : Cursor) : Span := ⟨cur.offset, cur.offset + k.width⟩

/-- The constructs of a text that is read from a cursor on, with the cursors where they stand. -/
def Cursor.layout (cur : Cursor) : List Char → List (Cursor × Construct)
  | [] => []
  | c :: cs =>
    let k := cur.construct c cs
    (cur, k) :: layout (cur.after k (c :: cs)) (cs.drop (k.width - 1))
termination_by text => text.length

/-- A code region that starts in a jump ends in it, and what is kept for the jump lies in no code
region. -/
def CodeApart (markdown : List Char) : Prop :=
  ∀ j ∈ Cursor.atStart.layout markdown, j.2.isJump = true → ∀ r ∈ codeRegions markdown,
    ((j.2.span j.1).contains r.start = true → r.finish ≤ (j.2.span j.1).finish) ∧
      ∀ e ∈ j.2.kept j.1.offset '!', r.contains e.origin = false

instance (markdown : List Char) : Decidable (CodeApart markdown) :=
  inferInstanceAs (Decidable (∀ j ∈ Cursor.atStart.layout markdown, _))

theorem Visits.mem_layout (h : Visits markdown cur) (ht : markdown.drop cur.offset = c :: cs) :
    (cur, cur.construct c cs) ∈ Cursor.atStart.layout markdown := by
  have hsuffix (cur : Cursor) (h : Visits markdown cur) :
      cur.layout (markdown.drop cur.offset) ⊆ Cursor.atStart.layout markdown := by
    induction h with
    | start => exact List.Subset.refl _
    | @next cur c cs hv ht ih =>
      have hpos := (hv.fits.width_bounds ht (Construct.stands_construct ..)).1
      refine List.Subset.trans ?_ ih
      rw [ht, Cursor.layout, Cursor.offset_after, drop_add_of_drop ht hpos]
      exact List.subset_cons_self ..
  refine hsuffix cur h ?_
  rw [ht, Cursor.layout]
  exact List.mem_cons_self

/-! ### What the search finds from a position on -/

/-- The code regions from a position on, when the fence that starts at `fence` is open. -/
def regionsBehind (markdown : List Char) (offset : Nat) (fence : Option Nat) : List Span :=
  regionsFrom (fun _ => false) offset fence (markdown.drop offset)

theorem exists_cons_of_lt (h : offset < markdown.length) :
    ∃ c cs, markdown.drop offset = c :: cs :=
  ⟨_, _, List.drop_eq_getElem_cons h⟩

theorem regionsBehind_length (markdown : List Char) (fence : Option Nat) :
    regionsBehind markdown markdown.length fence = fence.toList.map (⟨·, markdown.length⟩) := by
  rw [regionsBehind, List.drop_length, regionsFrom]

theorem regionsBehind_fence (hs : startsFence (markdown.drop offset) = true) :
    regionsBehind markdown offset none =
      regionsBehind markdown (offset + fenceLength) (some offset) := by
  have hlt := startsFence_bounds hs
  obtain ⟨c, cs, ht⟩ := exists_cons_of_lt (Nat.lt_of_lt_of_le
    (Nat.lt_add_of_pos_right fenceLength_pos) hlt)
  rw [regionsBehind, regionsBehind, drop_add_of_drop ht fenceLength_pos, ht, regionsFrom]
  simp [← ht, hs]

theorem regionsBehind_fence_some {start : Nat} (hs : startsFence (markdown.drop offset) = true) :
    regionsBehind markdown offset (some start) =
      ⟨start, offset + fenceLength⟩ :: regionsBehind markdown (offset + fenceLength) none := by
  have hlt := startsFence_bounds hs
  obtain ⟨c, cs, ht⟩ := exists_cons_of_lt (Nat.lt_of_lt_of_le
    (Nat.lt_add_of_pos_right fenceLength_pos) hlt)
  rw [regionsBehind, regionsBehind, drop_add_of_drop ht fenceLength_pos, ht, regionsFrom]
  simp [← ht, hs]

theorem regionsBehind_fenced {start : Nat} (hlt : offset < markdown.length)
    (hs : startsFence (markdown.drop offset) = false) :
    regionsBehind markdown offset (some start) =
      regionsBehind markdown (offset + 1) (some start) := by
  obtain ⟨c, cs, ht⟩ := exists_cons_of_lt hlt
  rw [regionsBehind, regionsBehind, drop_succ_of_drop ht, ht, regionsFrom]
  simp [← ht, hs]

theorem regionsBehind_span (hs : startsFence (markdown.drop offset) = false)
    (hn : codeSpan? (markdown.drop offset) = some n) :
    regionsBehind markdown offset none =
      ⟨offset, offset + n⟩ :: regionsBehind markdown (offset + n) none := by
  obtain ⟨hrun, hlt, hle, -⟩ := codeSpan?_spec hn
  rw [List.length_drop] at hle
  obtain ⟨c, cs, ht⟩ : ∃ c cs, markdown.drop offset = c :: cs := exists_cons_of_lt (by omega)
  obtain rfl : c = backtick := by simpa [ht] using runLength_pos_iff.mp hrun
  rw [regionsBehind, regionsBehind, drop_add_of_drop ht (by omega), ht, regionsFrom]
  rw [ht] at hs hn
  simp [hs, hn]

theorem regionsBehind_backticks (hs : startsFence (markdown.drop offset) = false)
    (hn : codeSpan? (markdown.drop offset) = none)
    (hpos : 0 < runLength (markdown.drop offset)) :
    regionsBehind markdown offset none =
      regionsBehind markdown (offset + runLength (markdown.drop offset)) none := by
  have hle := runLength_le_length (markdown.drop offset)
  rw [List.length_drop] at hle
  obtain ⟨c, cs, ht⟩ : ∃ c cs, markdown.drop offset = c :: cs := exists_cons_of_lt (by omega)
  obtain rfl : c = backtick := by simpa [ht] using runLength_pos_iff.mp hpos
  rw [regionsBehind, regionsBehind, drop_add_of_drop ht hpos]
  rw [ht] at hs hn ⊢
  rw [regionsFrom]
  simp [hs, hn]

theorem regionsBehind_plain (hlt : offset < markdown.length)
    (hc : markdown[offset]? ≠ some backtick) :
    regionsBehind markdown offset none = regionsBehind markdown (offset + 1) none := by
  obtain ⟨c, cs, ht⟩ := exists_cons_of_lt hlt
  have hc : c ≠ backtick := by
    rintro rfl
    exact hc (getElem?_add_of_drop ht 0)
  have hs : startsFence (c :: cs) = false := by
    rw [← Bool.not_eq_true, startsFence_iff, runLength_cons, if_neg hc]
    decide
  rw [regionsBehind, regionsBehind, drop_succ_of_drop ht, ht, regionsFrom]
  simp [hs, hc]

theorem start_of_mem_regionsBehind {r : Span} (hr : r ∈ regionsBehind markdown offset fence) :
    fence = some r.start ∨ offset ≤ r.start := by
  rw [regionsBehind] at hr
  generalize markdown.drop offset = text at hr
  fun_induction regionsFrom (fun _ => false) offset fence text with
  | case1 offset fence =>
    obtain ⟨start, hstart, rfl⟩ := List.mem_map.mp hr
    exact Or.inl (by simpa using hstart)
  | case2 offset fence c cs hpast => simp at hpast
  | case3 offset c cs _ _ start ih =>
    rcases List.mem_cons.mp hr with rfl | hr
    · exact Or.inl rfl
    · exact Or.inr (by have := (ih hr).resolve_left (by simp); omega)
  | case4 offset c cs _ _ ih =>
    rcases ih hr with h | h
    · exact Or.inr (Nat.le_of_eq (Option.some.inj h))
    · exact Or.inr (by omega)
  | case5 offset fence c cs _ _ _ ih => exact (ih hr).imp_right (by omega)
  | case6 offset fence cs _ _ n _ _ ih =>
    rcases List.mem_cons.mp hr with rfl | hr
    · exact Or.inr (Nat.le_refl _)
    · exact Or.inr (by have := (ih hr).resolve_left (by simp); omega)
  | case7 offset fence cs _ _ _ _ n ih =>
    exact Or.inr (by have := (ih hr).resolve_left (by simp); omega)
  | case8 offset fence c cs _ _ _ _ ih =>
    exact Or.inr (by have := (ih hr).resolve_left (by simp); omega)

theorem exists_mem_regionsBehind (start : Nat) (hle : offset ≤ markdown.length) :
    ∃ r ∈ regionsBehind markdown offset (some start), r.start = start ∧
      offset ≤ r.finish ∧ (offset < markdown.length → offset < r.finish) := by
  induction hn : markdown.length - offset generalizing offset with
  | zero =>
    obtain rfl : offset = markdown.length := by omega
    rw [regionsBehind_length]
    exact ⟨_, List.mem_singleton_self _, rfl, Nat.le_refl _, by simp⟩
  | succ n ih =>
    have hlt : offset < markdown.length := by omega
    cases hs : startsFence (markdown.drop offset) with
    | true =>
      rw [regionsBehind_fence_some hs]
      have := fenceLength_pos
      exact ⟨_, List.mem_cons_self, rfl, Nat.le_add_right .., fun _ => by simp only; omega⟩
    | false =>
      rw [regionsBehind_fenced hlt hs]
      obtain ⟨r, hr, hstart, hfinish, -⟩ := ih hlt (by omega)
      exact ⟨r, hr, hstart, by omega, fun _ => hfinish⟩

/-! ### What the search has found up to a position -/

theorem add_le_of_last (hlast : ∀ x, markdown[stop - 1]? = some x → x ≠ backtick)
    (hlt : offset < stop) (hn : n ≤ runLength (markdown.drop offset)) : offset + n ≤ stop := by
  by_contra hgt
  refine hlast backtick ?_ rfl
  rw [show stop - 1 = offset + (stop - 1 - offset) by omega, getElem?_add_of_drop rfl]
  exact getElem?_of_lt_runLength (by omega)

/-- The search goes on from a position to another one, and what it finds on its way ends before the
second. -/
def Leads (markdown : List Char) (offset : Nat) (fence : Option Nat) (stop : Nat)
    (fence' : Option Nat) : Prop :=
  ∃ found, regionsBehind markdown offset fence = found ++ regionsBehind markdown stop fence' ∧
    ∀ r ∈ found, r.finish ≤ stop

theorem leads_of_eq (h : regionsBehind markdown offset fence = regionsBehind markdown stop fence') :
    Leads markdown offset fence stop fence' :=
  ⟨[], h, by simp⟩

theorem leads_of_eq_cons {r : Span}
    (h : regionsBehind markdown offset fence = r :: regionsBehind markdown stop fence')
    (hr : r.finish ≤ stop) : Leads markdown offset fence stop fence' :=
  ⟨[r], h, by simpa⟩

theorem Leads.trans {stop' : Nat} {fence'' : Option Nat}
    (h : Leads markdown offset fence stop fence') (h' : Leads markdown stop fence' stop' fence'')
    (hle : stop ≤ stop') : Leads markdown offset fence stop' fence'' := by
  obtain ⟨found, heq, hfound⟩ := h
  obtain ⟨found', heq', hfound'⟩ := h'
  refine ⟨found ++ found', by rw [heq, heq', List.append_assoc], fun r hr => ?_⟩
  exact (List.mem_append.mp hr).elim (fun hr => Nat.le_trans (hfound r hr) hle) (hfound' r)

theorem Leads.subset (h : Leads markdown offset fence stop fence') :
    regionsBehind markdown stop fence' ⊆ regionsBehind markdown offset fence := by
  obtain ⟨found, heq, -⟩ := h
  exact heq ▸ List.subset_append_right ..

theorem leads_self (hlen : offset ≤ markdown.length)
    (hfence : ∀ start, fence = some start → start < offset)
    (hends : ∀ r ∈ regionsBehind markdown offset fence, r.start < offset → r.finish ≤ offset) :
    Leads markdown offset fence offset none := by
  cases fence with
  | none => exact leads_of_eq rfl
  | some start =>
    obtain ⟨r, hr, rfl, -, hlt⟩ := exists_mem_regionsBehind start hlen
    have hend := hends r hr (hfence _ rfl)
    obtain rfl : offset = markdown.length := by omega
    exact leads_of_eq_cons (r := ⟨r.start, markdown.length⟩) (by simp [regionsBehind_length])
      (Nat.le_refl _)

/-- The search comes by every position that no region crosses and no backtick stands before. -/
theorem leads_of_ends (hle : offset ≤ stop) (hlen : stop ≤ markdown.length)
    (hlast : ∀ x, markdown[stop - 1]? = some x → x ≠ backtick)
    (hfence : ∀ start, fence = some start → start < stop)
    (hends : ∀ r ∈ regionsBehind markdown offset fence, r.start < stop → r.finish ≤ stop) :
    Leads markdown offset fence stop none := by
  induction hn : stop - offset using Nat.strongRecOn generalizing offset fence with
  | ind n ih =>
  rcases Nat.eq_or_lt_of_le hle with rfl | hlt
  · exact leads_self hlen hfence hends
  have hnext {next : Nat} {fence' : Option Nat} (h : Leads markdown offset fence next fence')
      (hlt' : offset < next) (hle' : next ≤ stop)
      (hfence' : ∀ start, fence' = some start → start < stop) :
      Leads markdown offset fence stop none :=
    h.trans (ih (stop - next) (by omega) hle' hfence' (fun r hr => hends r (h.subset hr)) rfl) hle'
  have hrun {n : Nat} := add_le_of_last (n := n) hlast hlt
  have hlt' : offset < markdown.length := Nat.lt_of_lt_of_le hlt hlen
  have hpos := fenceLength_pos
  cases hs : startsFence (markdown.drop offset) with
  | true =>
    have hle' := hrun (startsFence_iff.mp hs)
    cases fence with
    | none => exact hnext (leads_of_eq (regionsBehind_fence hs)) (by omega) hle' (by simpa)
    | some start =>
      exact hnext (leads_of_eq_cons (regionsBehind_fence_some hs) (Nat.le_refl _)) (by omega) hle'
        (by simp)
  | false =>
    cases fence with
    | some start => exact hnext (leads_of_eq (regionsBehind_fenced hlt' hs)) (by omega) hlt hfence
    | none =>
      by_cases hc : 0 < runLength (markdown.drop offset)
      · cases hn' : codeSpan? (markdown.drop offset) with
        | none =>
          exact hnext (leads_of_eq (regionsBehind_backticks hs hn' hc)) (by omega)
            (hrun (Nat.le_refl _)) (by simp)
        | some m =>
          have hm := codeSpan?_spec hn'
          have heq := regionsBehind_span hs hn'
          have hle' := hends ⟨offset, offset + m⟩ (heq ▸ List.mem_cons_self) hlt
          exact hnext (leads_of_eq_cons heq (Nat.le_refl _)) (by omega) hle' (by simp)
      · rw [runLength_pos_iff, List.getElem?_drop, Nat.add_zero] at hc
        exact hnext (leads_of_eq (regionsBehind_plain hlt' hc)) (by omega) hlt (by simp)

/-! ### Code is not kept -/

theorem Cursor.fenced_after (cur : Cursor) (k : Construct) (text : List Char) :
    (cur.after k text).fenced = if k = .fence then !cur.fenced else cur.fenced := rfl

/-- Over everything but a jump, the search goes on as the reading does. -/
theorem leads_of_stands {k : Construct} (ht : markdown.drop cur.offset = c :: cs)
    (hk : k.Stands cur c cs) (hj : k.isJump = false) (hfence : fence.isSome = cur.fenced) :
    ∃ fence', Leads markdown cur.offset fence (cur.offset + k.width) fence' ∧
      fence'.isSome = (cur.after k (c :: cs)).fenced := by
  have hlt : cur.offset < markdown.length := by
    rw [length_of_drop ht]
    omega
  have hhead : markdown[cur.offset]? = some c := getElem?_add_of_drop ht 0
  have hplain (hc : c ≠ backtick) (hf : cur.fenced = false) :
      Leads markdown cur.offset fence (cur.offset + 1) none := by
    obtain rfl : fence = none := by simpa [hf] using hfence
    exact leads_of_eq (regionsBehind_plain hlt (by simpa [hhead] using hc))
  rw [Cursor.fenced_after]
  cases k with
  | fence =>
    have hs : startsFence (markdown.drop cur.offset) = true := ht ▸ hk
    cases fence with
    | none => exact ⟨_, leads_of_eq (regionsBehind_fence hs), by simp [← hfence]⟩
    | some start =>
      exact ⟨_, leads_of_eq_cons (regionsBehind_fence_some hs) (Nat.le_refl _), by simp [← hfence]⟩
  | fenced =>
    obtain ⟨hs, hf⟩ := hk
    obtain ⟨start, rfl⟩ := Option.isSome_iff_exists.mp (hfence.trans hf)
    exact ⟨_, leads_of_eq (regionsBehind_fenced hlt (ht ▸ hs)), by simp [hf]⟩
  | code n =>
    obtain ⟨-, hf, hs, hn⟩ := hk
    obtain rfl : fence = none := by simpa [hf] using hfence
    exact ⟨none, leads_of_eq_cons (regionsBehind_span (ht ▸ hs) (ht ▸ hn)) (Nat.le_refl _),
      by simp [hf]⟩
  | backticks n =>
    obtain ⟨rfl, hf, hs, hn, rfl⟩ := hk
    obtain rfl : fence = none := by simpa [hf] using hfence
    rw [← ht] at hs hn ⊢
    exact ⟨none, leads_of_eq (regionsBehind_backticks hs hn (ht ▸ runLength_pos_iff.mpr rfl)),
      by simp [hf]⟩
  | linkStart t =>
    exact ⟨none, hplain (by rw [hk.1]; decide) hk.2.1, by simp [hk.2.1]⟩
  | marker =>
    refine ⟨none, hplain ?_ hk.2, by simp [hk.2]⟩
    rcases hk.1 with rfl | rfl <;> decide
  | plain => exact ⟨none, hplain hk.1 hk.2, by simp [hk.2]⟩
  | image _ | linkEnd _ | html _ => cases hj

/-- A jump that no region crosses takes the reading to where the search comes by. -/
theorem leads_of_jump (h : Visits markdown cur) (hapart : CodeApart markdown)
    (ht : markdown.drop cur.offset = c :: cs) (hj : (cur.construct c cs).isJump = true)
    (hfound : regionsBehind markdown cur.offset none ⊆ codeRegions markdown) :
    Leads markdown cur.offset none (cur.offset + (cur.construct c cs).width) none := by
  have hk := Construct.stands_construct cur c cs
  obtain ⟨hpos, -⟩ := h.fits.width_bounds ht hk
  have hlen := (h.next ht).fits.offset_le
  obtain ⟨x, hx, hne⟩ := h.fits.last_ne_backtick ht hk
    (by cases hc : cur.construct c cs <;> simp_all [Construct.isJump])
  refine leads_of_ends (Nat.le_add_right ..) hlen ?_ (by simp) fun r hr hlt => ?_
  · rintro y hy rfl
    exact hne (Option.some.inj (hx.symm.trans hy))
  · have hle := (start_of_mem_regionsBehind hr).resolve_left (by simp)
    refine (hapart _ (h.mem_layout ht) hj r (hfound hr)).1 ?_
    simp [Span.contains, Construct.span, hle, hlt]

/-- The search for code comes by the position of a cursor, and a fence is open for both or for
neither. -/
def Cursor.Searched (markdown : List Char) (cur : Cursor) : Prop :=
  ∃ fence, Leads markdown 0 none cur.offset fence ∧ fence.isSome = cur.fenced

theorem Construct.not_fenced_of_isJump {k : Construct} (hk : k.Stands cur c cs)
    (hj : k.isJump = true) : cur.fenced = false := by
  cases k with
  | image | linkEnd | html => exact hk.2.1
  | _ => cases hj

theorem Visits.searched (h : Visits markdown cur) (hapart : CodeApart markdown) :
    cur.Searched markdown := by
  induction h with
  | start => exact ⟨none, leads_of_eq rfl, rfl⟩
  | @next cur c cs hv ht ih =>
    obtain ⟨fence, hleads, hfence⟩ := ih
    have hk := Construct.stands_construct cur c cs
    cases hj : (cur.construct c cs).isJump with
    | false =>
      obtain ⟨fence', hstep, hfence'⟩ := leads_of_stands ht hk hj hfence
      exact ⟨fence', hleads.trans hstep (Nat.le_add_right ..), hfence'⟩
    | true =>
      have hf := Construct.not_fenced_of_isJump hk hj
      obtain rfl : fence = none := by simpa [hf] using hfence
      have hstep := leads_of_jump hv hapart ht hj hleads.subset
      refine ⟨none, hleads.trans hstep (Nat.le_add_right ..), ?_⟩
      rw [Cursor.fenced_after, if_neg (by rintro heq; simp [heq, Construct.isJump] at hj), hf]
      rfl

theorem Leads.contains_eq_false {r : Span} {position : Nat} (h : Leads markdown 0 none offset none)
    (heq : regionsBehind markdown offset none = regionsBehind markdown stop none)
    (hr : r ∈ codeRegions markdown) (hge : offset ≤ position) (hlt : position < stop) :
    r.contains position = false := by
  obtain ⟨found, hfound, hends⟩ := h
  have hr : r ∈ found ++ regionsBehind markdown stop none := heq ▸ hfound ▸ hr
  simp only [Span.contains, Bool.and_eq_false_iff, decide_eq_false_iff_not]
  rcases List.mem_append.mp hr with hr | hr
  · have := hends r hr
    omega
  · have := (start_of_mem_regionsBehind hr).resolve_left (Option.some_ne_none _).symm
    omega

theorem contains_origin_eq_false (hapart : CodeApart markdown) {r : Span}
    (hr : r ∈ codeRegions markdown) {e : Kept} (he : e ∈ (strip markdown).kept) :
    r.contains e.origin = false := by
  obtain ⟨cur, c, cs, hv, -, ht, he⟩ := Visits.start.of_mem_read he
  have hk := Construct.stands_construct cur c cs
  obtain ⟨hge, hlt⟩ := kept_bounds hk he
  obtain ⟨fence, hleads, hfence⟩ := hv.searched hapart
  have hnone (hf : cur.fenced = false) : fence = none := by simpa [hf] using hfence
  cases hc : cur.construct c cs with
  | backticks n =>
    obtain ⟨rfl, hf, hs, hn, rfl⟩ := hc ▸ hk
    obtain rfl := hnone hf
    rw [hc, Construct.width] at hlt
    rw [← ht] at hs hn hlt
    exact hleads.contains_eq_false
      (regionsBehind_backticks hs hn (ht ▸ runLength_pos_iff.mpr rfl)) hr hge hlt
  | image t =>
    refine (hapart _ (hv.mem_layout ht) (by rw [hc]; rfl) r hr).2 e ?_
    rw [hc] at he ⊢
    exact he
  | plain =>
    obtain ⟨hne, hf⟩ := hc ▸ hk
    obtain rfl := hnone hf
    rw [hc] at hlt
    have hin : cur.offset < markdown.length := by
      rw [length_of_drop ht]
      omega
    have hhead : markdown[cur.offset]? = some c := getElem?_add_of_drop ht 0
    exact hleads.contains_eq_false
      (regionsBehind_plain hin (by simpa [hhead] using hne)) hr hge hlt
  | _ => simp [hc, Construct.kept] at he

end ProseCheck.Markdown
