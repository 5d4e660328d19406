import Mathlib.Tactic.Common
import ProseCheck.Proofs.Markdown.Agreement
import ProseCheck.Proofs.Markdown.Piece
import ProseCheck.Proofs.Text.Offset

/-! # What code regions look like

The code regions of a document lie one behind the other. Each of them is a closed fence, a fence
that runs to the end of the text, or a code span in one line. A search that stops behind a position
knows whether the position lies in code: a fence that is still open there ends further on.
-/

namespace ProseCheck.Markdown

variable {markdown text : List Char} {offset position n : Nat} {fence : Option Nat} {r : Span}
  {regions : List Span}

/-! ### Backticks -/

theorem take_of_le_runLength (h : n ≤ runLength text) :
    text.take n = List.replicate n backtick := by
  refine List.ext_getElem? fun i => ?_
  rcases Nat.lt_or_ge i n with hlt | hge
  · rw [List.getElem?_take_of_lt hlt, getElem?_of_lt_runLength (Nat.lt_of_lt_of_le hlt h),
      List.getElem?_replicate_of_lt hlt]
  · rw [List.getElem?_eq_none, List.getElem?_eq_none]
    · simpa using hge
    · exact Nat.le_trans (List.length_take_le ..) hge

theorem take_fence (h : startsFence text = true) :
    text.take fenceLength = List.replicate fenceLength backtick :=
  take_of_le_runLength (startsFence_iff.mp h)

structure IsSpanBody (body : List Char) : Prop where
  ne_nil : body ≠ []
  head?_ne : body.head? ≠ some backtick
  getLast?_ne : body.getLast? ≠ some backtick
  no_newline : '\n' ∉ body

theorem closingRun?_split {run seen : Nat} (h : closingRun? run seen text = some n) :
    ∃ body k, text.take n = body ++ List.replicate k backtick ∧ '\n' ∉ body ∧
      body.getLast? ≠ some backtick ∧ (body = [] → seen + k = run) ∧ (body ≠ [] → k = run) := by
  have hnewline : '\n' ≠ backtick := by decide
  induction text generalizing seen n with
  | nil =>
    simp only [closingRun?, Option.ite_none_right_eq_some, Option.some.injEq] at h
    exact ⟨[], 0, by simp, by simp, by simp, fun _ => h.1, by simp⟩
  | cons c cs ih =>
    rw [closingRun?] at h
    split at h
    next hc =>
      subst hc
      obtain ⟨m, hm, rfl⟩ := Option.map_eq_some_iff.mp h
      obtain ⟨body, k, htake, hline, hlast, hnil, hcons⟩ := ih hm
      cases body with
      | nil =>
        refine ⟨[], k + 1, ?_, hline, hlast, fun _ => ?_, by simp⟩
        · rw [List.take_succ_cons, htake, List.nil_append, List.nil_append, List.replicate_succ]
        · rw [← hnil rfl]
          omega
      | cons d ds =>
        refine ⟨backtick :: d :: ds, k, ?_, ?_, ?_, by simp, fun _ => hcons (by simp)⟩
        · rw [List.take_succ_cons, htake]
          rfl
        · exact mt List.mem_cons.mp (not_or.mpr ⟨hnewline, hline⟩)
        · rwa [List.getLast?_cons_cons]
    next hc =>
      split at h
      next hseen =>
        obtain rfl : n = 0 := by simpa using h.symm
        exact ⟨[], 0, by simp, by simp, by simp, fun _ => hseen, by simp⟩
      next =>
        split at h
        next => cases h
        next hend =>
          obtain ⟨m, hm, rfl⟩ := Option.map_eq_some_iff.mp h
          obtain ⟨body, k, htake, hline, hlast, hnil, hcons⟩ := ih hm
          refine ⟨c :: body, k, ?_, ?_, ?_, by simp, fun _ => ?_⟩
          · rw [List.take_succ_cons, htake, List.cons_append]
          · exact mt List.mem_cons.mp (not_or.mpr ⟨Ne.symm hend, hline⟩)
          · cases body with
            | nil => simpa using hc
            | cons d ds => rwa [List.getLast?_cons_cons]
          · by_cases hbody : body = []
            · simpa using hnil hbody
            · exact hcons hbody

theorem exists_take_codeSpan? (h : codeSpan? text = some n) :
    ∃ body, IsSpanBody body ∧ text.take n = (Piece.code (runLength text) body).source := by
  obtain ⟨hrun, -⟩ := codeSpan?_spec h
  simp only [codeSpan?, if_neg (Nat.ne_of_gt hrun)] at h
  obtain ⟨m, hm, rfl⟩ := Option.map_eq_some_iff.mp h
  obtain ⟨body, k, htake, hline, hlast, hnil, hcons⟩ := closingRun?_split hm
  have hhead : ((text.drop (runLength text)).take m).head? ≠ some backtick := by
    rw [List.head?_take, List.head?_drop]
    split
    · simp
    · exact getElem?_runLength_ne text
  rw [htake] at hhead
  have hbody : body ≠ [] := by
    rintro rfl
    obtain ⟨j, rfl⟩ : ∃ j, k = j + 1 := Nat.exists_eq_add_one.mpr (by have := hnil rfl; omega)
    exact hhead rfl
  obtain rfl := hcons hbody
  refine ⟨body, ⟨hbody, ?_, hlast, hline⟩, ?_⟩
  · rwa [List.head?_append_of_ne_nil _ hbody] at hhead
  · rw [List.take_add, take_of_le_runLength (Nat.le_refl _), htake, Piece.source,
      List.append_assoc]

/-! ### Regions -/

inductive Delimited (markdown : List Char) (r : Span) : Prop
  | fence {body : List Char} : Text.slice? markdown r = some (Piece.fence body).source →
      Delimited markdown r
  | openFence {body : List Char} :
      Text.slice? markdown r = some (List.replicate fenceLength backtick ++ body) →
      r.finish = markdown.length → Delimited markdown r
  | span {run : Nat} {body : List Char} : 0 < run → run < fenceLength → IsSpanBody body →
      Text.slice? markdown r = some (Piece.code run body).source → Delimited markdown r

theorem Delimited.bounds (h : Delimited markdown r) :
    r.start < r.finish ∧ r.finish ≤ markdown.length := by
  have hslice {code : List Char} (hcode : Text.slice? markdown r = some code) (hne : code ≠ []) :
      r.start < r.finish ∧ r.finish ≤ markdown.length := by
    have hlength := Text.length_of_slice? hcode
    have hpos := List.length_pos_iff.mpr hne
    rw [hlength, Span.length] at hpos
    exact ⟨by omega, (Text.slice?_eq_some_iff.mp hcode).2.1⟩
  cases h with
  | fence hcode => exact hslice hcode (by simp [Piece.source, fenceLength])
  | openFence hcode => exact hslice hcode (by simp [fenceLength])
  | span _ _ hbody hcode => exact hslice hcode (by simp [Piece.source, hbody.ne_nil])

theorem delimited_fence {start : Nat} (hopen : startsFence (markdown.drop start) = true)
    (hle : start + fenceLength ≤ offset) (hclose : startsFence (markdown.drop offset) = true) :
    Delimited markdown ⟨start, offset + fenceLength⟩ := by
  let size := offset - (start + fenceLength)
  let body := (markdown.drop (start + fenceLength)).take size
  have hbehind : start + fenceLength + size = offset := Nat.add_sub_of_le hle
  have hcode : (markdown.drop start).take (fenceLength + size + fenceLength) =
      (Piece.fence body).source := by
    rw [List.take_add, List.take_add, take_fence hopen, List.drop_drop, List.drop_drop,
      ← Nat.add_assoc, hbehind, take_fence hclose, Piece.source]
  have hend : start + (fenceLength + size + fenceLength) = offset + fenceLength := by omega
  have hslice := Text.slice?_add (hend ▸ startsFence_bounds hclose)
  rw [hend, hcode] at hslice
  exact .fence hslice

theorem delimited_openFence {start : Nat} (hopen : startsFence (markdown.drop start) = true) :
    Delimited markdown ⟨start, markdown.length⟩ := by
  have hbound := startsFence_bounds hopen
  have hcode : markdown.drop start =
      List.replicate fenceLength backtick ++ markdown.drop (start + fenceLength) := by
    rw [← take_fence hopen, ← List.drop_drop, List.take_append_drop]
  have hend : start + (markdown.drop start).length = markdown.length := by
    rw [List.length_drop]
    omega
  have hslice := Text.slice?_add (Nat.le_of_eq hend)
  rw [hend, List.take_length, hcode] at hslice
  exact .openFence hslice rfl

theorem delimited_span (hs : startsFence (markdown.drop offset) = false)
    (hn : codeSpan? (markdown.drop offset) = some n) : Delimited markdown ⟨offset, offset + n⟩ := by
  obtain ⟨hrun, hlt, hle, -⟩ := codeSpan?_spec hn
  obtain ⟨body, hbody, htake⟩ := exists_take_codeSpan? hn
  have hshort : ¬ fenceLength ≤ runLength (markdown.drop offset) := by
    rw [← startsFence_iff, hs]
    exact Bool.false_ne_true
  rw [List.length_drop] at hle
  exact .span hrun (Nat.lt_of_not_le hshort) hbody (htake ▸ Text.slice?_add (by omega))

/-- The regions lie one behind the other from a position on. -/
inductive Follow (markdown : List Char) : Nat → List Span → Prop
  | nil {offset : Nat} : Follow markdown offset []
  | cons {offset : Nat} {r : Span} {rest : List Span} : offset ≤ r.start → Delimited markdown r →
      Follow markdown r.finish rest → Follow markdown offset (r :: rest)

namespace Follow

theorem mono (h : Follow markdown n regions) (hle : offset ≤ n) :
    Follow markdown offset regions := by
  cases h with
  | nil => exact .nil
  | cons hn hr h => exact .cons (Nat.le_trans hle hn) hr h

theorem forall_mem (h : Follow markdown offset regions) :
    ∀ r ∈ regions, offset ≤ r.start ∧ Delimited markdown r := by
  induction h with
  | nil => simp
  | cons hle hr _ ih =>
    have hlt := hr.bounds.1
    refine List.forall_mem_cons.mpr ⟨⟨hle, hr⟩, fun s hs => ?_⟩
    exact ⟨by have := (ih s hs).1; omega, (ih s hs).2⟩

theorem pairwise (h : Follow markdown offset regions) :
    regions.Pairwise fun r s => r.finish ≤ s.start := by
  induction h with
  | nil => exact .nil
  | cons _ _ h ih => exact .cons (fun s hs => (h.forall_mem s hs).1) ih

end Follow

/-- Induction along the search: from the position behind a step back to the one before it. -/
theorem Scans.backward {P : ∀ offset fence, Scans markdown offset fence → Prop}
    (finish : ∀ fence h, P markdown.length fence h)
    (openFence : ∀ offset h (hs : startsFence (markdown.drop offset) = true),
      P (offset + fenceLength) (some offset) (h.openFence hs) → P offset none h)
    (closeFence : ∀ offset start h (hs : startsFence (markdown.drop offset) = true),
      P (offset + fenceLength) none (h.closeFence hs) → P offset (some start) h)
    (fenced : ∀ offset start h (hlt : offset < markdown.length)
      (hs : startsFence (markdown.drop offset) = false),
      P (offset + 1) (some start) (h.fenced hlt hs) → P offset (some start) h)
    (span : ∀ offset n h (hs : startsFence (markdown.drop offset) = false)
      (hn : codeSpan? (markdown.drop offset) = some n),
      P (offset + n) none (h.span hs hn) → P offset none h)
    (backticks : ∀ offset h (hs : startsFence (markdown.drop offset) = false)
      (hn : codeSpan? (markdown.drop offset) = none)
      (hrun : 0 < runLength (markdown.drop offset)),
      P (offset + runLength (markdown.drop offset)) none (h.backticks hs hn hrun) →
        P offset none h)
    (plain : ∀ offset h (hlt : offset < markdown.length) (hc : markdown[offset]? ≠ some backtick),
      P (offset + 1) none (h.plain hlt hc) → P offset none h)
    (h : Scans markdown offset fence) : P offset fence h := by
  induction hn : markdown.length - offset using Nat.strongRecOn generalizing offset fence with
  | ind n ih =>
  have hnext {next : Nat} {fence' : Option Nat} (h' : Scans markdown next fence')
      (hlt : offset < next) : P next fence' h' :=
    ih _ (by have := h'.offset_le; omega) h' rfl
  rcases Nat.eq_or_lt_of_le h.offset_le with rfl | hlt
  · exact finish fence h
  have hpos := fenceLength_pos
  cases hs : startsFence (markdown.drop offset) with
  | true =>
    cases fence with
    | none => exact openFence offset h hs (hnext _ (by omega))
    | some start => exact closeFence offset start h hs (hnext _ (by omega))
  | false =>
    cases fence with
    | some start => exact fenced offset start h hlt hs (hnext _ (Nat.lt_succ_self _))
    | none =>
      cases hcode : codeSpan? (markdown.drop offset) with
      | some n =>
        have := codeSpan?_spec hcode
        exact span offset n h hs hcode (hnext _ (by omega))
      | none =>
        rcases Nat.eq_zero_or_pos (runLength (markdown.drop offset)) with hrun | hrun
        · have hc : markdown[offset]? ≠ some backtick := by
            rw [← Nat.add_zero offset, getElem?_add_of_drop rfl, ← hrun]
            exact getElem?_runLength_ne _
          exact plain offset h hlt hc (hnext _ (Nat.lt_succ_self _))
        · exact backticks offset h hs hcode hrun (hnext _ (by omega))

/-- What is found behind a position lies behind it, except that a fence may be open there. -/
theorem Scans.follow (h : Scans markdown offset fence) :
    Follow markdown (fence.getD offset) (regionsBehind markdown offset fence) := by
  induction h using Scans.backward with
  | finish fence h =>
    rw [regionsBehind_length]
    cases fence with
    | none => exact .nil
    | some start =>
      exact .cons (Nat.le_refl _) (delimited_openFence h.fence_start.2.1) .nil
  | openFence offset h hs ih =>
    rw [regionsBehind_fence hs]
    exact ih
  | closeFence offset start h hs ih =>
    obtain ⟨-, hopen, hle⟩ := h.fence_start
    rw [regionsBehind_fence_some hs]
    exact .cons (Nat.le_refl _) (delimited_fence hopen hle hs) ih
  | fenced offset start h hlt hs ih =>
    rw [regionsBehind_fenced hlt hs]
    exact ih
  | span offset n h hs hn ih =>
    rw [regionsBehind_span hs hn]
    exact .cons (Nat.le_refl _) (delimited_span hs hn) ih
  | backticks offset h hs hn hrun ih =>
    rw [regionsBehind_backticks hs hn hrun]
    exact ih.mono (Nat.le_add_right ..)
  | plain offset h hlt hc ih =>
    rw [regionsBehind_plain hlt hc]
    exact ih.mono (Nat.le_succ _)

/-! ### Looking up a position -/

theorem any_contains_regionsBehind (hle : offset ≤ markdown.length) (h : position < offset) :
    (regionsBehind markdown offset fence).any (·.contains position) =
      fence.any (fun start => decide (start ≤ position)) := by
  rw [Bool.eq_iff_iff, List.any_eq_true, Option.any_eq_true]
  constructor
  · rintro ⟨r, hr, hin⟩
    simp only [Span.contains, Bool.and_eq_true, decide_eq_true_eq] at hin
    rcases start_of_mem_regionsBehind hr with hstart | hstart
    · exact ⟨r.start, hstart, by simpa using hin.1⟩
    · omega
  · rintro ⟨start, rfl, hstart⟩
    obtain ⟨r, hr, rfl, hfinish, -⟩ := exists_mem_regionsBehind start hle
    rw [decide_eq_true_eq] at hstart
    refine ⟨r, hr, ?_⟩
    simp only [Span.contains, Bool.and_eq_true, decide_eq_true_eq]
    omega

/-- The search may stop anywhere behind a position that is looked up. -/
theorem any_contains_regionsFrom {past : Nat → Bool}
    (hpast : ∀ offset, past offset = true → position < offset)
    (ht : markdown.drop offset = text) :
    (regionsFrom past offset fence text).any (·.contains position) =
      (regionsBehind markdown offset fence).any (·.contains position) := by
  fun_induction regionsFrom past offset fence text with
  | case1 offset fence => rw [regionsBehind, ht, regionsFrom]
  | case2 offset fence c cs hstop =>
    have hlen := length_of_drop ht
    have hlt := hpast offset hstop
    rw [any_contains_regionsBehind (by omega) hlt]
    cases fence with
    | none => rfl
    | some start =>
      have hend : position < offset + cs.length + 1 := by omega
      simp [Span.contains, hend]
  | case3 offset c cs _ hs start ih =>
    rw [regionsBehind_fence_some (ht.symm ▸ hs), List.any_cons, List.any_cons,
      ih (drop_add_of_drop ht (by decide))]
  | case4 offset c cs _ hs ih =>
    rw [regionsBehind_fence (ht.symm ▸ hs), ih (drop_add_of_drop ht (by decide))]
  | case5 offset fence c cs _ hs hf ih =>
    obtain ⟨start, rfl⟩ := Option.isSome_iff_exists.mp hf
    have hlen := length_of_drop ht
    rw [regionsBehind_fenced (by omega) (by simpa [ht] using hs), ih (drop_succ_of_drop ht)]
  | case6 offset fence cs _ hf n hs hn ih =>
    obtain rfl := Option.not_isSome_iff_eq_none.mp hf
    have hspec := codeSpan?_spec hn
    rw [regionsBehind_span (by simpa [ht] using hs) (ht.symm ▸ hn), List.any_cons, List.any_cons,
      ih (drop_add_of_drop ht (by omega))]
  | case7 offset fence cs _ hf hs hn n ih =>
    obtain rfl := Option.not_isSome_iff_eq_none.mp hf
    have hpos : 0 < n := runLength_pos_iff.mpr rfl
    rw [regionsBehind_backticks (by simpa [ht] using hs) (ht.symm ▸ hn) (ht.symm ▸ hpos), ht,
      ih (drop_add_of_drop ht hpos)]
  | case8 offset fence c cs _ hs hf hc ih =>
    obtain rfl := Option.not_isSome_iff_eq_none.mp hf
    have hlen := length_of_drop ht
    have hplain : markdown[offset]? ≠ some backtick := by
      rw [← Nat.add_zero offset, getElem?_add_of_drop ht]
      simpa using hc
    rw [regionsBehind_plain (by omega) hplain, ih (drop_succ_of_drop ht)]

/-- A position is looked up in the code regions, and these lie in the text one behind the other and
end as they start. -/
theorem codeRegions_delimited (markdown : List Char) :
    (∀ position, insideCode position markdown = true ↔
      ∃ r ∈ codeRegions markdown, r.start ≤ position ∧ position < r.finish) ∧
    (codeRegions markdown).Pairwise (fun r s => r.finish ≤ s.start) ∧
    ∀ r ∈ codeRegions markdown,
      r.start < r.finish ∧ r.finish ≤ markdown.length ∧ Delimited markdown r := by
  have hfollow : Follow markdown 0 (codeRegions markdown) := Scans.start.follow
  refine ⟨fun position => ?_, hfollow.pairwise, fun r hr => ?_⟩
  · have hpast (offset : Nat) (h : decide (position < offset) = true) : position < offset :=
      of_decide_eq_true h
    rw [insideCode, any_contains_regionsFrom hpast List.drop_zero, List.any_eq_true]
    simp only [Span.contains, Bool.and_eq_true, decide_eq_true_eq]
    rfl
  · have hdelimited := (hfollow.forall_mem r hr).2
    exact ⟨hdelimited.bounds.1, hdelimited.bounds.2, hdelimited⟩

end ProseCheck.Markdown
