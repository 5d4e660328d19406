import Mathlib.Tactic.Common
import ProseCheck.Markdown.CodeRegion
import ProseCheck.Proofs.Markdown.Link

/-! # Where code regions start

The search for code moves through the text like the reading of a document, with an open fence as its
only memory. It starts a region only where a fence or a whole code span stands.
-/

namespace ProseCheck.Markdown

variable {markdown : List Char} {offset n : Nat} {fence : Option Nat}

/-- The positions that the search for code comes by, with the start of the fence that is open. -/
inductive Scans (markdown : List Char) : Nat → Option Nat → Prop
  | start : Scans markdown 0 none
  | openFence {offset : Nat} : Scans markdown offset none →
      startsFence (markdown.drop offset) = true →
      Scans markdown (offset + fenceLength) (some offset)
  | closeFence {offset start : Nat} : Scans markdown offset (some start) →
      startsFence (markdown.drop offset) = true → Scans markdown (offset + fenceLength) none
  | fenced {offset start : Nat} : Scans markdown offset (some start) → offset < markdown.length →
      startsFence (markdown.drop offset) = false → Scans markdown (offset + 1) (some start)
  | span {offset n : Nat} : Scans markdown offset none →
      startsFence (markdown.drop offset) = false → codeSpan? (markdown.drop offset) = some n →
      Scans markdown (offset + n) none
  | backticks {offset : Nat} : Scans markdown offset none →
      startsFence (markdown.drop offset) = false → codeSpan? (markdown.drop offset) = none →
      0 < runLength (markdown.drop offset) →
      Scans markdown (offset + runLength (markdown.drop offset)) none
  | plain {offset : Nat} : Scans markdown offset none → offset < markdown.length →
      markdown[offset]? ≠ some backtick → Scans markdown (offset + 1) none

theorem startsFence_bounds (h : startsFence (markdown.drop offset) = true) :
    offset + fenceLength ≤ markdown.length := by
  have hrun := startsFence_iff.mp h
  have hle := runLength_le_length (markdown.drop offset)
  rw [List.length_drop] at hle
  have := fenceLength_pos
  omega

theorem Scans.offset_le (h : Scans markdown offset fence) : offset ≤ markdown.length := by
  induction h with
  | start => exact Nat.zero_le _
  | openFence _ hs | closeFence _ hs => exact startsFence_bounds hs
  | fenced _ hlt | plain _ hlt => exact hlt
  | span _ _ hs ih =>
    have hle := (codeSpan?_spec hs).2.2.1
    rw [List.length_drop] at hle
    omega
  | @backticks offset _ _ _ _ ih =>
    have hle := runLength_le_length (markdown.drop offset)
    rw [List.length_drop] at hle
    omega

theorem Scans.fence_start {start : Nat} (h : Scans markdown offset (some start)) :
    Scans markdown start none ∧ startsFence (markdown.drop start) = true ∧
      start + fenceLength ≤ offset := by
  generalize hfence : some start = fence at h
  induction h with
  | openFence h hs =>
    cases hfence
    exact ⟨h, hs, Nat.le_refl _⟩
  | fenced h _ _ ih =>
    obtain ⟨hv, hs, hle⟩ := ih hfence
    exact ⟨hv, hs, Nat.le_succ_of_le hle⟩
  | _ => cases hfence

/-- What stands where a region starts. -/
structure RegionAt (markdown : List Char) (r : Span) : Prop where
  scans : Scans markdown r.start none
  stands : startsFence (markdown.drop r.start) = true ∨
    codeSpan? (markdown.drop r.start) = some r.length
  start_lt : r.start < r.finish
  finish_le : r.finish ≤ markdown.length

theorem RegionAt.head_eq {r : Span} (h : RegionAt markdown r) :
    markdown[r.start]? = some backtick := by
  rw [← Nat.add_zero r.start, getElem?_add_of_drop rfl, ← runLength_pos_iff]
  rcases h.stands with hs | hs
  · exact Nat.lt_of_lt_of_le fenceLength_pos (startsFence_iff.mp hs)
  · exact (codeSpan?_spec hs).1

theorem RegionAt.ofFence {start finish : Nat} (h : Scans markdown offset (some start))
    (hle : offset ≤ finish) (hfinish : finish ≤ markdown.length) :
    RegionAt markdown ⟨start, finish⟩ := by
  obtain ⟨hv, hs, hstart⟩ := h.fence_start
  have := fenceLength_pos
  exact ⟨hv, Or.inl hs, by simp only; omega, hfinish⟩

theorem regionAt_of_mem_regionsFrom {past : Nat → Bool} {text : List Char} {r : Span}
    (h : Scans markdown offset fence) (ht : markdown.drop offset = text)
    (hr : r ∈ regionsFrom past offset fence text) : RegionAt markdown r := by
  fun_induction regionsFrom past offset fence text with
  | case1 offset fence =>
    obtain ⟨start, hstart, rfl⟩ := List.mem_map.mp hr
    obtain rfl : fence = some start := by simpa using hstart
    exact .ofFence h (Nat.le_refl _) h.offset_le
  | case2 offset fence c cs _ =>
    obtain ⟨start, hstart, rfl⟩ := List.mem_map.mp hr
    obtain rfl : fence = some start := by simpa using hstart
    have hlen := length_of_drop ht
    exact .ofFence h (by omega) (by omega)
  | case3 offset c cs _ hs start ih =>
    have hs' := ht.symm ▸ hs
    rcases List.mem_cons.mp hr with rfl | hr
    · exact .ofFence h (Nat.le_add_right _ _) (startsFence_bounds hs')
    · exact ih (.closeFence h hs') (drop_add_of_drop ht (by decide)) hr
  | case4 offset c cs _ hs ih =>
    exact ih (.openFence h (ht.symm ▸ hs)) (drop_add_of_drop ht (by decide)) hr
  | case5 offset fence c cs _ hs hf ih =>
    obtain ⟨start, rfl⟩ := Option.isSome_iff_exists.mp hf
    have hlen := length_of_drop ht
    exact ih (.fenced h (by omega) (by simpa [ht] using hs)) (drop_succ_of_drop ht) hr
  | case6 offset fence cs _ hf n hs hn ih =>
    obtain rfl := Option.not_isSome_iff_eq_none.mp hf
    have hspec := codeSpan?_spec hn
    have hs' : startsFence (markdown.drop offset) = false := by simpa [ht] using hs
    have hn' : codeSpan? (markdown.drop offset) = some n := ht.symm ▸ hn
    rcases List.mem_cons.mp hr with rfl | hr
    · have hle := (h.span hs' hn').offset_le
      refine ⟨h, Or.inr ?_, ?_, hle⟩
      · simpa [Span.length] using hn'
      · simp only
        omega
    · exact ih (h.span hs' hn') (drop_add_of_drop ht (by omega)) hr
  | case7 offset fence cs _ hf hs hn n ih =>
    obtain rfl := Option.not_isSome_iff_eq_none.mp hf
    have hpos : 0 < n := runLength_pos_iff.mpr rfl
    refine ih ?_ (drop_add_of_drop ht hpos) hr
    have := h.backticks (by simpa [ht] using hs) (ht.symm ▸ hn) (ht.symm ▸ hpos)
    rwa [ht] at this
  | case8 offset fence c cs _ hs hf hc ih =>
    obtain rfl := Option.not_isSome_iff_eq_none.mp hf
    have hlen := length_of_drop ht
    refine ih (h.plain (by omega) ?_) (drop_succ_of_drop ht) hr
    rw [← Nat.add_zero offset, getElem?_add_of_drop ht]
    simpa using hc

theorem regionAt_of_mem {r : Span} (hr : r ∈ codeRegions markdown) : RegionAt markdown r :=
  regionAt_of_mem_regionsFrom .start rfl hr

/-! ### Alignment

A run is cut into fences from its start on. So outside a fence, where a backtick is ahead, as many
backticks are behind as some fences have.
-/

/-- How many backticks stand directly before a position. -/
def runBefore (markdown : List Char) (offset : Nat) : Nat :=
  runLength (markdown.take offset).reverse

@[simp] theorem runBefore_zero (markdown : List Char) : runBefore markdown 0 = 0 := by
  simp [runBefore]

theorem runBefore_succ {c : Char} (h : markdown[offset]? = some c) :
    runBefore markdown (offset + 1) =
      if c = backtick then runBefore markdown offset + 1 else 0 := by
  obtain ⟨hlt, rfl⟩ := List.getElem?_eq_some_iff.mp h
  rw [runBefore, List.take_succ_eq_append_getElem hlt, List.reverse_append, List.reverse_singleton,
    List.singleton_append, runLength_cons, runBefore]

theorem runBefore_eq_zero (h : ∀ c, 0 < offset → markdown[offset - 1]? = some c → c ≠ backtick)
    (hle : offset ≤ markdown.length) : runBefore markdown offset = 0 := by
  cases offset with
  | zero => simp
  | succ k =>
    have hk : markdown[k]? = some (markdown[k]) := List.getElem?_eq_getElem (by omega)
    rw [runBefore_succ hk, if_neg (h _ (Nat.succ_pos k) hk)]

theorem runBefore_add (h : n ≤ runLength (markdown.drop offset)) :
    runBefore markdown (offset + n) = runBefore markdown offset + n := by
  induction n with
  | zero => simp
  | succ n ih =>
    have hn : markdown[offset + n]? = some backtick := by
      rw [getElem?_add_of_drop rfl]
      exact getElem?_of_lt_runLength h
    rw [← Nat.add_assoc, runBefore_succ hn, if_pos rfl, ih (by omega), Nat.add_assoc]

/-- The runs before and behind a position fit together. -/
def Aligned (markdown : List Char) (offset : Nat) : Prop :=
  markdown[offset]? = some backtick → fenceLength ∣ runBefore markdown offset

theorem Aligned.add_fence (h : Aligned markdown offset)
    (hs : startsFence (markdown.drop offset) = true) : Aligned markdown (offset + fenceLength) := by
  have hrun := startsFence_iff.mp hs
  have hc : markdown[offset]? = some backtick := by
    rw [← Nat.add_zero offset, getElem?_add_of_drop rfl]
    exact getElem?_of_lt_runLength (Nat.lt_of_lt_of_le fenceLength_pos hrun)
  intro _
  rw [runBefore_add hrun]
  exact Nat.dvd_add (h hc) (Nat.dvd_refl _)

theorem aligned_of_before (h : ∀ c, 0 < offset → markdown[offset - 1]? = some c → c ≠ backtick)
    (hle : offset ≤ markdown.length) : Aligned markdown offset := fun _ => by
  rw [runBefore_eq_zero h hle]
  exact Nat.dvd_zero _

theorem aligned_of_last {c : Char} (h : markdown[offset - 1]? = some c) (hc : c ≠ backtick)
    (hle : offset ≤ markdown.length) : Aligned markdown offset :=
  aligned_of_before (fun c' _ h' => by rw [h] at h'; cases h'; exact hc) hle

theorem aligned_span (h : codeSpan? (markdown.drop offset) = some n) :
    Aligned markdown (offset + n) := by
  intro hb
  rw [getElem?_add_of_drop rfl] at hb
  exact absurd hb (codeSpan?_spec h).2.2.2.2

theorem aligned_run (markdown : List Char) (offset : Nat) :
    Aligned markdown (offset + runLength (markdown.drop offset)) := by
  intro hb
  rw [getElem?_add_of_drop rfl] at hb
  exact absurd hb (getElem?_runLength_ne _)

/-- Inside a fence, the first backtick that could end it comes behind another character: otherwise
the fence would have ended one backtick earlier. -/
theorem aligned_fenced (h : startsFence (markdown.drop offset) = false)
    (h' : startsFence (markdown.drop (offset + 1)) = true) : Aligned markdown (offset + 1) := by
  have hlt := startsFence_bounds h'
  have hget : offset < markdown.length := by omega
  refine aligned_of_last (List.getElem?_eq_getElem hget) (fun hb => ?_) hget
  have hrun := startsFence_iff.mp h'
  have : startsFence (markdown.drop offset) = true := by
    rw [startsFence_iff, List.drop_eq_getElem_cons hget, runLength_cons, if_pos hb]
    omega
  simp [this] at h

theorem Scans.aligned (h : Scans markdown offset fence)
    (hout : fence = none ∨ startsFence (markdown.drop offset) = true) :
    Aligned markdown offset := by
  induction h with
  | start => exact fun _ => by simp
  | openFence _ hs ih => exact Aligned.add_fence (ih (Or.inl rfl)) hs
  | closeFence _ hs ih => exact Aligned.add_fence (ih (Or.inr hs)) hs
  | fenced _ _ hs => exact aligned_fenced hs (hout.resolve_left (by simp))
  | span _ _ hn => exact aligned_span hn
  | backticks => exact aligned_run _ _
  | @plain offset _ hlt hc =>
    refine aligned_of_last (List.getElem?_eq_getElem hlt) (fun hb => hc ?_) hlt
    rw [List.getElem?_eq_getElem hlt, hb]

end ProseCheck.Markdown
