import Mathlib.Tactic.Common
import ProseCheck.Proofs.Markdown.CodeRegion
import ProseCheck.Proofs.Markdown.Strip

/-! # Kept characters and code regions

The reading of a document and the search for code can lose each other, as only the reading jumps
over urls and tags. Both cut runs of backticks in the same way, so the start of a region is never
kept.
-/

namespace ProseCheck.Markdown

variable {markdown : List Char} {cur : Cursor} {c : Char} {cs : List Char}

theorem Cursor.Fits.last_ne_backtick (h : cur.Fits markdown)
    (ht : markdown.drop cur.offset = c :: cs) {k : Construct} (hk : k.Stands cur c cs)
    (hcode : k ≠ .fence ∧ k ≠ .fenced ∧ (∀ n, k ≠ .code n) ∧ ∀ n, k ≠ .backticks n) :
    ∃ x, markdown[cur.offset + k.width - 1]? = some x ∧ x ≠ backtick := by
  obtain ⟨hfence, hfenced, hspan, hrun⟩ := hcode
  have hhead : markdown[cur.offset]? = some c := getElem?_add_of_drop ht 0
  cases k with
  | fence => exact absurd rfl hfence
  | fenced => exact absurd rfl hfenced
  | code n => exact absurd rfl (hspan n)
  | backticks n => exact absurd rfl (hrun n)
  | image t =>
    have hin := linkTarget?_spec hk.2.2.2
    have hpos := hin.urlStart_lt
    refine ⟨')', ?_, by decide⟩
    rw [← drop_succ_of_drop ht] at hin
    rw [← getElem?_last_of_drop (by omega) hin.last_eq, Construct.width]
    congr 1
    omega
  | linkStart t => exact ⟨c, hhead, by rw [hk.1]; decide⟩
  | linkEnd n =>
    obtain ⟨-, -, t, hlink, hat, rfl⟩ := hk
    obtain ⟨hlt, -, hlast⟩ := h.link_finish hlink
    refine ⟨')', ?_, by decide⟩
    rw [← hlast, Construct.width]
    congr 1
    omega
  | marker =>
    refine ⟨c, hhead, ?_⟩
    rcases hk.1 with rfl | rfl <;> decide
  | html n =>
    obtain ⟨hpos, -, hlast⟩ := html?_spec hk.2.2
    refine ⟨'>', ?_, by decide⟩
    exact getElem?_last_of_drop hpos (ht ▸ hlast)
  | plain => exact ⟨c, hhead, hk.1⟩

theorem Visits.aligned (h : Visits markdown cur)
    (hout : cur.fenced = false ∨ startsFence (markdown.drop cur.offset) = true) :
    Aligned markdown cur.offset := by
  induction h with
  | start => exact fun _ => by simp [Cursor.atStart]
  | @next cur c cs hv ht ih =>
    have hk := Construct.stands_construct cur c cs
    have hother (hcode : cur.construct c cs ≠ .fence ∧ cur.construct c cs ≠ .fenced ∧
        (∀ n, cur.construct c cs ≠ .code n) ∧ ∀ n, cur.construct c cs ≠ .backticks n) :
        Aligned markdown (cur.offset + (cur.construct c cs).width) := by
      obtain ⟨x, hx, hne⟩ := hv.fits.last_ne_backtick ht hk hcode
      exact aligned_of_last hx hne (hv.next ht).fits.offset_le
    rw [Cursor.offset_after]
    cases hc : cur.construct c cs with
    | fence =>
      have hs : startsFence (markdown.drop cur.offset) = true := by
        rw [hc] at hk
        exact ht ▸ hk
      exact Aligned.add_fence (ih (Or.inr hs)) hs
    | fenced =>
      rw [hc] at hk hout
      refine aligned_fenced (ht ▸ hk.1) (hout.resolve_left ?_)
      simp [Cursor.after, hk.2]
    | code n =>
      rw [hc] at hk
      exact aligned_span (ht ▸ hk.2.2.2)
    | backticks n =>
      rw [hc] at hk
      obtain ⟨-, -, -, -, rfl⟩ := hk
      exact ht ▸ aligned_run markdown cur.offset
    | _ => exact hc ▸ hother (by simp [hc])

/-- No kept character comes from the start of a code region, unless it stands for an image. -/
theorem origin_ne_start {r : Span} (hr : r ∈ codeRegions markdown) {e : Kept}
    (he : e ∈ (strip markdown).kept) (hchar : e.char ≠ placeholder) : e.origin ≠ r.start := by
  have hregion := regionAt_of_mem hr
  have hb := hregion.head_eq
  obtain ⟨cur, c, cs, hv, -, ht, he⟩ := Visits.start.of_mem_read he
  have hk := Construct.stands_construct cur c cs
  intro heq
  cases hc : cur.construct c cs with
  | backticks n =>
    rw [hc] at hk he
    simp only [Construct.kept, List.mem_map, List.mem_range] at he
    obtain ⟨m, hm, rfl⟩ := he
    obtain ⟨rfl, hfenced, hs, hnone, rfl⟩ := hk
    simp only at heq
    rw [← ht] at hm hs hnone
    have hread := hv.aligned (Or.inl hfenced) (getElem?_add_of_drop ht 0)
    have hsearch := hregion.scans.aligned (Or.inl rfl) hb
    rw [← heq, runBefore_add (Nat.le_of_lt hm)] at hsearch
    have hdvd : fenceLength ∣ m := (Nat.dvd_add_right hread).mp hsearch
    have hshort : ¬ fenceLength ≤ runLength (markdown.drop cur.offset) := by
      rw [← startsFence_iff, hs]
      exact Bool.false_ne_true
    obtain rfl : m = 0 := Nat.eq_zero_of_dvd_of_lt hdvd (by omega)
    have hstands := hregion.stands
    rw [← heq, Nat.add_zero, hs, hnone] at hstands
    simp at hstands
  | image t =>
    rw [hc] at he
    simp only [Construct.kept, List.mem_cons, List.not_mem_nil, or_false] at he
    rcases he with rfl | rfl <;> exact hchar rfl
  | plain =>
    rw [hc] at hk he
    obtain rfl : e = ⟨c, cur.offset⟩ := by simpa [Construct.kept] using he
    rw [← heq] at hb
    exact hk.1 (Option.some.inj ((getElem?_add_of_drop ht 0).symm.trans hb))
  | _ => simp [hc, Construct.kept] at he

end ProseCheck.Markdown
