import Mathlib.Tactic.Common
import ProseCheck.Proofs.Finding.Replacement
import ProseCheck.Proofs.Markdown.Agreement
import ProseCheck.Proofs.Text.Segment

/-! # Findings in prose

Where code and jumps are apart, what is sent holds no character of a code region, so a finding is
never dropped for its place in code. A url with a backtick that closes behind the link brings code
and prose together.
-/

namespace ProseCheck

open Markdown

variable {d : Stripped} {dictionary : Dictionary} {code : List Span} {f : Finding}
  {markdown : List Char}

theorem ite_error_eq_error {ε α : Type} {c : Prop} [Decidable c] {e e' : ε} {x : Except ε α} :
    (if c then .error e else x) = .error e' ↔ c ∧ e = e' ∨ ¬ c ∧ x = .error e' := by
  split <;> simp [*]

/-- A finding that is dropped for its place in code covers stripped text, and the place starts in a
region. -/
theorem Finding.exists_of_place_eq_insideCode (h : f.place d dictionary code = .error .insideCode) :
    ∃ covered span, f.covered? d = some covered ∧
      d.positions.toMarkdownSpan? f.offset f.length = some span ∧
      ∃ r ∈ code, r.contains span.start = true := by
  unfold Finding.place addOffset? at h
  unfold Finding.covered?
  simp only [throw, throwThe, MonadExceptOf.throw, bind, Except.bind, pure, Except.pure,
    ite_error_eq_error, reduceCtorEq, and_false, false_or] at h
  by_cases hsum : f.offset + f.length ≤ maxOffset
  · simp only [hsum, if_true] at h
    cases hcovered : Text.slice? d.text ⟨f.offset, f.offset + f.length⟩ with
    | none => simp [hcovered] at h
    | some covered =>
      cases hspan : d.positions.toMarkdownSpan? f.offset f.length with
      | none => simp [hcovered, hspan, ite_error_eq_error] at h
      | some span =>
        simp only [hcovered, hspan, ite_error_eq_error, reduceCtorEq, and_false, and_true, false_or,
          or_false, List.any_eq_true] at h
        exact ⟨covered, span, rfl, rfl, h.2.2.2.2⟩
  · simp [hsum] at h

theorem Finding.exists_kept_of_place_eq_insideCode
    (h : f.place (strip markdown) dictionary code = .error .insideCode) :
    ∃ e ∈ (strip markdown).kept, ∃ r ∈ code, r.contains e.origin = true := by
  obtain ⟨covered, span, hcovered, hspan, r, hr, hcontains⟩ := exists_of_place_eq_insideCode h
  obtain ⟨hlen, -⟩ := covered?_eq_some hcovered
  obtain ⟨-, -, hfirst, -⟩ := PositionMap.toMarkdownSpan?_spec hspan
    (by rwa [Stripped.length_positions])
  obtain ⟨e, he, horigin⟩ := Stripped.origin?_eq_some_iff.mp hfirst
  exact ⟨e, List.mem_of_getElem? he, r, hr, horigin ▸ hcontains⟩

theorem exists_kept_of_in {s : Text.Segment} (hs : s.In (strip markdown).text) {k : Nat} {x : Char}
    (hx : s.text[k]? = some x) :
    ∃ e, (strip markdown).kept[s.start + k]? = some e ∧ e.char = x := by
  obtain ⟨-, -, hslice⟩ := Text.slice?_eq_some_iff.mp hs
  rw [← hslice] at hx
  have hk : k < s.span.length := by
    have := (List.getElem?_eq_some_iff.mp hx).1
    rw [List.length_take] at this
    omega
  rw [List.getElem?_take_of_lt hk, List.getElem?_drop] at hx
  exact Stripped.text_eq_some_iff.mp hx

/-- As long as no code region reaches out of a url, an image or a tag, the two agree on what code
is: nothing in a code region is kept, no character of a region is in a paragraph that is sent, and
no finding is dropped for its place in code. -/
theorem code_not_kept (h : CodeApart markdown) :
    (∀ r ∈ codeRegions markdown, ∀ i, r.contains i = true →
      (strip markdown).positions.stripped? i = none) ∧
    (∀ separator limit,
      ∀ s ∈ Text.paragraphs separator ((strip markdown).text.take limit), ∀ k x,
        s.text[k]? = some x →
        ∃ i, (strip markdown).positions.origin? (s.start + k) = some i ∧
          ∀ r ∈ codeRegions markdown, r.contains i = false) ∧
    ∀ dictionary f,
      Finding.place (strip markdown) dictionary (codeRegions markdown) f ≠ .error .insideCode := by
  refine ⟨fun r hr i hi => ?_, fun separator limit s hs k x hx => ?_, fun dictionary f hf => ?_⟩
  · rw [Option.eq_none_iff_forall_ne_some]
    rintro j hj
    obtain ⟨e, he, rfl⟩ :=
      Stripped.origin?_eq_some_iff.mp ((strip_sorted markdown).stripped?_eq_some_iff.mp hj)
    rw [contains_origin_eq_false h hr (List.mem_of_getElem? he)] at hi
    cases hi
  · have hin : s.In (strip markdown).text := Text.slice?_of_take (Text.in_of_mem_paragraphs hs)
    obtain ⟨e, he, -⟩ := exists_kept_of_in hin hx
    exact ⟨e.origin, Stripped.origin?_eq_some_iff.mpr ⟨e, he, rfl⟩, fun r hr =>
      contains_origin_eq_false h hr (List.mem_of_getElem? he)⟩
  · obtain ⟨e, he, r, hr, hcontains⟩ := Finding.exists_kept_of_place_eq_insideCode hf
    rw [contains_origin_eq_false h hr he] at hcontains
    cases hcontains

theorem code_not_kept_beside_jumps :
    let markdown := "[a `x`](u) ![`y`](v) <b>`z`</b> teh".toList
    CodeApart markdown ∧ codeRegions markdown = [⟨3, 6⟩, ⟨13, 16⟩, ⟨24, 27⟩] ∧
      (strip markdown).positions.stripped? 14 = none ∧
      Finding.place (strip markdown) .empty (codeRegions markdown) (misspelling 7 3 "the") =
        .ok ⟨32, 35⟩ := by
  intro markdown
  have hapart : CodeApart markdown := by decide +kernel
  have hregions : codeRegions markdown = [⟨3, 6⟩, ⟨13, 16⟩, ⟨24, 27⟩] := by decide +kernel
  obtain ⟨hkept, -, -⟩ := code_not_kept hapart
  exact ⟨hapart, hregions, hkept ⟨13, 16⟩ (by simp [hregions]) 14 rfl, by decide +kernel⟩

/-- The backtick in a url closes behind the link: to the search this is code, but the reading keeps
it, and a finding on a word in there is dropped. -/
theorem exists_kept_code :
    ∃ markdown, ∃ r ∈ codeRegions markdown, ∃ i j, r.contains i = true ∧
      (strip markdown).positions.stripped? i = some j ∧
      Finding.place (strip markdown) .empty (codeRegions markdown) (misspelling j 1 "d") =
        .error .insideCode := by
  refine ⟨"[a](`) b ` c".toList, ⟨4, 10⟩, by decide +kernel, 7, 2, rfl, by decide +kernel,
    by decide +kernel⟩

end ProseCheck
