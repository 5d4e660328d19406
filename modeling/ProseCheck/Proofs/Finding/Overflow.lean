import Mathlib.Tactic.Common
import ProseCheck.Proofs.Finding.Checked

/-! # Replacements at any place

A problem that is read from outside may claim any place. The end of its place is a sum, and if this
is no offset, nothing comes of a replacement. In all other cases a replacement is made exactly where
the place lies in the text, and told to be out of bounds where it does not.
-/

namespace ProseCheck.Problem

variable {p : Problem} {markdown replacement : List Char}

/-- The end of the place is past all offsets. -/
def Overflows (p : Problem) : Prop := maxOffset < p.markdownOffset + p.markdownLength

instance (p : Problem) : Decidable p.Overflows := inferInstanceAs (Decidable (_ < _))

theorem replaceWith?_of_overflows (h : p.Overflows) (markdown replacement : List Char) :
    p.replaceWith? markdown replacement = none := if_pos h

theorem replaceWith?_of_fits (hoffset : ¬ p.Overflows)
    (h : p.markdownOffset + p.markdownLength ≤ markdown.length) :
    p.replaceWith? markdown replacement =
      some (.ok (markdown.take p.markdownOffset ++ replacement ++
        markdown.drop (p.markdownOffset + p.markdownLength))) := by
  have hstart : p.markdownOffset ≤ markdown.length := Nat.le_of_add_right_le h
  exact (if_neg hoffset).trans (if_pos ⟨hstart, h⟩)

theorem replaceWith?_of_not_fits (hoffset : ¬ p.Overflows)
    (h : markdown.length < p.markdownOffset + p.markdownLength) :
    p.replaceWith? markdown replacement =
      some (.error (.outOfBounds p.markdownSpan markdown.length)) :=
  (if_neg hoffset).trans (if_neg fun h' => Nat.not_le_of_lt h h'.2)

/-- Where the end of the place is an offset, a replacement is made just where the place lies in the
text, right there and nowhere else, and no cut goes wrong. Where it is none, nothing comes of a
replacement, although the place is out of bounds. -/
theorem replaceWith?_exact (p : Problem) (markdown replacement : List Char)
    (h : Text.Storable (markdown ++ replacement)) :
    p.replaceChecked? Text.maxBytes markdown replacement = p.replaceWith? markdown replacement ∧
    (¬ p.Overflows → ∃ result, p.replaceWith? markdown replacement = some result ∧
      (∀ edited, result = .ok edited ↔
        p.markdownOffset + p.markdownLength ≤ markdown.length ∧
          edited = markdown.take p.markdownOffset ++ replacement ++
            markdown.drop (p.markdownOffset + p.markdownLength)) ∧
      (markdown.length < p.markdownOffset + p.markdownLength →
        result = .error (.outOfBounds
          ⟨p.markdownOffset, p.markdownOffset + p.markdownLength⟩ markdown.length))) ∧
    (p.Overflows → markdown.length < p.markdownOffset + p.markdownLength ∧
      p.replaceWith? markdown replacement = none) ∧
    ∀ k, (∀ suggestion, p.finding.replacements[k]? = some suggestion →
        p.applyReplacement? markdown k = p.replaceWith? markdown suggestion.toList) ∧
      (p.finding.replacements.length ≤ k →
        p.applyReplacement? markdown k =
          some (.error (.noSuchReplacement k p.finding.replacements.length))) := by
  have hroom : Text.length8 markdown + Text.length8 replacement ≤ Text.maxBytes := by
    rwa [← Text.length8_append]
  have hlen : markdown.length ≤ maxOffset := calc
    markdown.length ≤ Text.length8 markdown := Text.length_le_length8 markdown
    _ ≤ Text.maxBytes := Nat.le_of_add_right_le hroom
    _ ≤ maxOffset := by decide
  refine ⟨p.replaceChecked?_eq hroom, fun hoffset => ?_, fun hover =>
    ⟨Nat.lt_of_le_of_lt hlen hover, replaceWith?_of_overflows hover ..⟩,
    fun k => ⟨fun suggestion hk => ?_, fun hk => ?_⟩⟩
  · rcases Nat.lt_or_ge markdown.length (p.markdownOffset + p.markdownLength) with hlt | hle
    · refine ⟨_, replaceWith?_of_not_fits hoffset hlt, fun edited => ?_, fun _ => rfl⟩
      exact ⟨nofun, fun h' => absurd h'.1 (Nat.not_le_of_lt hlt)⟩
    · refine ⟨_, replaceWith?_of_fits hoffset hle, fun edited => ?_,
        fun hlt => absurd hle (Nat.not_le_of_lt hlt)⟩
      rw [Except.ok.injEq, eq_comm]
      exact (and_iff_right hle).symm
  · rw [applyReplacement?, hk]
  · rw [applyReplacement?, List.getElem?_eq_none hk]

theorem replaceWith?_exact_umlaut :
    let markdown := "ünï **wörd**".toList
    let p : Problem := ⟨misspelling 4 4 "word", 6, 4⟩
    let far : Problem := ⟨misspelling 4 4 "word", 6, maxOffset⟩
    p.replaceChecked? Text.maxBytes markdown "word".toList = some (.ok "ünï **word**".toList) ∧
      far.Overflows ∧ far.replaceWith? markdown "x".toList = none ∧
      far.applyReplacement? markdown 1 = some (.error (.noSuchReplacement 1 1)) := by
  intro markdown p far
  have hover : far.Overflows := by decide
  obtain ⟨hbytes, hexact, -⟩ := replaceWith?_exact p markdown "word".toList
    (by decide +kernel)
  obtain ⟨-, -, hnone, hnoSuch⟩ := replaceWith?_exact far markdown "x".toList
    (by decide +kernel)
  obtain ⟨result, hresult, hedited, -⟩ := hexact (by decide)
  refine ⟨?_, hover, (hnone hover).2, (hnoSuch 1).2 (by decide)⟩
  rw [hbytes, hresult, (hedited _).mpr ⟨by decide, rfl⟩]
  rfl

/-- The place lies past the end of the text, and nothing comes of the replacement all the same. -/
theorem exists_overflow : ∃ (p : Problem) (markdown replacement : List Char),
    p.markdownOffset ≤ maxOffset ∧ p.markdownLength ≤ maxOffset ∧
      Text.Storable (markdown ++ replacement) ∧
      markdown.length < p.markdownOffset + p.markdownLength ∧
      p.replaceWith? markdown replacement = none := by
  refine ⟨⟨misspelling 0 1 "X", 2, maxOffset⟩, "abc".toList, "X".toList, ?_, ?_, ?_, ?_, ?_⟩
  · decide
  · decide
  · decide +kernel
  · decide
  · decide +kernel

end ProseCheck.Problem
