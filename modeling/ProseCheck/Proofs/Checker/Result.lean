import Mathlib.Tactic.Common
import ProseCheck.Proofs.Backend
import ProseCheck.Proofs.Checker.Task
import ProseCheck.Proofs.Finding.Sort

/-! # Results of checks

Where each paragraph has only one outcome, a text has only one result, in whatever order the
outcomes came in.
-/

namespace ProseCheck

variable {separator : List Char} {answer : CacheKey → Option (List Finding)} {key : CacheKey}
  {fs : List Finding}

def resultOf (answer : CacheKey → Option (List Finding)) (separator : List Char)
    (key : CacheKey) : List Finding :=
  Finding.sort <| (Text.proseParagraphs separator key.text).flatMap fun p =>
    Part.findings (p, answer { key with text := p.text })

/-- The finding covers characters of the paragraph and nothing else. -/
structure Finding.Inside (f : Finding) (p : Text.Segment) : Prop where
  length_pos : 0 < f.length
  start_le : p.start ≤ f.offset
  finish_le : f.offset + f.length ≤ p.start + p.length

theorem Finding.In.inside_shift {f : Finding} {p : Text.Segment} (h : f.In p.text) :
    (f.shift p.start).Inside p := by
  obtain ⟨hpos, hle⟩ := h
  constructor
  · exact hpos
  · exact Nat.le_add_left _ _
  · simp only [Finding.shift, Text.Segment.length]
    omega

theorem Part.offset_bounds {part : Part} {f : Finding} (hf : f ∈ part.findings)
    (hin : ∀ g ∈ part.2.getD [], g.In part.1.text) :
    part.1.start ≤ f.offset ∧ f.offset < part.1.start + part.1.length := by
  obtain ⟨g, hg, rfl⟩ := List.mem_map.mp hf
  obtain ⟨hpos, hstart, hfinish⟩ := (hin g hg).inside_shift
  omega

theorem Found.eq_resultOf {Gives : CacheKey → Option (List Finding) → Prop}
    (h : Found Gives separator key fs) (hgives : ∀ k a, Gives k a → a = answer k)
    (hin : ∀ k, ∀ f ∈ (answer k).getD [], f.In k.text) : fs = resultOf answer separator key := by
  obtain ⟨parts, hcovers, rfl⟩ := h
  have hparts : parts.flatMap (·.findings) = (parts.map (·.1)).flatMap fun p =>
      Part.findings (p, answer { key with text := p.text }) := by
    rw [List.flatMap_map]
    refine List.flatMap_congr fun part hpart => ?_
    exact congrArg (fun a => Part.findings (part.1, a)) (hgives _ _ (hcovers.gives part hpart))
  have hperm := hcovers.perm
  rw [List.append_nil] at hperm
  rw [hparts]
  refine (Finding.sort_flatMap hperm.symm ?_).symm
  refine ((Text.paragraphs_pairwise ..).filter _).imp fun {p q} hpq f hf g hg => ?_
  have hlt := (Part.offset_bounds hf (hin _)).2
  have hle := (Part.offset_bounds hg (hin _)).1
  exact Nat.ne_of_lt (Nat.lt_of_lt_of_le (Nat.lt_of_lt_of_le hlt hpq) hle)

end ProseCheck
