import Mathlib.Algebra.BigOperators.Group.List.Basic
import Mathlib.Algebra.GroupWithZero.Nat
import Mathlib.Tactic.Common
import ProseCheck.Proofs.Checker.Pool
import ProseCheck.Proofs.Finding.Replacement

/-! # What checks that run at the same time end with

The findings of a check depend on which of its paragraphs were answered, and neither on where the
answers came from nor on what other checks did meanwhile. Every check comes to its end.
-/

namespace ProseCheck

variable {f : CacheKey → List Finding} {config : CheckerConfig} {separator : List Char}
  {key : CacheKey} {s s' : Shared} {c c' : Check} {pool pool' : Pool}

/-! ### Ending -/

/-- How many steps a request is from its reply. -/
def Stage.work : Stage → Nat
  | issued => 2
  | queued => 1
  | replied _ => 0

def Check.work (c : Check) : Nat :=
  match c.progress with
  | .finished _ => 0
  | .waiting t => 4 * t.todo.length + t.asked.length + 1

def Pool.work (pool : Pool) : Nat :=
  (pool.shared.flights.map (·.stage.work)).sum + (pool.checks.map Check.work).sum

theorem Check.Move.work_lt (h : c.Move s s' c') :
    (s'.flights.map (·.stage.work)).sum + c'.work <
      (s.flights.map (·.stage.work)).sum + c.work := by
  cases h with
  | known ticket htodo hfs =>
    rw [Task.lookUp_of_known htodo hfs]
    simp only [Check.work, Task.addFindings, htodo, List.length_cons]
    omega
  | ask htodo hnone =>
    rw [Task.lookUp_of_not_known htodo hnone]
    simp only [Check.work, Shared.issue, htodo, List.map_append, List.sum_append, List.map_cons,
      List.map_nil, List.sum_cons, List.sum_nil, Stage.work, List.length_append, List.length_cons,
      List.length_nil]
    omega
  | refuse htodo hnone =>
    rw [Task.lookUp_of_not_known htodo hnone]
    simp only [Check.work, htodo, List.length_cons]
    omega
  | answer htodo hasked =>
    simp only [Check.work, Task.accept, Task.addFindings, htodo, hasked, List.length_cons]
    omega
  | fail htodo hasked =>
    simp only [Check.work, Task.accept, htodo, hasked, List.length_cons]
    omega
  | finish =>
    simp only [Check.work]
    omega

/-- The moves come to an end. -/
theorem Pool.Move.work_lt (h : pool.Move f pool') : pool'.work < pool.work := by
  cases h with
  | check hmove =>
    have := hmove.work_lt
    simp only [Pool.work, List.map_append, List.sum_append, List.map_cons, List.sum_cons]
    omega
  | enqueue => simp [Pool.work, Stage.work]
  | reply => simp [Pool.work, Stage.work]

/-- As long as a check is not finished, there is a move. -/
theorem Pool.Sound.exists_move (h : pool.Sound f separator) (hc : c ∈ pool.checks)
    (hwaits : c.progress.isFinished = false) : ∃ pool', pool.Move f pool' := by
  obtain ⟨s, checks⟩ := pool
  obtain ⟨before, after, rfl⟩ := List.append_of_mem hc
  have hmove {s' : Shared} {c' : Check} (hmove : c.Move s s' c') :
      ∃ pool', Pool.Move f ⟨s, before ++ c :: after⟩ pool' := ⟨_, .check hmove⟩
  cases h.2 c hc with
  | finished => cases hwaits
  | @waiting t answered failed _ _ _ hboards =>
    cases htodo : t.todo with
    | cons p rest =>
      cases hfs : s.caches.paragraphs.find? (t.paragraphKey p) with
      | some fs => exact hmove (.known none htodo hfs)
      | none => exact hmove (.ask htodo hfs)
    | nil =>
      cases hasked : t.asked with
      | nil => exact hmove (.finish (by simp [Task.isDone, htodo, hasked]))
      | cons a rest =>
        obtain ⟨p, n⟩ := a
        obtain ⟨flight, hflight, hticket⟩ := hboards.flies _ (hasked ▸ List.mem_cons_self)
        obtain ⟨caches, flights, next⟩ := s
        obtain ⟨n', key, stage⟩ := flight
        obtain ⟨before', after', rfl⟩ := List.append_of_mem hflight
        cases stage with
        | issued => exact ⟨_, .enqueue⟩
        | queued =>
          have hreply : ∀ fs, (.ok (f key) : Reply) = .ok fs → fs = f key :=
            fun fs h => (Except.ok.inj h).symm
          exact ⟨_, .reply hreply⟩
        | replied reply =>
          cases reply with
          | ok fs => exact hmove (.answer htodo hasked hflight hticket rfl)
          | error failure => exact hmove (.fail htodo hasked hflight hticket rfl)

/-! ### Results -/

theorem Text.nodup_proseParagraphs (separator text : List Char) :
    (proseParagraphs separator text).Nodup := by
  refine ((paragraphs_pairwise separator text).filter _).imp_of_mem fun {p q} hp _ hle heq => ?_
  subst heq
  have hblank := (List.mem_filter.mp hp).2
  have hempty : p.text = [] := List.length_eq_zero_iff.mp (by rw [Segment.length] at hle; omega)
  simp [Segment.isBlank, hempty, allBlank] at hblank

/-- The findings of a text when only the paragraphs in `answered` were answered. -/
def findingsOf (f : CacheKey → List Finding) (separator : List Char) (key : CacheKey)
    (answered : List Text.Segment) : List Finding :=
  (Text.proseParagraphs separator key.text).flatMap fun p =>
    if p ∈ answered then given f key p else []

/-- Answers that come in another order than that of the text are sorted alike. -/
theorem sort_given {answered failed : List Text.Segment}
    (hperm : (answered ++ failed).Perm (Text.proseParagraphs separator key.text))
    (hf : ∀ key, ∀ g ∈ f key, g.In key.text) :
    Finding.sort (answered.flatMap (given f key)) =
      Finding.sort (findingsOf f separator key answered) := by
  have hnodup := hperm.nodup_iff.mpr (Text.nodup_proseParagraphs separator key.text)
  have hanswered : ((Text.proseParagraphs separator key.text).filter (· ∈ answered)).Perm
      answered := by
    refine (hperm.symm.filter _).trans ?_
    rw [List.filter_append, List.filter_eq_self.mpr (by simp), List.filter_eq_nil_iff.mpr ?_,
      List.append_nil]
    intro p hp hp'
    exact (List.nodup_append.mp hnodup).2.2 p (of_decide_eq_true hp') p hp rfl
  have hflat : findingsOf f separator key answered =
      ((Text.proseParagraphs separator key.text).filter (· ∈ answered)).flatMap
        (given f key) := by
    rw [findingsOf]
    induction Text.proseParagraphs separator key.text with
    | nil => rfl
    | cons p ps ih => by_cases hp : p ∈ answered <;> simp [hp, ih]
  rw [hflat]
  refine (Finding.sort_flatMap hanswered ?_).symm
  refine (((Text.paragraphs_pairwise ..).filter _).filter _).imp fun {p q} hpq g hg g' hg' => ?_
  have hlt := (Part.offset_bounds hg (hf _)).2
  have hle := (Part.offset_bounds hg' (hf _)).1
  exact Nat.ne_of_lt (Nat.lt_of_lt_of_le (Nat.lt_of_lt_of_le hlt hpq) hle)

/-- However checks interleave, one that is finished has the findings of the paragraphs that were
answered, in the order of their positions and, where these agree, in the order of the backend. Moves
come to an end, and not before each check is finished. -/
theorem interleaved_checks_exact (hf : ∀ key, ∀ g ∈ f key, g.In key.text)
    (h : pool.Reachable f config) :
    (∀ c ∈ pool.checks, ∀ fs, c.progress = .finished fs →
      (c.answered ++ c.failed).Perm (Text.proseParagraphs config.separator c.key.text) ∧
      fs = Finding.sort (findingsOf f config.separator c.key c.answered) ∧
      fs.Pairwise (Finding.precedes · ·) ∧
      ∀ g, fs.filter (ties Finding.precedes g) =
        (findingsOf f config.separator c.key c.answered).filter (ties Finding.precedes g)) ∧
    (∀ pool', pool.Move f pool' → pool'.work < pool.work) ∧
    ((∀ c ∈ pool.checks, c.progress.isFinished = true) ∨ ∃ pool', pool.Move f pool') := by
  have hsound := h.sound hf
  refine ⟨fun c hc fs hfs => ?_, fun pool' hmove => hmove.work_lt, ?_⟩
  · cases hsound.2 c hc with
    | waiting => cases hfs
    | finished hperm hsort =>
      cases hfs
      rw [hsort, sort_given hperm hf]
      exact ⟨hperm, rfl,
        List.pairwise_mergeSort Finding.precedes_trans Finding.precedes_total _,
        filter_ties_mergeSort Finding.precedes_trans Finding.precedes_total _⟩
  · by_cases hall : ∀ c ∈ pool.checks, c.progress.isFinished = true
    · exact Or.inl hall
    · simp only [not_forall, Bool.not_eq_true] at hall
      obtain ⟨c, hc, hwaits⟩ := hall
      exact Or.inr (hsound.exists_move hc hwaits)

def findsTeh (key : CacheKey) : List Finding :=
  if key.text = "teh".toList then [misspelling 0 3 "the"] else []

/-- The second paragraph fails in the first check. The second check, which begins before any reply,
gets both from what the first one keeps. -/
theorem interleaved_checks_exact_kept :
    let key : CacheKey := ⟨.languageTool, {}, "teh\n\nteh".toList⟩
    let p : Text.Segment := ⟨0, "teh".toList⟩
    let q : Text.Segment := ⟨5, "teh".toList⟩
    let both := [misspelling 0 3 "the", misspelling 5 3 "the"]
    ∃ pool : Pool, pool.Reachable findsTeh {} ∧
      pool.checks = [⟨key, .finished [misspelling 0 3 "the"], [p], [q]⟩,
        ⟨key, .finished both, [p, q], []⟩] ∧
      both = Finding.sort (findingsOf findsTeh Text.blankLine key [p, q]) := by
  intro key p q both
  have hin : ∀ key, ∀ g ∈ findsTeh key, g.In key.text := by
    intro key g hg
    unfold findsTeh at hg
    split at hg
    next htext =>
      rw [List.mem_singleton.mp hg, htext]
      exact ⟨by decide, by decide⟩
    next => cases hg
  have hbegin : Check.begin {} .empty key =
      ⟨key, .waiting ⟨key, [p, q], [], [], true⟩, [], []⟩ := by
    decide +kernel
  have h₀ : Pool.Reachable findsTeh {} ⟨⟨.empty true, [], 0⟩, []⟩ := .start
  have h₁ := (h₀.begin key).begin key
  rw [show (⟨.empty true, [], 0⟩ : Shared).caches.texts = .empty from rfl, hbegin] at h₁
  have h₂ := h₁.move (@Pool.Move.check _ _ _ [] [_] _ _ (.ask rfl rfl))
  have h₃ := h₂.move (@Pool.Move.check _ _ _ [] [_] _ _ (.ask rfl rfl))
  have h₄ := h₃.move (@Pool.Move.enqueue _ _ [] [_] _ _ _ _)
  have h₅ := h₄.move (@Pool.Move.enqueue _ _ [_] [] _ _ _ _)
  have h₆ := h₅.move (@Pool.Move.reply _ _ [] [_] _ _ _ _ (.ok [misspelling 0 3 "the"])
    fun fs h => (Except.ok.inj h).symm)
  have h₇ := h₆.move (@Pool.Move.reply _ _ [_] [] _ _ _ _ (.error ⟨.languageTool, .timeout 15000⟩)
    fun fs h => nomatch h)
  have h₈ := h₇.move (@Pool.Move.check _ _ _ [] [_] _ _
    (.answer rfl rfl List.mem_cons_self rfl rfl))
  have h₉ := h₈.move (@Pool.Move.check _ _ _ [] [_] _ _
    (.fail rfl rfl (List.mem_cons_of_mem _ List.mem_cons_self) rfl rfl))
  have h₁₀ := h₉.move (@Pool.Move.check _ _ _ [] [_] _ _ (.finish rfl))
  have h₁₁ := h₁₀.move (@Pool.Move.check _ _ _ [_] [] _ _ (.known none rfl rfl))
  have h₁₂ := h₁₁.move (@Pool.Move.check _ _ _ [_] [] _ _ (.known none rfl rfl))
  have h₁₃ := h₁₂.move (@Pool.Move.check _ _ _ [_] [] _ _ (.finish rfl))
  have hone : Finding.sort [misspelling 0 3 "the"] = [misspelling 0 3 "the"] :=
    List.mergeSort_of_pairwise (by decide)
  have htwo : Finding.sort both = both := List.mergeSort_of_pairwise (by decide)
  obtain ⟨pool, h, hchecks⟩ : ∃ pool : Pool, pool.Reachable findsTeh {} ∧
      pool.checks = [⟨key, .finished (Finding.sort [misspelling 0 3 "the"]), [p], [q]⟩,
        ⟨key, .finished (Finding.sort both), [p, q], []⟩] :=
    ⟨_, h₁₃, rfl⟩
  rw [hone, htwo] at hchecks
  obtain ⟨hexact, -, -⟩ := interleaved_checks_exact hin h
  have hboth := hexact ⟨key, .finished both, [p, q], []⟩ (by simp [hchecks]) both rfl
  exact ⟨pool, h, hchecks, hboth.2.1⟩

end ProseCheck
