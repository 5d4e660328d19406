import Mathlib.Tactic.Common
import ProseCheck.Proofs.Markdown.Link
import ProseCheck.Proofs.Text.Bytes

/-! # Code spans run by run

A code span starts with a run of backticks and ends with the next run of the same length in its
line. The search for it goes from run to run. By positions it is a loop that reads the text only
where there is some; its steps below give nothing where a read would go wrong.
-/

namespace ProseCheck.Markdown

variable {text cs : List Char} {c : Char} {run i k n : Nat}

/-! ### Runs -/

structure RunAt (text : List Char) (i n : Nat) : Prop where
  pos : 0 < n
  before : i = 0 ∨ text[i - 1]? ≠ some backtick
  length : runLength (text.drop i) = n

theorem not_runAt_nil (i n : Nat) : ¬ RunAt [] i n := by
  rintro ⟨hpos, -, hlength⟩
  rw [List.drop_nil, runLength_nil] at hlength
  omega

theorem runAt_succ_iff (hc : c ≠ backtick) : RunAt (c :: cs) (i + 1) n ↔ RunAt cs i n := by
  have hbefore : (i + 1 = 0 ∨ (c :: cs)[i + 1 - 1]? ≠ some backtick) ↔
      (i = 0 ∨ cs[i - 1]? ≠ some backtick) := by
    cases i with
    | zero => simp [hc]
    | succ i => simp
  constructor
  · rintro ⟨hpos, hfirst, hlength⟩
    exact ⟨hpos, hbefore.mp hfirst, hlength⟩
  · rintro ⟨hpos, hfirst, hlength⟩
    exact ⟨hpos, hbefore.mpr hfirst, hlength⟩

theorem not_runAt_zero (hc : c ≠ backtick) : ¬ RunAt (c :: cs) 0 n := by
  rintro ⟨hpos, -, hlength⟩
  rw [List.drop_zero, runLength_cons, if_neg hc] at hlength
  omega

/-- No run starts in the middle of one. -/
theorem RunAt.eq_zero (h : RunAt text i n) (hlt : i ≤ runLength text) : i = 0 := by
  rcases h.before with hi | hbefore
  · exact hi
  · by_contra hne
    exact hbefore (getElem?_of_lt_runLength (by omega))

theorem runAt_add_runLength_iff : RunAt text (runLength text + i) n ↔
    RunAt (text.drop (runLength text)) i n := by
  have hend : runLength (text.drop (runLength text)) = 0 := by
    by_contra hne
    refine getElem?_runLength_ne text ?_
    have hhead := runLength_pos_iff.mp (Nat.pos_of_ne_zero hne)
    rwa [List.getElem?_drop] at hhead
  cases i with
  | zero =>
    constructor
    · rintro ⟨hpos, -, hlength⟩
      rw [Nat.add_zero, hend] at hlength
      omega
    · rintro ⟨hpos, -, hlength⟩
      rw [List.drop_zero, hend] at hlength
      omega
  | succ i =>
    constructor
    · rintro ⟨hpos, hbefore, hlength⟩
      refine ⟨hpos, Or.inr ?_, by rwa [List.drop_drop]⟩
      rw [List.getElem?_drop]
      exact hbefore.resolve_left (by omega)
    · rintro ⟨hpos, hbefore, hlength⟩
      refine ⟨hpos, Or.inr ?_, by rwa [← List.drop_drop]⟩
      have hbefore := hbefore.resolve_left (Nat.succ_ne_zero i)
      rwa [List.getElem?_drop] at hbefore

/-! ### The closing run -/

/-- The first run of `run` backticks in a text starts at `k`, in the first line. -/
structure ClosingRun (run : Nat) (text : List Char) (k : Nat) : Prop where
  runAt : RunAt text k run
  line : ∀ i < k, text[i]? ≠ some '\n'
  first : ∀ i < k, ¬ RunAt text i run

theorem closingRun_cons_iff (hc : c ≠ backtick) : ClosingRun run (c :: cs) k ↔
    c ≠ '\n' ∧ ∃ m, k = m + 1 ∧ ClosingRun run cs m := by
  constructor
  · rintro ⟨hrun, hline, hfirst⟩
    obtain ⟨m, rfl⟩ : ∃ m, k = m + 1 := by
      refine Nat.exists_eq_add_one_of_ne_zero ?_
      rintro rfl
      exact not_runAt_zero hc hrun
    refine ⟨fun hend => hline 0 (Nat.succ_pos m) (congrArg some hend), m, rfl, ?_⟩
    refine ⟨(runAt_succ_iff hc).mp hrun, fun i hi => ?_, fun i hi h => ?_⟩
    · exact hline (i + 1) (Nat.succ_lt_succ hi)
    · exact hfirst (i + 1) (Nat.succ_lt_succ hi) ((runAt_succ_iff hc).mpr h)
  · rintro ⟨hend, m, rfl, hrun, hline, hfirst⟩
    refine ⟨(runAt_succ_iff hc).mpr hrun, fun i hi => ?_, fun i hi h => ?_⟩
    · cases i with
      | zero => simpa using hend
      | succ i => exact hline i (Nat.lt_of_succ_lt_succ hi)
    · cases i with
      | zero => exact not_runAt_zero hc h
      | succ i => exact hfirst i (Nat.lt_of_succ_lt_succ hi) ((runAt_succ_iff hc).mp h)

theorem closingRun_run_iff (h : 0 < runLength text) : ClosingRun run text k ↔
    if runLength text = run then k = 0
    else ∃ m, k = runLength text + m ∧ ClosingRun run (text.drop (runLength text)) m := by
  have hhere : RunAt text 0 run ↔ runLength text = run :=
    ⟨fun hrun => hrun.length, fun heq => ⟨heq ▸ h, Or.inl rfl, heq⟩⟩
  have hticks : ∀ i < runLength text, text[i]? ≠ some '\n' := fun i hi => by
    rw [getElem?_of_lt_runLength hi]
    decide
  split
  next heq =>
    constructor
    · rintro ⟨-, -, hfirst⟩
      by_contra hne
      exact hfirst 0 (Nat.pos_of_ne_zero hne) (hhere.mpr heq)
    · rintro rfl
      exact ⟨hhere.mpr heq, fun i hi => absurd hi (Nat.not_lt_zero i),
        fun i hi => absurd hi (Nat.not_lt_zero i)⟩
  next hne =>
    constructor
    · rintro ⟨hrun, hline, hfirst⟩
      obtain ⟨m, rfl⟩ : ∃ m, k = runLength text + m := by
        refine Nat.exists_eq_add_of_le (Nat.le_of_not_lt fun hlt => hne ?_)
        obtain rfl := hrun.eq_zero (Nat.le_of_lt hlt)
        exact hhere.mp hrun
      refine ⟨m, rfl, runAt_add_runLength_iff.mp hrun, fun i hi => ?_, fun i hi h => ?_⟩
      · rw [List.getElem?_drop]
        exact hline _ (Nat.add_lt_add_left hi _)
      · exact hfirst _ (Nat.add_lt_add_left hi _) (runAt_add_runLength_iff.mpr h)
    · rintro ⟨m, rfl, hrun, hline, hfirst⟩
      refine ⟨runAt_add_runLength_iff.mpr hrun, fun i hi => ?_, fun i hi h => ?_⟩
      · rcases Nat.lt_or_ge i (runLength text) with hlt | hge
        · exact hticks i hlt
        · obtain ⟨j, rfl⟩ := Nat.exists_eq_add_of_le hge
          rw [← List.getElem?_drop]
          exact hline j (Nat.lt_of_add_lt_add_left hi)
      · rcases Nat.lt_or_ge i (runLength text) with hlt | hge
        · obtain rfl := h.eq_zero (Nat.le_of_lt hlt)
          exact hne (hhere.mp h)
        · obtain ⟨j, rfl⟩ := Nat.exists_eq_add_of_le hge
          exact hfirst j (Nat.lt_of_add_lt_add_left hi) (runAt_add_runLength_iff.mp h)

/-! ### The search for it -/

theorem closingRun?_cons (hc : c ≠ backtick) (hrun : 0 < run) : closingRun? run 0 (c :: cs) =
    if c = '\n' then none else (closingRun? run 0 cs).map (· + 1) := by
  rw [closingRun?, if_neg hc, if_neg (Nat.ne_of_lt hrun)]

theorem closingRun?_add (run seen : Nat) (text : List Char) : closingRun? run seen text =
    (closingRun? run (seen + runLength text) (text.drop (runLength text))).map
      (runLength text + ·) := by
  induction text generalizing seen with
  | nil => simp
  | cons c cs ih =>
    by_cases hc : c = backtick
    · rw [closingRun?, if_pos hc, ih, runLength_cons, if_pos hc, List.drop_succ_cons,
        Option.map_map, Nat.add_right_comm, Nat.add_assoc seen]
      congr 1
      funext n
      simp only [Function.comp_apply]
      omega
    · simp [runLength_cons, hc]

theorem closingRun?_run (hrun : 0 < run) : closingRun? run 0 text =
    if runLength text = run then some run
    else (closingRun? run 0 (text.drop (runLength text))).map (runLength text + ·) := by
  have hhead : (text.drop (runLength text)).head? ≠ some backtick := by
    rw [List.head?_drop]
    exact getElem?_runLength_ne text
  rw [closingRun?_add, Nat.zero_add]
  generalize text.drop (runLength text) = rest at hhead
  split
  next heq =>
    subst heq
    cases rest with
    | nil => simp [closingRun?]
    | cons c cs => simp [closingRun?, show c ≠ backtick by simpa using hhead]
  next hne =>
    cases rest with
    | nil => simp [closingRun?, hne, Nat.ne_of_lt hrun]
    | cons c cs =>
      have hc : c ≠ backtick := by simpa using hhead
      simp [closingRun?, hc, hne, Nat.ne_of_lt hrun]

theorem closingRun?_eq_some_iff (hrun : 0 < run) : closingRun? run 0 text = some n ↔
    ∃ k, ClosingRun run text k ∧ n = k + run := by
  induction hlength : text.length using Nat.strongRecOn generalizing text n with
  | ind size ih =>
    subst hlength
    cases text with
    | nil =>
      simp only [closingRun?, if_neg (Nat.ne_of_lt hrun), reduceCtorEq, false_iff, not_exists]
      rintro k ⟨⟨hat, -, -⟩, -⟩
      exact not_runAt_nil k run hat
    | cons c cs =>
      by_cases hc : c = backtick
      · subst hc
        have hpos : 0 < runLength (backtick :: cs) := runLength_pos_iff.mpr rfl
        have hlt : ((backtick :: cs).drop (runLength (backtick :: cs))).length <
            (backtick :: cs).length := by
          rw [List.length_drop, List.length_cons]
          omega
        rw [closingRun?_run hrun]
        simp only [closingRun_run_iff hpos]
        split
        next heq => simp [eq_comm]
        next hne =>
          simp only [Option.map_eq_some_iff, ih _ hlt rfl]
          constructor
          · rintro ⟨m, ⟨k, hk, rfl⟩, rfl⟩
            exact ⟨_, ⟨k, rfl, hk⟩, (Nat.add_assoc ..).symm⟩
          · rintro ⟨_, ⟨k, rfl, hk⟩, rfl⟩
            exact ⟨_, ⟨k, hk, rfl⟩, (Nat.add_assoc ..).symm⟩
      · rw [closingRun?_cons hc hrun]
        simp only [closingRun_cons_iff hc]
        split
        next hend => simp [hend]
        next hend =>
          simp only [Option.map_eq_some_iff, ih _ (Nat.lt_succ_self _) rfl]
          constructor
          · rintro ⟨m, ⟨k, hk, rfl⟩, rfl⟩
            exact ⟨k + 1, ⟨hend, k, rfl, hk⟩, Nat.add_right_comm ..⟩
          · rintro ⟨_, ⟨-, k, rfl, hk⟩, rfl⟩
            exact ⟨k + run, ⟨k, hk, rfl⟩, Nat.add_right_comm ..⟩

/-- A code span of `n` characters starts with a run of backticks and ends with the next run of the
same length, which stands in the same line. -/
def IsCodeSpan (text : List Char) (n : Nat) : Prop :=
  0 < runLength text ∧ ∃ k, ClosingRun (runLength text) (text.drop (runLength text)) k ∧
    n = runLength text + k + runLength text

theorem codeSpan?_eq_some_iff : codeSpan? text = some n ↔ IsCodeSpan text n := by
  rw [codeSpan?, IsCodeSpan]
  rcases Nat.eq_zero_or_pos (runLength text) with hrun | hrun
  · simp [hrun]
  · simp only [if_neg (Nat.ne_of_gt hrun), Option.map_eq_some_iff, closingRun?_eq_some_iff hrun,
      hrun, true_and]
    constructor
    · rintro ⟨_, ⟨k, hk, rfl⟩, rfl⟩
      exact ⟨k, hk, (Nat.add_assoc ..).symm⟩
    · rintro ⟨k, hk, rfl⟩
      exact ⟨_, ⟨k, hk, rfl⟩, (Nat.add_assoc ..).symm⟩

/-! ### The search by positions -/

theorem map_add_map_add (found : Option Nat) (i k : Nat) :
    (found.map (k + ·)).map (i + ·) = found.map (i + k + ·) := by
  rw [Option.map_map]
  congr 1
  funext n
  exact (Nat.add_assoc ..).symm

theorem map_succ_map_add (found : Option Nat) (i : Nat) :
    (found.map (· + 1)).map (i + ·) = found.map (i + 1 + ·) := by
  simp only [Nat.add_comm _ 1, map_add_map_add]

def runLengthAt? (text : List Char) (i : Nat) : Option Nat :=
  if i ≤ text.length then some (runLength (text.drop i)) else none

theorem runLengthAt?_of_le (h : i ≤ text.length) :
    runLengthAt? text i = some (runLength (text.drop i)) := if_pos h

theorem pos_of_runLengthAt? (hc : text[i]? = some backtick) (h : runLengthAt? text i = some n) :
    0 < n := by
  simp only [runLengthAt?, Option.ite_none_right_eq_some, Option.some.injEq] at h
  rwa [← h.2, runLength_pos_iff, List.getElem?_drop]

theorem drop_of_getElem? (hc : text[i]? = some c) : text.drop i = c :: text.drop (i + 1) := by
  obtain ⟨hlt, rfl⟩ := List.getElem?_eq_some_iff.mp hc
  exact List.drop_eq_getElem_cons hlt

/-- Where the next run of `run` backticks in the line ends, from `i` on. -/
def closingRunChecked? (text : List Char) (run i : Nat) : Option (Option Nat) :=
  if i < text.length then
    match hc : text[i]? with
    | none => none
    | some c =>
      if c = '\n' then some none
      else if hrun : c = backtick then
        match _hclosing : runLengthAt? text i with
        | none => none
        | some closing =>
          if closing = run then some (some (i + closing))
          else closingRunChecked? text run (i + closing)
      else closingRunChecked? text run (i + 1)
  else some none
termination_by text.length - i
decreasing_by
  · have hpos := pos_of_runLengthAt? (hrun ▸ hc) _hclosing
    omega
  · omega

theorem closingRunChecked?_eq (hrun : 0 < run) : closingRunChecked? text run i =
    some ((closingRun? run 0 (text.drop i)).map (i + ·)) := by
  fun_induction closingRunChecked? text run i with
  | case1 i hlt hc => exact absurd (List.getElem?_eq_none_iff.mp hc) (Nat.not_le_of_lt hlt)
  | case2 i hlt hc =>
    rw [drop_of_getElem? hc, closingRun?_cons (by decide) hrun, if_pos rfl, Option.map_none]
  | case3 i hlt hnone =>
    rw [runLengthAt?_of_le (Nat.le_of_lt hlt)] at hnone
    cases hnone
  | case4 i hlt _ _ hlength =>
    rw [runLengthAt?_of_le (Nat.le_of_lt hlt), Option.some.injEq] at hlength
    rw [closingRun?_run hrun, if_pos hlength, Option.map_some]
  | case5 i hlt closing hlength hne _ _ ih =>
    rw [runLengthAt?_of_le (Nat.le_of_lt hlt), Option.some.injEq] at hlength
    rw [closingRun?_run hrun, hlength, if_neg hne, List.drop_drop, map_add_map_add, ih]
  | case6 i hlt c hc hnewline hrun' ih =>
    rw [drop_of_getElem? hc, closingRun?_cons hrun' hrun, if_neg hnewline, map_succ_map_add, ih]
  | case7 i hge =>
    rw [List.drop_eq_nil_of_le (Nat.le_of_not_lt hge), closingRun?, if_neg (Nat.ne_of_lt hrun),
      Option.map_none]

def codeEndChecked? (text : List Char) (i : Nat) : Option (Option Nat) := do
  let run ← runLengthAt? text i
  closingRunChecked? text run (i + run)

def pastCode? (text : List Char) (i : Nat) : Option Nat := do
  let close ← codeEndChecked? text i
  let run ← runLengthAt? text i
  return close.getD (i + run)

theorem codeEndChecked?_eq (hc : text[i]? = some backtick) :
    codeEndChecked? text i = some ((codeSpan? (text.drop i)).map (i + ·)) := by
  have hlt := (List.getElem?_eq_some_iff.mp hc).1
  have hlength := runLengthAt?_of_le (Nat.le_of_lt hlt)
  have hpos := pos_of_runLengthAt? hc hlength
  rw [codeEndChecked?, hlength, codeSpan?, if_neg (Nat.ne_of_gt hpos), map_add_map_add,
    List.drop_drop]
  exact closingRunChecked?_eq hpos

theorem pastCode?_eq (hc : text[i]? = some backtick) :
    pastCode? text i = some (i + codeLength (text.drop i)) := by
  have hlt := (List.getElem?_eq_some_iff.mp hc).1
  rw [pastCode?, codeEndChecked?_eq hc, runLengthAt?_of_le (Nat.le_of_lt hlt), codeLength]
  cases codeSpan? (text.drop i) <;> rfl

end ProseCheck.Markdown
