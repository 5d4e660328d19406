import Mathlib.Data.List.Perm.Basic
import Mathlib.Tactic.Common
import ProseCheck.Grazie.Answer
import ProseCheck.Proofs.Finding.Sort
import ProseCheck.Proofs.Text.Bytes
import ProseCheck.Proofs.Text.Offset

/-! # Changes made at once

The changes of a fix all speak of the text as it was. Made one by one they still do if the last one
is made first and none reaches into another, since what stands before a change keeps its place.
-/

namespace ProseCheck.Grazie

variable {changes rest : List Change} {c d : Change} {text front : List Char}
  {start finish i : Nat}

def Change.Shares (c d : Change) : Prop :=
  ∃ i, c.span.contains i = true ∧ d.span.contains i = true

structure Change.Within (c : Change) (start finish : Nat) : Prop where
  start_le : start ≤ c.span.start
  ordered : c.span.start ≤ c.span.finish
  finish_le : c.span.finish ≤ finish

theorem Change.Shares.symm (h : c.Shares d) : d.Shares c := by
  obtain ⟨i, hc, hd⟩ := h
  exact ⟨i, hd, hc⟩

/-! ### A text with its changes -/

/-- The new text at a place: what is inserted there, in the order of the changes, and then what
takes the place of a stretch that begins there. -/
def put (changes : List Change) (i : Nat) : List Char :=
  (changes.filter fun c => c.span.start = i ∧ c.span.finish = i).flatMap (·.text) ++
    (changes.filter fun c => c.span.start = i ∧ i < c.span.finish).flatMap (·.text)

def covered (changes : List Change) (i : Nat) : Bool := changes.any (·.span.contains i)

/-- The text from `i` on with all changes made at once: new text in front of a character and at the
end, and the characters that no change covers. -/
def changed (changes : List Change) (i : Nat) : List Char → List Char
  | [] => put changes i
  | c :: cs =>
    put changes i ++ ((if covered changes i then [] else [c]) ++ changed changes (i + 1) cs)

theorem changed_nil (i : Nat) (text : List Char) : changed [] i text = text := by
  induction text generalizing i with
  | nil => rfl
  | cons c cs ih =>
    rw [changed, ih]
    rfl

theorem changed_congr (hput : ∀ k, i ≤ k → put changes k = put rest k)
    (hcovered : ∀ k, i ≤ k → covered changes k = covered rest k) (text : List Char) :
    changed changes i text = changed rest i text := by
  induction text generalizing i with
  | nil => exact hput i (Nat.le_refl i)
  | cons c cs ih =>
    rw [changed, changed, hput i (Nat.le_refl i), hcovered i (Nat.le_refl i),
      ih (fun k hk => hput k (Nat.le_of_succ_le hk)) fun k hk => hcovered k (Nat.le_of_succ_le hk)]

theorem changed_append (gone : Bool) (front text : List Char)
    (hput : ∀ k, i ≤ k → k < i + front.length → put changes k = [])
    (hcovered : ∀ k, i ≤ k → k < i + front.length → covered changes k = gone) :
    changed changes i (front ++ text) =
      (if gone then [] else front) ++ changed changes (i + front.length) text := by
  induction front generalizing i with
  | nil => cases gone <;> rfl
  | cons c cs ih =>
    rw [List.length_cons] at hput hcovered
    rw [List.cons_append, changed, hput i (Nat.le_refl i) (by omega),
      hcovered i (Nat.le_refl i) (by omega),
      ih (fun k hk hlt => hput k (by omega) (by omega)) fun k hk hlt =>
        hcovered k (by omega) (by omega),
      List.length_cons, Nat.add_assoc, Nat.add_comm 1 cs.length]
    cases gone <;> rfl

theorem put_cons_of_ne (h : c.span.start ≠ i) : put (c :: changes) i = put changes i := by
  simp [put, h]

theorem put_eq_nil (h : ∀ c ∈ changes, c.span.start ≠ i) : put changes i = [] := by
  induction changes with
  | nil => rfl
  | cons c changes ih =>
    rw [put_cons_of_ne (h c List.mem_cons_self)]
    exact ih fun d hd => h d (List.mem_cons_of_mem c hd)

theorem put_cons_insertion (hstart : c.span.start = i) (hfinish : c.span.finish = i) :
    put (c :: changes) i = c.text ++ put changes i := by
  simp [put, hstart, hfinish]

theorem put_cons_replacement (hstart : c.span.start = i) (hfinish : i < c.span.finish)
    (hrest : ∀ d ∈ changes, d.span.start ≠ i) : put (c :: changes) i = c.text := by
  have hins : (changes.filter fun d => d.span.start = i ∧ d.span.finish = i) = [] :=
    List.filter_eq_nil_iff.mpr fun d hd h => hrest d hd (of_decide_eq_true h).1
  have hrep : (changes.filter fun d => d.span.start = i ∧ i < d.span.finish) = [] :=
    List.filter_eq_nil_iff.mpr fun d hd h => hrest d hd (of_decide_eq_true h).1
  rw [put, List.filter_cons_of_neg (by simp; omega), List.filter_cons_of_pos (by simp; omega), hins,
    hrep]
  simp

theorem covered_cons_of_not_contains (h : c.span.contains i = false) :
    covered (c :: changes) i = covered changes i := by
  rw [covered, List.any_cons, h, Bool.false_or, covered]

theorem covered_eq_false (h : ∀ c ∈ changes, i < c.span.start) : covered changes i = false := by
  rw [covered, List.any_eq_false]
  intro c hc hcontains
  have := h c hc
  rw [Span.contains_iff] at hcontains
  omega

theorem changed_append_before (h : ∀ c ∈ changes, i + front.length ≤ c.span.start)
    (text : List Char) :
    changed changes i (front ++ text) = front ++ changed changes (i + front.length) text := by
  refine changed_append false front text (fun k _ hlt => ?_) fun k _ hlt => ?_
  · exact put_eq_nil fun c hc => by have := h c hc; omega
  · exact covered_eq_false fun c hc => by have := h c hc; omega

/-- Only the order of the changes that begin at the same place matters. -/
theorem changed_mergeSort {le : Change → Change → Bool}
    (trans : ∀ a b c, le a b = true → le b c = true → le a c = true)
    (total : ∀ a b, (le a b || le b a) = true)
    (hle : ∀ a b, ties le a b = true ↔ a.span.start = b.span.start)
    (changes : List Change) (i : Nat) (text : List Char) :
    changed (changes.mergeSort le) i text = changed changes i text := by
  refine changed_congr (fun k _ => ?_) (fun k _ => ?_) text
  · let here : Change := ⟨⟨k, k⟩, []⟩
    have hfilter (keep : Change → Prop) [DecidablePred keep] (changes : List Change) :
        (changes.filter fun c => c.span.start = k ∧ keep c) =
          (changes.filter (ties le here)).filter fun c => keep c := by
      rw [List.filter_filter]
      refine List.filter_congr fun c _ => ?_
      rw [Bool.eq_iff_iff, Bool.and_eq_true, hle, decide_eq_true_eq, decide_eq_true_eq, and_comm,
        eq_comm]
    rw [put, put, hfilter, hfilter, hfilter, hfilter, filter_ties_mergeSort trans total]
  · exact (List.mergeSort_perm changes le).any_eq

/-! ### One after the other -/

/-- The changes follow each other between two places. -/
structure InRow (changes : List Change) (start finish : Nat) : Prop where
  within : ∀ c ∈ changes, c.Within start finish
  apart : changes.Pairwise fun c d => c.span.finish ≤ d.span.start

theorem inRow_cons_iff : InRow (c :: changes) start finish ↔
    c.Within start finish ∧ InRow changes c.span.finish finish := by
  constructor
  · rintro ⟨hwithin, hapart⟩
    obtain ⟨hc, hapart⟩ := List.pairwise_cons.mp hapart
    refine ⟨hwithin c List.mem_cons_self, fun d hd => ?_, hapart⟩
    obtain ⟨-, hordered, hfinish⟩ := hwithin d (List.mem_cons_of_mem c hd)
    exact ⟨hc d hd, hordered, hfinish⟩
  · rintro ⟨hc, hwithin, hapart⟩
    constructor
    · intro d hd
      rcases List.mem_cons.mp hd with rfl | hd
      · exact hc
      · obtain ⟨hstart, hordered, hfinish⟩ := hwithin d hd
        exact ⟨Nat.le_trans hc.start_le (Nat.le_trans hc.ordered hstart), hordered, hfinish⟩
    · exact List.pairwise_cons.mpr ⟨fun d hd => (hwithin d hd).start_le, hapart⟩

theorem InRow.of_cons (hrow : InRow (c :: changes) start finish) : InRow changes start finish :=
  ⟨fun d hd => hrow.within d (List.mem_cons_of_mem c hd), (List.pairwise_cons.mp hrow.apart).2⟩

/-- The walk over the changes compares each one with the end of the one before. -/
theorem fits_iff (hordered : ∀ c ∈ changes, c.span.start ≤ c.span.finish) :
    fits finish start changes = true ↔ InRow changes start finish := by
  induction changes generalizing start with
  | nil => exact ⟨fun _ => ⟨by simp, .nil⟩, fun _ => rfl⟩
  | cons c changes ih =>
    rw [fits, Bool.and_eq_true, Bool.and_eq_true, decide_eq_true_eq, decide_eq_true_eq,
      ih fun d hd => hordered d (List.mem_cons_of_mem c hd), inRow_cons_iff]
    constructor
    · rintro ⟨⟨hstart, hfinish⟩, hrow⟩
      exact ⟨⟨hstart, hordered c List.mem_cons_self, hfinish⟩, hrow⟩
    · rintro ⟨⟨hstart, -, hfinish⟩, hrow⟩
      exact ⟨⟨hstart, hfinish⟩, hrow⟩

/-- `Change.apply`, where each difference and each cut may go wrong. -/
def Change.applyChecked? (start : Nat) (c : Change) (text : List Char) : Option (List Char) := do
  let first ← subOffset? c.span.start start
  let last ← subOffset? c.span.finish start
  guard (first ≤ last ∧ last ≤ text.length)
  return text.take first ++ c.text ++ text.drop last

theorem Change.applyChecked?_eq (hc : c.Within start (start + text.length)) :
    c.applyChecked? start text = some (c.apply start text) := by
  obtain ⟨hstart, hordered, hfinish⟩ := hc
  have hcut : c.span.start - start ≤ c.span.finish - start ∧
      c.span.finish - start ≤ text.length := by omega
  rw [applyChecked?, subOffset?_of_le hstart, subOffset?_of_le (Nat.le_trans hstart hordered)]
  simp only [Option.bind_eq_bind, Option.bind_some, guard, if_pos hcut]
  rfl

theorem Change.apply_append (hstart : start + front.length ≤ c.span.start)
    (hordered : c.span.start ≤ c.span.finish) (back : List Char) :
    c.apply start (front ++ back) = front ++ c.apply (start + front.length) back := by
  have hfirst : c.span.start - start = front.length + (c.span.start - (start + front.length)) := by
    omega
  have hlast : c.span.finish - start = front.length + (c.span.finish - (start + front.length)) := by
    omega
  rw [apply, apply, hfirst, hlast, List.take_length_add_append, List.drop_length_add_append]
  simp only [List.append_assoc]

theorem Change.Within.exists_split (hc : c.Within start (start + text.length)) :
    ∃ before middle later, text = before ++ (middle ++ later) ∧
      start + before.length = c.span.start ∧ c.span.start + middle.length = c.span.finish := by
  obtain ⟨hstart, hordered, hfinish⟩ := hc
  refine ⟨text.take (c.span.start - start), (text.drop (c.span.start - start)).take c.span.length,
    (text.drop (c.span.start - start)).drop c.span.length, ?_, ?_, ?_⟩
  · rw [List.take_append_drop, List.take_append_drop]
  · rw [List.length_take]
    omega
  · rw [List.length_take, List.length_drop, Span.length]
    omega

theorem Change.apply_middle {middle : List Char}
    (hmiddle : c.span.start + middle.length = c.span.finish) (back : List Char) :
    c.apply c.span.start (middle ++ back) = c.text ++ back := by
  rw [apply, ← hmiddle, Nat.sub_self, Nat.add_sub_cancel_left, List.take_zero, List.nil_append,
    List.drop_left]

theorem foldr_apply_append (hrow : InRow changes (start + front.length) finish)
    (back : List Char) :
    changes.foldr (·.apply start) (front ++ back) =
      front ++ changes.foldr (·.apply (start + front.length)) back := by
  induction changes with
  | nil => rfl
  | cons c changes ih =>
    have hc := hrow.within c List.mem_cons_self
    rw [List.foldr_cons, ih hrow.of_cons, Change.apply_append hc.start_le hc.ordered,
      List.foldr_cons]

theorem not_contains_of_finish_le {k : Nat} (hk : c.span.finish ≤ k) :
    c.span.contains k = false := by
  rw [Bool.eq_false_iff, Ne, Span.contains_iff]
  omega

theorem changed_cons_insertion (hempty : c.span.finish = c.span.start) (text : List Char) :
    changed (c :: changes) c.span.start text =
      c.text ++ changed changes c.span.start text := by
  have hput : put (c :: changes) c.span.start = c.text ++ put changes c.span.start :=
    put_cons_insertion rfl hempty
  have hcovered (k : Nat) (hk : c.span.start ≤ k) :
      covered (c :: changes) k = covered changes k :=
    covered_cons_of_not_contains (not_contains_of_finish_le (hempty ▸ hk))
  cases text with
  | nil => exact hput
  | cons x xs =>
    rw [changed, changed, hput, hcovered _ (Nat.le_refl _), List.append_assoc,
      changed_congr (fun k hk => put_cons_of_ne (by omega)) fun k hk => hcovered k (by omega)]

theorem changed_cons_replacement {x : Char} {xs : List Char}
    (hrow : InRow changes c.span.finish finish)
    (hlength : c.span.start + (xs.length + 1) = c.span.finish) (text : List Char) :
    changed (c :: changes) c.span.start (x :: (xs ++ text)) =
      c.text ++ changed changes c.span.finish text := by
  have hlater : ∀ d ∈ changes, c.span.finish ≤ d.span.start :=
    fun d hd => (hrow.within d hd).start_le
  have hcovered (k : Nat) (hk : c.span.start ≤ k) (hlt : k < c.span.finish) :
      covered (c :: changes) k = true := by
    rw [covered, List.any_cons, Span.contains_iff.mpr ⟨hk, hlt⟩, Bool.true_or]
  have hput (k : Nat) (hk : c.span.start < k) (hlt : k < c.span.finish) :
      put (c :: changes) k = [] := by
    rw [put_cons_of_ne (Nat.ne_of_lt hk)]
    exact put_eq_nil fun d hd => by have := hlater d hd; omega
  have hfirst : put (c :: changes) c.span.start = c.text :=
    put_cons_replacement rfl (by omega) fun d hd => by have := hlater d hd; omega
  have hrest : changed (c :: changes) c.span.finish text = changed changes c.span.finish text :=
    changed_congr (fun k hk => put_cons_of_ne (by omega))
      (fun k hk => covered_cons_of_not_contains (not_contains_of_finish_le hk)) text
  have hlast : c.span.start + 1 + xs.length = c.span.finish := by omega
  rw [changed, hfirst, hcovered _ (Nat.le_refl _) (by omega),
    changed_append true xs text (fun k hk hlt => hput k (by omega) (by omega))
      fun k hk hlt => hcovered k (by omega) (by omega), hlast, hrest]
  rfl

/-- From the place of its first change on, a text is the new text of this change and the rest with
the other changes. -/
theorem changed_cons (hrow : InRow changes c.span.finish finish)
    (hlength : c.span.start + front.length = c.span.finish) (text : List Char) :
    changed (c :: changes) c.span.start (front ++ text) =
      c.text ++ changed changes c.span.finish text := by
  cases front with
  | nil =>
    rw [← hlength]
    exact changed_cons_insertion hlength.symm text
  | cons x xs => exact changed_cons_replacement hrow hlength text

/-- Changes in a row, made from the last one to the first, come to the same as all of them made at
once. -/
theorem foldr_apply_eq_changed (hrow : InRow changes start (start + text.length))
    (after : List Char) :
    changes.foldr (·.apply start) text ++ after = changed changes start (text ++ after) := by
  induction changes generalizing start text with
  | nil => exact (changed_nil start _).symm
  | cons c changes ih =>
    obtain ⟨hc, htail⟩ := inRow_cons_iff.mp hrow
    obtain ⟨before, middle, later, rfl, hbefore, hmiddle⟩ := hc.exists_split
    have hlater : start + (before ++ (middle ++ later)).length =
        c.span.finish + later.length := by
      simp only [List.length_append]
      omega
    rw [hlater] at hrow htail
    have hrest : InRow (c :: changes) c.span.start (c.span.finish + later.length) :=
      inRow_cons_iff.mpr ⟨⟨Nat.le_refl _, hc.ordered, Nat.le_add_right _ _⟩, htail⟩
    have hfold : (c :: changes).foldr (·.apply start) (before ++ (middle ++ later)) =
        before ++ (c.text ++ changes.foldr (·.apply c.span.finish) later) := by
      rw [foldr_apply_append (hbefore.symm ▸ hrest), hbefore, List.foldr_cons,
        foldr_apply_append (hmiddle.symm ▸ htail), hmiddle, Change.apply_middle hmiddle]
    have hfirst : ∀ d ∈ c :: changes, start + before.length ≤ d.span.start :=
      fun d hd => hbefore ▸ (hrest.within d hd).start_le
    calc (c :: changes).foldr (·.apply start) (before ++ (middle ++ later)) ++ after
      _ = before ++ (c.text ++ (changes.foldr (·.apply c.span.finish) later ++ after)) := by
        simp only [hfold, List.append_assoc]
      _ = before ++ (c.text ++ changed changes c.span.finish (later ++ after)) := by
        rw [ih htail]
      _ = before ++ changed (c :: changes) c.span.start (middle ++ (later ++ after)) := by
        rw [changed_cons htail hmiddle]
      _ = changed (c :: changes) start (before ++ (middle ++ (later ++ after))) := by
        rw [changed_append_before hfirst, hbefore]
      _ = changed (c :: changes) start (before ++ (middle ++ later) ++ after) := by
        simp only [List.append_assoc]

/-- No change of a row goes wrong: those made before it stand further on. -/
theorem foldrM_applyChecked? (hrow : InRow changes start (start + text.length)) :
    changes.foldrM (fun c text => c.applyChecked? start text) text =
      some (changes.foldr (·.apply start) text) := by
  induction changes with
  | nil => rfl
  | cons c changes ih =>
    obtain ⟨hc, htail⟩ := inRow_cons_iff.mp hrow
    obtain ⟨before, middle, later, rfl, hbefore, hmiddle⟩ := hc.exists_split
    have hstart : start + (before ++ middle).length = c.span.finish := by
      rw [List.length_append]
      omega
    have hfold : changes.foldr (·.apply start) (before ++ (middle ++ later)) =
        before ++ middle ++ changes.foldr (·.apply c.span.finish) later := by
      rw [← List.append_assoc, foldr_apply_append (hstart.symm ▸ htail), hstart]
    rw [List.foldrM_cons, ih hrow.of_cons, List.foldr_cons]
    refine Change.applyChecked?_eq ⟨hc.start_le, hc.ordered, ?_⟩
    rw [hfold, List.length_append]
    omega

end ProseCheck.Grazie
