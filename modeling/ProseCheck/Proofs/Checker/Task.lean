import Mathlib.Tactic.Common
import ProseCheck.Checker.Task
import ProseCheck.Proofs.Text.Segment

/-! # What tasks account for

At any time the paragraphs of a task are those with an outcome, those asked for and those still to
look up. What is found is what the outcomes hold.
-/

namespace ProseCheck

def Text.proseParagraphs (separator text : List Char) : List Text.Segment :=
  (Text.paragraphs separator text).filter (!·.isBlank)

theorem Text.proseParagraphs_eq_nil {separator text : List Char} (h : allBlank text = true) :
    proseParagraphs separator text = [] := by
  refine List.filter_eq_nil_iff.mpr fun p hp => ?_
  obtain ⟨-, -, hslice⟩ := slice?_eq_some_iff.mp (in_of_mem_paragraphs hp)
  have hblank : p.isBlank = true := by
    refine List.all_eq_true.mpr fun c hc => List.all_eq_true.mp h c ?_
    rw [← hslice] at hc
    exact List.mem_of_mem_drop (List.mem_of_mem_take hc)
  simp [hblank]

/-- A paragraph and what became of it: its findings, or nothing if it failed. -/
abbrev Part := Text.Segment × Option (List Finding)

namespace Part

def findings (part : Part) : List Finding := (part.2.getD []).map (·.shift part.1.start)

def key (key : CacheKey) (part : Part) : CacheKey := { key with text := part.1.text }

end Part

variable {Gives Gives' : CacheKey → Option (List Finding) → Prop} {separator : List Char}
  {key : CacheKey} {t : Task} {caches : Caches}

/-- The parts are, together with the paragraphs in `rest`, all paragraphs of the text, and their
outcomes are allowed. -/
structure Covers (Gives : CacheKey → Option (List Finding) → Prop) (separator : List Char)
    (key : CacheKey) (parts : List Part) (rest : List Text.Segment) : Prop where
  perm : (parts.map (·.1) ++ rest).Perm (Text.proseParagraphs separator key.text)
  gives : ∀ part ∈ parts, Gives (part.key key) part.2

/-- The findings of a text, when some of its paragraphs may have failed. -/
def Found (Gives : CacheKey → Option (List Finding) → Prop) (separator : List Char)
    (key : CacheKey) (fs : List Finding) : Prop :=
  ∃ parts, Covers Gives separator key parts [] ∧ fs = Finding.sort (parts.flatMap (·.findings))

/-- The findings of a text none of whose paragraphs has failed. -/
def FoundAll (Gives : CacheKey → Option (List Finding) → Prop) (separator : List Char)
    (key : CacheKey) (fs : List Finding) : Prop :=
  ∃ parts, Covers Gives separator key parts [] ∧ (∀ part ∈ parts, part.2.isSome) ∧
    fs = Finding.sort (parts.flatMap (·.findings))

theorem Covers.mono {parts : List Part} {rest : List Text.Segment}
    (h : Covers Gives separator key parts rest) (hg : ∀ k a, Gives k a → Gives' k a) :
    Covers Gives' separator key parts rest :=
  ⟨h.perm, fun part hp => hg _ _ (h.gives part hp)⟩

theorem Covers.add {parts : List Part} {p : Text.Segment} {rest rest' : List Text.Segment}
    (h : Covers Gives separator key parts rest) (hrest : rest.Perm (p :: rest'))
    {a : Option (List Finding)} (ha : Gives { key with text := p.text } a) :
    Covers Gives separator key (parts ++ [(p, a)]) rest' where
  perm := by
    rw [List.map_append, List.append_assoc]
    exact (hrest.symm.append_left _).trans h.perm
  gives := by
    intro part hp
    rcases List.mem_append.mp hp with hp | hp
    · exact h.gives part hp
    · rw [List.mem_singleton.mp hp]
      exact ha

theorem FoundAll.found {fs : List Finding} (h : FoundAll Gives separator key fs) :
    Found Gives separator key fs := by
  obtain ⟨parts, hcovers, -, rfl⟩ := h
  exact ⟨parts, hcovers, rfl⟩

theorem Found.mono {fs : List Finding} (h : Found Gives separator key fs)
    (hg : ∀ k a, Gives k a → Gives' k a) : Found Gives' separator key fs := by
  obtain ⟨parts, hcovers, rfl⟩ := h
  exact ⟨parts, hcovers.mono hg, rfl⟩

theorem FoundAll.mono {fs : List Finding} (h : FoundAll Gives separator key fs)
    (hg : ∀ k gs, Gives k (some gs) → Gives' k (some gs)) : FoundAll Gives' separator key fs := by
  obtain ⟨parts, ⟨hperm, hgives⟩, hsome, rfl⟩ := h
  refine ⟨parts, ⟨hperm, fun part hp => ?_⟩, hsome, rfl⟩
  obtain ⟨gs, hgs⟩ := Option.isSome_iff_exists.mp (hsome part hp)
  have := hgives part hp
  rw [hgs] at this ⊢
  exact hg _ _ this

namespace Task

/-- The paragraphs of the task are accounted for. -/
def Accounts (Gives : CacheKey → Option (List Finding) → Prop) (separator : List Char)
    (t : Task) : Prop :=
  ∃ parts, Covers Gives separator t.key parts (t.asked.map (·.1) ++ t.todo) ∧
    t.found = parts.flatMap (·.findings) ∧ t.complete = parts.all (·.2.isSome)

theorem Accounts.mono (h : t.Accounts Gives separator) (hg : ∀ k a, Gives k a → Gives' k a) :
    t.Accounts Gives' separator := by
  obtain ⟨parts, hcovers, hfound, hcomplete⟩ := h
  exact ⟨parts, hcovers.mono hg, hfound, hcomplete⟩

theorem accounts_start : (start separator key).Accounts Gives separator :=
  ⟨[], ⟨.refl _, by simp⟩, rfl, rfl⟩

theorem Accounts.mem_of_mem_todo {p : Text.Segment} (h : t.Accounts Gives separator)
    (hp : p ∈ t.todo) : p ∈ Text.proseParagraphs separator t.key.text := by
  obtain ⟨parts, hcovers, -⟩ := h
  exact hcovers.perm.subset (List.mem_append_right _ (List.mem_append_right _ hp))

theorem Accounts.add {t' : Task} {p : Text.Segment} {a : Option (List Finding)}
    (h : t.Accounts Gives separator) (ha : Gives (t.paragraphKey p) a) (hkey : t'.key = t.key)
    (hrest : (t.asked.map (·.1) ++ t.todo).Perm (p :: (t'.asked.map (·.1) ++ t'.todo)))
    (hfound : t'.found = t.found ++ Part.findings (p, a))
    (hcomplete : t'.complete = (t.complete && a.isSome)) : t'.Accounts Gives separator := by
  obtain ⟨parts, hcovers, hf, hc⟩ := h
  refine ⟨parts ++ [(p, a)], hkey ▸ hcovers.add hrest ha, ?_, ?_⟩
  · rw [hfound, hf, List.flatMap_append, List.flatMap_singleton]
  · rw [hcomplete, hc, List.all_append, List.all_cons, List.all_nil, Bool.and_true]

theorem Accounts.ask {p : Text.Segment} {rest : List Text.Segment} {n : Nat}
    (h : t.Accounts Gives separator) (htodo : t.todo = p :: rest) :
    { t with todo := rest, asked := t.asked ++ [(p, n)] : Task }.Accounts Gives separator := by
  obtain ⟨parts, hcovers, hf, hc⟩ := h
  refine ⟨parts, ⟨?_, hcovers.gives⟩, hf, hc⟩
  have hperm := hcovers.perm
  rw [htodo] at hperm
  simpa [List.append_assoc] using hperm

theorem Accounts.lookUp (h : t.Accounts Gives separator) (caches : Caches) (ticket : Option Nat)
    (hcache : ∀ k fs, caches.paragraphs.find? k = some fs → Gives k (some fs))
    (hnone : ticket = none → ∀ k, Gives k none) :
    (t.lookUp caches ticket).1.Accounts Gives separator := by
  unfold Task.lookUp
  split
  next => exact h
  next p rest htodo =>
    have hrest : (t.asked.map (·.1) ++ t.todo).Perm (p :: (t.asked.map (·.1) ++ rest)) := by
      rw [htodo]
      exact List.perm_middle
    simp only
    split
    next fs hfs =>
      exact h.add (a := some fs) (hcache _ _ hfs) rfl hrest rfl (by simp [addFindings])
    next => exact h.ask htodo
    next => exact h.add (a := none) (hnone rfl _) rfl hrest (by simp [Part.findings]) (by simp)

theorem lookUp_of_known {p : Text.Segment} {rest : List Text.Segment} {fs : List Finding}
    (htodo : t.todo = p :: rest) (hfs : caches.paragraphs.find? (t.paragraphKey p) = some fs)
    (ticket : Option Nat) :
    t.lookUp caches ticket = ({ t with todo := rest }.addFindings p fs, none) := by
  have hfs' : caches.paragraphs.find? ({ t with todo := rest }.paragraphKey p) = some fs := hfs
  simp only [lookUp, htodo, hfs']

theorem lookUp_of_not_known {p : Text.Segment} {rest : List Text.Segment}
    (htodo : t.todo = p :: rest)
    (hnone : caches.paragraphs.find? (t.paragraphKey p) = none) (ticket : Option Nat) :
    t.lookUp caches ticket =
      match ticket with
      | some n => ({ t with todo := rest, asked := t.asked ++ [(p, n)] }, some p.text)
      | none => ({ t with todo := rest, complete := false }, none) := by
  have hnone' : caches.paragraphs.find? ({ t with todo := rest }.paragraphKey p) = none := hnone
  cases ticket <;> simp only [lookUp, htodo, hnone']

/-- A paragraph that is looked up is known or fails at once, or it is asked for. -/
theorem lookUp_cases (t : Task) (caches : Caches) (ticket : Option Nat) :
    (t.lookUp caches ticket).2 = none ∧ (t.lookUp caches ticket).1.key = t.key ∧
        (t.lookUp caches ticket).1.asked = t.asked ∧
        (t.lookUp caches ticket).1.todo = t.todo.tail ∨
      ∃ p rest n, t.todo = p :: rest ∧ ticket = some n ∧
        caches.paragraphs.find? (t.paragraphKey p) = none ∧ t.lookUp caches ticket =
          ({ t with todo := rest, asked := t.asked ++ [(p, n)] }, some p.text) := by
  unfold Task.lookUp
  split
  next htodo => exact Or.inl ⟨rfl, rfl, rfl, by rw [htodo]; rfl⟩
  next p rest htodo =>
    simp only
    split
    next => exact Or.inl ⟨rfl, rfl, rfl, by rw [htodo]; rfl⟩
    next n hnone => exact Or.inr ⟨p, rest, n, htodo, rfl, hnone, rfl⟩
    next => exact Or.inl ⟨rfl, rfl, rfl, by rw [htodo]; rfl⟩

theorem Accounts.accept (h : t.Accounts Gives separator) (caches : Caches) (reply : Reply)
    (hreply : ∀ p n rest, t.asked = (p, n) :: rest → Gives (t.paragraphKey p) reply.toOption) :
    (t.accept caches reply).1.Accounts Gives separator := by
  unfold Task.accept
  split
  next => exact h
  next p n rest hasked =>
    have ha := hreply p n rest hasked
    have hrest : (t.asked.map (·.1) ++ t.todo).Perm (p :: (rest.map (·.1) ++ t.todo)) := by
      rw [hasked]
      exact .refl _
    cases reply with
    | ok fs => exact h.add (a := some fs) ha rfl hrest rfl (by simp [addFindings])
    | error e => exact h.add (a := none) ha rfl hrest (by simp [Part.findings]) (by simp)

theorem Accounts.giveUp (h : t.Accounts Gives separator) (hnone : ∀ k, Gives k none) :
    t.giveUp.Accounts Gives separator := by
  obtain ⟨parts, hcovers, hf, hc⟩ := h
  refine ⟨parts ++ t.asked.map fun a => (a.1, none), ⟨?_, ?_⟩, ?_, ?_⟩
  · simpa [Task.giveUp, Function.comp_def] using hcovers.perm
  · intro part hp
    rcases List.mem_append.mp hp with hp | hp
    · exact hcovers.gives part hp
    · obtain ⟨a, -, rfl⟩ := List.mem_map.mp hp
      exact hnone _
  · simp [Task.giveUp, hf, Part.findings, List.flatMap_map]
  · cases hasked : t.asked <;> simp [Task.giveUp, hc, hasked]

/-- The result of a task that is done is what was found in its paragraphs. -/
theorem Accounts.found_result (h : t.Accounts Gives separator) (hdone : t.isDone = true) :
    Found Gives separator t.key t.result := by
  obtain ⟨parts, hcovers, hf, -⟩ := h
  rw [isDone, Bool.and_eq_true, List.isEmpty_iff, List.isEmpty_iff] at hdone
  rw [hdone.1, hdone.2] at hcovers
  exact ⟨parts, hcovers, by rw [result, hf]⟩

theorem Accounts.foundAll_result (h : t.Accounts Gives separator) (hdone : t.isDone = true)
    (hcomplete : t.complete = true) : FoundAll Gives separator t.key t.result := by
  obtain ⟨parts, hcovers, hf, hc⟩ := h
  rw [isDone, Bool.and_eq_true, List.isEmpty_iff, List.isEmpty_iff] at hdone
  rw [hdone.1, hdone.2] at hcovers
  exact ⟨parts, hcovers, List.all_eq_true.mp (hc ▸ hcomplete), by rw [result, hf]⟩

end Task
end ProseCheck
