import Mathlib.Data.Finset.Basic
import Mathlib.Data.Finset.Dedup
import ProseCheck.Dictionary.Basic
import ProseCheck.Proofs.Text.Segment

/-! # The dictionary as a set of scoped words

An item stands for its word in lower case, together with its scope. What can be added, removed and
found depends on the set of these alone, whatever spellings and duplicates the items came with.
-/

namespace ProseCheck

/-- A lower-case word with the rule that it is known to, or with none if it is known to all. -/
abbrev ScopedWord := String × Option String

def DictionaryItem.key (item : DictionaryItem) : ScopedWord :=
  (Text.lowercase item.word, item.ruleId)

def wordKey (word : String) : String := Text.lowercase (Text.trimmed word)

def IsBlankWord (word : String) : Prop := Text.allBlank word.toList = true

instance (word : String) : Decidable (IsBlankWord word) := inferInstanceAs (Decidable (_ = true))

theorem trimmed_isEmpty_iff (word : String) :
    (Text.trimmed word).isEmpty = true ↔ IsBlankWord word := by
  rw [Text.trimmed, String.isEmpty_iff, String.ofList_eq_empty_iff]
  constructor
  · exact Text.allBlank_of_trim_eq_nil
  · intro h
    have hstart : Text.trimStart word.toList = [] :=
      List.dropWhile_eq_nil_iff.mpr (List.all_eq_true.mp h)
    rw [Text.trim, hstart]
    rfl

/-- What a user can ask of a dictionary. -/
inductive DictionaryCall where
  | add (now : Instant) (word : String) (ruleId : Option String)
  | remove (word : String) (ruleId : Option String)
  | contains (word : String) (ruleId : Option String)
  | clear
  deriving DecidableEq, Repr

/-- The answers to some calls, one after the other, and the state behind the last one. -/
def DictionaryCall.run {σ : Type} (perform : σ → DictionaryCall → Option Bool × σ) :
    σ → List DictionaryCall → List (Option Bool) × σ
  | s, [] => ([], s)
  | s, call :: calls =>
    let (answer, next) := perform s call
    let (answers, last) := run perform next calls
    (answer :: answers, last)

/-! ### Sets -/

namespace ScopedWord

/-- Whether a word can be added to a set. -/
def Fresh (k : Finset ScopedWord) (word : String) (ruleId : Option String) : Prop :=
  ¬ IsBlankWord word ∧ (wordKey word, ruleId) ∉ k

/-- Whether a word of a set or one with the given scope keeps a word from being reported. -/
def Known (k : Finset ScopedWord) (word : String) (ruleId : Option String) : Prop :=
  ¬ IsBlankWord word ∧
    ((wordKey word, none) ∈ k ∨ ruleId.isSome = true ∧ (wordKey word, ruleId) ∈ k)

instance (k : Finset ScopedWord) (word : String) (ruleId : Option String) :
    Decidable (Fresh k word ruleId) := inferInstanceAs (Decidable (_ ∧ _))

instance (k : Finset ScopedWord) (word : String) (ruleId : Option String) :
    Decidable (Known k word ruleId) := inferInstanceAs (Decidable (_ ∧ _))

def perform (k : Finset ScopedWord) : DictionaryCall → Option Bool × Finset ScopedWord
  | .add _ word ruleId =>
    (some (Fresh k word ruleId), if Fresh k word ruleId then insert (wordKey word, ruleId) k else k)
  | .remove word ruleId =>
    (some ((wordKey word, ruleId) ∈ k), k.erase (wordKey word, ruleId))
  | .contains word ruleId => (some (Known k word ruleId), k)
  | .clear => (none, ∅)

end ScopedWord

/-! ### Dictionaries -/

namespace Dictionary

variable {d : Dictionary} {word : String} {ruleId : Option String}

def keys (d : Dictionary) : Finset ScopedWord := (d.items.map (·.key)).toFinset

/-- No two items are for one word and scope. -/
def Distinct (d : Dictionary) : Prop := (d.items.map (·.key)).Nodup

def perform (d : Dictionary) : DictionaryCall → Option Bool × Dictionary
  | .add now word ruleId => (d.add now word ruleId).map some id
  | .remove word ruleId => (d.remove word ruleId).map some id
  | .contains word ruleId => (some (d.contains word ruleId), d)
  | .clear => (none, .empty)

theorem mem_keys_iff {key : ScopedWord} : key ∈ d.keys ↔ ∃ item ∈ d.items, item.key = key := by
  rw [keys, List.mem_toFinset, List.mem_map]

theorem isFor_iff (item : DictionaryItem) (word : String) (ruleId : Option String) :
    item.isFor word ruleId = true ↔ item.key = (word, ruleId) := by
  simp [DictionaryItem.isFor, DictionaryItem.key]

theorem any_isFor_iff :
    d.items.any (·.isFor (wordKey word) ruleId) = true ↔ (wordKey word, ruleId) ∈ d.keys := by
  simp only [List.any_eq_true, isFor_iff, mem_keys_iff]

/-! ### Adding -/

def append (d : Dictionary) (now : Instant) (word : String) (ruleId : Option String) : Dictionary :=
  ⟨d.items ++ [⟨Text.trimmed word, now, ruleId⟩]⟩

theorem add_eq (d : Dictionary) (now : Instant) (word : String) (ruleId : Option String) :
    d.add now word ruleId =
      if ScopedWord.Fresh d.keys word ruleId then (true, d.append now word ruleId)
      else (false, d) := by
  have hguard : ((Text.trimmed word).isEmpty || d.items.any (·.isFor (wordKey word) ruleId)) =
      true ↔ ¬ ScopedWord.Fresh d.keys word ruleId := by
    rw [Bool.or_eq_true, trimmed_isEmpty_iff, any_isFor_iff, ScopedWord.Fresh, not_and_or, not_not,
      not_not]
  by_cases h : ScopedWord.Fresh d.keys word ruleId
  · rw [if_pos h]
    exact if_neg (mt hguard.mp (not_not.mpr h))
  · rw [if_neg h]
    exact if_pos (hguard.mpr h)

theorem keys_append (d : Dictionary) (now : Instant) (word : String) (ruleId : Option String) :
    (d.append now word ruleId).keys = insert (wordKey word, ruleId) d.keys := by
  ext key
  simp only [keys, append, List.map_append, List.mem_toFinset, List.mem_append, List.map_cons,
    List.map_nil, List.mem_singleton, Finset.mem_insert]
  exact or_comm

theorem distinct_append (now : Instant) (h : ScopedWord.Fresh d.keys word ruleId)
    (hd : d.Distinct) : (d.append now word ruleId).Distinct := by
  rw [Distinct, append, List.map_append, List.nodup_append]
  refine ⟨hd, List.nodup_singleton _, ?_⟩
  rintro key hkey _ hnew rfl
  rw [List.map_singleton, List.mem_singleton] at hnew
  subst hnew
  exact h.2 (List.mem_toFinset.mpr hkey)

/-! ### Removing -/

theorem items_remove (d : Dictionary) (word : String) (ruleId : Option String) :
    (d.remove word ruleId).2.items = d.items.filter (·.key ≠ (wordKey word, ruleId)) := by
  refine List.filter_congr fun item _ => ?_
  rw [Bool.eq_iff_iff, Bool.not_eq_true', ← Bool.not_eq_true, isFor_iff, decide_eq_true_iff,
    wordKey]

theorem remove_iff :
    (d.remove word ruleId).1 = true ↔ (wordKey word, ruleId) ∈ d.keys := by
  have hlength : (d.remove word ruleId).1 = true ↔
      (d.remove word ruleId).2.items.length ≠ d.items.length := bne_iff_ne
  rw [hlength, items_remove, Ne, List.length_filter_eq_length_iff, mem_keys_iff]
  simp

theorem keys_remove (d : Dictionary) (word : String) (ruleId : Option String) :
    (d.remove word ruleId).2.keys = d.keys.erase (wordKey word, ruleId) := by
  ext key
  simp only [mem_keys_iff, items_remove, List.mem_filter, decide_eq_true_iff, Finset.mem_erase]
  constructor
  · rintro ⟨item, ⟨hitem, hne⟩, rfl⟩
    exact ⟨hne, item, hitem, rfl⟩
  · rintro ⟨hne, item, hitem, rfl⟩
    exact ⟨item, ⟨hitem, hne⟩, rfl⟩

theorem distinct_remove (hd : d.Distinct) (word : String) (ruleId : Option String) :
    (d.remove word ruleId).2.Distinct := by
  rw [Distinct, items_remove]
  exact hd.sublist (List.filter_sublist.map _)

theorem remove_append (now : Instant) (h : ScopedWord.Fresh d.keys word ruleId) :
    (d.append now word ruleId).remove word ruleId = (true, d) := by
  apply Prod.ext
  · rw [remove_iff, keys_append]
    exact Finset.mem_insert_self _ _
  · have hold : ∀ item ∈ d.items, item.key ≠ (wordKey word, ruleId) :=
      fun item hitem heq => h.2 (mem_keys_iff.mpr ⟨item, hitem, heq⟩)
    have hnew : DictionaryItem.key ⟨Text.trimmed word, now, ruleId⟩ = (wordKey word, ruleId) := rfl
    have hitems := items_remove (d.append now word ruleId) word ruleId
    rw [append, List.filter_append, List.filter_eq_self.mpr (by simpa using hold),
      List.filter_cons_of_neg (by simp [hnew]), List.filter_nil, List.append_nil] at hitems
    exact congrArg Dictionary.mk hitems

/-! ### Looking up -/

theorem covers_iff (item : DictionaryItem) (word : String) (ruleId : Option String) :
    item.covers word ruleId = true ↔
      item.key = (word, none) ∨ ruleId.isSome = true ∧ item.key = (word, ruleId) := by
  cases ruleId <;> cases hitem : item.ruleId <;>
    simp [DictionaryItem.covers, DictionaryItem.key, hitem]

theorem contains_iff : d.contains word ruleId = true ↔ ScopedWord.Known d.keys word ruleId := by
  have hblank : (!(Text.trimmed word).isEmpty) = true ↔ ¬ IsBlankWord word := by
    rw [Bool.not_eq_true', ← Bool.not_eq_true, trimmed_isEmpty_iff]
  rw [contains, Bool.and_eq_true, hblank, ScopedWord.Known, List.any_eq_true]
  apply and_congr_right
  intro _
  simp only [covers_iff, mem_keys_iff]
  constructor
  · rintro ⟨item, hitem, hkey | ⟨hrule, hkey⟩⟩
    · exact Or.inl ⟨item, hitem, hkey⟩
    · exact Or.inr ⟨hrule, item, hitem, hkey⟩
  · rintro (⟨item, hitem, hkey⟩ | ⟨hrule, item, hitem, hkey⟩)
    · exact ⟨item, hitem, Or.inl hkey⟩
    · exact ⟨item, hitem, Or.inr ⟨hrule, hkey⟩⟩

/-! ### Calls -/

theorem perform_refines (d : Dictionary) (call : DictionaryCall) :
    (d.perform call).1 = (ScopedWord.perform d.keys call).1 ∧
      (d.perform call).2.keys = (ScopedWord.perform d.keys call).2 := by
  cases call with
  | add now word ruleId =>
    simp only [perform, ScopedWord.perform, add_eq]
    split
    next h => exact ⟨by simp [h], keys_append d now word ruleId⟩
    next h => exact ⟨by simp [h], rfl⟩
  | remove word ruleId =>
    refine ⟨congrArg some ?_, keys_remove d word ruleId⟩
    rw [Bool.eq_iff_iff, decide_eq_true_iff]
    exact remove_iff
  | contains word ruleId =>
    refine ⟨congrArg some ?_, rfl⟩
    rw [Bool.eq_iff_iff, decide_eq_true_iff]
    exact contains_iff
  | clear => exact ⟨rfl, rfl⟩

theorem Distinct.perform (hd : d.Distinct) (call : DictionaryCall) :
    (d.perform call).2.Distinct := by
  cases call with
  | add now word ruleId =>
    simp only [Dictionary.perform, add_eq]
    split
    next h => exact distinct_append now h hd
    next h => exact hd
  | remove word ruleId => exact distinct_remove hd word ruleId
  | contains word ruleId => exact hd
  | clear => exact List.nodup_nil

theorem run_refines (d : Dictionary) (calls : List DictionaryCall) :
    (DictionaryCall.run perform d calls).1 =
        (DictionaryCall.run ScopedWord.perform d.keys calls).1 ∧
      (DictionaryCall.run perform d calls).2.keys =
        (DictionaryCall.run ScopedWord.perform d.keys calls).2 := by
  induction calls generalizing d with
  | nil => exact ⟨rfl, rfl⟩
  | cons call calls ih =>
    obtain ⟨hanswer, hkeys⟩ := perform_refines d call
    obtain ⟨hanswers, hlast⟩ := ih (d.perform call).2
    rw [hkeys] at hanswers hlast
    exact ⟨congrArg₂ List.cons hanswer hanswers, hlast⟩

theorem Distinct.run (hd : d.Distinct) (calls : List DictionaryCall) :
    (DictionaryCall.run Dictionary.perform d calls).2.Distinct := by
  induction calls generalizing d with
  | nil => exact hd
  | cons call calls ih => exact ih (hd.perform call)

/-- A dictionary answers as the set of its scoped words does, through all calls; it changes by the
one item that is added or by the items that are removed, and stays without duplicates. -/
theorem calls_refine_scopedWords (d : Dictionary) (calls : List DictionaryCall) :
    let last := (DictionaryCall.run perform d calls).2
    (DictionaryCall.run perform d calls).1 =
        (DictionaryCall.run ScopedWord.perform d.keys calls).1 ∧
      last.keys = (DictionaryCall.run ScopedWord.perform d.keys calls).2 ∧
      (d.Distinct → last.Distinct) ∧
      ∀ now word ruleId,
        (last.add now word ruleId =
          if ¬ IsBlankWord word ∧ (wordKey word, ruleId) ∉ last.keys then
            (true, ⟨last.items ++ [⟨Text.trimmed word, now, ruleId⟩]⟩)
          else (false, last)) ∧
        ((last.remove word ruleId).1 = true ↔ (wordKey word, ruleId) ∈ last.keys) ∧
        (last.remove word ruleId).2.items =
          last.items.filter (·.key ≠ (wordKey word, ruleId)) ∧
        (last.contains word ruleId = true ↔ ¬ IsBlankWord word ∧ ((wordKey word, none) ∈ last.keys ∨
          ruleId.isSome = true ∧ (wordKey word, ruleId) ∈ last.keys)) ∧
        ((last.add now word ruleId).1 = true →
          (last.add now word ruleId).2.keys = insert (wordKey word, ruleId) last.keys ∧
            (last.add now word ruleId).2.remove word ruleId = (true, last)) := by
  intro last
  obtain ⟨hanswers, hkeys⟩ := run_refines d calls
  refine ⟨hanswers, hkeys, fun hd => hd.run calls, ?_⟩
  intro now word ruleId
  refine ⟨add_eq last now word ruleId, remove_iff, items_remove last word ruleId, contains_iff, ?_⟩
  rw [add_eq]
  split
  next h =>
    intro _
    exact ⟨keys_append last now word ruleId, remove_append now h⟩
  next => exact fun h => absurd h Bool.false_ne_true

end Dictionary
end ProseCheck
