import Mathlib.Data.List.Induction
import Mathlib.Data.String.Basic
import ProseCheck.Proofs.Json.Printed

/-! # Fields in order

The fields of a value that is kept stand in the order of their names, each name once. A field that
is inserted changes nothing else, and values that are put together from kept ones are kept.
-/

namespace ProseCheck.Json

variable {α : Type} {name key : String} {value : α} {fields : List (String × α)}

/-! ### Inserting -/

theorem lookup_cons (name key : String) (value : α) (fields : List (String × α)) :
    ((name, value) :: fields).lookup key =
      if key = name then some value else fields.lookup key := by
  rw [List.lookup_cons]
  by_cases h : key = name
  · simp [h]
  · simp [h, beq_false_of_ne h]

theorem lookup_insertField (name key : String) (value : α) (fields : List (String × α)) :
    (insertField name value fields).lookup key =
      if key = name then some value else fields.lookup key := by
  induction fields with
  | nil => exact lookup_cons name key value []
  | cons field rest ih =>
    obtain ⟨other, old⟩ := field
    rw [insertField]
    split
    · exact lookup_cons name key value _
    split
    · rename_i heq
      subst heq
      rw [lookup_cons, lookup_cons]
      split <;> rfl
    · rename_i hne
      rw [lookup_cons, lookup_cons, ih]
      split
      · rename_i hkey
        rw [if_neg (hkey ▸ Ne.symm hne)]
      · rfl

theorem mem_insertField {field : String × α} (h : field ∈ insertField name value fields) :
    field = (name, value) ∨ field ∈ fields := by
  induction fields with
  | nil => exact Or.inl (List.mem_singleton.mp h)
  | cons head rest ih =>
    obtain ⟨other, old⟩ := head
    rw [insertField] at h
    split at h
    · exact List.mem_cons.mp h
    split at h
    · rcases List.mem_cons.mp h with rfl | hrest
      · exact Or.inl rfl
      · exact Or.inr (List.mem_cons_of_mem _ hrest)
    · rcases List.mem_cons.mp h with rfl | hrest
      · exact Or.inr List.mem_cons_self
      · exact (ih hrest).imp_right (List.mem_cons_of_mem _)

/-- The fields stand in the order of their names, each name once. -/
def InOrder (fields : List (String × α)) : Prop := fields.Pairwise fun a b => a.1 < b.1

theorem inOrder_insertField (name : String) (value : α) (h : InOrder fields) :
    InOrder (insertField name value fields) := by
  induction fields with
  | nil => exact List.pairwise_singleton _ _
  | cons head rest ih =>
    obtain ⟨other, old⟩ := head
    obtain ⟨hhead, hrest⟩ := List.pairwise_cons.mp h
    rw [insertField]
    split
    · rename_i hlt
      refine List.pairwise_cons.mpr ⟨fun field hfield => ?_, h⟩
      rcases List.mem_cons.mp hfield with rfl | hfield
      · exact hlt
      · exact hlt.trans (hhead field hfield)
    split
    · rename_i heq
      subst heq
      exact List.pairwise_cons.mpr ⟨hhead, hrest⟩
    · rename_i hlt hne
      refine List.pairwise_cons.mpr ⟨fun field hfield => ?_, ih hrest⟩
      rcases mem_insertField hfield with rfl | hfield
      · exact lt_of_le_of_ne (not_lt.mp hlt) (Ne.symm hne)
      · exact hhead field hfield

theorem insertField_of_forall_lt (h : ∀ field ∈ fields, field.1 < name) (value : α) :
    insertField name value fields = fields ++ [(name, value)] := by
  induction fields with
  | nil => rfl
  | cons head rest ih =>
    have hhead := h head List.mem_cons_self
    rw [insertField, if_neg hhead.not_gt, if_neg hhead.ne',
      ih fun field hfield => h field (List.mem_cons_of_mem head hfield)]
    rfl

/-! ### Objects -/

def inserted (fields : List (String × α)) : List (String × α) :=
  fields.foldl (fun sorted field => insertField field.1 field.2 sorted) []

theorem inserted_concat (fields : List (String × α)) (field : String × α) :
    inserted (fields ++ [field]) = insertField field.1 field.2 (inserted fields) := by
  rw [inserted, List.foldl_append]
  rfl

theorem inOrder_inserted (fields : List (String × α)) : InOrder (inserted fields) := by
  induction fields using List.reverseRecOn with
  | nil => exact List.Pairwise.nil
  | append_singleton fields field ih =>
    rw [inserted_concat]
    exact inOrder_insertField _ _ ih

theorem mem_inserted {field : String × α} (h : field ∈ inserted fields) : field ∈ fields := by
  induction fields using List.reverseRecOn with
  | nil => exact h
  | append_singleton fields last ih =>
    rw [inserted_concat] at h
    rcases mem_insertField h with rfl | h
    · exact List.mem_append_right _ List.mem_cons_self
    · exact List.mem_append_left _ (ih h)

theorem inserted_of_inOrder (h : InOrder fields) : inserted fields = fields := by
  induction fields using List.reverseRecOn with
  | nil => rfl
  | append_singleton fields field ih =>
    obtain ⟨hfields, -, hlast⟩ := List.pairwise_append.mp h
    rw [inserted_concat, ih hfields,
      insertField_of_forall_lt fun other hother => hlast other hother field List.mem_cons_self]

theorem lookup_inserted (fields : List (String × α)) (key : String) :
    (inserted fields).lookup key = fields.reverse.lookup key := by
  induction fields using List.reverseRecOn with
  | nil => rfl
  | append_singleton fields field ih =>
    rw [inserted_concat, lookup_insertField, ih, List.reverse_concat, lookup_cons]

theorem ofFields_eq (fields : List (String × Json)) : ofFields fields = .object (inserted fields) :=
  rfl

/-! ### Kept values -/

/-- The value is not too deep, and its fields are in order. -/
def Kept (depth : Nat) (j : Json) : Prop := j.toSource.keepWithin depth = some j

theorem keepItems_itemSources {depth : Nat} {items : List Json}
    (h : ∀ item ∈ items, Kept depth item) :
    Source.keepItems depth (itemSources items) = some items := by
  induction items with
  | nil => rfl
  | cons item rest ih =>
    have hitem := h item List.mem_cons_self
    rw [Kept] at hitem
    simp [itemSources, Source.keepItems, hitem, ih fun j hj => h j (List.mem_cons_of_mem item hj)]

theorem keepFields_fieldSources {depth : Nat} {fields : List (String × Json)}
    (h : ∀ field ∈ fields, Kept depth field.2) :
    Source.keepFields depth (fieldSources fields) = some fields := by
  induction fields with
  | nil => rfl
  | cons field rest ih =>
    have hvalue := h field List.mem_cons_self
    rw [Kept] at hvalue
    simp [fieldSources, Source.keepFields, hvalue,
      ih fun f hf => h f (List.mem_cons_of_mem field hf)]

theorem kept_array {depth : Nat} {items : List Json} (h : ∀ item ∈ items, Kept depth item) :
    Kept (depth + 1) (.array items) := by
  simp [Kept, toSource, Source.keepWithin, keepItems_itemSources h]

theorem kept_object {depth : Nat} {fields : List (String × Json)} (horder : InOrder fields)
    (h : ∀ field ∈ fields, Kept depth field.2) : Kept (depth + 1) (.object fields) := by
  simp [Kept, toSource, Source.keepWithin, keepFields_fieldSources h, ofFields_eq,
    inserted_of_inOrder horder]

theorem kept_ofFields {depth : Nat} {fields : List (String × Json)}
    (h : ∀ field ∈ fields, Kept depth field.2) : Kept (depth + 1) (ofFields fields) :=
  kept_object (inOrder_inserted fields) fun field hfield => h field (mem_inserted hfield)

mutual

/-- Whatever is kept of a source is kept again. -/
theorem kept_of_keepWithin {depth : Nat} {j : Json} (s : Source)
    (h : s.keepWithin depth = some j) : Kept depth j := by
  match s with
  | .null => cases h; rfl
  | .bool b => cases h; rfl
  | .number n =>
    obtain ⟨n, rfl, rfl⟩ := Option.map_eq_some_iff.mp h
    rfl
  | .string s =>
    obtain ⟨s, rfl, rfl⟩ := Option.map_eq_some_iff.mp h
    rfl
  | .array sources =>
    rw [Source.keepWithin] at h
    split at h
    · cases h
    · rename_i hdepth
      obtain ⟨items, hitems, rfl⟩ := Option.map_eq_some_iff.mp h
      obtain ⟨d, rfl⟩ := Nat.exists_eq_succ_of_ne_zero hdepth
      exact kept_array (kept_of_keepItems sources hitems)
  | .object sources =>
    rw [Source.keepWithin] at h
    split at h
    · cases h
    · rename_i hdepth
      obtain ⟨fields, hfields, rfl⟩ := Option.map_eq_some_iff.mp h
      obtain ⟨d, rfl⟩ := Nat.exists_eq_succ_of_ne_zero hdepth
      exact kept_ofFields (kept_of_keepFields sources hfields)

theorem kept_of_keepItems {depth : Nat} {items : List Json} (sources : List Source)
    (h : Source.keepItems depth sources = some items) : ∀ item ∈ items, Kept depth item := by
  match sources with
  | [] => cases h; nofun
  | s :: rest =>
    obtain ⟨value, hvalue, h⟩ := Option.bind_eq_some_iff.mp h
    obtain ⟨values, hvalues, h⟩ := Option.bind_eq_some_iff.mp h
    cases h
    exact List.forall_mem_cons.mpr ⟨kept_of_keepWithin s hvalue, kept_of_keepItems rest hvalues⟩

theorem kept_of_keepFields {depth : Nat} {fields : List (String × Json)}
    (sources : List (Option String × Source))
    (h : Source.keepFields depth sources = some fields) : ∀ field ∈ fields, Kept depth field.2 := by
  match sources with
  | [] => cases h; nofun
  | (name, s) :: rest =>
    obtain ⟨name, -, h⟩ := Option.bind_eq_some_iff.mp h
    obtain ⟨value, hvalue, h⟩ := Option.bind_eq_some_iff.mp h
    obtain ⟨values, hvalues, h⟩ := Option.bind_eq_some_iff.mp h
    cases h
    exact List.forall_mem_cons.mpr ⟨kept_of_keepWithin s hvalue, kept_of_keepFields rest hvalues⟩

end

theorem inOrder_of_keepWithin {depth : Nat} {s : Source} {fields : List (String × Json)}
    (h : s.keepWithin depth = some (.object fields)) :
    InOrder fields ∧ ∀ field ∈ fields, Kept (depth - 1) field.2 := by
  cases s with
  | object sources =>
    rw [Source.keepWithin] at h
    split at h
    · cases h
    · obtain ⟨kept, hkept, hfields⟩ := Option.map_eq_some_iff.mp h
      obtain rfl : inserted kept = fields := by simpa [ofFields_eq] using hfields
      exact ⟨inOrder_inserted kept,
        fun field hfield => kept_of_keepFields sources hkept field (mem_inserted hfield)⟩
  | null => cases h
  | bool b => cases h
  | number n => simp [Source.keepWithin] at h
  | string s => simp [Source.keepWithin] at h
  | array items => simp [Source.keepWithin] at h

theorem parse?_pretty {j : Json} (hkept : Kept maxDepth j)
    (hnumbers : ∀ n ∈ j.numbers, n.ReadsBack) : parse? j.pretty = some j := by
  rw [parse?, source?_pretty j hnumbers]
  exact hkept

/-! ### Numbers -/

theorem mem_itemNumbers {n : Number} {items : List Json} :
    n ∈ itemNumbers items ↔ ∃ item ∈ items, n ∈ item.numbers := by
  induction items with
  | nil => simp [itemNumbers]
  | cons item rest ih => simp [itemNumbers, ih]

theorem mem_fieldNumbers {n : Number} {fields : List (String × Json)} :
    n ∈ fieldNumbers fields ↔ ∃ field ∈ fields, n ∈ field.2.numbers := by
  induction fields with
  | nil => simp [fieldNumbers]
  | cons field rest ih => simp [fieldNumbers, ih]

/-- Text and what is put together from it, nested at most `depth` deep. -/
structure Plain (depth : Nat) (j : Json) : Prop where
  kept : Kept depth j
  numbers : j.numbers = []

theorem plain_string (depth : Nat) (s : String) : Plain depth (.string s) := ⟨rfl, rfl⟩

theorem plain_ofOption_string (depth : Nat) (value : Option String) :
    Plain depth (ofOption .string value) := by
  cases value with
  | none => exact ⟨rfl, rfl⟩
  | some s => exact plain_string depth s

theorem plain_array {depth : Nat} {items : List Json} (h : ∀ item ∈ items, Plain depth item) :
    Plain (depth + 1) (.array items) where
  kept := kept_array fun item hitem => (h item hitem).kept
  numbers := List.eq_nil_iff_forall_not_mem.mpr fun n hn => by
    rw [Json.numbers, mem_itemNumbers] at hn
    obtain ⟨item, hitem, hn⟩ := hn
    rw [(h item hitem).numbers] at hn
    exact List.not_mem_nil hn

theorem plain_map {α : Type} {depth : Nat} {items : List α} {write : α → Json}
    (h : ∀ item, Plain depth (write item)) : Plain (depth + 1) (.array (items.map write)) :=
  plain_array fun _ hj => by
    obtain ⟨item, -, rfl⟩ := List.mem_map.mp hj
    exact h item

theorem plain_ofFields {depth : Nat} {fields : List (String × Json)}
    (h : ∀ field ∈ fields, Plain depth field.2) : Plain (depth + 1) (ofFields fields) where
  kept := kept_ofFields fun field hfield => (h field hfield).kept
  numbers := List.eq_nil_iff_forall_not_mem.mpr fun n hn => by
    rw [ofFields_eq, Json.numbers, mem_fieldNumbers] at hn
    obtain ⟨field, hfield, hn⟩ := hn
    rw [(h field (mem_inserted hfield)).numbers] at hn
    exact List.not_mem_nil hn

/-! ### Printed objects -/

/-- The fields of an object that reads back from what is printed for it. -/
structure Printable (fields : List (String × Json)) : Prop where
  inOrder : InOrder fields
  kept : ∀ field ∈ fields, Kept (maxDepth - 1) field.2
  numbers : ∀ n ∈ fieldNumbers fields, n.ReadsBack

theorem printable_nil : Printable [] where
  inOrder := List.Pairwise.nil
  kept := nofun
  numbers := nofun

/-- An object that was read can be printed, if its numbers can. -/
theorem printable_of_parse? {text : String} {fields : List (String × Json)}
    (h : parse? text = some (.object fields)) (hnumbers : ∀ n ∈ fieldNumbers fields, n.ReadsBack) :
    Printable fields := by
  obtain ⟨source, -, hkeep⟩ := Option.bind_eq_some_iff.mp h
  obtain ⟨horder, hkept⟩ := inOrder_of_keepWithin hkeep
  exact ⟨horder, hkept, hnumbers⟩

namespace Printable

variable {fields : List (String × Json)}

theorem insertField (h : Printable fields) (name : String) {value : Json}
    (hvalue : Plain (maxDepth - 1) value) : Printable (insertField name value fields) where
  inOrder := inOrder_insertField name value h.inOrder
  kept field hfield := by
    rcases mem_insertField hfield with rfl | hfield
    · exact hvalue.kept
    · exact h.kept field hfield
  numbers n hn := by
    obtain ⟨field, hfield, hn⟩ := mem_fieldNumbers.mp hn
    rcases mem_insertField hfield with rfl | hfield
    · rw [hvalue.numbers] at hn
      exact absurd hn List.not_mem_nil
    · exact h.numbers n (mem_fieldNumbers.mpr ⟨field, hfield, hn⟩)

theorem parse?_pretty (h : Printable fields) :
    parse? (Json.object fields).pretty = some (.object fields) := by
  have hkept : Kept (maxDepth - 1 + 1) (.object fields) := kept_object h.inOrder h.kept
  refine Json.parse?_pretty hkept ?_
  rw [Json.numbers]
  exact h.numbers

end Printable

end ProseCheck.Json
