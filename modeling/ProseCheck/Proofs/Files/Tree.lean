import Mathlib.Tactic.Common
import ProseCheck.Files.Tree
import ProseCheck.Proofs.Text.Utf8

/-! # Writing to a file tree

Directories that are made and a file that is written leave all other files as they are. What was
written is read back, and once it was possible to write to a path it stays so.
-/

namespace ProseCheck.FileTree

variable {t t' : FileTree} {place here : List String} {node : FileNode} {bytes : List UInt8}
  {path : String}

/-! ### Nodes -/

theorem lookup_filter_ne {nodes : List (List String × FileNode)} {q : List String} (h : q ≠ place) :
    (nodes.filter (·.1 != place)).lookup q = nodes.lookup q := by
  induction nodes with
  | nil => rfl
  | cons head rest ih =>
    obtain ⟨p, n⟩ := head
    rw [List.filter_cons]
    by_cases hp : p = place
    · subst hp
      rw [if_neg (by simp), ih, List.lookup_cons, beq_false_of_ne h]
    · rw [if_pos (by simpa using hp), List.lookup_cons, List.lookup_cons, ih]

theorem find?_put (hplace : place ≠ []) (q : List String) :
    (t.put place node).find? q = if q = place then some node else t.find? q := by
  rw [find?, put]
  split
  · rename_i hempty
    obtain rfl : q = [] := List.isEmpty_iff.mp hempty
    rw [if_neg hplace.symm]
    rfl
  · rename_i hempty
    rw [List.lookup_cons]
    split
    · rename_i hq
      rw [if_pos (beq_iff_eq.mp hq)]
    · rename_i hq
      have hne : q ≠ place := by simpa using hq
      rw [if_neg hne, lookup_filter_ne hne, find?, if_neg hempty]

/-- Both trees have the same files. -/
def SameFiles (t t' : FileTree) : Prop :=
  ∀ place bytes, t'.find? place = some (.file bytes) ↔ t.find? place = some (.file bytes)

theorem SameFiles.refl (t : FileTree) : t.SameFiles t := fun _ _ => Iff.rfl

/-! ### Directories -/

/-- Whatever is in the first tree is in the second, which has no further file. -/
structure Extends (t t' : FileTree) : Prop where
  keeps : ∀ place node, t.find? place = some node → t'.find? place = some node
  sameFiles : t.SameFiles t'

theorem Extends.refl (t : FileTree) : t.Extends t := ⟨fun _ _ h => h, .refl t⟩

theorem Extends.trans {t'' : FileTree} (h : t.Extends t') (h' : t'.Extends t'') : t.Extends t'' :=
  ⟨fun place node hfind => h'.keeps place node (h.keeps place node hfind),
    fun place bytes => (h'.sameFiles place bytes).trans (h.sameFiles place bytes)⟩

theorem extends_put_directory (hplace : place ≠ []) (h : t.find? place = none) :
    t.Extends (t.put place .directory) where
  keeps q node hq := by
    rw [find?_put hplace, if_neg]
    · exact hq
    · rintro rfl
      rw [h] at hq
      cases hq
  sameFiles q bytes := by
    rw [find?_put hplace]
    split
    · rename_i heq
      rw [heq, h]
      simp
    · rfl

theorem extends_of_createAlong {names : List String} (h : t.createAlong here names = .ok t') :
    t.Extends t' := by
  fun_induction createAlong t here names with
  | case1 => cases h; exact .refl _
  | case2 t here name rest _ ih => exact ih h
  | case3 t here rest _ ih => exact ih h
  | case4 t here name rest _ _ place hnone ih =>
    exact (extends_put_directory (by simp [place]) hnone).trans (ih h)
  | case5 => cases h
  | case6 t here name rest _ _ place _ ih => exact ih h

theorem createAlong_cons {name : String} {rest : List String} (hname : ¬ (name = "" ∨ name = "."))
    (hup : name ≠ "..") (h : t.find? (here ++ [name]) = some .directory) :
    t.createAlong here (name :: rest) = t.createAlong (here ++ [name]) rest := by
  rw [createAlong, if_neg hname, if_neg hup]
  simp only [h]

/-- Directories that were made are not made again, wherever they still are. -/
theorem createAlong_again {names : List String} {later : FileTree}
    (h : t.createAlong here names = .ok t')
    (hlater : ∀ q, t'.find? q = some .directory → later.find? q = some .directory) :
    later.createAlong here names = .ok later := by
  fun_induction createAlong t here names with
  | case1 => rfl
  | case2 t here name rest hname ih => rw [createAlong, if_pos hname, ih h]
  | case3 t here rest hname ih => rw [createAlong, if_neg hname, if_pos rfl, ih h]
  | case4 t here name rest hname hup place hnone ih =>
    have hmade : t'.find? place = some .directory :=
      (extends_of_createAlong h).keeps place .directory (by
        rw [find?_put (by simp [place]), if_pos rfl])
    rw [createAlong_cons hname hup (hlater place hmade)]
    exact ih h
  | case5 => cases h
  | case6 t here name rest hname hup place hdirectory ih =>
    have hthere : t'.find? place = some .directory :=
      (extends_of_createAlong h).keeps place .directory hdirectory
    rw [createAlong_cons hname hup (hlater place hthere)]
    exact ih h

/-! ### Files -/

section

variable (hplace : place ≠ []) (hfile : t.find? place ≠ some .directory)

include hplace hfile

theorem find?_put_file_directory {q : List String} (h : t.find? q = some .directory) :
    (t.put place (.file bytes)).find? q = some .directory := by
  rw [find?_put hplace, if_neg]
  · exact h
  · rintro rfl
    exact hfile h

theorem enter_put_file {names entered : List String} (h : t.enter here names = .ok entered) :
    (t.put place (.file bytes)).enter here names = .ok entered := by
  fun_induction enter t here names with
  | case1 => exact h
  | case2 here name rest hname ih => rw [enter, if_pos hname, ih h]
  | case3 here rest hname ih => rw [enter, if_neg hname, if_pos rfl, ih h]
  | case4 => cases h
  | case5 => cases h
  | case6 here name rest hname hup hdirectory ih =>
    rw [enter, if_neg hname, if_neg hup, find?_put_file_directory hplace hfile hdirectory]
    exact ih h

end

/-- The last name of a path belongs in the directory that the others lead to. -/
theorem locate_eq_ok_iff : t.locate path = .ok place ↔
    path.isEmpty = false ∧ (names path).getLastD "" ∉ ["", ".", ".."] ∧
      ∃ directory, t.enter [] (names path).dropLast = .ok directory ∧
        directory ++ [(names path).getLastD ""] = place := by
  simp only [locate, bind, Except.bind, pure, Except.pure, throw, throwThe, MonadExceptOf.throw]
  split
  · rename_i hpath
    simp [hpath]
  rename_i hpath
  split
  · rename_i hlast
    have hin : (names path).getLastD "" ∈ ["", ".", ".."] := by simpa using hlast
    constructor
    · intro h
      split at h <;> cases h
    · exact fun h => absurd hin h.2.1
  · rename_i hlast
    have hin : (names path).getLastD "" ∉ ["", ".", ".."] := by simpa using hlast
    cases t.enter [] (names path).dropLast with
    | error e => simp
    | ok directory =>
      simp only [Bool.eq_false_iff.mpr hpath, hin, not_false_eq_true, true_and, Except.ok.injEq,
        exists_eq_left']

theorem ne_nil_of_locate (h : t.locate path = .ok place) : place ≠ [] := by
  obtain ⟨-, -, directory, -, rfl⟩ := locate_eq_ok_iff.mp h
  simp

theorem locate_put_file (h : t.locate path = .ok place) (hfile : t.find? place ≠ some .directory) :
    (t.put place (.file bytes)).locate path = .ok place := by
  have hplace := ne_nil_of_locate h
  obtain ⟨hpath, hlast, directory, henter, heq⟩ := locate_eq_ok_iff.mp h
  exact locate_eq_ok_iff.mpr ⟨hpath, hlast, directory, enter_put_file hplace hfile henter, heq⟩

theorem write_eq_ok_iff : t.write path bytes = .ok t' ↔
    ∃ place, t.locate path = .ok place ∧ t.find? place ≠ some .directory ∧
      t' = t.put place (.file bytes) := by
  cases hplace : t.locate path with
  | error e => simp [write, hplace, bind, Except.bind]
  | ok place =>
    simp only [write, hplace, bind, Except.bind, pure, Except.pure, throw, throwThe,
      MonadExceptOf.throw, Except.ok.injEq, exists_eq_left']
    split
    · rename_i hdirectory
      simp [hdirectory]
    · rename_i hfile
      simp [hfile, eq_comm]

theorem read_of_write (h : t.write path bytes = .ok t') : t'.read path = .ok bytes := by
  obtain ⟨place, hlocate, hfile, rfl⟩ := write_eq_ok_iff.mp h
  have hfind : (t.put place (.file bytes)).find? place = some (.file bytes) := by
    rw [find?_put (ne_nil_of_locate hlocate), if_pos rfl]
  simp [read, locate_put_file hlocate hfile, hfind, bind, Except.bind, pure, Except.pure]

theorem exists_write_of_write (h : t.write path bytes = .ok t') (more : List UInt8) :
    ∃ t'', t'.write path more = .ok t'' := by
  obtain ⟨place, hlocate, hfile, rfl⟩ := write_eq_ok_iff.mp h
  refine ⟨_, write_eq_ok_iff.mpr ⟨place, locate_put_file hlocate hfile, ?_, rfl⟩⟩
  rw [find?_put (ne_nil_of_locate hlocate), if_pos rfl]
  simp

end ProseCheck.FileTree
