import ProseCheck.Proofs.Files.Tree
import ProseCheck.Proofs.Json.Field
import ProseCheck.Proofs.Store.Basic
import ProseCheck.Store.File

/-! # The store in a file of a tree

Setting a value either fails, and then all files stay as they were, or the file holds the same
values but for the one that was set. A file that was written once can be written again.
-/

namespace ProseCheck.Store

open Json

variable {path key : String} {value : Json} {t t' made : FileTree} {es : Entries}

def contents (path : String) (t : FileTree) : Except StoreError Entries :=
  entries path ((t.read path).bind Files.asText)

theorem holds_file (path : String) :
    (file path : Store (StateM FileTree)).Holds (contents path) := fun _ _ => rfl

/-- Values that the file holds are printed as they were read, if their numbers are. -/
theorem printable_of_contents (h : contents path t = .ok es)
    (hnumbers : ∀ n ∈ fieldNumbers es, n.ReadsBack) : Printable es := by
  rw [contents] at h
  generalize (t.read path).bind Files.asText = text at h
  unfold entries at h
  split at h
  · cases h
    exact printable_nil
  · cases h
  · split at h
    · cases h
      exact printable_nil
    · split at h
      · rename_i fields hparse
        cases h
        exact printable_of_parse? hparse hnumbers
      · cases h

/-! ### What is written -/

theorem allBlank_pretty (fields : List (String × Json)) :
    Text.allBlank (Json.object fields).pretty.toList = false := by
  have hbrace : Text.isBlank '\x7b' = false := by decide
  rw [pretty, printAt, Layout.enclose, Text.allBlank]
  split <;> simp [hbrace]

theorem contents_of_write (hes : Printable es)
    (h : made.write path (Json.object es).pretty.toUTF8.toList = .ok t') :
    contents path t' = .ok es := by
  have hread := FileTree.read_of_write h
  have htext : Files.asText (Json.object es).pretty.toUTF8.toList =
      .ok (Json.object es).pretty.toList := by
    rw [Files.asText, Text.Utf8.decode?_toUTF8]
  rw [contents, hread]
  show entries path (Files.asText _) = _
  rw [htext, entries, allBlank_pretty]
  simp [hes.parse?_pretty]

/-! ### Setting -/

/-- The tree with the directory that the file is to be in. -/
def prepared (path : String) (t : FileTree) : Except FileError FileTree :=
  if (Path.parent path).isEmpty then .ok t else t.createDirectory (Path.parent path)

theorem sameFiles_of_prepared (h : prepared path t = .ok made) : t.SameFiles made := by
  unfold prepared at h
  split at h
  · cases h
    exact .refl t
  · exact (FileTree.extends_of_createAlong h).sameFiles

theorem written_run (path : String) (change : FileTree → Except FileError FileTree)
    (t : FileTree) : (written path (FileTree.modify change)).run t =
      match change t with
      | .ok t' => (.ok (), t')
      | .error _ => (.error (.write path), t) := by
  rw [written, ExceptT.run_mk]
  show StateT.bind (FileTree.modify change) _ t = _
  rw [StateT.bind, FileTree.modify]
  cases change t <;> rfl

theorem file_set_run (path key : String) (value : Json) (t : FileTree) :
    ((file path : Store (StateM FileTree)).set key value).run t =
      match contents path t, prepared path t with
      | .error e, _ => (.error e, t)
      | .ok _, .error _ => (.error (.write path), t)
      | .ok es, .ok made =>
        match made.write path (Json.object (insertField key value es)).pretty.toUTF8.toList with
        | .ok t' => (.ok (), t')
        | .error _ => (.error (.write path), made) := by
  have hold : (ExceptT.mk do return entries path (← Files.readText path) :
      ExceptT StoreError (StateM FileTree) Entries).run t = (contents path t, t) := rfl
  rw [file]
  cases hes : contents path t with
  | error e =>
    rw [hes] at hold
    exact run_bind_of_error hold
  | ok es =>
    rw [hes] at hold
    rw [run_bind_of_ok hold, prepared]
    by_cases hparent : (Path.parent path).isEmpty
    · simp only [hparent, if_true]
      exact written_run path _ t
    · have hmake := written_run path (·.createDirectory (Path.parent path)) t
      simp only [hparent, if_false, Bool.false_eq_true]
      cases hmade : t.createDirectory (Path.parent path) with
      | error e =>
        simp only [hmade] at hmake
        exact run_bind_of_error hmake
      | ok made =>
        simp only [hmade] at hmake
        exact (run_bind_of_ok hmake).trans (written_run path _ made)

/-- The directory of the path is there, and the file can be written. -/
structure Ready (path : String) (t : FileTree) : Prop where
  prepared : prepared path t = .ok t
  write : ∀ bytes, ∃ t', t.write path bytes = .ok t'

theorem ready_of_write {bytes : List UInt8} (hmade : prepared path t = .ok made)
    (hwrite : made.write path bytes = .ok t') : Ready path t' where
  prepared := by
    obtain ⟨place, hlocate, hfile, rfl⟩ := FileTree.write_eq_ok_iff.mp hwrite
    unfold Store.prepared at hmade ⊢
    split
    · rfl
    · rename_i hparent
      rw [if_neg hparent] at hmade
      exact FileTree.createAlong_again hmade fun q hq =>
        FileTree.find?_put_file_directory (FileTree.ne_nil_of_locate hlocate) hfile hq
  write more := FileTree.exists_write_of_write hwrite more

theorem file_set_of_ready (hready : Ready path t) (hes : contents path t = .ok es)
    (hprint : Printable (insertField key value es)) :
    ∃ t', ((file path : Store (StateM FileTree)).set key value).run t = (.ok (), t') ∧
      contents path t' = .ok (insertField key value es) := by
  obtain ⟨t', hwrite⟩ :=
    hready.write (Json.object (insertField key value es)).pretty.toUTF8.toList
  refine ⟨t', ?_, contents_of_write hprint hwrite⟩
  simp only [file_set_run, hes, hready.prepared, hwrite]

theorem file_set_cases (path key : String) (value : Json) (t : FileTree) :
    (∃ e t', ((file path : Store (StateM FileTree)).set key value).run t = (.error e, t') ∧
      t.SameFiles t') ∨
    ∃ es t', ((file path : Store (StateM FileTree)).set key value).run t = (.ok (), t') ∧
      contents path t = .ok es ∧ Ready path t' ∧
      (Printable (insertField key value es) →
        contents path t' = .ok (insertField key value es)) := by
  rw [file_set_run]
  cases hes : contents path t with
  | error e => exact Or.inl ⟨e, t, rfl, .refl t⟩
  | ok es =>
    cases hmade : prepared path t with
    | error e => exact Or.inl ⟨.write path, t, rfl, .refl t⟩
    | ok made =>
      cases hwrite :
          made.write path (Json.object (insertField key value es)).pretty.toUTF8.toList with
      | error e =>
        exact Or.inl ⟨.write path, made, by simp only [hwrite], sameFiles_of_prepared hmade⟩
      | ok t' =>
        exact Or.inr ⟨es, t', by simp only [hwrite], rfl, ready_of_write hmade hwrite,
          fun hprint => contents_of_write hprint hwrite⟩

end ProseCheck.Store
