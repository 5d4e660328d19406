import ProseCheck.Files.Basic
import ProseCheck.Json.Printer
import ProseCheck.Store.Basic
import ProseCheck.Text.Blank

/-! # Stores in a file

The values of a store are the fields of one JSON object. A file that is missing or blank holds
nothing.
-/

namespace ProseCheck.Store

variable {m : Type → Type} [Monad m] [Files m]

def entries (path : String) : Except FileError (List Char) → Except StoreError Entries
  | .error .notFound => .ok []
  | .error _ => .error (.read path)
  | .ok text =>
    if Text.allBlank text then .ok []
    else
      match Json.parse? (String.ofList text) with
      | some (.object fields) => .ok fields
      | _ => .error (.decode path)

/-- Reports that the file at a path cannot be written. -/
def written (path : String) (action : m (Except FileError Unit)) : ExceptT StoreError m Unit :=
  ExceptT.mk do return (← action).mapError fun _ => .write path

def file (path : String) : Store m where
  get? key := ExceptT.mk do
    return (entries path (← Files.readText path)).map (·.lookup key)
  set key value := do
    let old ← ExceptT.mk do return entries path (← Files.readText path)
    let directory := Path.parent path
    unless directory.isEmpty do
      written path (Files.createDirectory directory)
    written path (Files.write path (Json.object (Json.insertField key value old)).pretty)

end ProseCheck.Store
