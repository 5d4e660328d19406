import ProseCheck.Text.Utf8

/-! # Files

What is asked of a file system, and what can go wrong. Paths are texts with slashes.
-/

namespace ProseCheck

inductive FileError where
  | notFound
  | alreadyExists
  /-- A part of the path is a file. -/
  | notDirectory
  | isDirectory
  /-- The content is not a text. -/
  | notText
  | other (message : String)
  deriving DecidableEq, Repr

def FileError.message : FileError → String
  | notFound => "No such file or directory (os error 2)"
  | alreadyExists => "File exists (os error 17)"
  | notDirectory => "Not a directory (os error 20)"
  | isDirectory => "Is a directory (os error 21)"
  | notText => "stream did not contain valid UTF-8"
  | other message => message

/-- A monad in which files can be read and written. -/
class Files (m : Type → Type) where
  read : String → m (Except FileError (List UInt8))
  write : String → String → m (Except FileError Unit)
  /-- Makes a directory, and those that it is to be in. -/
  createDirectory : String → m (Except FileError Unit)

namespace Files

variable {m : Type → Type} [Monad m] [Files m]

def asText (bytes : List UInt8) : Except FileError (List Char) :=
  match Text.Utf8.decode? bytes with
  | some text => .ok text
  | none => .error .notText

def readText (path : String) : m (Except FileError (List Char)) :=
  return (← read path).bind asText

end Files

namespace Path

/-- The path without its last name, if it has more than that. -/
def parent (path : String) : String :=
  let isSlash (c : Char) : Bool := c == '/'
  let names := (path.toList.reverse.dropWhile isSlash).dropWhile (!isSlash ·)
  let directory := (names.dropWhile isSlash).reverse
  if directory.isEmpty && !names.isEmpty then "/" else String.ofList directory

def join (directory name : String) : String :=
  if directory.endsWith "/" then directory ++ name else directory ++ "/" ++ name

end Path
end ProseCheck
