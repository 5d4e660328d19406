import ProseCheck.Net.Host

/-! # URLs

Absolute URLs, read and written in the normal form of the URL standard: the scheme and the host in
lower case, no default port, no dot segments, and percent escapes where they are needed.
-/

namespace ProseCheck.Net

structure Authority where
  username : List Char
  password : List Char
  host : List Char
  port : Option Nat
  deriving DecidableEq, Repr

inductive UrlPath where
  /-- Whatever follows the scheme, where that is no hierarchy. -/
  | opaquePart (text : List Char)
  | segments (items : List (List Char))
  deriving DecidableEq, Repr

structure Url where
  scheme : List Char
  authority : Option Authority
  path : UrlPath
  query : Option (List Char)
  fragment : Option (List Char)
  deriving DecidableEq, Repr

/-! ### Schemes -/

def defaultPorts : List (String × Option Nat) :=
  [("http", some 80), ("https", some 443), ("ws", some 80), ("wss", some 443), ("ftp", some 21),
   ("file", none)]

def isSpecial (scheme : List Char) : Bool := (defaultPorts.lookup (String.ofList scheme)).isSome

def defaultPort? (scheme : List Char) : Option Nat :=
  (defaultPorts.lookup (String.ofList scheme)).join

def fileScheme : List Char := "file".toList

/-! ### Writing -/

def Authority.write (a : Authority) : List Char :=
  let user :=
    if a.username.isEmpty && a.password.isEmpty then []
    else a.username ++ (if a.password.isEmpty then [] else ':' :: a.password) ++ ['@']
  user ++ a.host ++
    match a.port with
    | some n => ':' :: Nat.toDigits 10 n
    | none => []

def UrlPath.write (hasAuthority : Bool) : UrlPath → List Char
  | .opaquePart text => text
  | .segments items =>
    let text := items.flatMap ('/' :: ·)
    if !hasAuthority && 1 < items.length && items.head? == some [] then '/' :: '.' :: text else text

def Url.toString (u : Url) : String :=
  String.ofList <|
    u.scheme ++ [':'] ++
    (match u.authority with
      | some a => '/' :: '/' :: a.write
      | none => []) ++
    u.path.write u.authority.isSome ++
    (match u.query with
      | some q => '?' :: q
      | none => []) ++
    (match u.fragment with
      | some f => '#' :: f
      | none => [])

/-! ### Paths -/

/-- A segment in lower case with its escaped dots as dots. -/
def plainDots : List Char → List Char
  | '%' :: '2' :: c :: rest =>
    if c = 'e' ∨ c = 'E' then '.' :: plainDots rest else '%' :: '2' :: plainDots (c :: rest)
  | c :: rest => c :: plainDots rest
  | [] => []

def isSingleDot (segment : List Char) : Bool := plainDots segment == ['.']

def isDoubleDot (segment : List Char) : Bool := plainDots segment == ['.', '.']

/-- Whether a segment names a drive, as `c:` does. -/
def isDrive : List Char → Bool
  | [c, d] => c.isAlpha && (d == ':' || d == '|')
  | _ => false

def splitAt (isSeparator : Char → Bool) : List Char → List (List Char)
  | [] => [[]]
  | c :: cs =>
    if isSeparator c then [] :: splitAt isSeparator cs
    else
      match splitAt isSeparator cs with
      | [] => [[c]]
      | piece :: rest => (c :: piece) :: rest

/-- Goes up one segment, except from the drive of a file. -/
def shorten (isFile : Bool) (path : List (List Char)) : List (List Char) :=
  match path with
  | [only] => if isFile && isDrive only then path else []
  | _ => path.dropLast

/-- Follows the segments of a path from the segments `done`. -/
def resolveSegments (isFile : Bool) (done : List (List Char)) :
    List (List Char) → List (List Char)
  | [] => done
  | segment :: rest =>
    let done :=
      if isDoubleDot segment then
        shorten isFile done ++ (if rest.isEmpty then [[]] else [])
      else if isSingleDot segment then
        if rest.isEmpty then done ++ [[]] else done
      else
        let segment := encode inPath segment
        match done, segment with
        | [], [c, _] => if isFile && isDrive segment then [[c, ':']] else [segment]
        | _, _ => done ++ [segment]
    resolveSegments isFile done rest

def readPath (scheme text : List Char) : UrlPath :=
  let special := isSpecial scheme
  let isSeparator (c : Char) : Bool := c == '/' || (special && c == '\\')
  let body :=
    match text with
    | c :: rest => if isSeparator c then rest else text
    | [] => []
  if text.isEmpty && !special then .segments []
  else .segments (resolveSegments (scheme == fileScheme) [] (splitAt isSeparator body))

/-! ### Reading -/

/-- A port; none at all and the default one come to the same. -/
def readPort? (scheme digits : List Char) : Option (Option Nat) :=
  if digits.isEmpty then some none
  else if digits.all Char.isDigit then
    let n := digits.foldl (fun n c => 10 * n + (c.toNat - '0'.toNat)) 0
    if 0xFFFF < n then none
    else if defaultPort? scheme = some n then some none
    else some (some n)
  else none

/-- A host, and what follows its colon if it has one. A colon in brackets belongs to the host. -/
def splitPort (text : List Char) : List Char × Option (List Char) :=
  let bracketed :=
    match text with
    | '[' :: _ => (text.takeWhile (· != ']')).length + 1
    | _ => 0
  let rest := text.drop bracketed
  let host := text.take bracketed ++ rest.takeWhile (· != ':')
  match rest.dropWhile (· != ':') with
  | _ :: port => (host, some port)
  | [] => (host, none)

/-- The part up to the last `@`, and the part behind it. -/
def splitUser (text : List Char) : Option (List Char) × List Char :=
  match splitAt (· == '@') text with
  | [only] => (none, only)
  | pieces =>
    let last := pieces.getLastD []
    (some (text.take (text.length - last.length - 1)), last)

def readAuthority? (scheme text : List Char) : Option Authority := do
  let (user, rest) := splitUser text
  let (host, port) := splitPort rest
  let host ← readHost? (isSpecial scheme) host
  guard (!(isSpecial scheme && host.isEmpty))
  guard (!host.isEmpty || (user.isNone && port.isNone))
  let port ← readPort? scheme (port.getD [])
  let user := user.getD []
  return {
    username := encode inUser (user.takeWhile (· != ':'))
    password := encode inUser ((user.dropWhile (· != ':')).drop 1)
    host, port }

def readFileHost? (text : List Char) : Option (List Char) := do
  let host ← if text.isEmpty then some [] else readHost? true text
  return if host = "localhost".toList then [] else host

/-- The authority and the path of a URL, from what stands between the scheme and the query. -/
def readHierarchy? (scheme text : List Char) : Option (Option Authority × UrlPath) :=
  let special := isSpecial scheme
  let isSlash (c : Char) : Bool := c == '/' || (special && c == '\\')
  if scheme = fileScheme then
    match text with
    | a :: b :: rest =>
      if isSlash a && isSlash b then
        let host := rest.takeWhile (!isSlash ·)
        if isDrive host then some (some ⟨[], [], [], none⟩, readPath scheme rest)
        else do
          let host' ← readFileHost? host
          return (some ⟨[], [], host', none⟩, readPath scheme (rest.dropWhile (!isSlash ·)))
      else some (some ⟨[], [], [], none⟩, readPath scheme text)
    | _ => some (some ⟨[], [], [], none⟩, readPath scheme text)
  else if special then do
    let rest := text.dropWhile isSlash
    let authority ← readAuthority? scheme (rest.takeWhile (!isSlash ·))
    return (some authority, readPath scheme (rest.dropWhile (!isSlash ·)))
  else
    match text with
    | '/' :: '/' :: rest => do
      let authority ← readAuthority? scheme (rest.takeWhile (· != '/'))
      return (some authority, readPath scheme (rest.dropWhile (· != '/')))
    | '/' :: _ => some (none, readPath scheme text)
    | _ => some (none, .opaquePart (encode isControl text))

def readScheme? (text : List Char) : Option (List Char × List Char) :=
  let isSchemeChar (c : Char) : Bool := c.isAlphanum || c == '+' || c == '-' || c == '.'
  match text with
  | c :: _ =>
    match text.dropWhile isSchemeChar with
    | ':' :: rest =>
      if c.isAlpha then some ((text.takeWhile isSchemeChar).map Char.toLower, rest) else none
    | _ => none
  | [] => none

/-- Reads a URL. Blanks and controls around it and line ends in it do not count. -/
def Url.parse? (text : String) : Option Url := do
  let outer (c : Char) : Bool := c.toNat ≤ 0x20
  let inner := ((text.toList.dropWhile outer).reverse.dropWhile outer).reverse
  let clean := inner.filter fun c => !(c == '\t' || c == '\n' || c == '\r')
  let (scheme, rest) ← readScheme? clean
  let beforeFragment := rest.takeWhile (· != '#')
  let fragment := (rest.dropWhile (· != '#')).drop 1
  let hierarchy := beforeFragment.takeWhile (· != '?')
  let query := (beforeFragment.dropWhile (· != '?')).drop 1
  let (authority, path) ← readHierarchy? scheme hierarchy
  return {
    scheme, authority, path
    query :=
      if beforeFragment.contains '?' then
        some (encode (inQuery (isSpecial scheme)) query)
      else none
    fragment := if rest.contains '#' then some (encode inFragment fragment) else none }

end ProseCheck.Net
