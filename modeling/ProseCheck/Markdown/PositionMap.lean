import ProseCheck.Text.Offset

/-! # Positions in stripped text and in markdown

Every character of the stripped text comes from one position of the markdown. The map keeps these
positions in order, so a stripped position is an index into it.
-/

namespace ProseCheck.Markdown

structure PositionMap where
  /-- The position in the markdown of each stripped character. -/
  origins : List Nat
  deriving DecidableEq, Repr

namespace PositionMap

/-- The map of a text of `n` characters that lost nothing. -/
def identity (n : Nat) : PositionMap := ⟨List.range n⟩

def length (m : PositionMap) : Nat := m.origins.length

def isEmpty (m : PositionMap) : Bool := m.origins.isEmpty

/-- Where the stripped character at `position` comes from. -/
def origin? (m : PositionMap) (position : Nat) : Option Nat := m.origins[position]?

/-- The only one of the `size` indices from `base` on that `origin` can have. The stretch is halved
until one index is left. -/
def narrow (m : PositionMap) (origin base size : Nat) : Nat :=
  if size ≤ 1 then base
  else
    let half := size / 2
    let upper := (m.origin? (base + half)).any (· ≤ origin)
    narrow m origin (if upper then base + half else base) (size - half)
termination_by size

/-- Which stripped character comes from `origin`, by binary search; none if that character was
dropped. -/
def stripped? (m : PositionMap) (origin : Nat) : Option Nat :=
  let position := m.narrow origin 0 m.length
  if m.origin? position = some origin then some position else none

/-- Where a stripped position lies in the markdown. Past the end of the stripped text it is as far
past the last character there; with nothing kept at all, a position stands for itself. -/
def toMarkdown (m : PositionMap) (position : Nat) : Nat :=
  match m.origin? position with
  | some origin => origin
  | none =>
    match m.origins.getLast? with
    | some last => min (last + (position - (m.length - 1))) maxOffset
    | none => position

/-- The span in the markdown of `length` stripped characters from `offset` on. It ends right after
the last of them, so dropped characters that follow it stay out. -/
def toMarkdownSpan? (m : PositionMap) (offset length : Nat) : Option Span := do
  guard (0 < length)
  let last ← addOffset? offset (length - 1)
  let start := m.toMarkdown offset
  let finish ← addOffset? (m.toMarkdown last) 1
  guard (start < finish)
  return ⟨start, finish⟩

end PositionMap
end ProseCheck.Markdown
