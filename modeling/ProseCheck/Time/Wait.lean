/-! # Spans of time

Times and waits are counted in milliseconds.
-/

namespace ProseCheck

abbrev Millis := Nat

/-- A wait with its unit: full seconds and what is left of them, or milliseconds below one second.
No wait at all is told in nanoseconds. -/
def waitText (wait : Millis) : String :=
  if wait = 0 then "0ns"
  else if wait < 1000 then s!"{wait}ms"
  else
    let digits := (Nat.toDigits 10 (1000 + wait % 1000)).drop 1
    let fraction := (digits.reverse.dropWhile (· == '0')).reverse
    let point := if fraction.isEmpty then [] else '.' :: fraction
    String.ofList (Nat.toDigits 10 (wait / 1000) ++ point ++ ['s'])

end ProseCheck
