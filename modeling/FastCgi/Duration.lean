/-!
# Lengths of time

A duration counts nanoseconds. Its text uses the largest of the units s, ms, µs and ns in which it
is at least one, and writes what is left over as a decimal fraction without trailing zeros.
-/

namespace FastCgi

/-- A length of time, in nanoseconds. -/
structure Duration where
  nanoseconds : Nat
deriving DecidableEq, Repr, Inhabited

namespace Duration

/-- A number of whole milliseconds. -/
def ofMilliseconds (n : Nat) : Duration := ⟨n * 1000000⟩

/-- A number of whole seconds. -/
def ofSeconds (n : Nat) : Duration := ⟨n * 1000000000⟩

/-- `n` as exactly `width` decimal digits, padded with zeros in front. -/
def padded (width n : Nat) : List Char :=
  let digits := Nat.toDigits 10 n
  List.replicate (width - digits.length) '0' ++ digits

/-- The quotient of `n` by `10 ^ places`, as a decimal number without trailing zeros. -/
def decimal (n places : Nat) : String :=
  let whole := Nat.repr (n / Nat.pow 10 places)
  let fraction := ((padded places (n % Nat.pow 10 places)).reverse.dropWhile (· = '0')).reverse
  if fraction.isEmpty then whole else whole ++ "." ++ String.ofList fraction

/-- A duration in its largest fitting unit. -/
def text (d : Duration) : String :=
  let n := d.nanoseconds
  if 1000000000 ≤ n then decimal n 9 ++ "s"
  else if 1000000 ≤ n then decimal n 6 ++ "ms"
  else if 1000 ≤ n then decimal n 3 ++ "µs"
  else Nat.repr n ++ "ns"

end Duration

end FastCgi
