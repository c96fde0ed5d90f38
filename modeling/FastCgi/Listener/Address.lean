/-!
# Addresses to listen on

A listener is given its address as a text: an IP address of version 4 or 6 and a port. The grammar
is a strict one. The numbers of a version 4 address are decimal, at most 255, and have no leading
zeros; a version 6 address stands between brackets, may leave out one run of zeros, may end in a
version 4 address, and may name a scope; a port is a decimal number up to 65535, with as many
leading zeros as one likes. Nothing may stand before, between or after.

Each reader takes characters off the front of a text and gives what it has read and the rest.
-/

namespace FastCgi

/-- An IP address. -/
inductive IpAddress where
  | v4 (a b c d : Nat)
  /-- Eight groups of sixteen bits, and a scope, which is zero if there is none. -/
  | v6 (groups : List Nat) (scope : Nat)
deriving DecidableEq, Repr, Inhabited

/-- An IP address and a port. -/
structure SocketAddress where
  ip : IpAddress
  port : Nat
deriving DecidableEq, Repr, Inhabited

/-! ## Kinds -/

namespace IpAddress

/-- Whether an address stands for all addresses of the machine. -/
def isUnspecified : IpAddress → Bool
  | v4 a b c d => a = 0 && b = 0 && c = 0 && d = 0
  | v6 groups _ => groups.all (· = 0)

/-- Whether a version 6 address stands for one of version 4, which makes up its last two groups. -/
def isMapped : IpAddress → Bool
  | v6 [0, 0, 0, 0, 0, 65535, _, _] _ => true
  | _ => false

/-- Whether a version 6 address belongs to a group of machines. -/
def isMulticast : IpAddress → Bool
  | v6 (first :: _) _ => first / 256 = 255
  | _ => false

/-- Whether a version 6 address holds on one link only, and needs a scope to say on which. -/
def isLinkLocal : IpAddress → Bool
  | v6 (first :: _) _ => first / 64 = 1018
  | _ => false

/-- An address without a scope that it does not need. -/
def withoutIdleScope (ip : IpAddress) : IpAddress :=
  match ip with
  | v6 groups _ => if ip.isLinkLocal then ip else v6 groups 0
  | _ => ip

end IpAddress

namespace SocketAddress

/-! ## Reading -/

/-- Reads one given character. -/
def expect (c : Char) : List Char → Option (List Char)
  | d :: rest => if c = d then some rest else none
  | [] => none

/-- The value of a digit in bases up to sixteen. -/
def digit? (base : Nat) (c : Char) : Option Nat :=
  let value :=
    if '0' ≤ c ∧ c ≤ '9' then c.toNat - '0'.toNat
    else if 'a' ≤ c ∧ c ≤ 'f' then c.toNat - 'a'.toNat + 10
    else if 'A' ≤ c ∧ c ≤ 'F' then c.toNat - 'A'.toNat + 10
    else base
  if value < base then some value else none

/-- The number that a list of digits spells. -/
def value (base : Nat) (digits : List Char) : Nat :=
  digits.foldl (fun n c => n * base + (digit? base c).getD 0) 0

/-- Reads all digits there are, and gives the number if it has a digit, and at most `most`. -/
def number (base most : Nat) (text : List Char) : Option (Nat × List Char) :=
  let digits := text.takeWhile fun c => (digit? base c).isSome
  let n := value base digits
  if digits.isEmpty || most < n then none else some (n, text.drop digits.length)

/-- Reads a number of a version 4 address. -/
def octet (text : List Char) : Option (Nat × List Char) :=
  match text with
  | '0' :: c :: _ => if (digit? 10 c).isSome then none else number 10 255 text
  | _ => number 10 255 text

/-- Reads a version 4 address. -/
def ipv4 (text : List Char) : Option ((Nat × Nat × Nat × Nat) × List Char) := do
  let (a, text) ← octet text
  let (b, text) ← octet (← expect '.' text)
  let (c, text) ← octet (← expect '.' text)
  let (d, text) ← octet (← expect '.' text)
  some ((a, b, c, d), text)

/-- Reads a group of a version 6 address, which has at most four digits. -/
def group (text : List Char) : Option (Nat × List Char) :=
  if 4 < (text.takeWhile fun c => (digit? 16 c).isSome).length then none
  else number 16 65535 text

/-- Reads the colon before a group, unless it is the first one. -/
def separated (first : Bool) (text : List Char) : Option (List Char) :=
  if first then some text else expect ':' text

/-- Reads at most `room` groups, and says whether the last two of them were a version 4 address. -/
def groups (first : Bool) : (room : Nat) → List Char → (List Nat × Bool) × List Char
  | 0, text => (([], false), text)
  | room + 1, text =>
    match (if 0 < room then (separated first text).bind ipv4 else none) with
    | some ((a, b, c, d), rest) => (([a * 256 + b, c * 256 + d], true), rest)
    | none =>
      match (separated first text).bind group with
      | none => (([], false), text)
      | some (n, rest) =>
        let ((more, embedded), rest) := groups false room rest
        ((n :: more, embedded), rest)

/-- Reads a version 6 address: eight groups, or fewer with a double colon for the missing zeros,
which are at least one. -/
def ipv6 (text : List Char) : Option (List Nat × List Char) :=
  let ((front, embedded), text) := groups true 8 text
  if front.length = 8 then some (front, text)
  else if embedded then none
  else do
    let text ← expect ':' text
    let text ← expect ':' text
    let ((back, _), text) := groups true (7 - front.length) text
    some (front ++ List.replicate (8 - front.length - back.length) 0 ++ back, text)

/-- Reads the scope of a version 6 address, if there is one. -/
def scope (text : List Char) : Option (Nat × List Char) :=
  match text with
  | '%' :: rest => number 10 4294967295 rest
  | _ => some (0, text)

/-- Reads the port at the end of an address. -/
def portAfter (text : List Char) : Option Nat := do
  let (port, rest) ← number 10 65535 (← expect ':' text)
  if rest.isEmpty then some port else none

/-- The address that a text spells. -/
def ofString? (text : String) : Option SocketAddress :=
  match ipv4 text.toList with
  | some ((a, b, c, d), rest) => (portAfter rest).map (⟨.v4 a b c d, ·⟩)
  | none => do
    let (groups, rest) ← ipv6 (← expect '[' text.toList)
    let (scope, rest) ← scope rest
    let port ← portAfter (← expect ']' rest)
    some ⟨.v6 groups scope, port⟩

/-! ## Writing -/

/-- Groups between colons, in hexadecimal. -/
def groupsText (groups : List Nat) : String :=
  ":".intercalate (groups.map fun n => String.ofList (Nat.toDigits 16 n))

/-- The number of zeros at the front of a list. -/
def zeros (groups : List Nat) : Nat := (groups.takeWhile (· = 0)).length

/-- The place and the length of the first of the longest runs of zeros. -/
def longestZeros (groups : List Nat) : Nat × Nat :=
  (List.range groups.length).foldl (fun (place, length) i =>
    let here := zeros (groups.drop i)
    if length < here then (i, here) else (place, length)) (0, 0)

end SocketAddress

/-- The text of an IP address without its scope. Of a version 6 address the longest run of at least
two zeros is left out, and an embedded version 4 address is written as one. -/
def IpAddress.text : IpAddress → String
  | v4 a b c d => s!"{a}.{b}.{c}.{d}"
  | v6 [0, 0, 0, 0, 0, 65535, ab, cd] _ =>
    s!"::ffff:{ab / 256}.{ab % 256}.{cd / 256}.{cd % 256}"
  | v6 groups _ =>
    let (place, length) := SocketAddress.longestZeros groups
    if length < 2 then SocketAddress.groupsText groups
    else SocketAddress.groupsText (groups.take place) ++ "::" ++
      SocketAddress.groupsText (groups.drop (place + length))

/-- The text of an address. -/
def SocketAddress.text (address : SocketAddress) : String :=
  match address.ip with
  | .v4 .. => s!"{address.ip.text}:{address.port}"
  | .v6 _ 0 => s!"[{address.ip.text}]:{address.port}"
  | .v6 _ scope => s!"[{address.ip.text}%{scope}]:{address.port}"

end FastCgi
