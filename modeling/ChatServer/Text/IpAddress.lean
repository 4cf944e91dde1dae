import ChatServer.Text.Digits

/-!
# `IpAddress`: addresses as texts

An address of version 4 is written as four decimal numbers. One of version 6 is written as eight
hexadecimal numbers, where the first of the longest runs of at least two zeros is left out; an
address of version 4 inside version 6 keeps its decimal form.
-/

namespace ChatServer.Text

/-- An internet address: four bytes, or eight 16-bit groups. -/
inductive IpAddress where
  | v4 (octets : List UInt8)
  | v6 (groups : List UInt16)
deriving DecidableEq, Repr

namespace IpAddress

/-- The lower-case hexadecimal digits of a number. -/
def hexText (n : UInt16) : String := String.ofList (Nat.toDigits 16 n.toNat)

/-- Four bytes with points between them. -/
def dotted (octets : List UInt8) : String := ".".intercalate (octets.map fun b => toString b.toNat)

/-- Groups with colons between them. -/
def colons (groups : List UInt16) : String := ":".intercalate (groups.map hexText)

/-- The start and the length of the first longest run of zeros. -/
def longestZeros (groups : List UInt16) : Nat × Nat :=
  (List.range groups.length).foldl
    (fun best i =>
      let run := ((groups.drop i).takeWhile (· == 0)).length
      if best.2 < run then (i, run) else best)
    (0, 0)

/-- The text of an address. -/
def text : IpAddress → String
  | v4 octets => dotted octets
  | v6 [0, 0, 0, 0, 0, 0xFFFF, high, low] =>
    "::ffff:" ++ dotted [(high >>> 8).toUInt8, high.toUInt8, (low >>> 8).toUInt8, low.toUInt8]
  | v6 groups =>
    let zeros := longestZeros groups
    if zeros.2 < 2 then colons groups
    else colons (groups.take zeros.1) ++ "::" ++ colons (groups.drop (zeros.1 + zeros.2))

/-- The byte written in decimal, without a leading zero. -/
def octet? (s : String) : Option UInt8 := do
  let digits := s.toList
  guard (1 ≤ digits.length ∧ digits.length ≤ 3 ∧ (digits.head? ≠ some '0' ∨ digits.length = 1))
  let n ← number? 10 digits
  if n < 256 then some (UInt8.ofNat n) else none

/-- The four bytes written with points between them. -/
def octets? (s : String) : Option (List UInt8) := do
  let octets ← (s.splitOn ".").mapM octet?
  if octets.length = 4 then some octets else none

/-- The group written with up to four hexadecimal digits. -/
def group? (s : String) : Option UInt16 := do
  let digits := s.toList
  guard (1 ≤ digits.length ∧ digits.length ≤ 4)
  (number? 16 digits).map UInt16.ofNat

/-- Two bytes as a group. -/
def ofBytes (high low : UInt8) : UInt16 := (high.toUInt16 <<< 8) ||| low.toUInt16

/-- The groups written with colons between them; the last two may be written as four bytes. -/
def groups? (s : String) : Option (List UInt16) :=
  if s.isEmpty then some []
  else
    let parts := s.splitOn ":"
    match parts.getLast?.bind octets? with
    | some [a, b, c, d] => do
      let front ← parts.dropLast.mapM group?
      some (front ++ [ofBytes a b, ofBytes c d])
    | _ => parts.mapM group?

/-- The address of version 6 with this text, where a double colon stands for zeros. -/
def v6? (s : String) : Option IpAddress :=
  match s.splitOn "::" with
  | [whole] => do
    let groups ← groups? whole
    if groups.length = 8 then some (v6 groups) else none
  | [left, right] => do
    let front ← groups? left
    let back ← groups? right
    let used := front.length + back.length
    if used < 8 then some (v6 (front ++ List.replicate (8 - used) 0 ++ back)) else none
  | _ => none

/-- The address in a text of the form `address:port` or `[address%scope]:port`. -/
def ofEndpoint? (s : String) : Option IpAddress :=
  match s.toList with
  | '[' :: rest =>
    v6? (String.ofList ((rest.takeWhile (· != ']')).takeWhile (· != '%')))
  | whole => (octets? (String.ofList (whole.takeWhile (· != ':')))).map v4

end IpAddress

end ChatServer.Text
