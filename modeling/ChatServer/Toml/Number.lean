import ChatServer.Text.Digits
import ChatServer.Toml.Scan

/-!
# `Number`: integers and floats

Integers fit into 64 bits and may be written in decimal or, without a sign, in hexadecimal, octal
or binary. Of floats only their form and their size matter: one that rounds to infinity is refused.
-/

namespace ChatServer.Toml

open Scan

/-- Digits of a base, with single underscores between them. -/
def digits (base : Nat) : Scan (List Char) := do
  let run ← stretch fun c => Text.isDigit base c || c == '_'
  guard (separatedWell run)
  pure (run.filter (· != '_'))
where
  /-- Whether the run starts with a digit and a digit follows each underscore. -/
  separatedWell (run : List Char) : Bool :=
    run.head?.any (· != '_') && run.getLast?.any (· != '_') &&
      (run.zip run.tail).all fun p => !(p.1 == '_' && p.2 == '_')

/-- A sign, which is a minus or not. -/
def sign : Scan Bool := do
  match ← peek with
  | some '-' => char '-'; pure true
  | some '+' => char '+'; pure false
  | _ => pure false

/-- A whole number with a sign, without leading zeros. -/
def signedDigits : Scan (Bool × List Char) := do
  let negative ← sign
  let ds ← digits 10
  guard (ds.length = 1 || ds.head? != some '0')
  pure (negative, ds)

/-- The least number that is too large for 64 bits with a sign. -/
def integerBound : Nat := 9223372036854775808

/-- An integer in a base other than ten, after the mark of the base. -/
def radixInteger (base : Nat) (mark : Char) : Scan Int := do
  chars ['0', mark]
  let n ← Text.number? base (← digits base)
  guard (n < integerBound)
  pure n

/-- A decimal integer. -/
def decimalInteger : Scan Int := do
  let (negative, ds) ← signedDigits
  let n ← Text.number? 10 ds
  guard (n < integerBound || (negative && n = integerBound))
  pure (if negative then -n else n)

/-- An integer in any base. -/
def integer : Scan Int :=
  radixInteger 16 'x' <|> radixInteger 8 'o' <|> radixInteger 2 'b' <|> decimalInteger

/-- Whether `m` times ten to the power `e` rounds to infinity in binary floating point of 64
bits. -/
def roundsToInfinity (m : Nat) (e : Int) : Bool :=
  let bound := (Nat.pow 2 54 - 1) * Nat.pow 2 970
  if m = 0 then false
  else if 400 < e then true
  else if 0 ≤ e then bound ≤ m * Nat.pow 10 e.toNat
  else
    let scale := (-e).toNat
    if (Nat.toDigits 10 m).length ≤ scale then false else bound * Nat.pow 10 scale ≤ m

/-- The exponent of a float. -/
def exponent : Scan Int := do
  char 'e' <|> char 'E'
  let negative ← sign
  let n ← Text.number? 10 (← digits 10)
  pure (if negative then -n else n)

/-- A float with a point, an exponent or both. -/
def decimalFloat : Scan Unit := do
  let (negative, whole) ← signedDigits
  let fraction ← option do char '.'; digits 10
  let power ← option exponent
  guard (fraction.isSome || power.isSome)
  let part := fraction.getD []
  let m ← Text.number? 10 (whole ++ part)
  guard (negative || !roundsToInfinity m (power.getD 0 - part.length))

/-- Infinity, or what is no number. -/
def specialFloat : Scan Unit := do
  let _ ← sign
  chars ['i', 'n', 'f'] <|> chars ['n', 'a', 'n']

/-- A float. -/
def float : Scan Unit := decimalFloat <|> specialFloat

end ChatServer.Toml
