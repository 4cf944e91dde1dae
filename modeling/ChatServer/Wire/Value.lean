import ChatServer.Wire.Error
import ChatServer.Wire.Utf8

/-!
# `Value`: one typed value as bytes

A value is written as the tag of its type and a body. Numbers are little-endian; a string is its
length in bytes, as a 32-bit number, and its UTF-8 bytes. `encode` writes a value, and `decode`
reads one of a given type from the front of some bytes and says how many it used.
-/

namespace ChatServer

/-- The most bytes that a string can have on the wire. -/
def maxStringLength : Nat := 65536

/-- The last `width` digits of a number to the base 256, the lowest first. -/
def littleEndian : (width : Nat) → Nat → List UInt8
  | 0, _ => []
  | width + 1, n => UInt8.ofNat n :: littleEndian width (n / 256)

@[simp]
theorem length_littleEndian (width n : Nat) : (littleEndian width n).length = width := by
  induction width generalizing n with
  | zero => rfl
  | succ width ih => simp [littleEndian, ih]

/-- The number with these digits to the base 256, the lowest first. -/
def ofLittleEndian : List UInt8 → Nat
  | [] => 0
  | b :: bytes => b.toNat + 256 * ofLittleEndian bytes

/-- The values of a type. -/
abbrev ValueType.Carrier : ValueType → Type
  | .u8 => UInt8
  | .u16 => UInt16
  | .u32 => UInt32
  | .u64 => UInt64
  | .bool => Bool
  | .string => String

instance ValueType.decidableEqCarrier : (t : ValueType) → DecidableEq t.Carrier
  | .u8 => inferInstanceAs (DecidableEq UInt8)
  | .u16 => inferInstanceAs (DecidableEq UInt16)
  | .u32 => inferInstanceAs (DecidableEq UInt32)
  | .u64 => inferInstanceAs (DecidableEq UInt64)
  | .bool => inferInstanceAs (DecidableEq Bool)
  | .string => inferInstanceAs (DecidableEq String)

/-- A value together with its type. -/
structure Value where
  type : ValueType
  val : type.Carrier
deriving DecidableEq

namespace Value

/-- The bytes after the tag. A string that is too long is cut at the end of a character. -/
def encodeBody : (t : ValueType) → t.Carrier → List UInt8
  | .u8, n => littleEndian 1 n.toNat
  | .u16, n => littleEndian 2 n.toNat
  | .u32, n => littleEndian 4 n.toNat
  | .u64, n => littleEndian 8 n.toNat
  | .bool, b => [if b then 1 else 0]
  | .string, s =>
    let bytes := Utf8.truncate maxStringLength s
    littleEndian 4 bytes.length ++ bytes

/-- The bytes of a value. -/
def encode (v : Value) : List UInt8 := v.type.tag :: encodeBody v.type v.val

/-- The number in the first `width` bytes. -/
def decodeNat (width : Nat) (bytes : List UInt8) : Except WireError Nat :=
  let digits := bytes.take width
  if digits.length < width then .error .unexpectedEnd else .ok (ofLittleEndian digits)

/-- The value that follows a tag, and the number of bytes it has. A flag is set by any byte but
zero. -/
def decodeBody (t : ValueType) (body : List UInt8) : Except WireError (t.Carrier × Nat) :=
  match t with
  | .u8 => (decodeNat 1 body).map fun n => (UInt8.ofNat n, 1)
  | .u16 => (decodeNat 2 body).map fun n => (UInt16.ofNat n, 2)
  | .u32 => (decodeNat 4 body).map fun n => (UInt32.ofNat n, 4)
  | .u64 => (decodeNat 8 body).map fun n => (UInt64.ofNat n, 8)
  | .bool => (decodeNat 1 body).map fun n => (n != 0, 1)
  | .string =>
    match decodeNat 4 body with
    | .error e => .error e
    | .ok length =>
      if maxStringLength < length then .error (.stringTooLong length)
      else
        let bytes := (body.drop 4).take length
        if bytes.length < length then .error .unexpectedEnd
        else
          match Utf8.decode? bytes with
          | none => .error .invalidUtf8
          | some s => .ok (s, 4 + length)

/-- The value of type `t` at the front of some bytes, and the number of bytes it has. -/
def decode (t : ValueType) : List UInt8 → Except WireError (t.Carrier × Nat)
  | [] => .error .unexpectedEnd
  | tag :: body =>
    if tag = t.tag then (decodeBody t body).map fun r => (r.1, r.2 + 1)
    else .error (.typeMismatch t tag)

end Value

end ChatServer
