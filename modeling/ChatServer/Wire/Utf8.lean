/-!
# `Utf8`: texts as bytes

A text is written as the UTF-8 bytes of its characters. `truncate` cuts these bytes at a limit
without splitting a character: it steps back from the limit to the nearest place where a
character starts.
-/

namespace ChatServer.Utf8

/-- The UTF-8 bytes of a text. -/
def encode (s : String) : List UInt8 := s.toUTF8.data.toList

/-- The text that some bytes are the UTF-8 encoding of, if there is one. -/
def decode? (bytes : List UInt8) : Option String := String.fromUTF8? bytes.toByteArray

@[simp]
theorem toByteArray_encode (s : String) : (encode s).toByteArray = s.toByteArray := by
  ext1
  simp [encode]

@[simp]
theorem decode?_encode (s : String) : decode? (encode s) = some s := by
  simp only [decode?, toByteArray_encode, String.fromUTF8?]
  simp [String.fromUTF8, s.isValidUTF8]

/-- Every text has one encoding, which is all that reading accepts. -/
theorem decode?_eq_some_iff {bytes : List UInt8} {s : String} :
    decode? bytes = some s ↔ bytes = encode s := by
  constructor
  · intro h
    simp only [decode?, String.fromUTF8?] at h
    split at h <;> simp only [Option.some.injEq, reduceCtorEq] at h
    subst h
    simp [encode, String.fromUTF8]
  · rintro rfl
    exact decode?_encode s

/-- Whether a byte stands inside a character, after its first byte. -/
def isContinuation (b : UInt8) : Bool := b &&& 0xC0 == 0x80

/-- Whether no character of the text straddles the place before byte `n`. -/
def isBoundary (bytes : List UInt8) (n : Nat) : Bool :=
  n == 0 || match bytes[n]? with
    | some b => !isContinuation b
    | none => n == bytes.length

/-- The boundary reached by stepping back from `n` one byte at a time. -/
def floorBoundary (bytes : List UInt8) : Nat → Nat
  | 0 => 0
  | n + 1 => if isBoundary bytes (n + 1) then n + 1 else floorBoundary bytes n

/-- The bytes of a text, cut at the last boundary that is at most `limit`. -/
def truncate (limit : Nat) (s : String) : List UInt8 :=
  let bytes := encode s
  bytes.take (floorBoundary bytes (min bytes.length limit))

end ChatServer.Utf8
