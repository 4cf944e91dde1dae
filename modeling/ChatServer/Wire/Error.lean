/-!
# `WireError`: what can be wrong with received bytes
-/

namespace ChatServer

/-- The types of the values that a payload can hold. -/
inductive ValueType where
  | u8
  | u16
  | u32
  | u64
  | bool
  | string
deriving DecidableEq, Repr, Inhabited

namespace ValueType

/-- The byte that announces a value of the type. -/
def tag : ValueType → UInt8
  | u8 => 1
  | u16 => 2
  | u32 => 3
  | u64 => 4
  | bool => 5
  | string => 6

/-- The name of the type in messages. -/
def name : ValueType → String
  | u8 => "u8"
  | u16 => "u16"
  | u32 => "u32"
  | u64 => "u64"
  | bool => "bool"
  | string => "string"

end ValueType

/-- The reasons for which received bytes are refused. -/
inductive WireError where
  /-- The bytes end before the value does. -/
  | unexpectedEnd
  /-- The next value has another type. -/
  | typeMismatch (expected : ValueType) (found : UInt8)
  /-- The bytes of a string are not UTF-8. -/
  | invalidUtf8
  /-- A string announces more bytes than a string may have. -/
  | stringTooLong (length : Nat)
  /-- A frame has fewer bytes than its header. -/
  | frameTooShort (length : Nat)
  /-- No component has this code. -/
  | unknownComponent (code : UInt16)
  /-- No message has this code. -/
  | unknownMessageType (code : UInt16)
  /-- No result has this code. -/
  | unknownResult (code : UInt16)
deriving DecidableEq, Repr, Inhabited

/-- The wording of the error. -/
def WireError.message : WireError → String
  | unexpectedEnd => "unexpected end of buffer"
  | typeMismatch expected found =>
    "type mismatch: expected " ++ expected.name ++ ", found tag " ++ toString found.toNat
  | invalidUtf8 => "string is not valid UTF-8"
  | stringTooLong length => "string of " ++ toString length ++ " bytes exceeds the limit"
  | frameTooShort length =>
    "frame of " ++ toString length ++ " bytes is shorter than the header"
  | unknownComponent code => "unknown component type " ++ toString code.toNat
  | unknownMessageType code => "unknown message type " ++ toString code.toNat
  | unknownResult code => "unknown result code " ++ toString code.toNat

end ChatServer
