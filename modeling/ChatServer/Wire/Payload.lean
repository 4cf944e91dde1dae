import ChatServer.Wire.Value

/-!
# `Payload`: typed values in one sequence of bytes

A payload is written at its end and read from its front. It keeps the bytes that were read apart
from those that were not, so its read position is the length of the first part. A read that
fails changes nothing.
-/

namespace ChatServer

/-- The bytes of a sequence of values, split at the read position. -/
structure Payload where
  consumed : List UInt8
  unread : List UInt8
deriving DecidableEq, Repr, Inhabited

namespace Payload

/-- The payload without bytes. -/
def empty : Payload := ⟨[], []⟩

instance : EmptyCollection Payload := ⟨empty⟩

/-- Received bytes, none of them read. -/
def ofBytes (bytes : List UInt8) : Payload := ⟨[], bytes⟩

/-- All bytes, wherever the read position is. -/
def bytes (p : Payload) : List UInt8 := p.consumed ++ p.unread

/-- The number of all bytes. -/
def length (p : Payload) : Nat := p.consumed.length + p.unread.length

/-- The read position. -/
def cursor (p : Payload) : Nat := p.consumed.length

/-- The number of bytes not read yet. -/
def remaining (p : Payload) : Nat := p.unread.length

/-- Whether the payload has no bytes at all. -/
def isEmpty (p : Payload) : Bool := p.consumed.isEmpty && p.unread.isEmpty

/-- The size and the read position in words. -/
def describe (p : Payload) : String :=
  "TypedBuffer \x7b len: " ++ toString p.length ++ ", cursor: " ++ toString p.cursor ++ " \x7d"

/-- Adds a value at the end. -/
def write (p : Payload) (t : ValueType) (v : t.Carrier) : Payload :=
  { p with unread := p.unread ++ Value.encode ⟨t, v⟩ }

/-- Takes a value of type `t` from the front. -/
def read (p : Payload) (t : ValueType) : Except WireError (t.Carrier × Payload) :=
  (Value.decode t p.unread).map fun r =>
    (r.1, ⟨p.consumed ++ p.unread.take r.2, p.unread.drop r.2⟩)

/-- Adds several values at the end. -/
def writeAll (p : Payload) (vs : List Value) : Payload :=
  vs.foldl (fun p v => p.write v.type v.val) p

/-- The payload of some values. -/
def ofValues (vs : List Value) : Payload := empty.writeAll vs

end Payload

end ChatServer
