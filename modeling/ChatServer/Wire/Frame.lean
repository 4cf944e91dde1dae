import ChatServer.Wire.Code
import ChatServer.Wire.Payload

/-!
# `Frame`: the unit of transfer

A frame is the code of a component, a message code and a payload, in this order and
little-endian. `decode` inverts `encode`.
-/

namespace ChatServer

/-- One message to or from a component. -/
structure Frame where
  component : ComponentType
  message : UInt16
  payload : Payload
deriving DecidableEq, Repr, Inhabited

namespace Frame

/-- The bytes of a frame: all of the payload's bytes, read or not, follow the header. -/
def encode (f : Frame) : List UInt8 :=
  littleEndian 2 (Coded.code f.component).toNat ++ littleEndian 2 f.message.toNat ++
    f.payload.bytes

/-- The frame with these bytes. -/
def decode : List UInt8 → Except WireError Frame
  | c₀ :: c₁ :: m₀ :: m₁ :: body =>
    (Coded.ofCode (UInt16.ofNat (ofLittleEndian [c₀, c₁]))).map fun component =>
      ⟨component, UInt16.ofNat (ofLittleEndian [m₀, m₁]), .ofBytes body⟩
  | bytes => .error (.frameTooShort bytes.length)

end Frame

end ChatServer
