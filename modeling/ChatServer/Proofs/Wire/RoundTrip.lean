import ChatServer.Wire.Frame
import Mathlib.Data.Nat.ModEq

/-!
# Values that are read as they were written

Reading the type of a value from its bytes gives back the value and leaves what comes after it. The
one exception are texts that are too long for the wire, which writing cuts; a text that was read is
never too long, so it can be written again in full. A frame comes back with nothing of its payload
read.
-/

namespace ChatServer

/-! ## Numbers -/

/-- What is written of a number is its lowest bytes. -/
theorem ofLittleEndian_littleEndian (width n : Nat) :
    ofLittleEndian (littleEndian width n) = n % 256 ^ width := by
  induction width generalizing n with
  | zero => simp [littleEndian, ofLittleEndian, Nat.mod_one]
  | succ width ih =>
    rw [littleEndian, ofLittleEndian, ih, Nat.pow_succ, Nat.mul_comm _ 256, Nat.mod_mul]
    simp

/-- A code is read as it is written. -/
theorem ofNat_ofLittleEndian_toNat (n : UInt16) :
    UInt16.ofNat (ofLittleEndian (littleEndian 2 n.toNat)) = n := by
  have hlt : n.toNat < 256 ^ 2 := n.toNat_lt
  rw [ofLittleEndian_littleEndian, Nat.mod_eq_of_lt hlt, UInt16.ofNat_toNat]

namespace Value

theorem decodeNat_littleEndian (width n : Nat) (rest : List UInt8) :
    decodeNat width (littleEndian width n ++ rest) = .ok (n % 256 ^ width) := by
  have htake : (littleEndian width n ++ rest).take width = littleEndian width n :=
    List.take_left' (length_littleEndian width n)
  rw [decodeNat, htake, length_littleEndian, if_neg (Nat.lt_irrefl width),
    ofLittleEndian_littleEndian]

end Value

/-! ## Texts -/

/-- Whether a text fits on the wire. -/
def FitsOnWire (s : String) : Prop := (Utf8.encode s).length ≤ maxStringLength

instance (s : String) : Decidable (FitsOnWire s) :=
  inferInstanceAs (Decidable (_ ≤ _))

/-- The end of a text is a boundary, so cutting behind it cuts nothing. -/
theorem Utf8.truncate_of_le {limit : Nat} {s : String} (h : (Utf8.encode s).length ≤ limit) :
    Utf8.truncate limit s = Utf8.encode s := by
  have hfloor : ∀ bytes : List UInt8, floorBoundary bytes bytes.length = bytes.length := by
    intro bytes
    cases hlength : bytes.length with
    | zero => rfl
    | succ n =>
      have hend : isBoundary bytes (n + 1) := by
        simp [isBoundary, ← hlength]
      rw [floorBoundary, if_pos hend]
  rw [truncate, Nat.min_eq_left h, hfloor, List.take_length]

namespace Value

/-- A value is written in full. -/
def Fits (v : Value) : Prop :=
  match v with
  | ⟨.string, s⟩ => FitsOnWire s
  | _ => True

/-- A string that fits is read as it is written. -/
theorem decodeBody_string {s : String} (h : FitsOnWire s) (rest : List UInt8) :
    decodeBody .string (encodeBody .string s ++ rest) =
      .ok (s, (encodeBody .string s).length) := by
  have hbytes : encodeBody .string s =
      littleEndian 4 (Utf8.encode s).length ++ Utf8.encode s := by
    simp only [encodeBody, Utf8.truncate_of_le h]
  have hlength : (Utf8.encode s).length % 256 ^ 4 = (Utf8.encode s).length :=
    Nat.mod_eq_of_lt (Nat.lt_of_le_of_lt h (by decide))
  have hdrop : (littleEndian 4 (Utf8.encode s).length ++ (Utf8.encode s ++ rest)).drop 4 =
      Utf8.encode s ++ rest := List.drop_left' (length_littleEndian _ _)
  have hnot : ¬maxStringLength < (Utf8.encode s).length := Nat.not_lt.2 h
  rw [hbytes, List.append_assoc, decodeBody, decodeNat_littleEndian, hlength]
  dsimp only
  rw [if_neg hnot, hdrop, List.take_left, if_neg (Nat.lt_irrefl _), Utf8.decode?_encode,
    List.length_append, length_littleEndian]

/-- A value that fits is read back from the front of any bytes that start with its own. -/
theorem decode_encode_append {v : Value} (h : v.Fits) (rest : List UInt8) :
    decode v.type (encode v ++ rest) = .ok (v.val, (encode v).length) := by
  have hbody : decodeBody v.type (encodeBody v.type v.val ++ rest) =
      .ok (v.val, (encodeBody v.type v.val).length) := by
    obtain ⟨type, val⟩ := v
    cases type with
    | u8 => simp [decodeBody, encodeBody, decodeNat_littleEndian, Except.map]
    | u16 => simp [decodeBody, encodeBody, decodeNat_littleEndian, Except.map]
    | u32 => simp [decodeBody, encodeBody, decodeNat_littleEndian, Except.map]
    | u64 => simp [decodeBody, encodeBody, decodeNat_littleEndian, Except.map]
    | bool => cases val <;> rfl
    | string => exact decodeBody_string h rest
  rw [encode, List.cons_append, decode, if_pos rfl, hbody]
  rfl

/-- A text that was read fits on the wire. -/
theorem fitsOnWire_of_decode {bytes : List UInt8} {s : String} {n : Nat}
    (h : decode .string bytes = .ok (s, n)) : FitsOnWire s := by
  unfold decode at h
  split at h
  · cases h
  · next tag body =>
    split at h
    · cases hbody : decodeBody .string body with
      | error e => rw [hbody] at h; cases h
      | ok r =>
        rw [hbody] at h
        cases h
        unfold decodeBody at hbody
        dsimp only at hbody
        split at hbody
        · cases hbody
        · next length hlength =>
          split at hbody
          · cases hbody
          · next hmax =>
            split at hbody
            · cases hbody
            · split at hbody
              · cases hbody
              · next hdecode =>
                cases hbody
                -- the length passed the check before the bytes of the text were taken
                rw [FitsOnWire, ← Utf8.decode?_eq_some_iff.1 hdecode, List.length_take]
                omega
    · cases h

end Value

/-! ## Payloads -/

namespace Payload

/-- A value that fits is read as it is written. -/
theorem read_of_unread {p : Payload} {v : Value} (h : v.Fits) {rest : List UInt8}
    (hp : p.unread = v.encode ++ rest) :
    p.read v.type = .ok (v.val, ⟨p.consumed ++ v.encode, rest⟩) := by
  rw [read, hp, Value.decode_encode_append h]
  simp [Except.map]

/-- Every string that is read fits. -/
theorem fitsOnWire_of_read {p rest : Payload} {s : String} (h : p.read .string = .ok (s, rest)) :
    FitsOnWire s := by
  unfold read at h
  cases hdecode : Value.decode .string p.unread with
  | error e => rw [hdecode] at h; cases h
  | ok r =>
    rw [hdecode] at h
    cases h
    exact Value.fitsOnWire_of_decode hdecode

/-- Values are written behind what is there, one after the other. -/
theorem writeAll_eq (p : Payload) (vs : List Value) :
    p.writeAll vs = ⟨p.consumed, p.unread ++ vs.flatMap Value.encode⟩ := by
  rw [writeAll]
  induction vs generalizing p with
  | nil => simp
  | cons v vs ih =>
    rw [List.foldl_cons, ih]
    simp [write]

end Payload

/-! ## Frames -/

theorem Coded.code_of_ofCode? {α : Type} [Coded α] {code : UInt16} {a : α}
    (h : Coded.ofCode? code = some a) : Coded.code a = code := by
  simpa using List.find?_some h

namespace Frame

/-- A frame with nothing of its payload read. -/
def unread (f : Frame) : Frame := { f with payload := .ofBytes f.payload.bytes }

theorem ofCode_code_component (c : ComponentType) : Coded.ofCode (Coded.code c) = .ok c := by
  cases c <;> rfl

/-- A frame that is written is read back, and nothing of its payload is read yet. -/
theorem decode_encode (f : Frame) : decode f.encode = .ok f.unread := by
  have hcomponent := ofNat_ofLittleEndian_toNat (Coded.code f.component)
  have hmessage := ofNat_ofLittleEndian_toNat f.message
  simp only [littleEndian] at hcomponent hmessage
  simp only [encode, littleEndian, List.cons_append, List.nil_append, decode, hcomponent, hmessage,
    ofCode_code_component]
  rfl

end Frame

end ChatServer
