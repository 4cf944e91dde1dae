import ChatServer.Proofs.Wire.Grammar

/-!
# Frames and their bytes

Bytes are those of a frame if there are enough of them for a header and the header starts with the
code of a component. Such bytes and the frames of which nothing was read correspond one to one: each
of `encode` and `decode` undoes the other. Reading a payload does not change what its frame is
encoded as.
-/

namespace ChatServer

/-! ## Codes -/

/-- Two bytes are the code that they stand for. -/
theorem littleEndian_toNat_ofNat (low high : UInt8) :
    littleEndian 2 (UInt16.ofNat (ofLittleEndian [low, high])).toNat = [low, high] := by
  have hnumber :
      (UInt16.ofNat (ofLittleEndian [low, high])).toNat = ofLittleEndian [low, high] := by
    apply UInt16.toNat_ofNat_of_lt
    have hlow := low.toNat_lt
    have hhigh := high.toNat_lt
    simp only [ofLittleEndian, UInt16.size]
    omega
  rw [hnumber]
  exact littleEndian_ofLittleEndian [low, high]

/-- A code that no component has is answered by the error that names it. -/
theorem ComponentType.ofCode_of_unknown {code : UInt16}
    (h : ∀ c : ComponentType, Coded.code c ≠ code) :
    Coded.ofCode (α := ComponentType) code = .error (.unknownComponent code) := by
  have hnone : Coded.ofCode? (α := ComponentType) code = none := by
    refine List.find?_eq_none.2 fun c _ => ?_
    simpa using h c
  rw [Coded.ofCode, hnone]
  rfl

namespace Frame

variable {bytes : List UInt8} {code : UInt16} {f : Frame} {e : WireError}

/-! ## Headers -/

/-- The bytes are enough for a header, which starts with a code. -/
structure HasHeader (code : UInt16) (bytes : List UInt8) : Prop where
  enough : 4 ≤ bytes.length
  number : IsNumber 2 code.toNat (bytes.take 2)

/-- Four bytes are enough for a header. -/
theorem exists_hasHeader (h : 4 ≤ bytes.length) : ∃ code, HasHeader code bytes := by
  have htwo : 2 ≤ bytes.length := Nat.le_trans (by decide) h
  obtain ⟨n, digits, rest, rfl, hnumber⟩ := exists_isNumber htwo
  have hcode : (UInt16.ofNat n).toNat = n := UInt16.toNat_ofNat_of_lt hnumber.lt
  refine ⟨UInt16.ofNat n, h, ?_⟩
  rwa [List.take_left' hnumber.width, hcode]

/-- Behind the code of the component come the message code and the payload. -/
theorem decode_of_hasHeader (h : HasHeader code bytes) :
    ∃ message body, bytes = littleEndian 2 code.toNat ++ littleEndian 2 message.toNat ++ body ∧
      decode bytes =
        (Coded.ofCode code).map fun component => ⟨component, message, .ofBytes body⟩ := by
  obtain ⟨c₀, c₁, m₀, m₁, body, rfl⟩ :
      ∃ c₀ c₁ m₀ m₁ body, bytes = c₀ :: c₁ :: m₀ :: m₁ :: body := by
    match bytes, h.enough with
    | c₀ :: c₁ :: m₀ :: m₁ :: body, _ => exact ⟨c₀, c₁, m₀, m₁, body, rfl⟩
  have hhead : littleEndian 2 code.toNat = [c₀, c₁] := h.number.littleEndian_eq
  have hcode : UInt16.ofNat (ofLittleEndian [c₀, c₁]) = code := by
    rw [← hhead]
    exact ofNat_ofLittleEndian_toNat code
  refine ⟨UInt16.ofNat (ofLittleEndian [m₀, m₁]), body, ?_, ?_⟩
  · rw [hhead, littleEndian_toNat_ofNat]
    rfl
  · rw [decode, hcode]

/-- What is wrong with bytes that are not those of a frame. -/
inductive Fault : List UInt8 → WireError → Prop
  | short {bytes : List UInt8} (lt : bytes.length < 4) :
    Fault bytes (.frameTooShort bytes.length)
  | unknown {code : UInt16} {bytes : List UInt8} (header : HasHeader code bytes)
    (ne : ∀ c : ComponentType, Coded.code c ≠ code) : Fault bytes (.unknownComponent code)

/-- All bytes start with the header of a component or have a fault. -/
theorem header_or_fault (bytes : List UInt8) :
    (∃ c : ComponentType, HasHeader (Coded.code c) bytes) ∨ ∃ e, Fault bytes e := by
  by_cases henough : 4 ≤ bytes.length
  · obtain ⟨code, hheader⟩ := exists_hasHeader henough
    by_cases hcode : ∃ c : ComponentType, Coded.code c = code
    · obtain ⟨c, rfl⟩ := hcode
      exact .inl ⟨c, hheader⟩
    · exact .inr ⟨_, .unknown hheader (not_exists.1 hcode)⟩
  · exact .inr ⟨_, .short (Nat.lt_of_not_le henough)⟩

/-! ## Both directions -/

/-- Bytes with the code of a component are those of a frame. -/
theorem decode_of_component {c : ComponentType} (h : HasHeader (Coded.code c) bytes) :
    ∃ f, decode bytes = .ok f ∧ f.encode = bytes := by
  obtain ⟨message, body, hbytes, hdecode⟩ := decode_of_hasHeader h
  refine ⟨⟨c, message, .ofBytes body⟩, ?_, hbytes.symm⟩
  rw [hdecode, ofCode_code_component]
  rfl

/-- Bytes with a fault are answered by its error. -/
theorem decode_of_fault (h : Fault bytes e) : decode bytes = .error e := by
  cases h with
  | short lt =>
    match bytes, lt with
    | [], _ => rfl
    | [_], _ => rfl
    | [_, _], _ => rfl
    | [_, _, _], _ => rfl
  | unknown header ne =>
    obtain ⟨message, body, -, hdecode⟩ := decode_of_hasHeader header
    rw [hdecode, ComponentType.ofCode_of_unknown ne]
    rfl

/-- Bytes are decoded as a frame exactly if their header starts with the code of a component. -/
theorem decode_eq_ok_iff :
    (∃ f, decode bytes = .ok f) ↔ ∃ c : ComponentType, HasHeader (Coded.code c) bytes := by
  constructor
  · rintro ⟨f, hf⟩
    rcases header_or_fault bytes with hheader | ⟨e, hfault⟩
    · exact hheader
    · rw [decode_of_fault hfault] at hf
      cases hf
  · rintro ⟨c, hheader⟩
    obtain ⟨f, hf, -⟩ := decode_of_component hheader
    exact ⟨f, hf⟩

/-- Bytes are answered by an error exactly if they have its fault. -/
theorem decode_eq_error_iff : decode bytes = .error e ↔ Fault bytes e := by
  constructor
  · intro he
    rcases header_or_fault bytes with ⟨c, hheader⟩ | ⟨e', hfault⟩
    · obtain ⟨f, hf, -⟩ := decode_of_component hheader
      rw [hf] at he
      cases he
    · rw [decode_of_fault hfault] at he
      cases he
      exact hfault
  · exact decode_of_fault

/-- A decoded frame is encoded as the bytes that it was decoded from. -/
theorem encode_of_decode (h : decode bytes = .ok f) : f.encode = bytes := by
  obtain ⟨c, hheader⟩ := decode_eq_ok_iff.1 ⟨f, h⟩
  obtain ⟨g, hg, hencode⟩ := decode_of_component hheader
  rw [hg] at h
  cases h
  exact hencode

/-- Encoding forgets the read position of the payload and nothing else. -/
theorem unread_eq_of_encode_eq {f g : Frame} (h : f.encode = g.encode) : f.unread = g.unread := by
  have hdecode : Except.ok (ε := WireError) f.unread = .ok g.unread := by
    rw [← decode_encode f, ← decode_encode g, h]
  exact Except.ok.inj hdecode

/-! ## Reading a payload -/

/-- The frame after values of some types were to be read from its payload. -/
def readAll (f : Frame) (types : List ValueType) : Frame :=
  { f with payload := f.payload.accessAll (types.map .read) }

/-- A frame has the same bytes whatever is read from it. -/
theorem encode_readAll (f : Frame) (types : List ValueType) :
    (f.readAll types).encode = f.encode := by
  have hbytes : (f.payload.accessAll (types.map .read)).bytes = f.payload.bytes := by
    have hwritten : Access.written (types.map .read) = [] := by
      simp [Access.written]
    rw [Payload.bytes_accessAll, hwritten]
    exact List.append_nil _
  simp only [encode, readAll, hbytes]

/-- Frames and bytes correspond. The bytes of a frame, wherever the read position of its payload is,
are decoded as a frame of the same component with the same message and payload bytes, none of them
read. Bytes are decoded exactly if there are at least four and the first two are the code of a
component; otherwise the error says how few there are, or which code is not known. What was decoded
is encoded as the same bytes again, also after reads of its payload, whether they succeeded or not.
So frames with the same bytes differ in what was read of their payloads at most. -/
theorem frames_correspond_to_bytes :
    (∀ f : Frame, ∃ g, decode f.encode = .ok g ∧ g.component = f.component ∧
      g.message = f.message ∧ g.payload.bytes = f.payload.bytes ∧ g.payload.cursor = 0) ∧
    (∀ bytes, (∃ f, decode bytes = .ok f) ↔ ∃ c : ComponentType, HasHeader (Coded.code c) bytes) ∧
    (∀ bytes e, decode bytes = .error e ↔ Fault bytes e) ∧
    (∀ bytes f, decode bytes = .ok f → f.encode = bytes ∧
      ∀ types, (f.readAll types).encode = bytes) ∧
    ∀ f g : Frame, f.encode = g.encode → f.component = g.component ∧ f.message = g.message ∧
      f.payload.bytes = g.payload.bytes := by
  refine ⟨fun f => ⟨f.unread, decode_encode f, rfl, rfl, rfl, rfl⟩, fun _ => decode_eq_ok_iff,
    fun _ _ => decode_eq_error_iff, ?_, ?_⟩
  · intro bytes f hf
    have hencode := encode_of_decode hf
    exact ⟨hencode, fun types => (f.encode_readAll types).trans hencode⟩
  · intro f g h
    obtain ⟨hcomponent, hmessage, hpayload⟩ := Frame.mk.inj (unread_eq_of_encode_eq h)
    -- nothing was read of either payload, so their unread bytes are all bytes
    exact ⟨hcomponent, hmessage, (Payload.mk.inj hpayload).2⟩

end Frame

end ChatServer
