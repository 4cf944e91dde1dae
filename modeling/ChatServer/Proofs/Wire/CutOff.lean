import ChatServer.Proofs.Wire.Grammar

/-!
# Payloads that arrive in part

When only the first bytes of a payload arrive, its reader finds the values that are there in full,
one after the other, and then that the bytes end. Nothing else can be wrong: wherever bytes stop
inside a form, the first error that reading runs into is that there are no more of them.
-/

namespace ChatServer

namespace Value

variable {t : ValueType} {v : t.Carrier} {form : List UInt8}

/-- A value that fits is written in its form. -/
theorem form_encode {v : Value} (h : v.Fits) : Form v.type v.val v.encode := by
  have hread := decode_encode_append h []
  obtain ⟨form, rest, hform, hbytes, hlength⟩ := decode_eq_ok_iff.1 hread
  have hrest : rest = [] := by
    have hsame := congrArg List.length hbytes
    simp only [List.append_nil, List.length_append] at hsame
    exact List.eq_nil_of_length_eq_zero (by omega)
  simp only [hrest, List.append_nil] at hbytes
  rwa [hbytes]

/-- Bytes that stop inside a form have no other fault than that they end. -/
theorem Form.fault_take (h : Form t v form) {n : Nat} (lt : n < form.length) :
    Fault t (form.take n) .unexpectedEnd := by
  cases n with
  | zero => exact .nothing
  | succ n =>
    have hshort : ∀ body : List UInt8, body.length = t.width → n + 1 < body.length + 1 →
        Fault t (t.tag :: body.take n) .unexpectedEnd := by
      intro body hwidth hn
      apply Fault.short
      rw [List.length_take]
      omega
    cases h with
    | u8 number => exact hshort _ number.width lt
    | u16 number => exact hshort _ number.width lt
    | u32 number => exact hshort _ number.width lt
    | u64 number => exact hshort _ number.width lt
    | bool b => exact hshort [b] rfl lt
    | @string cs digits number limit =>
      have hwidth := number.width
      simp only [List.length_cons, List.length_append] at lt
      show Fault .string (6 :: (digits ++ Utf8.encodeChars cs).take n) .unexpectedEnd
      by_cases hn : n < 4
      · -- the number that says how long the text is does not arrive in full
        refine Fault.short (t := .string) ?_
        simp only [List.length_take, ValueType.width]
        omega
      · -- the length arrives, so the characters are never looked at
        rw [List.take_append, List.take_of_length_le (by omega)]
        refine .cutOff number limit ?_
        simp only [List.length_take]
        omega

end Value

/-- What comes of reading several values, one after another: the values, the error at which it
stopped, and the payload as it is then. -/
structure Readout where
  values : List Value
  error : Option WireError
  rest : Payload
deriving DecidableEq

namespace Payload

/-- Reads values of some types, one after another, until a read fails. -/
def readAll (p : Payload) : List ValueType → Readout
  | [] => ⟨[], none, p⟩
  | t :: types =>
    let after := (p.access (.read t)).1
    match p.read t with
    | .ok (v, _) =>
      let more := after.readAll types
      { more with values := ⟨t, v⟩ :: more.values }
    | .error e => ⟨[], some e, after⟩

variable {p rest : Payload}

/-- A value that can be read comes before what is read of the rest. -/
theorem readAll_of_ok {v : Value} (h : p.read v.type = .ok (v.val, rest)) (types : List ValueType) :
    p.readAll (v.type :: types) =
      { rest.readAll types with values := v :: (rest.readAll types).values } := by
  simp only [readAll, access, h]

/-- The first value that cannot be read ends the reading, and nothing more is taken. -/
theorem readAll_of_error {t : ValueType} {e : WireError} (h : p.read t = .error e)
    (types : List ValueType) : p.readAll (t :: types) = ⟨[], some e, p⟩ := by
  simp only [readAll, access, h]

/-- Reading changes no byte. -/
theorem bytes_readAll (p : Payload) (types : List ValueType) :
    (p.readAll types).rest.bytes = p.bytes := by
  induction types generalizing p with
  | nil => rfl
  | cons t types ih =>
    have hafter := p.bytes_access_read t
    unfold readAll
    dsimp only
    split
    · exact (ih _).trans hafter
    · exact hafter

/-- The read of a value that does not arrive in full fails because the bytes end. -/
theorem read_of_cut {v : Value} (h : v.Fits) {n : Nat} (lt : n < v.encode.length)
    (hp : p.unread = v.encode.take n) : p.read v.type = .error .unexpectedEnd := by
  rw [read_eq_error_iff, hp]
  exact (Value.form_encode h).fault_take lt

/-- Of values that were written in full and of which `n` bytes arrive, those are read whose bytes
are all among them. -/
theorem readAll_take {vs : List Value} (fits : ∀ v ∈ vs, v.Fits) {n : Nat}
    (hp : p.unread = (vs.flatMap Value.encode).take n) :
    ∃ k ≤ vs.length,
      (∀ i < vs.length, i < k ↔ ((vs.take (i + 1)).flatMap Value.encode).length ≤ n) ∧
      p.readAll (vs.map Value.type) =
        { values := vs.take k
          error := if k < vs.length then some .unexpectedEnd else none
          rest :=
            ⟨p.consumed ++ (vs.take k).flatMap Value.encode,
              p.unread.drop ((vs.take k).flatMap Value.encode).length⟩ } := by
  induction vs generalizing p n with
  | nil => exact ⟨0, Nat.le_refl 0, fun i hi => absurd hi (Nat.not_lt_zero i), by simp [readAll]⟩
  | cons v vs ih =>
    obtain ⟨hv, fits⟩ := List.forall_mem_cons.1 fits
    rw [List.flatMap_cons] at hp
    by_cases hn : v.encode.length ≤ n
    · -- the first value is there, and what arrives of the others is read from behind it
      have hunread :
          p.unread = v.encode ++ (vs.flatMap Value.encode).take (n - v.encode.length) := by
        rw [hp, List.take_append, List.take_of_length_le hn]
      have hread := read_of_unread hv hunread
      obtain ⟨k, hk, hiff, hrest⟩ := ih fits
        (p := ⟨p.consumed ++ v.encode, (vs.flatMap Value.encode).take (n - v.encode.length)⟩) rfl
      refine ⟨k + 1, Nat.succ_le_succ hk, ?_, ?_⟩
      · intro i hi
        cases i with
        | zero => simpa using hn
        | succ i =>
          have hi := hiff i (Nat.lt_of_succ_lt_succ hi)
          simp only [List.take_succ_cons, List.flatMap_cons, List.length_append]
          omega
      · have hdrop : p.unread.drop ((v.encode ++ (vs.take k).flatMap Value.encode).length) =
            ((vs.flatMap Value.encode).take (n - v.encode.length)).drop
              ((vs.take k).flatMap Value.encode).length := by
          rw [hunread, List.length_append, ← List.drop_drop, List.drop_left]
        rw [List.map_cons, readAll_of_ok hread, hrest]
        simp only [List.take_succ_cons, List.flatMap_cons, List.length_cons, Nat.succ_lt_succ_iff,
          List.append_assoc, hdrop]
    · -- no value is there in full: all of them end behind the first one
      have hunread : p.unread = v.encode.take n := by
        rw [hp, List.take_append_of_le_length (by omega)]
      refine ⟨0, Nat.zero_le _, ?_, ?_⟩
      · intro i hi
        simp only [List.take_succ_cons, List.flatMap_cons, List.length_append]
        omega
      · rw [List.map_cons, readAll_of_error (read_of_cut hv (Nat.lt_of_not_le hn) hunread)]
        simp

theorem bytes_ofValues (vs : List Value) : (ofValues vs).bytes = vs.flatMap Value.encode := by
  rw [ofValues, writeAll_eq]
  rfl

theorem length_ofValues (vs : List Value) :
    (ofValues vs).length = (vs.flatMap Value.encode).length := by
  rw [← bytes_ofValues, bytes, List.length_append, length]

/-- Whatever values are written to a new payload and wherever its bytes are cut, reading values of
the same types gives just those, each as it was written, whose bytes are all there; of a text that
is too long, its longest beginning that fits on the wire was written. If there are more values, the
next read fails because the bytes end, and the read position stays behind the last value that was
read. No other error and no other value can come of a cut. -/
theorem cut_off_is_unexpected_end (vs : List Value) (n : Nat) :
    let received := ofBytes ((ofValues vs).bytes.take n)
    let readout := received.readAll (vs.map Value.type)
    (∃ k ≤ vs.length,
      (∀ i < vs.length, i < k ↔ (ofValues (vs.take (i + 1))).length ≤ n) ∧
      readout.values = (vs.take k).map Value.trimmed ∧
      readout.error = (if k < vs.length then some .unexpectedEnd else none) ∧
      readout.rest.bytes = received.bytes ∧
      readout.rest.cursor = (ofValues (vs.take k)).length) ∧
    (∀ v : Value, v.type ≠ .string → v.trimmed = v) ∧
    ∀ s, ∃ t, Value.trimmed ⟨.string, s⟩ = ⟨.string, t⟩ ∧
      Utf8.IsLongestBeginning maxStringLength s t := by
  intro received readout
  refine ⟨?_, fun _ => Value.trimmed_of_ne, fun s =>
    ⟨Utf8.cut maxStringLength s, rfl, Utf8.isLongestBeginning_cut maxStringLength s⟩⟩
  have hfits : ∀ v ∈ vs.map Value.trimmed, v.Fits := by
    intro v hv
    obtain ⟨u, -, rfl⟩ := List.mem_map.1 hv
    exact u.fits_trimmed
  -- what was received is a beginning of the encoded cut values
  have hunread : received.unread = ((vs.map Value.trimmed).flatMap Value.encode).take n := by
    rw [Value.flatMap_encode_trimmed, ← bytes_ofValues]
    rfl
  obtain ⟨k, hk, hiff, hreadout⟩ := readAll_take hfits hunread
  have hreads : readout = received.readAll ((vs.map Value.trimmed).map Value.type) := by
    rw [List.map_map]
    exact congrArg received.readAll (List.map_congr_left fun v _ => v.type_trimmed.symm)
  simp only [List.length_map, ← List.map_take, Value.flatMap_encode_trimmed] at hk hiff hreadout
  refine ⟨k, hk, ?_, ?_, ?_, bytes_readAll received _, ?_⟩
  · intro i hi
    rw [length_ofValues]
    exact hiff i hi
  · rw [hreads, hreadout]
  · rw [hreads, hreadout]
  · rw [hreads, hreadout, length_ofValues]
    rfl

/-- Of a flag and a text the last byte is missing, which is inside a character. -/
example :
    let sent := ofValues [⟨.bool, true⟩, ⟨.string, "é"⟩]
    (ofBytes (sent.bytes.take 8)).readAll [.bool, .string] =
      ⟨[⟨.bool, true⟩], some .unexpectedEnd, ⟨[5, 1], [6, 2, 0, 0, 0, 0xC3]⟩⟩ := by
  decide +kernel

end Payload

end ChatServer
