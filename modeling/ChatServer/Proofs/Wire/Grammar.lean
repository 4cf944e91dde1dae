import ChatServer.Proofs.Wire.Queue
import Mathlib.Data.Nat.Digits.Defs

/-!
# What can be read

`Value.Form` is the grammar of values: for each type, the bytes that are a value of it.
`Value.Fault` lists what else unread bytes can start with, one case per error, in the order in which
reading runs into them. Unread bytes start with a form or have a fault, reading follows both, and so
it accepts exactly the grammar. Bytes that anyone may have sent are covered: nothing is assumed of a
payload.
-/

namespace ChatServer

/-! ## Numbers -/

/-- The digits are those of a number to the base 256 in full width, the lowest first. -/
structure IsNumber (width n : Nat) (digits : List UInt8) : Prop where
  width : digits.length = width
  value : Nat.ofDigits 256 (digits.map UInt8.toNat) = n

/-- Bytes are the digits of a number to the base 256, the lowest first. -/
theorem ofLittleEndian_eq_ofDigits (bytes : List UInt8) :
    ofLittleEndian bytes = Nat.ofDigits 256 (bytes.map UInt8.toNat) := by
  induction bytes with
  | nil => rfl
  | cons b bytes ih => rw [ofLittleEndian, ih, List.map_cons, Nat.ofDigits_cons]

/-- A number of some width is written with the digits that it was read from. -/
theorem littleEndian_ofLittleEndian (bytes : List UInt8) :
    littleEndian bytes.length (ofLittleEndian bytes) = bytes := by
  induction bytes with
  | nil => rfl
  | cons b bytes ih =>
    -- the first byte is the lowest digit, the other bytes are what remains without it
    have hdigit : UInt8.ofNat (b.toNat + 256 * ofLittleEndian bytes) = b := by
      rw [← UInt8.toNat_inj, UInt8.toNat_ofNat']
      have hb := b.toNat_lt
      omega
    have hrest : (b.toNat + 256 * ofLittleEndian bytes) / 256 = ofLittleEndian bytes := by
      have hb := b.toNat_lt
      omega
    rw [List.length_cons, littleEndian, ofLittleEndian, hdigit, hrest, ih]

namespace IsNumber

variable {width n : Nat} {digits : List UInt8}

/-- A number has one form of a given width. -/
theorem littleEndian_eq (h : IsNumber width n digits) : littleEndian width n = digits := by
  rw [← h.width, ← h.value, ← ofLittleEndian_eq_ofDigits, littleEndian_ofLittleEndian]

/-- A number of some width is less than what does not fit into that many bytes. -/
theorem lt (h : IsNumber width n digits) : n < Nat.pow 256 width := by
  rw [← h.width, ← h.value, ← List.length_map]
  refine Nat.ofDigits_lt_base_pow_length (by decide) fun digit hdigit => ?_
  obtain ⟨b, -, rfl⟩ := List.mem_map.1 hdigit
  exact b.toNat_lt

theorem decodeNat (h : IsNumber width n digits) (rest : List UInt8) :
    Value.decodeNat width (digits ++ rest) = .ok n := by
  have hmod : n % Nat.pow 256 width = n := Nat.mod_eq_of_lt h.lt
  rw [← h.littleEndian_eq, Value.decodeNat_littleEndian]
  exact congrArg Except.ok hmod

end IsNumber

/-- With enough bytes there is a number in front. -/
theorem exists_isNumber {width : Nat} {body : List UInt8} (h : width ≤ body.length) :
    ∃ n digits rest, body = digits ++ rest ∧ IsNumber width n digits :=
  ⟨_, body.take width, body.drop width, (List.take_append_drop width body).symm,
    List.length_take_of_le h, rfl⟩

/-! ## The grammar of values -/

/-- The number of bytes that must follow the tag: those of a number or a flag, or those of the
number that says how long a text is. -/
def ValueType.width : ValueType → Nat
  | u8 => 1
  | u16 => 2
  | u32 => 4
  | u64 => 8
  | bool => 1
  | string => 4

namespace Value

/-- The bytes of a value: its tag, and then a number in full width, a byte that is not zero if a
flag is set, or the number of bytes of a text and the bytes of its characters. -/
inductive Form : (t : ValueType) → t.Carrier → List UInt8 → Prop
  | u8 {n : UInt8} {digits : List UInt8} (number : IsNumber 1 n.toNat digits) :
    Form .u8 n (1 :: digits)
  | u16 {n : UInt16} {digits : List UInt8} (number : IsNumber 2 n.toNat digits) :
    Form .u16 n (2 :: digits)
  | u32 {n : UInt32} {digits : List UInt8} (number : IsNumber 4 n.toNat digits) :
    Form .u32 n (3 :: digits)
  | u64 {n : UInt64} {digits : List UInt8} (number : IsNumber 8 n.toNat digits) :
    Form .u64 n (4 :: digits)
  | bool (b : UInt8) : Form .bool (decide (b ≠ 0)) [5, b]
  | string {cs : List Char} {digits : List UInt8}
    (number : IsNumber 4 (Utf8.encodeChars cs).length digits)
    (limit : (Utf8.encodeChars cs).length ≤ 65536) :
    Form .string (String.ofList cs) (6 :: (digits ++ Utf8.encodeChars cs))

/-- What is wrong with bytes that do not start with a value of a type. Each case has the bytes that
reading finds in order before it runs into the error. -/
inductive Fault : ValueType → List UInt8 → WireError → Prop
  | nothing {t : ValueType} : Fault t [] .unexpectedEnd
  | mistyped {t : ValueType} {tag : UInt8} {body : List UInt8} (ne : tag ≠ t.tag) :
    Fault t (tag :: body) (.typeMismatch t tag)
  | short {t : ValueType} {body : List UInt8} (lt : body.length < t.width) :
    Fault t (t.tag :: body) .unexpectedEnd
  | tooLong {n : Nat} {digits rest : List UInt8} (number : IsNumber 4 n digits)
    (lt : 65536 < n) : Fault .string (6 :: (digits ++ rest)) (.stringTooLong n)
  | cutOff {n : Nat} {digits rest : List UInt8} (number : IsNumber 4 n digits)
    (limit : n ≤ 65536) (lt : rest.length < n) :
    Fault .string (6 :: (digits ++ rest)) .unexpectedEnd
  | notText {digits text rest : List UInt8} (number : IsNumber 4 text.length digits)
    (limit : text.length ≤ 65536) (ne : ∀ cs, text ≠ Utf8.encodeChars cs) :
    Fault .string (6 :: (digits ++ (text ++ rest))) .invalidUtf8

/-- What writing makes of the bytes that a value was read from: they stay as they are, but a flag
that is set is written as one. -/
def rewritten : ValueType → List UInt8 → List UInt8
  | .bool, [tag, b] => [tag, if b = 0 then 0 else 1]
  | _, form => form

variable {t : ValueType} {v : t.Carrier} {bytes form rest : List UInt8} {e : WireError}

/-- All bytes start with a form or have a fault. -/
theorem form_or_fault (t : ValueType) (bytes : List UInt8) :
    (∃ v form rest, bytes = form ++ rest ∧ Form t v form) ∨ ∃ e, Fault t bytes e := by
  cases bytes with
  | nil => exact .inr ⟨_, .nothing⟩
  | cons tag body =>
    by_cases htag : tag = t.tag
    swap
    · exact .inr ⟨_, .mistyped htag⟩
    subst htag
    by_cases hwidth : body.length < t.width
    · exact .inr ⟨_, .short hwidth⟩
    obtain ⟨n, digits, rest, rfl, hnumber⟩ := exists_isNumber (Nat.le_of_not_lt hwidth)
    have hlt := hnumber.lt
    cases t with
    | u8 =>
      have hn : (UInt8.ofNat n).toNat = n := UInt8.toNat_ofNat_of_lt hlt
      exact .inl ⟨UInt8.ofNat n, 1 :: digits, rest, rfl, .u8 (hn.symm ▸ hnumber)⟩
    | u16 =>
      have hn : (UInt16.ofNat n).toNat = n := UInt16.toNat_ofNat_of_lt hlt
      exact .inl ⟨UInt16.ofNat n, 2 :: digits, rest, rfl, .u16 (hn.symm ▸ hnumber)⟩
    | u32 =>
      have hn : (UInt32.ofNat n).toNat = n := UInt32.toNat_ofNat_of_lt hlt
      exact .inl ⟨UInt32.ofNat n, 3 :: digits, rest, rfl, .u32 (hn.symm ▸ hnumber)⟩
    | u64 =>
      have hn : (UInt64.ofNat n).toNat = n := UInt64.toNat_ofNat_of_lt hlt
      exact .inl ⟨UInt64.ofNat n, 4 :: digits, rest, rfl, .u64 (hn.symm ▸ hnumber)⟩
    | bool =>
      obtain ⟨b, rfl⟩ := List.length_eq_one_iff.1 hnumber.width
      exact .inl ⟨_, [5, b], rest, rfl, .bool b⟩
    | string =>
      by_cases hlimit : 65536 < n
      · exact .inr ⟨_, .tooLong hnumber hlimit⟩
      by_cases hshort : rest.length < n
      · exact .inr ⟨_, .cutOff hnumber (Nat.le_of_not_lt hlimit) hshort⟩
      -- the bytes of the text are all there, and they are or are not those of some characters
      obtain ⟨text, tail, rfl, rfl⟩ : ∃ text tail, rest = text ++ tail ∧ n = text.length :=
        ⟨rest.take n, rest.drop n, (List.take_append_drop n rest).symm,
          (List.length_take_of_le (Nat.le_of_not_lt hshort)).symm⟩
      by_cases htext : ∃ cs, text = Utf8.encodeChars cs
      · obtain ⟨cs, rfl⟩ := htext
        refine .inl ⟨_, 6 :: (digits ++ Utf8.encodeChars cs), tail, ?_,
          .string hnumber (Nat.le_of_not_lt hlimit)⟩
        rw [List.cons_append, List.append_assoc]
        rfl
      · exact .inr ⟨_, .notText hnumber (Nat.le_of_not_lt hlimit)
          fun cs heq => htext ⟨cs, heq⟩⟩

/-! ## Values -/

/-- Every value but a truth value is written as it was read. -/
theorem rewritten_of_ne (h : t ≠ .bool) (form : List UInt8) : rewritten t form = form := by
  cases t <;> first | rfl | exact absurd rfl h

/-- A value that has a form fits on the wire. -/
theorem Form.fits (h : Form t v form) : Fits ⟨t, v⟩ := by
  cases h with
  | string number limit =>
    show (Utf8.encode _).length ≤ maxStringLength
    rw [Utf8.encode_ofList]
    exact limit
  | _ => trivial

/-- A value is written as the bytes that it was read from, rewritten. -/
theorem Form.encode_eq (h : Form t v form) : encode ⟨t, v⟩ = rewritten t form := by
  have hfits := h.fits
  cases h with
  | u8 number => exact congrArg (1 :: ·) number.littleEndian_eq
  | u16 number => exact congrArg (2 :: ·) number.littleEndian_eq
  | u32 number => exact congrArg (3 :: ·) number.littleEndian_eq
  | u64 number => exact congrArg (4 :: ·) number.littleEndian_eq
  | bool b => by_cases hb : b = 0 <;> simp [encode, encodeBody, rewritten, ValueType.tag, hb]
  | @string cs digits number limit =>
    have hbytes : Utf8.truncate maxStringLength (String.ofList cs) = Utf8.encodeChars cs :=
      (Utf8.truncate_of_le hfits).trans (Utf8.encode_ofList cs)
    simp only [encode, encodeBody, hbytes, number.littleEndian_eq]
    rfl

/-- What has the form of a value is read as this value. -/
theorem decode_of_form (h : Form t v form) (rest : List UInt8) :
    decode t (form ++ rest) = .ok (v, form.length) := by
  by_cases hbool : t = .bool
  · subst hbool
    -- writing has forgotten which byte set the flag, so this cannot follow from reading back
    obtain _ | _ | _ | _ | b | _ := h
    have hflag : (b.toNat != 0) = decide (b ≠ 0) := by
      rw [Bool.eq_iff_iff, bne_iff_ne, decide_eq_true_iff, Ne, Ne, ← UInt8.toNat_inj,
        UInt8.toNat_zero]
    rw [← hflag]
    rfl
  · have hform := h.encode_eq
    rw [rewritten_of_ne hbool] at hform
    rw [← hform]
    exact decode_encode_append h.fits rest

/-! ## Errors -/

/-- Bytes that are too few for a number end unexpectedly. -/
theorem decodeNat_of_short {width : Nat} {body : List UInt8} (h : body.length < width) :
    decodeNat width body = .error .unexpectedEnd := by
  have htake : (body.take width).length < width := by
    rw [List.length_take]
    omega
  rw [decodeNat, if_pos htake]

theorem decode_of_decodeBody_error {body : List UInt8} (h : decodeBody t body = .error e) :
    decode t (t.tag :: body) = .error e := by
  rw [decode, if_pos rfl, h]
  rfl

/-- A text is read once the number of its bytes is known. -/
theorem decodeBody_string_of_isNumber {n : Nat} {digits : List UInt8}
    (h : IsNumber 4 n digits) (rest : List UInt8) :
    decodeBody .string (digits ++ rest) =
      if 65536 < n then .error (.stringTooLong n)
      else if (rest.take n).length < n then .error .unexpectedEnd
      else ((Utf8.decode? (rest.take n)).elim (.error .invalidUtf8) fun s => .ok (s, 4 + n)) := by
  have hdrop : (digits ++ rest).drop 4 = rest := List.drop_left' h.width
  rw [decodeBody, h.decodeNat]
  dsimp only
  rw [hdrop, maxStringLength]
  cases Utf8.decode? (rest.take n) <;> rfl

/-- Bytes with a fault are answered by its error. -/
theorem decode_of_fault (h : Fault t bytes e) : decode t bytes = .error e := by
  cases h with
  | nothing => rfl
  | mistyped ne => exact if_neg ne
  | short lt =>
    apply decode_of_decodeBody_error
    -- numbers, flags and the lengths of texts are all read by their widths
    have hshort := decodeNat_of_short lt
    cases t <;> simp only [ValueType.width] at hshort <;> simp only [decodeBody, hshort, Except.map]
  | tooLong number lt =>
    apply decode_of_decodeBody_error
    rw [decodeBody_string_of_isNumber number, if_pos lt]
  | @cutOff n digits rest number limit lt =>
    have hlength : (rest.take n).length < n := by
      rw [List.length_take]
      omega
    apply decode_of_decodeBody_error
    rw [decodeBody_string_of_isNumber number, if_neg (Nat.not_lt.2 limit), if_pos hlength]
  | @notText digits text rest number limit ne =>
    have hdecode : Utf8.decode? text = none := by
      rw [Option.eq_none_iff_forall_ne_some]
      intro s hs
      exact ne s.toList ((Utf8.decode?_eq_some_iff.1 hs).trans (Utf8.encode_eq_encodeChars s))
    apply decode_of_decodeBody_error
    rw [decodeBody_string_of_isNumber number, if_neg (Nat.not_lt.2 limit), List.take_left,
      if_neg (Nat.lt_irrefl _), hdecode]
    rfl

/-! ## Reading accepts the grammar -/

/-- A value is read exactly where the bytes begin with a form of it. -/
theorem decode_eq_ok_iff {n : Nat} :
    decode t bytes = .ok (v, n) ↔ ∃ form rest, Form t v form ∧ bytes = form ++ rest ∧
      n = form.length := by
  constructor
  · intro h
    rcases form_or_fault t bytes with ⟨u, form, rest, rfl, hform⟩ | ⟨e, hfault⟩
    · rw [decode_of_form hform] at h
      cases h
      exact ⟨form, rest, hform, rfl, rfl⟩
    · rw [decode_of_fault hfault] at h
      cases h
  · rintro ⟨form, rest, hform, rfl, rfl⟩
    exact decode_of_form hform rest

/-- An error is the answer exactly where the bytes have the fault. -/
theorem decode_eq_error_iff : decode t bytes = .error e ↔ Fault t bytes e := by
  constructor
  · intro h
    rcases form_or_fault t bytes with ⟨u, form, rest, rfl, hform⟩ | ⟨e', hfault⟩
    · rw [decode_of_form hform] at h
      cases h
    · rw [decode_of_fault hfault] at h
      cases h
      exact hfault
  · exact decode_of_fault

end Value

namespace Payload

variable {p rest : Payload} {t : ValueType} {v : t.Carrier} {e : WireError}

/-- A read takes the form of a value off the front of what is unread. -/
theorem read_eq_ok_iff :
    p.read t = .ok (v, rest) ↔ ∃ form, Value.Form t v form ∧ p.unread = form ++ rest.unread ∧
      rest.consumed = p.consumed ++ form := by
  constructor
  · intro h
    unfold read at h
    cases hdecode : Value.decode t p.unread with
    | error e => rw [hdecode] at h; cases h
    | ok r =>
      obtain ⟨form, tail, hform, hunread, hlength⟩ := Value.decode_eq_ok_iff.1 hdecode
      rw [hdecode] at h
      cases h
      refine ⟨form, hform, ?_, ?_⟩
      · rw [hunread, hlength, List.drop_left]
      · rw [hunread, hlength, List.take_left]
  · rintro ⟨form, hform, hunread, hconsumed⟩
    rw [read, hunread, Value.decode_of_form hform]
    obtain ⟨consumed, unread⟩ := rest
    cases hconsumed
    simp [Except.map]

/-- A read fails exactly where what is unread has a fault. -/
theorem read_eq_error_iff : p.read t = .error e ↔ Value.Fault t p.unread e := by
  rw [← Value.decode_eq_error_iff, read]
  cases Value.decode t p.unread <;> simp [Except.map]

theorem access_of_read_error (h : p.read t = .error e) :
    p.access (.read t) = (p, some (.error e)) := by
  rw [access, h]

theorem bytes_write (p : Payload) (v : Value) :
    (p.access (.write v)).1.bytes = p.bytes ++ v.encode :=
  (List.append_assoc _ _ _).symm

/-- Reading only moves the read position, and only forward. -/
theorem cursor_le_cursor_read (p : Payload) (t : ValueType) :
    p.cursor ≤ (p.access (.read t)).1.cursor := by
  cases hread : p.read t with
  | error e => rw [access_of_read_error hread]
  | ok r =>
    obtain ⟨form, -, -, hconsumed⟩ := read_eq_ok_iff.1 hread
    have haccess : (p.access (.read t)).1 = r.2 := by
      rw [access, hread]
    rw [haccess, cursor, cursor, hconsumed, List.length_append]
    exact Nat.le_add_right _ _

/-- Reading accepts exactly the grammar. A read succeeds where the unread bytes start with a form of
the type, gives the value that the form is of, and moves past it; written to an empty payload, the
value has the bytes of that form again, up to the byte of a flag. All other reads fail with the
first thing that is wrong and change nothing. However a payload is written and read, its position
stays within its bytes and splits them, reads change no byte, and writes do not move it. -/
theorem reads_accept_the_grammar (p : Payload) (t : ValueType) (accesses : List Access) :
    (∀ v rest, p.read t = .ok (v, rest) ↔ ∃ form, Value.Form t v form ∧
      p.unread = form ++ rest.unread ∧ rest.consumed = p.consumed ++ form) ∧
    (∀ v form, Value.Form t v form → (empty.write t v).bytes = Value.rewritten t form) ∧
    (∀ e, p.read t = .error e ↔ Value.Fault t p.unread e) ∧
    (∀ e, p.read t = .error e → p.access (.read t) = (p, some (.error e))) ∧
    let q := p.accessAll accesses
    q.cursor ≤ q.length ∧ q.remaining = q.length - q.cursor ∧
    q.unread = q.bytes.drop q.cursor ∧
    (∀ t, (q.access (.read t)).1.bytes = q.bytes ∧
      q.cursor ≤ (q.access (.read t)).1.cursor) ∧
    ∀ v, (q.access (.write v)).1.cursor = q.cursor ∧
      (q.access (.write v)).1.bytes = q.bytes ++ v.encode := by
  refine ⟨fun _ _ => read_eq_ok_iff, ?_, fun _ => read_eq_error_iff,
    fun _ => access_of_read_error, ?_⟩
  · intro v form hform
    exact hform.encode_eq
  intro q
  have hsplit : q.length = q.cursor + q.remaining := rfl
  have hread : ∀ t, (q.access (.read t)).1.bytes = q.bytes := by
    intro t
    rw [bytes_access]
    exact List.append_nil _
  refine ⟨?_, ?_, List.drop_left.symm, fun t => ⟨hread t, q.cursor_le_cursor_read t⟩,
    fun v => ⟨rfl, q.bytes_write v⟩⟩
  · rw [hsplit]
    exact Nat.le_add_right _ _
  · rw [hsplit, Nat.add_sub_cancel_left]

/-- Of bytes that are no text, some encode a character with more bytes than it needs, and some
encode what is no character. -/
example :
    (ofBytes [6, 2, 0, 0, 0, 0xC0, 0x80]).read .string = .error .invalidUtf8 ∧
    (ofBytes [6, 3, 0, 0, 0, 0xED, 0xA0, 0x80]).read .string = .error .invalidUtf8 := by
  decide +kernel

end Payload

end ChatServer
