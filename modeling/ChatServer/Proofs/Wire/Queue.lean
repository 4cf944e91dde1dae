import ChatServer.Proofs.Wire.Truncation

/-!
# Payloads as queues of values

Whoever reads and writes a payload cannot tell it from a queue of typed values: what is written
waits at the end, a read takes the value in front if it has the type that is asked for, and
otherwise changes nothing. `Represents` ties the unread bytes to the values that wait, every access
keeps it, and so do all accesses one after another. Received bytes wait in full, whatever was read
of them by the one who wrote them.
-/

namespace ChatServer

/-- Something done to a payload: a value is written, or one of a type is to be read. -/
inductive Access where
  | write (v : Value)
  | read (t : ValueType)
deriving DecidableEq

/-- What is seen of an access: what a read gave, and how many bytes are left to be read. -/
structure Sight where
  result : Option (Except WireError Value)
  remaining : Nat

namespace Payload

/-- Does something to a payload, which a read that fails leaves as it is. -/
def access (p : Payload) : Access → Payload × Option (Except WireError Value)
  | .write v => (p.write v.type v.val, none)
  | .read t =>
    match p.read t with
    | .ok (x, rest) => (rest, some (.ok ⟨t, x⟩))
    | .error e => (p, some (.error e))

/-- The payload after some accesses. -/
def accessAll (p : Payload) (accesses : List Access) : Payload :=
  accesses.foldl (fun p a => (p.access a).1) p

/-- What is seen of some accesses, one after another. -/
def sights (p : Payload) : List Access → List Sight
  | [] => []
  | a :: accesses => ⟨(p.access a).2, (p.access a).1.remaining⟩ :: (p.access a).1.sights accesses

end Payload

/-- A value as it is when it is read: of a text that is too long, what fits. -/
def Value.trimmed : Value → Value
  | ⟨.string, s⟩ => ⟨.string, Utf8.cut maxStringLength s⟩
  | v => v

/-- The values that wait to be read, the next one in front. -/
structure ValueQueue where
  waiting : List Value

namespace ValueQueue

/-- The number of bytes that the waiting values have. -/
def size (q : ValueQueue) : Nat := (q.waiting.map fun v => v.encode.length).sum

/-- Does something to a queue. -/
def access (q : ValueQueue) : Access → ValueQueue × Option (Except WireError Value)
  | .write v => (⟨q.waiting ++ [v.trimmed]⟩, none)
  | .read t =>
    match q.waiting with
    | [] => (q, some (.error .unexpectedEnd))
    | v :: rest =>
      if v.type = t then (⟨rest⟩, some (.ok v))
      else (q, some (.error (.typeMismatch t v.type.tag)))

/-- What is seen of some accesses, one after another. -/
def sights (q : ValueQueue) : List Access → List Sight
  | [] => []
  | a :: accesses => ⟨(q.access a).2, (q.access a).1.size⟩ :: (q.access a).1.sights accesses

end ValueQueue

/-- All values that some accesses write. -/
def Access.written (accesses : List Access) : List Value :=
  accesses.filterMap fun
    | .write v => some v.trimmed
    | .read _ => none

/-! ## Values in front of a payload -/

/-- Types are told apart by their tags. -/
theorem ValueType.tag_injective : Function.Injective tag := by
  intro t t' h
  cases t <;> cases t' <;> first | rfl | cases h

namespace Value

/-- A value is written as what is left of it when it is cut to fit. -/
theorem encode_trimmed (v : Value) : v.trimmed.encode = v.encode := by
  obtain ⟨type, val⟩ := v
  cases type with
  | string =>
    -- what fits is not cut again
    have hcut := Utf8.truncate_of_le (Utf8.isLongestBeginning_cut maxStringLength val).length_le
    simp only [trimmed, encode, encodeBody, hcut, Utf8.truncate_eq maxStringLength val]
  | _ => rfl

/-- What is left fits. -/
theorem fits_trimmed (v : Value) : v.trimmed.Fits := by
  obtain ⟨type, val⟩ := v
  cases type with
  | string => exact (Utf8.isLongestBeginning_cut maxStringLength val).length_le
  | _ => trivial

theorem type_trimmed (v : Value) : v.trimmed.type = v.type := by
  obtain ⟨type, val⟩ := v
  cases type <;> rfl

/-- Only strings are cut. -/
theorem trimmed_of_ne {v : Value} (h : v.type ≠ .string) : v.trimmed = v := by
  obtain ⟨type, val⟩ := v
  cases type with
  | string => exact absurd rfl h
  | _ => rfl

theorem flatMap_encode_trimmed (vs : List Value) :
    (vs.map trimmed).flatMap encode = vs.flatMap encode := by
  simp only [List.flatMap_map, encode_trimmed]

end Value

namespace Payload

variable {p : Payload} {q : ValueQueue}

/-- The unread bytes are those of the waiting values, each of which was written in full. -/
structure Represents (p : Payload) (q : ValueQueue) : Prop where
  unread : p.unread = q.waiting.flatMap Value.encode
  fits : ∀ v ∈ q.waiting, v.Fits

/-- The bytes that are left to read are those of the values that wait. -/
theorem Represents.remaining_eq (h : p.Represents q) : p.remaining = q.size := by
  rw [remaining, h.unread, List.length_flatMap, ValueQueue.size]

/-- To write a value is to let it wait behind the others. -/
theorem Represents.write (h : p.Represents q) (v : Value) :
    (p.write v.type v.val).Represents ⟨q.waiting ++ [v.trimmed]⟩ where
  unread := by
    rw [Payload.write, h.unread, List.flatMap_append, List.flatMap_singleton, v.encode_trimmed]
  fits u hu := by
    rcases List.mem_append.1 hu with hu | hu
    · exact h.fits u hu
    · rw [List.mem_singleton.1 hu]
      exact v.fits_trimmed

theorem read_of_unread_nil (h : p.unread = []) (t : ValueType) :
    p.read t = .error .unexpectedEnd := by
  rw [read, h]
  rfl

/-- To read a value of another type than the one that comes next fails, and says which one it is. -/
theorem read_of_ne {v : Value} {t : ValueType} (ne : v.type ≠ t) {rest : List UInt8}
    (h : p.unread = v.encode ++ rest) : p.read t = .error (.typeMismatch t v.type.tag) := by
  have htag : v.type.tag ≠ t.tag := fun heq => ne (ValueType.tag_injective heq)
  rw [read, h, Value.encode, List.cons_append, Value.decode, if_neg htag]
  rfl

/-- A payload and the queue that it represents answer an access alike, and so they do afterwards. -/
theorem Represents.access (h : p.Represents q) (a : Access) :
    (p.access a).2 = (q.access a).2 ∧ (p.access a).1.Represents (q.access a).1 := by
  cases a with
  | write v => exact ⟨rfl, h.write v⟩
  | read t =>
    obtain ⟨waiting⟩ := q
    cases waiting with
    | nil =>
      rw [Payload.access, read_of_unread_nil h.unread t]
      exact ⟨rfl, h⟩
    | cons v rest =>
      obtain ⟨hv, hrest⟩ := List.forall_mem_cons.1 h.fits
      have hunread : p.unread = v.encode ++ rest.flatMap Value.encode := h.unread
      -- the type that is asked for has to be the type of the value in front
      by_cases ht : v.type = t
      · subst ht
        rw [Payload.access, read_of_unread hv hunread, ValueQueue.access]
        dsimp only
        rw [if_pos rfl]
        exact ⟨rfl, rfl, hrest⟩
      · rw [Payload.access, read_of_ne ht hunread, ValueQueue.access]
        dsimp only
        rw [if_neg ht]
        exact ⟨rfl, h⟩

/-- A payload and the queue that it represents cannot be told apart by accesses. -/
theorem Represents.sights_eq (h : p.Represents q) (accesses : List Access) :
    p.sights accesses = q.sights accesses := by
  induction accesses generalizing p q with
  | nil => rfl
  | cons a accesses ih =>
    obtain ⟨hresult, hnext⟩ := h.access a
    rw [sights, ValueQueue.sights, hresult, hnext.remaining_eq, ih hnext]

/-! ## All bytes of a payload -/

/-- A read moves bytes from one side of the read position to the other. -/
theorem bytes_of_read {t : ValueType} {x : t.Carrier} {rest : Payload}
    (h : p.read t = .ok (x, rest)) : rest.bytes = p.bytes := by
  unfold read at h
  cases hdecode : Value.decode t p.unread with
  | error e => rw [hdecode] at h; cases h
  | ok r =>
    rw [hdecode] at h
    cases h
    simp [bytes]

/-- An access adds what it writes to all bytes, and takes none away. -/
theorem bytes_access (p : Payload) (a : Access) :
    (p.access a).1.bytes = p.bytes ++ (Access.written [a]).flatMap Value.encode := by
  cases a with
  | write v => simp [access, write, bytes, Access.written, v.encode_trimmed]
  | read t =>
    rw [show Access.written [.read t] = [] from rfl, List.flatMap_nil, List.append_nil, access]
    split
    · next hread => exact bytes_of_read hread
    · rfl

/-- A read changes none of the bytes. -/
theorem bytes_access_read (p : Payload) (t : ValueType) :
    (p.access (.read t)).1.bytes = p.bytes :=
  (p.bytes_access (.read t)).trans (List.append_nil p.bytes)

/-- The bytes are those of all values ever written, in this order. -/
theorem bytes_accessAll (p : Payload) (accesses : List Access) :
    (p.accessAll accesses).bytes = p.bytes ++ (Access.written accesses).flatMap Value.encode := by
  induction accesses generalizing p with
  | nil => exact (List.append_nil p.bytes).symm
  | cons a accesses ih =>
    have hwritten : Access.written (a :: accesses) =
        Access.written [a] ++ Access.written accesses := by
      rw [← List.singleton_append, Access.written, List.filterMap_append]
      rfl
    rw [hwritten, List.flatMap_append, ← List.append_assoc, ← bytes_access]
    exact ih (p.access a).1

/-- What accesses write fits. -/
theorem fits_of_mem_written {accesses : List Access} {v : Value}
    (h : v ∈ Access.written accesses) : v.Fits := by
  obtain ⟨a, -, ha⟩ := List.mem_filterMap.1 h
  cases a with
  | write u => exact Option.some.inj ha ▸ u.fits_trimmed
  | read t => cases ha

/-- However a new payload is written and read, it looks like a queue of values: a read gives the
value in front, or the error that there is none or that it has another type, in which case nothing
changes, and the bytes left to be read are those of the waiting values. A reader that was handed
all bytes of the payload finds them to be the queue of all values written. Of a written text it
finds the longest beginning that fits on the wire. -/
theorem indistinguishable_from_queue (accesses further : List Access) :
    empty.sights accesses = ValueQueue.sights ⟨[]⟩ accesses ∧
    (ofBytes (empty.accessAll accesses).bytes).sights further =
      ValueQueue.sights ⟨Access.written accesses⟩ further ∧
    (∀ (p : Payload) t e, (p.access (.read t)).2 = some (.error e) → (p.access (.read t)).1 = p) ∧
    ∀ s, ∃ t, Value.trimmed ⟨.string, s⟩ = ⟨.string, t⟩ ∧
      Utf8.IsLongestBeginning maxStringLength s t := by
  have hnew : empty.Represents ⟨[]⟩ := ⟨rfl, fun _ hv => absurd hv List.not_mem_nil⟩
  have hreceived : (ofBytes (empty.accessAll accesses).bytes).Represents
      ⟨Access.written accesses⟩ :=
    ⟨bytes_accessAll empty accesses, fun _ => fits_of_mem_written⟩
  refine ⟨hnew.sights_eq accesses, hreceived.sights_eq further, ?_, ?_⟩
  · intro p t e he
    rw [access] at he ⊢
    split at he
    · cases he
    · rfl
  · intro s
    exact ⟨Utf8.cut maxStringLength s, rfl, Utf8.isLongestBeginning_cut maxStringLength s⟩

/-- A number is still there after someone asked for a text. -/
theorem number_survives_wrong_read :
    let accesses := [.write ⟨.u32, 99⟩]
    empty.sights [.write ⟨.u32, 99⟩, .read .string, .read .u32] =
      [⟨none, 5⟩, ⟨some (.error (.typeMismatch .string 3)), 5⟩, ⟨some (.ok ⟨.u32, 99⟩), 0⟩] ∧
    ((empty.accessAll accesses).access (.read .string)).1 = empty.accessAll accesses := by
  intro accesses
  have hall := indistinguishable_from_queue [.write ⟨.u32, 99⟩, .read .string, .read .u32] []
  have hwrong : ((empty.accessAll accesses).access (.read .string)).2 =
      some (.error (.typeMismatch .string 3)) := rfl
  exact ⟨hall.1.trans rfl, hall.2.2.1 _ _ _ hwrong⟩

end Payload

end ChatServer
