import ChatServer.Message
import ChatServer.Proofs.Wire.RoundTrip

/-!
# What clients read

A client that gets a frame knows from its component and its message code what values to read, in
which order, and which results there can be. `Reading.ofFrame` reads a frame that way. Every frame
of a message whose texts fit on the wire is read to its end, and gives back what the message says.
-/

namespace ChatServer

/-- What a client reads in a frame. What comes after a result is there only if the result grants
what was asked for. -/
inductive Reading where
  | identifyComplete (result : UserResult) (username : Option String)
  | joinComplete (result : ChannelResult) (rosters : Option Snapshot)
  | leaveComplete (result : ChannelResult) (name : Option String)
  | join (member : RosterEntry)
  | leave (member : RosterEntry)
deriving DecidableEq, Repr

/-- A computation that takes values from the front of a payload. -/
abbrev Reader := StateT Payload (Except WireError)

namespace Reader

/-- Reads a value. -/
def value (t : ValueType) : Reader t.Carrier := fun p => p.read t

/-- Reads a user as it is listed. -/
def entry : Reader RosterEntry := do
  let username ← value .string
  let hostname ← value .string
  return ⟨username, hostname⟩

/-- Reads several users. -/
def entries : Nat → Reader (List RosterEntry)
  | 0 => return []
  | n + 1 => do
    let first ← entry
    let rest ← entries n
    return first :: rest

/-- Reads a roster: how many users there are, and then each of them. -/
def roster : Reader (List RosterEntry) := do
  let count ← value .u32
  entries (UInt32.toNat count)

/-- Reads the operators and the members. -/
def rosters : Reader Snapshot := do
  let operators ← roster
  let members ← roster
  return ⟨operators, members⟩

variable {α β : Type} [Coded α] [DecidableEq α]

/-- Reads one of the results that there can be. -/
def result (possible : List α) : Reader α := do
  let code ← value .u16
  match Coded.ofCode? code with
  | some r => if r ∈ possible then return r else throw (Coded.unknown α code)
  | none => throw (Coded.unknown α code)

/-- Reads a result and, if it grants what was asked for, what comes after it. -/
def answer (possible : List α) (granted : α) (body : Reader β) : Reader (α × Option β) := do
  let r ← result possible
  if r = granted then
    let b ← body
    return (r, some b)
  else return (r, none)

end Reader

namespace Reading

/-- The answers to a request for a name. -/
def identifyResults : List UserResult :=
  [.ok, .invalidUsername, .usernameTaken, .alreadyIdentified, .authFailed]

/-- The answers to a request to join. -/
def joinResults : List ChannelResult :=
  [.ok, .channelCreated, .notIdentified, .invalidChannelName, .alreadyInChannel]

/-- The answers to a request to leave. -/
def leaveResults : List ChannelResult := [.ok, .notIdentified, .invalidChannelName, .notInChannel]

/-- Reads what a member did, which the message code says already. -/
def notice (done : ChannelResult) : Reader RosterEntry := do
  let _ ← Reader.result [done]
  Reader.entry

/-- Reads the payload of a frame of a component with a message code. -/
def payload : ComponentType → UInt16 → Reader Reading
  | .user, code =>
    match Coded.ofCode? code with
    | some UserMessage.identifyComplete => do
      let r ← Reader.answer identifyResults .ok (Reader.value .string)
      return .identifyComplete r.1 r.2
    | _ => throw (.unknownMessageType code)
  | .channel, code =>
    match Coded.ofCode? code with
    | some ChannelMessage.joinComplete => do
      let r ← Reader.answer joinResults .ok Reader.rosters
      return .joinComplete r.1 r.2
    | some ChannelMessage.leaveComplete => do
      let r ← Reader.answer leaveResults .ok (Reader.value .string)
      return .leaveComplete r.1 r.2
    | some ChannelMessage.join => do
      let member ← notice .userJoined
      return .join member
    | some ChannelMessage.leave => do
      let member ← notice .userLeft
      return .leave member
    | _ => throw (.unknownMessageType code)

/-- Reads a frame. The payload that is returned tells how far it was read. -/
def ofFrame (f : Frame) : Except WireError (Reading × Payload) :=
  payload f.component f.message f.payload

end Reading

/-! ## Readers and the bytes that they take -/

namespace Reader

variable {α β : Type}

/-- The reader takes exactly these bytes, whatever comes after them, and gives this value. -/
def Takes (reader : Reader α) (a : α) (bytes : List UInt8) : Prop :=
  ∀ p rest, p.unread = bytes ++ rest → reader p = .ok (a, ⟨p.consumed ++ bytes, rest⟩)

theorem takes_pure (a : α) : Takes (pure a) a [] := by
  intro p rest h
  rw [List.append_nil, ← show p.unread = rest from h]
  rfl

/-- Readers one after the other take their bytes one after the other. -/
theorem Takes.bind {reader : Reader α} {next : α → Reader β} {a : α} {b : β}
    {bytes more : List UInt8} (h : Takes reader a bytes) (h' : Takes (next a) b more) :
    Takes (reader >>= next) b (bytes ++ more) := by
  intro p rest hp
  rw [List.append_assoc] at hp
  show (reader p >>= fun s => next s.1 s.2) = _
  rw [h p (more ++ rest) hp, ← List.append_assoc]
  exact h' ⟨p.consumed ++ bytes, more ++ rest⟩ rest rfl

/-- What follows takes nothing more. -/
theorem Takes.bind_nil {reader : Reader α} {next : α → Reader β} {a : α} {b : β}
    {bytes : List UInt8} (h : Takes reader a bytes) (h' : Takes (next a) b []) :
    Takes (reader >>= next) b bytes := by
  have hbind := h.bind h'
  rwa [List.append_nil] at hbind

/-- What is read is only put into another form. -/
theorem Takes.bind_pure {reader : Reader α} {f : α → β} {a : α} {bytes : List UInt8}
    (h : Takes reader a bytes) : Takes (reader >>= fun x => pure (f x)) (f a) bytes :=
  h.bind_nil (takes_pure (f a))

/-- A value takes the bytes that it is written in. -/
theorem takes_value {v : Value} (h : v.Fits) : Takes (value v.type) v.val v.encode :=
  fun _ _ hp => Payload.read_of_unread h hp

/-- The bytes of a user as it is listed. -/
def entryBytes (e : RosterEntry) : List UInt8 :=
  Value.encode ⟨.string, e.username⟩ ++ Value.encode ⟨.string, e.hostname⟩

/-- A user is listed in full. -/
def EntryFits (e : RosterEntry) : Prop := FitsOnWire e.username ∧ FitsOnWire e.hostname

instance (e : RosterEntry) : Decidable (EntryFits e) := inferInstanceAs (Decidable (_ ∧ _))

/-- The entry of a roster takes the bytes that it is written in. -/
theorem takes_entry {e : RosterEntry} (h : EntryFits e) : Takes entry e (entryBytes e) := by
  have husername : Takes (value .string) e.username (Value.encode ⟨.string, e.username⟩) :=
    takes_value (v := ⟨.string, e.username⟩) h.1
  have hhostname : Takes (value .string) e.hostname (Value.encode ⟨.string, e.hostname⟩) :=
    takes_value (v := ⟨.string, e.hostname⟩) h.2
  exact husername.bind hhostname.bind_pure

theorem takes_entries {es : List RosterEntry} (h : ∀ e ∈ es, EntryFits e) :
    Takes (entries es.length) es (es.flatMap entryBytes) := by
  induction es with
  | nil => exact takes_pure []
  | cons e es ih =>
    obtain ⟨he, h⟩ := List.forall_mem_cons.1 h
    exact (takes_entry he).bind (ih h).bind_pure

/-- The most users that a roster on the wire can have. -/
def maxRosterLength : Nat := 4294967295

/-- A roster takes its length and its entries. -/
theorem takes_roster {es : List RosterEntry} (length : es.length ≤ maxRosterLength)
    (h : ∀ e ∈ es, EntryFits e) :
    Takes roster es ((Snapshot.rosterValues es).flatMap Value.encode) := by
  have hcount : Takes (value .u32) (UInt32.ofNat es.length)
      (Value.encode ⟨.u32, UInt32.ofNat es.length⟩) :=
    takes_value (v := ⟨.u32, UInt32.ofNat es.length⟩) trivial
  -- the count is written modulo 2^32
  have hlength : (UInt32.ofNat es.length).toNat = es.length := by
    rw [UInt32.toNat_ofNat']
    exact Nat.mod_eq_of_lt (Nat.lt_of_le_of_lt length (by decide))
  have hentries : Takes (entries (UInt32.ofNat es.length).toNat) es (es.flatMap entryBytes) := by
    rw [hlength]
    exact takes_entries h
  have hvalues : (Snapshot.rosterValues es).flatMap Value.encode =
      Value.encode ⟨.u32, UInt32.ofNat es.length⟩ ++ es.flatMap entryBytes := by
    rw [Snapshot.rosterValues, List.flatMap_cons, List.flatMap_assoc]
    simp only [List.flatMap_cons, List.flatMap_nil, List.append_nil]
    rfl
  rw [hvalues]
  exact hcount.bind hentries

/-- All that a snapshot says fits on the wire. -/
structure SnapshotFits (s : Snapshot) : Prop where
  operators : s.operators.length ≤ maxRosterLength
  members : s.members.length ≤ maxRosterLength
  entries : ∀ e ∈ s.operators ++ s.members, EntryFits e

/-- A snapshot takes both of its rosters. -/
theorem takes_rosters {s : Snapshot} (h : SnapshotFits s) :
    Takes rosters s
      ((Snapshot.rosterValues s.operators).flatMap Value.encode ++
        (Snapshot.rosterValues s.members).flatMap Value.encode) := by
  have hoperators := takes_roster h.operators fun e he =>
    h.entries e (List.mem_append_left _ he)
  have hmembers := takes_roster h.members fun e he => h.entries e (List.mem_append_right _ he)
  exact hoperators.bind hmembers.bind_pure

variable [Coded α] [DecidableEq α]

/-- The bytes of a result. -/
def resultBytes (r : α) : List UInt8 := Value.encode ⟨.u16, Coded.code r⟩

/-- A result takes its code, if it is one that is possible there. -/
theorem takes_result {possible : List α} {r : α} (mem : r ∈ possible)
    (known : Coded.ofCode? (Coded.code r) = some r) :
    Takes (result possible) r (resultBytes r) := by
  have hcode : Takes (value .u16) (Coded.code r) (resultBytes r) :=
    takes_value (v := ⟨.u16, Coded.code r⟩) trivial
  unfold result
  refine hcode.bind_nil ?_
  rw [known]
  dsimp only
  rw [if_pos mem]
  exact takes_pure r

/-- After a refusal nothing is read. -/
theorem takes_refusal {possible : List α} {granted r : α} {body : Reader β}
    (mem : r ∈ possible) (known : Coded.ofCode? (Coded.code r) = some r) (ne : r ≠ granted) :
    Takes (answer possible granted body) (r, none) (resultBytes r) := by
  unfold answer
  refine (takes_result mem known).bind_nil ?_
  rw [if_neg ne]
  exact takes_pure _

/-- After a grant comes what is granted. -/
theorem takes_grant {possible : List α} {granted : α} {body : Reader β} {b : β}
    {bytes : List UInt8} (mem : granted ∈ possible)
    (known : Coded.ofCode? (Coded.code granted) = some granted) (h : Takes body b bytes) :
    Takes (answer possible granted body) (granted, some b) (resultBytes granted ++ bytes) := by
  unfold answer
  refine (takes_result mem known).bind ?_
  rw [if_pos rfl]
  exact h.bind_pure

end Reader

/-! ## Messages -/

namespace ServerMessage

/-- What a message says to its client. -/
def reading : ServerMessage → Reading
  | nameGranted username => .identifyComplete .ok (some username)
  | nameRefused reason => .identifyComplete reason none
  | channelCreated => .joinComplete .channelCreated none
  | joined rosters => .joinComplete .ok (some rosters)
  | joinRefused reason => .joinComplete reason none
  | left name => .leaveComplete .ok (some name)
  | leaveRefused reason => .leaveComplete reason none
  | memberJoined _ member => .join member
  | memberLeft _ member => .leave member

/-- The message fits on the wire, and a refusal gives one of the reasons that there are. -/
def Fits : ServerMessage → Prop
  | nameGranted username => FitsOnWire username
  | nameRefused reason => reason ≠ .ok
  | channelCreated => True
  | joined rosters => Reader.SnapshotFits rosters
  | joinRefused reason => reason ∈ Reading.joinResults ∧ reason ≠ .ok
  | left name => FitsOnWire name
  | leaveRefused reason => reason ∈ Reading.leaveResults ∧ reason ≠ .ok
  | memberJoined _ member => Reader.EntryFits member
  | memberLeft _ member => Reader.EntryFits member

theorem ofCode?_code_userResult (r : UserResult) : Coded.ofCode? (Coded.code r) = some r := by
  cases r <;> rfl

theorem ofCode?_code_channelResult (r : ChannelResult) :
    Coded.ofCode? (Coded.code r) = some r := by
  cases r <;> rfl

/-- A notice takes its result and the entry that it is about. -/
theorem takes_notice {done : ChannelResult} {e : RosterEntry} (h : Reader.EntryFits e) :
    Reader.Takes (Reading.notice done) e (Reader.resultBytes done ++ Reader.entryBytes e) :=
  (Reader.takes_result (List.mem_singleton_self done) (ofCode?_code_channelResult done)).bind
    (Reader.takes_entry h)

/-- The bytes of a message are just what its client reads. -/
theorem takes_payload {m : ServerMessage} (h : m.Fits) :
    Reader.Takes (Reading.payload m.frame.component m.frame.message) m.reading
      m.frame.payload.bytes := by
  cases m with
  | nameGranted username =>
    have hpossible : UserResult.ok ∈ Reading.identifyResults := by decide
    have hname := Reader.takes_value (v := ⟨.string, username⟩) h
    have hanswer := Reader.takes_grant hpossible (ofCode?_code_userResult .ok) hname
    exact hanswer.bind_pure
  | nameRefused reason =>
    have hpossible : reason ∈ Reading.identifyResults := by cases reason <;> decide
    exact (Reader.takes_refusal hpossible (ofCode?_code_userResult reason) h).bind_pure
  | channelCreated =>
    have hpossible : ChannelResult.channelCreated ∈ Reading.joinResults := by decide
    exact (Reader.takes_refusal hpossible (ofCode?_code_channelResult _) (by decide)).bind_pure
  | joined rosters =>
    have hpossible : ChannelResult.ok ∈ Reading.joinResults := by decide
    have hanswer := Reader.takes_grant hpossible (ofCode?_code_channelResult .ok)
      (Reader.takes_rosters h)
    -- the two rosters follow the result code, operators first
    have hbytes : (joined rosters).frame.payload.bytes =
        Reader.resultBytes ChannelResult.ok ++
          ((Snapshot.rosterValues rosters.operators).flatMap Value.encode ++
            (Snapshot.rosterValues rosters.members).flatMap Value.encode) := by
      show (rosters.writeTo (resultPayload ChannelResult.ok)).bytes = _
      rw [Snapshot.writeTo, Payload.writeAll_eq, List.flatMap_append]
      rfl
    rw [hbytes]
    exact hanswer.bind_pure
  | joinRefused reason =>
    exact (Reader.takes_refusal h.1 (ofCode?_code_channelResult reason) h.2).bind_pure
  | left name =>
    have hpossible : ChannelResult.ok ∈ Reading.leaveResults := by decide
    have hname := Reader.takes_value (v := ⟨.string, name⟩) h
    have hanswer := Reader.takes_grant hpossible (ofCode?_code_channelResult .ok) hname
    exact hanswer.bind_pure
  | leaveRefused reason =>
    exact (Reader.takes_refusal h.1 (ofCode?_code_channelResult reason) h.2).bind_pure
  | memberJoined channel member => exact (takes_notice h).bind_pure
  | memberLeft channel member => exact (takes_notice h).bind_pure

/-- The server writes its payloads and reads nothing of them. -/
theorem consumed_payload_frame (m : ServerMessage) : m.frame.payload.consumed = [] := by
  cases m with
  | joined rosters =>
    show (rosters.writeTo (resultPayload ChannelResult.ok)).consumed = []
    rw [Snapshot.writeTo, Payload.writeAll_eq]
    rfl
  | _ => rfl

/-- Nothing of a message is read when it is sent. -/
theorem unread_frame (m : ServerMessage) : m.frame.unread = m.frame := by
  rw [Frame.unread, Payload.bytes, consumed_payload_frame, List.nil_append, Payload.ofBytes,
    ← consumed_payload_frame m]

/-- A client reads a message to its end, and reads what the message says. -/
theorem ofFrame_frame {m : ServerMessage} (h : m.Fits) :
    Reading.ofFrame m.frame = .ok (m.reading, ⟨m.frame.payload.bytes, []⟩) := by
  have hwritten := consumed_payload_frame m
  have hunread : m.frame.payload.unread = m.frame.payload.bytes ++ [] := by
    rw [List.append_nil, Payload.bytes, hwritten, List.nil_append]
  rw [Reading.ofFrame, takes_payload h m.frame.payload [] hunread, hwritten, List.nil_append]

end ServerMessage

end ChatServer
