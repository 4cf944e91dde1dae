import ChatServer.Proofs.Wire.RoundTrip
import ChatServer.Proofs.World.Traces

/-!
# Messages that are at fault

A service does not handle a message that is at fault. `World.faults` lists the faults that there can
be, each judged on its own, in the order in which they count: the first one is the error that the
message is refused with. A refused message leaves no trace. Every other message is completed, that
is, its client is sent one frame that completes the request, while all other frames are notices.
-/

namespace ChatServer

/-- The service of a type. -/
def ComponentType.service : ComponentType → ComponentId
  | .user => .users
  | .channel => .channels

namespace HandleError

/-! ## Faults -/

/-- The service is bound to no server, or its server is gone. -/
def unbound (servers : Servers) (b : Binding) : Option HandleError :=
  if b.server.any servers.isLive then none else some .notInitialized

/-- The service does not take requests with this code. -/
def unaccepted {α : Type} [Coded α] (type : ComponentType) (requests : List α) (code : UInt16) :
    Option HandleError :=
  if code ∈ requests.map Coded.code then none else some (.unknownMessageType type code)

/-- The payload does not start with so many texts: the reason why the first one missing cannot be
read. -/
def unreadable : (texts : Nat) → Payload → Option HandleError
  | 0, _ => none
  | texts + 1, p =>
    match p.read .string with
    | .error e => some (.decode e)
    | .ok (_, rest) => unreadable texts rest

/-- The server that the service is bound to does not have the user service. -/
def withoutUsers (servers : Servers) (b : Binding) : Option HandleError :=
  if b.server.any fun i => servers.component? i .user = some .users then none
  else some (.componentUnavailable .user)

/-- The client has no current record. -/
def unregistered (d : UserDirectory) (client : ClientId) : Option HandleError :=
  if d.registered.contains client then none else some (.unknownUser client)

/-- The error that there is instead of a result. -/
def of? {α : Type} : Except HandleError α → Option HandleError
  | .error e => some e
  | .ok _ => none

/-- What comes of a message that has a fault or none. -/
def outcome : Option HandleError → Except HandleError Unit
  | some e => .error e
  | none => .ok ()

variable {servers : Servers} {b : Binding}

/-- A service without a server is not initialized. -/
theorem unbound_of_none (h : b.get? servers = none) : unbound servers b = some .notInitialized := by
  obtain ⟨server⟩ := b
  cases server with
  | none => rfl
  | some i =>
    rw [Binding.get?, Option.filter_eq_none_iff] at h
    exact if_neg (h i rfl)

/-- A service with a server has no such fault. -/
theorem unbound_of_some {i : ServerId} (h : b.get? servers = some i) :
    unbound servers b = none := by
  obtain ⟨hi, hlive⟩ := Option.filter_eq_some_iff.1 h
  rw [unbound, hi]
  exact if_pos hlive

variable {code : UInt16} {p : Payload}

/-- A code that a service has a request for is accepted. -/
theorem unaccepted_of_mem {α : Type} [Coded α] (type : ComponentType) {requests : List α}
    {request : α} (h : Coded.ofCode? code = some request) (mem : request ∈ requests) :
    unaccepted type requests code = none :=
  if_pos (List.mem_map.2 ⟨request, mem, Coded.code_of_ofCode? h⟩)

/-- A code of no accepted request is a fault, as long as members are found under their codes. -/
theorem unaccepted_of_forall {α : Type} [Coded α] (type : ComponentType) {requests : List α}
    (known : ∀ request : α, Coded.ofCode? (Coded.code request) = some request)
    (h : ∀ request ∈ requests, Coded.ofCode? code ≠ some request) :
    unaccepted type requests code = some (.unknownMessageType type code) := by
  refine if_neg fun hmem => ?_
  obtain ⟨request, hrequest, rfl⟩ := List.mem_map.1 hmem
  exact h request hrequest (known request)

/-- What is wrong with a message to the user service as it is read. -/
theorem of?_nameClaim (code : UInt16) (p : Payload) :
    of? (NameClaim.ofMessage code p).1 =
      (unaccepted .user [UserMessage.identify] code).or (unreadable 2 p) := by
  unfold NameClaim.ofMessage NameClaim.read
  split
  · next hcode =>
    rw [unaccepted_of_mem _ hcode (List.mem_singleton_self _), Option.none_or]
    cases hfirst : p.read .string with
    | error e => simp only [unreadable, of?, hfirst]
    | ok first =>
      cases hsecond : first.2.read .string with
      | error e => simp only [unreadable, of?, hfirst, hsecond]
      | ok second => simp only [unreadable, of?, hfirst, hsecond]
  · next hcode =>
    have hknown : ∀ request : UserMessage, Coded.ofCode? (Coded.code request) = some request := by
      intro request
      cases request <;> rfl
    rw [unaccepted_of_forall .user hknown (by simpa using hcode)]
    rfl

/-- A request that names a channel fails where this name cannot be read. -/
theorem of?_named (request : String → ChannelRequest) (p : Payload) :
    of? (ChannelRequest.ofMessage.named p request).1 = unreadable 1 p := by
  unfold ChannelRequest.ofMessage.named unreadable
  cases p.read .string with
  | error e => rfl
  | ok first => rfl

/-- What is wrong with a message to the channel service as it is read. -/
theorem of?_channelRequest (code : UInt16) (p : Payload) :
    of? (ChannelRequest.ofMessage code p).1 =
      (unaccepted .channel [ChannelMessage.join, .leave] code).or (unreadable 1 p) := by
  unfold ChannelRequest.ofMessage
  split
  · next hcode =>
    rw [unaccepted_of_mem _ hcode (by simp), Option.none_or, of?_named]
  · next hcode =>
    rw [unaccepted_of_mem _ hcode (by simp), Option.none_or, of?_named]
  · next hjoin hleave =>
    have hknown : ∀ request : ChannelMessage,
        Coded.ofCode? (Coded.code request) = some request := by
      intro request
      cases request <;> rfl
    -- the code is of neither request, so it is unknown or not for a client to send
    have hother : ∀ request ∈ [ChannelMessage.join, .leave],
        Coded.ofCode? code ≠ some request := by
      intro request hrequest
      rcases List.mem_pair.1 hrequest with rfl | rfl
      · exact hjoin
      · exact hleave
    rw [unaccepted_of_forall .channel hknown hother]
    rfl

/-- A client without a current record cannot be found. -/
theorem unregistered_eq (d : UserDirectory) (client : ClientId) :
    unregistered d client =
      match d.ref? client with
      | none => some (.unknownUser client)
      | some _ => none := by
  unfold unregistered UserDirectory.ref? Table.contains
  cases d.registered.get? client <;> rfl

/-- What is wrong with a client and with the server through which it is looked for. -/
theorem of?_resolve {i : ServerId} (h : b.get? servers = some i) (d : UserDirectory)
    (client : ClientId) :
    of? (ChannelService.resolve servers d i client) =
      (withoutUsers servers b).or (unregistered d client) := by
  obtain ⟨hi, -⟩ := Option.filter_eq_some_iff.1 h
  rw [withoutUsers, hi, unregistered_eq]
  unfold ChannelService.resolve
  by_cases husers : servers.component? i .user = some .users
  · simp only [Option.any_some, husers, decide_true, if_true, Option.none_or]
    cases d.ref? client <;> rfl
  · simp only [Option.any_some, husers, decide_false]
    rfl

end HandleError

/-! ## Completions -/

namespace Frame

/-- The requests that the services take, each with the message that completes it. -/
def exchanges : List (ComponentType × UInt16 × UInt16) :=
  [(.user, Coded.code UserMessage.identify, Coded.code UserMessage.identifyComplete),
    (.channel, Coded.code ChannelMessage.join, Coded.code ChannelMessage.joinComplete),
    (.channel, Coded.code ChannelMessage.leave, Coded.code ChannelMessage.leaveComplete)]

/-- Whether a frame completes requests with a code. -/
def completes (f : Frame) (code : UInt16) : Bool := (f.component, code, f.message) ∈ exchanges

/-- Whether a frame completes some request, rather than tell of what another client did. -/
def isCompletion (f : Frame) : Bool := exchanges.any fun e => f.completes e.2.1

end Frame

/-- The messages that complete a request. -/
def Outgoing.completions (messages : List Outgoing) : List Outgoing :=
  messages.filter fun o => o.message.frame.isCompletion

/-- Of some messages exactly one completes a request. It is for the client, and is the answer of
the service to a request with this code. -/
def Outgoing.CompleteOnce (messages : List Outgoing) (client : ClientId) (type : ComponentType)
    (code : UInt16) : Prop :=
  ∃ m : ServerMessage, completions messages = [⟨client, m⟩] ∧ m.frame.component = type ∧
    m.frame.completes code

namespace UserService

/-- A claim is answered once, whether it is granted or not. -/
theorem completeOnce_claim {code : UInt16} {p rest : Payload} {claim : NameClaim}
    (h : NameClaim.ofMessage code p = (.ok claim, rest)) (rules : UserRules) (s : UserService)
    (r : UserRef) : Outgoing.CompleteOnce (s.claim rules r claim).2 r.owner .user code := by
  have hcode : code = Coded.code UserMessage.identify := by
    unfold NameClaim.ofMessage at h
    split at h
    · next hcode => exact (Coded.code_of_ofCode? hcode).symm
    · cases h
  rw [hcode]
  by_cases hok : judge rules s.directory r claim = .ok
  · rw [claim_of_granted hok]
    exact ⟨_, rfl, rfl, rfl⟩
  · rw [claim_of_refused hok]
    exact ⟨_, rfl, rfl, rfl⟩

end UserService

namespace ChannelService

/-- Who is told of an arrival is not told of a completion. -/
theorem completions_announceJoin (channel : ChannelRef) (recipients : List ClientId) (u : User) :
    Outgoing.completions (announceJoin channel recipients u) = [] := by
  refine List.filter_eq_nil_iff.2 fun o ho => ?_
  obtain ⟨c, -, rfl⟩ := List.mem_map.1 ho
  exact Bool.false_ne_true

/-- Who is told of a departure is not told of a completion. -/
theorem completions_announceLeave (channel : ChannelRef) (recipients : List ClientId) (u : User) :
    Outgoing.completions (announceLeave channel recipients u) = [] := by
  refine List.filter_eq_nil_iff.2 fun o ho => ?_
  obtain ⟨c, -, rfl⟩ := List.mem_map.1 ho
  exact Bool.false_ne_true

/-- A join is completed once, for the client that asked. -/
theorem completeOnce_join (config : ChannelConfig) (users : UserRef → User) (s : ChannelService)
    (r : UserRef) (name : String) :
    Outgoing.CompleteOnce (s.join config users r name).2.messages r.owner .channel
      (Coded.code ChannelMessage.join) := by
  have h := joining config users s r name
  generalize s.join config users r name = result at h
  cases h with
  | refused why => exact ⟨_, rfl, rfl, rfl⟩
  | founded allowed free => exact ⟨_, rfl, rfl, rfl⟩
  | entered allowed found =>
    exact ⟨_, congrArg (List.cons _) (completions_announceJoin _ _ _), rfl, rfl⟩

theorem completeOnce_leave (config : ChannelConfig) (users : UserRef → User) (s : ChannelService)
    (r : UserRef) (name : String) :
    Outgoing.CompleteOnce (s.leave config users r name).2.messages r.owner .channel
      (Coded.code ChannelMessage.leave) := by
  have h := leaving config users s r name
  generalize s.leave config users r name = result at h
  cases h with
  | refused why => exact ⟨_, rfl, rfl, rfl⟩
  | parted allowed found member =>
    refine ⟨.left name, ?_, rfl, rfl⟩
    show Outgoing.completions (announceLeave _ _ _ ++ [_]) = _
    rw [Outgoing.completions, List.filter_append]
    exact congrArg (· ++ _) (completions_announceLeave _ _ _)

/-- Every request is completed once, for the client that asked. -/
theorem completeOnce_perform {code : UInt16} {p rest : Payload} {request : ChannelRequest}
    (h : ChannelRequest.ofMessage code p = (.ok request, rest)) (config : ChannelConfig)
    (users : UserRef → User) (s : ChannelService) (r : UserRef) :
    Outgoing.CompleteOnce (s.perform config users r request).2.messages r.owner .channel code := by
  have hnamed : ∀ kind : String → ChannelRequest,
      ChannelRequest.ofMessage.named p kind = (.ok request, rest) →
        ∃ name, request = kind name := by
    intro kind hkind
    unfold ChannelRequest.ofMessage.named at hkind
    split at hkind
    · cases hkind
    · cases hkind
      exact ⟨_, rfl⟩
  -- the code of the message says which of the requests it is
  unfold ChannelRequest.ofMessage at h
  split at h
  · next hcode =>
    obtain ⟨name, rfl⟩ := hnamed _ h
    rw [← Coded.code_of_ofCode? hcode]
    exact completeOnce_join config users s r name
  · next hcode =>
    obtain ⟨name, rfl⟩ := hnamed _ h
    rw [← Coded.code_of_ofCode? hcode]
    exact completeOnce_leave config users s r name
  · cases h

end ChannelService

namespace World

open HandleError

variable {rules : Rules} {w : World} {client : ClientId} {code : UInt16} {p : Payload}

/-- The faults that a message can have, in the order in which they count. -/
def faults (w : World) (type : ComponentType) (client : ClientId) (code : UInt16) (p : Payload) :
    List (Option HandleError) :=
  match type with
  | .user =>
    [unbound w.servers w.users.binding, unaccepted .user [UserMessage.identify] code,
      unreadable 2 p, unregistered w.users.directory client]
  | .channel =>
    [unbound w.servers w.channels.binding, unaccepted .channel [ChannelMessage.join, .leave] code,
      unreadable 1 p, withoutUsers w.servers w.channels.binding,
      unregistered w.users.directory client]

/-- The first fault that a message has. -/
def fault? (w : World) (type : ComponentType) (client : ClientId) (code : UInt16) (p : Payload) :
    Option HandleError :=
  (w.faults type client code p).findSome? id

theorem findSome?_id_cons (fault : Option HandleError) (faults : List (Option HandleError)) :
    (fault :: faults).findSome? id = fault.or (faults.findSome? id) := by
  cases fault <;> rfl

/-- The first fault of a message to the user service is why it makes no claim. -/
theorem fault?_user (w : World) (client : ClientId) (code : UInt16) (p : Payload) :
    w.fault? .user client code p = of? (w.claimOf client code p).1 := by
  simp only [fault?, faults, findSome?_id_cons, List.findSome?_nil, Option.or_none]
  unfold claimOf
  cases hb : w.users.binding.get? w.servers with
  | none => rw [unbound_of_none hb]; rfl
  | some i =>
    rw [unbound_of_some hb, Option.none_or, ← Option.or_assoc, ← of?_nameClaim]
    rcases NameClaim.ofMessage code p with ⟨result, rest⟩
    cases result with
    | error e => rfl
    | ok claim =>
      rw [unregistered_eq]
      dsimp only
      cases w.users.directory.ref? client <;> rfl

/-- The first fault of a message to the channel service is why it makes no request. -/
theorem fault?_channel (w : World) (client : ClientId) (code : UInt16) (p : Payload) :
    w.fault? .channel client code p = of? (w.requestOf client code p).1 := by
  simp only [fault?, faults, findSome?_id_cons, List.findSome?_nil, Option.or_none]
  unfold requestOf
  cases hb : w.channels.binding.get? w.servers with
  | none => rw [unbound_of_none hb]; rfl
  | some i =>
    rw [unbound_of_some hb, Option.none_or, ← Option.or_assoc, ← of?_channelRequest]
    rcases ChannelRequest.ofMessage code p with ⟨result, rest⟩
    cases result with
    | error e => rfl
    | ok request =>
      rw [← of?_resolve hb]
      dsimp only
      cases ChannelService.resolve w.servers w.users.directory i client <;> rfl

/-- A message is decided by its first fault: that is the answer to it. A message that has a fault
changes nothing, nothing is sent and no observer notices. A message that has none is completed
exactly once. -/
structure DecidedBy (rules : Rules) (w : World) (type : ComponentType) (client : ClientId)
    (code : UInt16) (p : Payload) (fault : Option HandleError) : Prop where
  answer : ∃ remaining,
    (w.step rules (.message type.service client code p)).2.answer =
      .handled (outcome fault) remaining
  untouched : fault.isSome →
    (w.step rules (.message type.service client code p)).1 = w ∧
      w.sent rules (.message type.service client code p) = [] ∧
      (w.step rules (.message type.service client code p)).2.callbacks = []
  completed : fault = none →
    Outgoing.CompleteOnce (w.sent rules (.message type.service client code p)) client type code

variable {type : ComponentType} {remaining : Nat}

/-- A message that is answered by an error, and changes nothing, is decided by this fault. -/
theorem decidedBy_some {e : HandleError}
    (unchanged : (w.step rules (.message type.service client code p)).1 = w)
    (h : w.occurrence rules (.message type.service client code p) =
      ⟨.message type.service client code p, .handled (.error e) remaining, [], []⟩) :
    w.DecidedBy rules type client code p (some e) where
  answer := ⟨remaining, congrArg Occurrence.answer h⟩
  untouched _ := ⟨unchanged, congrArg Occurrence.sent h, congrArg Occurrence.callbacks h⟩
  completed := nofun

/-- A message that is answered by success, and completed once, is decided by no fault. -/
theorem decidedBy_none {messages : List Outgoing} {callbacks : List Callback}
    (h : w.occurrence rules (.message type.service client code p) =
      ⟨.message type.service client code p, .handled (.ok ()) remaining, messages, callbacks⟩)
    (once : Outgoing.CompleteOnce messages client type code) :
    w.DecidedBy rules type client code p none where
  answer := ⟨remaining, congrArg Occurrence.answer h⟩
  untouched := nofun
  completed _ := by
    have hsent : w.sent rules (.message type.service client code p) = messages :=
      congrArg Occurrence.sent h
    rw [hsent]
    exact once

/-- In every state a service decides a message by the first fault that it has. -/
theorem decided_by_first_fault (rules : Rules) (w : World) (type : ComponentType)
    (client : ClientId) (code : UInt16) (p : Payload) :
    w.DecidedBy rules type client code p (w.fault? type client code p) := by
  cases type with
  | user =>
    have hstep : (w.step rules (.message .users client code p)).1 =
      (w.deliver rules .users client code p).1 := rfl
    have hoccurrence := occurrence_users rules w client code p
    rw [deliver_users] at hstep
    rw [fault?_user]
    rcases h : w.claimOf client code p with ⟨result, rest⟩
    rw [h] at hstep hoccurrence
    -- what is left of a message that has no fault is a claim that is judged
    cases result with
    | error e => exact decidedBy_some hstep hoccurrence
    | ok claim =>
      obtain ⟨i, r, claim⟩ := claim
      obtain ⟨-, hread, hcurrent⟩ := claimOf_eq_ok h
      obtain ⟨-, rfl⟩ := UserDirectory.isCurrent_of_ref? hcurrent
      exact decidedBy_none hoccurrence
        (UserService.completeOnce_claim hread rules.user w.users r)
  | channel =>
    have hstep : (w.step rules (.message .channels client code p)).1 =
      (w.deliver rules .channels client code p).1 := rfl
    have hoccurrence := occurrence_channels rules w client code p
    rw [deliver_channels] at hstep
    rw [fault?_channel]
    rcases h : w.requestOf client code p with ⟨result, rest⟩
    rw [h] at hstep hoccurrence
    cases result with
    | error e => exact decidedBy_some hstep hoccurrence
    | ok request =>
      obtain ⟨i, r, request⟩ := request
      obtain ⟨-, hread, hcurrent⟩ := requestOf_eq_ok h
      obtain ⟨-, rfl⟩ := UserDirectory.isCurrent_of_ref? hcurrent
      exact decidedBy_none hoccurrence
        (ChannelService.completeOnce_perform hread rules.channel w.user w.channels r)

set_option maxRecDepth 100000 in
/-- Of an unknown code and an empty payload the code is refused; a guest's request to join, which is
not granted, is completed. -/
theorem decided_by_first_fault_for_guest :
    let ann : ClientId := ⟨1⟩
    let steps := [.register .users 0, .register .channels 0,
      .connect [.users, .channels] ann "host" "a"]
    let garbled := Step.message .channels ann 7 (.ofBytes [])
    let join := Step.message .channels ann (Coded.code ChannelMessage.join)
      (Payload.ofValues [⟨.string, "#"⟩])
    (∃ remaining, ((initial.run default steps).step default garbled).2.answer =
      .handled (.error (.unknownMessageType .channel 7)) remaining) ∧
    ((initial.run default steps).step default garbled).1 = initial.run default steps ∧
    Outgoing.CompleteOnce ((initial.run default steps).sent default join) ann .channel
      (Coded.code ChannelMessage.join) := by
  intro ann steps garbled join
  have hgarbled := decided_by_first_fault default (initial.run default steps) .channel ann 7
    (.ofBytes [])
  have hjoin := decided_by_first_fault default (initial.run default steps) .channel ann
    (Coded.code ChannelMessage.join) (Payload.ofValues [⟨.string, "#"⟩])
  have hfault : (initial.run default steps).fault? .channel ann 7 (.ofBytes []) =
      some (.unknownMessageType .channel 7) := by decide +kernel
  have hnone : (initial.run default steps).fault? .channel ann (Coded.code ChannelMessage.join)
      (Payload.ofValues [⟨.string, "#"⟩]) = none := by decide +kernel
  rw [hfault] at hgarbled
  exact ⟨hgarbled.answer, (hgarbled.untouched rfl).1, hjoin.completed hnone⟩

end World

end ChatServer
