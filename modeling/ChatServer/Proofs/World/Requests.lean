import ChatServer.World

/-!
# What a message asks for

A message to a service is refused, or it makes a claim or a request in the name of a client's record
and through a server. What it asks for is found out without looking at any channel; only then the
services act. So two worlds in which it is found out alike differ at most by what the services do.
-/

namespace ChatServer

namespace World

/-! ## What a world sends -/

@[simp]
theorem users_send (w : World) (b : Binding) (messages : List Outgoing) :
    (w.send b messages).users = w.users := by
  unfold send
  split <;> rfl

@[simp]
theorem channels_send (w : World) (b : Binding) (messages : List Outgoing) :
    (w.send b messages).channels = w.channels := by
  unfold send
  split <;> rfl

@[simp]
theorem servers_send (w : World) (b : Binding) (messages : List Outgoing) :
    (w.send b messages).servers = w.servers := by
  unfold send
  split <;> rfl

@[simp]
theorem send_nil (w : World) (b : Binding) : w.send b [] = w := by
  unfold send
  split
  · rw [List.map_nil, List.append_nil]
  · rfl

/-- What is sent goes to the clients of the server that the binding leads to, after all that was
sent before. -/
theorem send_of_bound {w : World} {b : Binding} {i : ServerId} (h : b.get? w.servers = some i)
    (messages : List Outgoing) :
    w.send b messages = { w with record := w.record ++ messages.map fun m => (i, m) } := by
  rw [send, h]

/-! ## Claims and requests -/

variable {rules : Rules} {w : World} {client : ClientId} {code : UInt16} {p rest : Payload}

/-- The claim that a message makes, or why it makes none, and what is left of its payload. -/
def claimOf (w : World) (client : ClientId) (code : UInt16) (p : Payload) :
    Except HandleError (ServerId × UserRef × NameClaim) × Payload :=
  match w.users.binding.get? w.servers with
  | none => (.error .notInitialized, p)
  | some i =>
    match NameClaim.ofMessage code p with
    | (.error e, rest) => (.error e, rest)
    | (.ok claim, rest) =>
      match w.users.directory.ref? client with
      | none => (.error (.unknownUser client), rest)
      | some r => (.ok (i, r, claim), rest)

/-- The request that a message makes, or why it makes none, and what is left of its payload. -/
def requestOf (w : World) (client : ClientId) (code : UInt16) (p : Payload) :
    Except HandleError (ServerId × UserRef × ChannelRequest) × Payload :=
  match w.channels.binding.get? w.servers with
  | none => (.error .notInitialized, p)
  | some i =>
    match ChannelRequest.ofMessage code p with
    | (.error e, rest) => (.error e, rest)
    | (.ok request, rest) =>
      match ChannelService.resolve w.servers w.users.directory i client with
      | .error e => (.error e, rest)
      | .ok r => (.ok (i, r, request), rest)

/-- The world after a claim was decided, which is answered through a server. -/
def afterClaim (rules : Rules) (w : World) (i : ServerId) (r : UserRef) (claim : NameClaim) :
    World :=
  { w with
    users := (w.users.claim rules.user r claim).1
    record := w.record ++ (w.users.claim rules.user r claim).2.map fun m => (i, m) }

/-- The world after a request was performed, with messages sent through a server. -/
def afterRequest (rules : Rules) (w : World) (i : ServerId) (r : UserRef)
    (request : ChannelRequest) : World :=
  { w with
    channels := (w.channels.perform rules.channel w.user r request).1
    record := w.record ++
      (w.channels.perform rules.channel w.user r request).2.messages.map fun m => (i, m) }

/-- A claim that is understood comes to a service that is bound, reads back from its payload, and is
by a client with a record. -/
theorem claimOf_eq_ok {i : ServerId} {r : UserRef} {claim : NameClaim}
    (h : w.claimOf client code p = (.ok (i, r, claim), rest)) :
    w.users.binding.get? w.servers = some i ∧ NameClaim.ofMessage code p = (.ok claim, rest) ∧
      w.users.directory.ref? client = some r := by
  unfold claimOf at h
  split at h
  · cases h
  · next hbound =>
    split at h
    · cases h
    · next hread =>
      split at h
      · cases h
      · next href =>
        cases h
        exact ⟨hbound, hread, href⟩

/-- The channel service takes the sender of a message for the client that the directory finds. -/
theorem resolve_eq_ok {servers : Servers} {d : UserDirectory} {i : ServerId} {r : UserRef}
    (h : ChannelService.resolve servers d i client = .ok r) : d.ref? client = some r := by
  unfold ChannelService.resolve at h
  split at h
  · cases hr : d.ref? client with
    | none => rw [hr] at h; cases h
    | some q => rw [hr] at h; cases h; rfl
  · cases h

/-- A request that is understood comes to a service that is bound, reads back from its payload, and
is by a client with a record. -/
theorem requestOf_eq_ok {i : ServerId} {r : UserRef} {request : ChannelRequest}
    (h : w.requestOf client code p = (.ok (i, r, request), rest)) :
    w.channels.binding.get? w.servers = some i ∧
      ChannelRequest.ofMessage code p = (.ok request, rest) ∧
      w.users.directory.ref? client = some r := by
  unfold requestOf at h
  split at h
  · cases h
  · next hbound =>
    split at h
    · cases h
    · next hread =>
      split at h
      · cases h
      · next hresolve =>
        cases h
        exact ⟨hbound, hread, resolve_eq_ok hresolve⟩

/-- A message asks the channel service for something about the channel with a name: it can be read,
and the user service of the same server knows a current record of the client. -/
structure IsRequest (w : World) (message : ChannelMessage) (client : ClientId) (code : UInt16)
    (p : Payload) (name : String) (rest : Payload) (r : UserRef) : Prop where
  hosted : ∃ i, w.channels.binding.get? w.servers = some i ∧
    w.servers.component? i .user = some .users
  code : Coded.ofCode? code = some message
  read : p.read .string = .ok (name, rest)
  current : w.users.directory.ref? client = some r

/-- A well-formed request in a running server is understood as such. -/
theorem IsRequest.requestOf {message : ChannelMessage} {name : String} {r : UserRef}
    (h : w.IsRequest message client code p name rest r) {request : ChannelRequest}
    (read : ChannelRequest.ofMessage code p = (.ok request, rest)) :
    ∃ i, w.requestOf client code p = (.ok (i, r, request), rest) := by
  obtain ⟨i, hbound, hservice⟩ := h.hosted
  refine ⟨i, ?_⟩
  simp only [World.requestOf, hbound, read, ChannelService.resolve, if_pos hservice, h.current]

/-- A well-formed request to join is read as one for the same name. -/
theorem IsRequest.ofMessage_join {name : String} {r : UserRef}
    (h : w.IsRequest .join client code p name rest r) :
    ChannelRequest.ofMessage code p = (.ok (.join name), rest) := by
  rw [ChannelRequest.ofMessage, h.code]
  simp only [ChannelRequest.ofMessage.named, h.read]

/-- A well-formed request to leave is read as one for the same name. -/
theorem IsRequest.ofMessage_leave {name : String} {r : UserRef}
    (h : w.IsRequest .leave client code p name rest r) :
    ChannelRequest.ofMessage code p = (.ok (.leave name), rest) := by
  rw [ChannelRequest.ofMessage, h.code]
  simp only [ChannelRequest.ofMessage.named, h.read]

/-- A message asks the user service for a name: it is read in full, and the client has a current
record. The service reads nothing while no server hosts it. -/
structure IsClaim (w : World) (client : ClientId) (code : UInt16) (p : Payload)
    (claim : NameClaim) (rest : Payload) (r : UserRef) : Prop where
  hosted : ∃ i, w.users.binding.get? w.servers = some i
  code : Coded.ofCode? code = some UserMessage.identify
  read : ∃ password, p.read .string = .ok (claim.username, password) ∧
    password.read .string = .ok (claim.password, rest)
  current : w.users.directory.ref? client = some r

/-- A well-formed claim is read as one for the same name and password. -/
theorem IsClaim.ofMessage {claim : NameClaim} {r : UserRef}
    (h : w.IsClaim client code p claim rest r) :
    NameClaim.ofMessage code p = (.ok claim, rest) := by
  obtain ⟨password, husername, hpassword⟩ := h.read
  rw [NameClaim.ofMessage, if_pos h.code]
  simp only [NameClaim.read, husername, hpassword]

/-- A well-formed claim in a running server is understood as such. -/
theorem IsClaim.claimOf {claim : NameClaim} {r : UserRef}
    (h : w.IsClaim client code p claim rest r) :
    ∃ i, w.claimOf client code p = (.ok (i, r, claim), rest) := by
  obtain ⟨i, hbound⟩ := h.hosted
  refine ⟨i, ?_⟩
  simp only [World.claimOf, hbound, h.ofMessage, h.current]

/-- A message for the user service is a claim to be judged or it is refused, and then nothing
changes. -/
theorem deliver_users (rules : Rules) (w : World) (client : ClientId) (code : UInt16)
    (p : Payload) :
    w.deliver rules .users client code p =
      match w.claimOf client code p with
      | (.error e, rest) => (w, ⟨.handled (.error e) rest.remaining, []⟩)
      | (.ok (i, r, claim), rest) =>
        (w.afterClaim rules i r claim, ⟨.handled (.ok ()) rest.remaining, []⟩) := by
  unfold deliver UserService.handle claimOf
  dsimp only
  cases hb : w.users.binding.get? w.servers with
  | none => rfl
  | some i =>
    obtain ⟨result, rest⟩ := NameClaim.ofMessage code p
    cases result with
    | error e => rfl
    | ok claim =>
      dsimp only
      cases w.users.directory.ref? client with
      | none => rfl
      | some r =>
        dsimp only
        rw [send_of_bound (w := { w with users := (w.users.claim rules.user r claim).1 }) hb]
        rfl

/-- A message for the channel service is a request to be performed, with the events that observers
then hear of, or it is refused, and then nothing changes. -/
theorem deliver_channels (rules : Rules) (w : World) (client : ClientId) (code : UInt16)
    (p : Payload) :
    w.deliver rules .channels client code p =
      match w.requestOf client code p with
      | (.error e, rest) => (w, ⟨.handled (.error e) rest.remaining, []⟩)
      | (.ok (i, r, request), rest) =>
        (w.afterRequest rules i r request,
          ⟨.handled (.ok ()) rest.remaining,
            (w.afterRequest rules i r request).notice rules
              (w.channels.perform rules.channel w.user r request).2.events⟩) := by
  unfold deliver ChannelService.handle requestOf
  dsimp only
  cases hb : w.channels.binding.get? w.servers with
  | none => rfl
  | some i =>
    obtain ⟨result, rest⟩ := ChannelRequest.ofMessage code p
    cases result with
    | error e => rfl
    | ok request =>
      dsimp only
      cases ChannelService.resolve w.servers w.users.directory i client with
      | error e => rfl
      | ok r =>
        dsimp only
        rw [send_of_bound
          (w := { w with
            channels := (w.channels.perform rules.channel w.users.directory.user r request).1 }) hb]
        rfl

/-- What the handling of a message comes to: a refused message changes nothing, and an accepted one
is a claim or a request of a client that has a current record. -/
inductive Delivery (rules : Rules) (w : World) (client : ClientId) (code : UInt16) (p : Payload) :
    ComponentId → World → Prop
  | refused (c : ComponentId) : Delivery rules w client code p c w
  | claimed {i : ServerId} {r : UserRef} {request : NameClaim} {rest : Payload}
    (bound : w.users.binding.get? w.servers = some i)
    (read : NameClaim.ofMessage code p = (.ok request, rest))
    (current : w.users.directory.ref? client = some r) :
    Delivery rules w client code p .users (w.afterClaim rules i r request)
  | requested {i : ServerId} {r : UserRef} {request : ChannelRequest} {rest : Payload}
    (bound : w.channels.binding.get? w.servers = some i)
    (read : ChannelRequest.ofMessage code p = (.ok request, rest))
    (current : w.users.directory.ref? client = some r) :
    Delivery rules w client code p .channels (w.afterRequest rules i r request)

/-- Whatever a message is about, the world is left as it was, or after one claim, or after one
request. -/
theorem delivery (rules : Rules) (w : World) (c : ComponentId) (client : ClientId)
    (code : UInt16) (p : Payload) :
    Delivery rules w client code p c (w.deliver rules c client code p).1 := by
  cases c with
  -- components without state of their own have nothing to change
  | freshForeign => exact .refused _
  | freshChannels => exact .refused _
  | users =>
    rw [deliver_users]
    rcases h : w.claimOf client code p with ⟨result, rest⟩
    cases result with
    | error e => exact .refused _
    | ok claim =>
      obtain ⟨hbound, hread, hcurrent⟩ := claimOf_eq_ok h
      exact .claimed hbound hread hcurrent
  | channels =>
    rw [deliver_channels]
    rcases h : w.requestOf client code p with ⟨result, rest⟩
    cases result with
    | error e => exact .refused _
    | ok request =>
      obtain ⟨hbound, hread, hcurrent⟩ := requestOf_eq_ok h
      exact .requested hbound hread hcurrent

end World

end ChatServer
