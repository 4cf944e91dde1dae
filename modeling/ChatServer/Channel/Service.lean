import ChatServer.Channel.Event
import ChatServer.Channel.Name
import ChatServer.Hosting.Server
import ChatServer.Message

/-!
# `ChannelService`: joining and leaving channels

The channel service finds channels by key, creates one when the first user joins it and releases it
when the last user leaves. Every request is answered to the client that made it; changes of a
channel are announced to its members and, after the request is finished, to the observers.
-/

namespace ChatServer

/-- The state of the channel service. -/
structure ChannelService where
  binding : Binding
  registry : Table String Nat
  channels : Archive String Channel
  observers : List Observer
deriving Repr, Inhabited

/-- A request about a channel. -/
inductive ChannelRequest where
  | join (name : String)
  | leave (name : String)
deriving DecidableEq, Repr, Inhabited

namespace ChannelRequest

/-- Reads a request with a message code. -/
def ofMessage (code : UInt16) (p : Payload) : Except HandleError ChannelRequest × Payload :=
  match Coded.ofCode? code with
  | some ChannelMessage.join => named .join
  | some ChannelMessage.leave => named .leave
  | _ => (.error (.unknownMessageType .channel code), p)
where
  /-- Reads the name of the channel. -/
  named (request : String → ChannelRequest) : Except HandleError ChannelRequest × Payload :=
    match p.read .string with
    | .error e => (.error (.decode e), p)
    | .ok (name, p) => (.ok (request name), p)

end ChannelRequest

/-- What an operation sends, and what it tells the observers, each in order. -/
structure Effects where
  messages : List Outgoing
  events : List ChannelEvent
deriving DecidableEq, Repr

namespace Effects

/-- Nothing sent and nothing told. -/
def none : Effects := ⟨[], []⟩

/-- One operation after another. -/
def append (a b : Effects) : Effects := ⟨a.messages ++ b.messages, a.events ++ b.events⟩

instance : Append Effects := ⟨append⟩

end Effects

namespace ChannelService

/-- The service before anything happened. -/
def initial : ChannelService := ⟨.none, ∅, ∅, []⟩

/-- The channel with a name. -/
def channel (s : ChannelService) (r : ChannelRef) : Channel :=
  (s.channels.get? r).getD (.absent r.owner)

/-- The channel registered under a key, enabled or not. -/
def registered? (s : ChannelService) (key : String) : Option ChannelRef :=
  (s.registry.get? key).map fun n => ⟨key, n⟩

/-- The enabled channel that a text names. -/
def lookup? (config : ChannelConfig) (s : ChannelService) (name : String) : Option ChannelRef :=
  (s.registered? (config.keyFor name)).filter fun r => (s.channel r).enabled

/-- The number of registered channels. -/
def count (s : ChannelService) : Nat := s.registry.size

/-- What is known about the channel that a text names. -/
def info? (config : ChannelConfig) (users : UserRef → User) (s : ChannelService) (name : String) :
    Option ChannelInfo :=
  (s.lookup? config name).map fun r => (s.channel r).info users

/-- Whether a client is a member of the channel that a text names. -/
def isMember (config : ChannelConfig) (s : ChannelService) (name : String) (client : ClientId) :
    Bool :=
  (s.lookup? config name).any fun r => (s.channel r).isMember client

/-- Whether a client is an operator of the channel that a text names. -/
def isOperator (config : ChannelConfig) (s : ChannelService) (name : String)
    (client : ClientId) : Bool :=
  (s.lookup? config name).any fun r => (s.channel r).isOperator client

/-- Changes a channel. -/
def update (s : ChannelService) (r : ChannelRef) (c : Channel) : ChannelService :=
  { s with channels := s.channels.update r fun _ => c }

/-- Registers a new channel; a channel that was registered under its key is no longer. -/
def register (s : ChannelService) (c : Channel) : ChannelService :=
  { s with
    registry := s.registry.insert c.key (s.channels.next c.key).number
    channels := s.channels.add c.key c }

/-- Takes a channel out of the registry, unless another one took its place. -/
def release (s : ChannelService) (r : ChannelRef) : ChannelService :=
  if s.registry.get? r.owner = some r.number then
    { s with registry := s.registry.erase r.owner }
  else s

/-- Puts a user on the roster of a channel. -/
def enlist (users : UserRef → User) (s : ChannelService) (channel : ChannelRef) (r : UserRef)
    (audience : Audience) : ChannelService × AddOutcome :=
  let result := (s.channel channel).add users r audience
  (s.update channel result.1, result.2)

/-- Takes a client off the roster of a channel. -/
def dismiss (users : UserRef → User) (s : ChannelService) (channel : ChannelRef)
    (client : ClientId) (audience : Audience) : ChannelService × RemoveOutcome :=
  let result := (s.channel channel).remove users client audience
  (s.update channel result.1, result.2)

/-! ## Requests -/

/-- Tells several clients that a user joined a channel. -/
def announceJoin (channel : ChannelRef) (recipients : List ClientId) (u : User) : List Outgoing :=
  recipients.map fun client => ⟨client, .memberJoined channel u.entry⟩

/-- Tells several clients that a user left a channel. -/
def announceLeave (channel : ChannelRef) (recipients : List ClientId) (u : User) :
    List Outgoing :=
  recipients.map fun client => ⟨client, .memberLeft channel u.entry⟩

/-- Refuses to let a user join. -/
def refuseJoin (u : User) (client : ClientId) (reason : ChannelResult) : Effects :=
  ⟨[⟨client, .joinRefused reason⟩], [.joinCompleted reason u]⟩

/-- Refuses to let a user leave. -/
def refuseLeave (u : User) (client : ClientId) (reason : ChannelResult) : Effects :=
  ⟨[⟨client, .leaveRefused reason⟩], [.leaveCompleted reason u]⟩

/-- Creates the channel with a name for the user whose record is `r`. -/
def found (config : ChannelConfig) (users : UserRef → User) (s : ChannelService) (r : UserRef)
    (name : String) : ChannelService × Effects :=
  let u := users r
  let c := Channel.create name (config.keyFor name) r
  let info := c.info users
  (s.register c,
    { messages := [⟨r.owner, .channelCreated⟩]
      events := [.joinCompleted .channelCreated u, .created info, .joined info u] })

/-- Lets a user join the channel with a name, which is created if there is no enabled one. -/
def join (config : ChannelConfig) (users : UserRef → User) (s : ChannelService) (r : UserRef)
    (name : String) : ChannelService × Effects :=
  let u := users r
  let client := r.owner
  if !u.identified then (s, refuseJoin u client .notIdentified)
  else if !isValidChannelName name then (s, refuseJoin u client .invalidChannelName)
  else
    match s.lookup? config name with
    | none => s.found config users r name
    | some channel =>
      match s.enlist users channel r (if config.notifyJoiner then .everyone else .others) with
      | (s', .added snapshot recipients info) =>
        (s',
          { messages := ⟨client, .joined snapshot⟩ :: announceJoin channel recipients u
            events := [.joinCompleted .ok u, .joined info u] })
      | (s', .alreadyMember) => (s', refuseJoin u client .alreadyInChannel)
      | (_, .disabled) => s.found config users r name

/-- Lets a user leave the channel with a name. -/
def leave (config : ChannelConfig) (users : UserRef → User) (s : ChannelService) (r : UserRef)
    (name : String) : ChannelService × Effects :=
  let u := users r
  let client := r.owner
  if !u.identified then (s, refuseLeave u client .notIdentified)
  else if !isValidChannelName name then (s, refuseLeave u client .invalidChannelName)
  else
    match s.registered? (config.keyFor name) with
    | none => (s, refuseLeave u client .invalidChannelName)
    | some channel =>
      match s.dismiss users channel client .everyone with
      | (s', .disabled) => (s', refuseLeave u client .invalidChannelName)
      | (s', .notMember) => (s', refuseLeave u client .notInChannel)
      | (s', .removed departed recipients nowEmpty info) =>
        (if nowEmpty then s'.release channel else s',
          { messages := announceLeave channel recipients departed ++ [⟨client, .left name⟩]
            events := [.left info departed, .leaveCompleted .ok u] })

/-- Does what a request asks for. -/
def perform (config : ChannelConfig) (users : UserRef → User) (s : ChannelService) (r : UserRef) :
    ChannelRequest → ChannelService × Effects
  | .join name => s.join config users r name
  | .leave name => s.leave config users r name

/-- The record of a client that the user service on a server has. -/
def resolve (servers : Servers) (directory : UserDirectory) (i : ServerId) (client : ClientId) :
    Except HandleError UserRef :=
  if servers.component? i .user = some .users then
    match directory.ref? client with
    | some r => .ok r
    | none => .error (.unknownUser client)
  else .error (.componentUnavailable .user)

/-- Handles a message. Returns what is left of its payload also if it is refused. -/
def handle (config : ChannelConfig) (servers : Servers) (directory : UserDirectory)
    (s : ChannelService) (client : ClientId) (code : UInt16) (p : Payload) :
    Except HandleError (ChannelService × Effects) × Payload :=
  match s.binding.get? servers with
  | none => (.error .notInitialized, p)
  | some i =>
    match ChannelRequest.ofMessage code p with
    | (.error e, p) => (.error e, p)
    | (.ok request, p) =>
      match resolve servers directory i client with
      | .error e => (.error e, p)
      | .ok r => (.ok (s.perform config directory.user r request), p)

/-! ## Connections and servers -/

/-- Takes a client that is gone off one channel. Nobody is told when no server is bound. -/
def withdraw (bound : Bool) (users : UserRef → User) (client : ClientId)
    (state : ChannelService × Effects) (channel : ChannelRef) : ChannelService × Effects :=
  match state.1.dismiss users channel client .others with
  | (s, .removed u recipients nowEmpty info) =>
    (if nowEmpty then s.release channel else s,
      state.2 ++ ⟨if bound then announceLeave channel recipients u else [], [.left info u]⟩)
  | (s, _) => (s, state.2)

/-- Takes a client that is gone off all channels. -/
def disconnect (servers : Servers) (users : UserRef → User) (s : ChannelService)
    (client : ClientId) : ChannelService × Effects :=
  let bound := (s.binding.get? servers).isSome
  (s.registry.entries.map fun e => (⟨e.1, e.2⟩ : ChannelRef)).foldl
    (withdraw bound users client) (s, .none)

/-- Closes all channels and forgets them. -/
def clear (s : ChannelService) : ChannelService :=
  s.registry.entries.foldl
    (fun s e => s.update ⟨e.1, e.2⟩ (s.channel ⟨e.1, e.2⟩).close)
    { s with registry := ∅ }

/-- Binds the service to a server. -/
def attach (servers : Servers) (s : ChannelService) (i : ServerId) :
    Except ComponentError ChannelService :=
  (s.binding.bind servers .channel i).map fun binding => { s with binding }

/-- Closes all channels and unbinds the service. -/
def shutdown (s : ChannelService) : ChannelService := { s.clear with binding := .none }

/-- Adds an observer after those there are. -/
def observe (s : ChannelService) (o : Observer) : ChannelService :=
  { s with observers := s.observers ++ [o] }

/-- What the observers notice of some events: each event reaches all of them before the next, when
the operation that caused it is finished. -/
def callbacks (config : ChannelConfig) (users : UserRef → User) (s : ChannelService)
    (events : List ChannelEvent) : List Callback :=
  events.flatMap fun event =>
    s.observers.filterMap fun
      | .silent => none
      | .recording number =>
        some
          { observer := number, event
            memberCount :=
              event.channel?.bind fun c => (s.info? config users c.name).map (·.memberCount)
            channelCount := s.count }

end ChannelService

end ChatServer
