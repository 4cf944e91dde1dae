import ChatServer.Channel.Service
import ChatServer.User.Service

/-!
# `World`: the services and the servers they run on

A world holds the user service, the channel service and all servers. It changes by steps: clients
connect, send messages and disconnect, and components are started, stopped and moved between
servers. `run` makes a list of steps one after another. Servers record what is sent through them.
-/

namespace ChatServer

/-- The rules that the services of a world go by. -/
structure Rules where
  user : UserRules
  channel : ChannelConfig
deriving Inhabited

/-- The state of all services and servers. The messages that were sent are recorded with the
server they went through. -/
structure World where
  servers : Servers
  users : UserService
  channels : ChannelService
  record : List (ServerId × Outgoing)
deriving Repr

/-- Something that happens to a world. -/
inductive Step where
  /-- A client connects, which the listed components learn in order. -/
  | connect (hooks : List ComponentId) (client : ClientId) (hostname suffix : String)
  /-- A client is gone, which the listed components learn in order. -/
  | disconnect (hooks : List ComponentId) (client : ClientId)
  /-- A client sends a message to a component. -/
  | message (component : ComponentId) (client : ClientId) (code : UInt16) (payload : Payload)
  /-- The server of a component starts. -/
  | start (component : ComponentId)
  /-- The server of a component stops. -/
  | stop (component : ComponentId)
  /-- A component is taken from its server. -/
  | shutdown (component : ComponentId)
  /-- A server is created. -/
  | createServer
  /-- A server ends. -/
  | dropServer (server : ServerId)
  /-- A server is given a component, which is then bound to it. -/
  | register (component : ComponentId) (server : ServerId)
  /-- A component is bound to a server. -/
  | attach (component : ComponentId) (server : ServerId)
  /-- The channel service gets an observer. -/
  | observe (observer : Observer)
  /-- A user is put on a roster directly. -/
  | enlist (channel : ChannelRef) (user : UserRef) (audience : Audience)
  /-- A client is taken off a roster directly. -/
  | dismiss (channel : ChannelRef) (client : ClientId) (audience : Audience)
deriving Repr, Inhabited

/-- What a step answers. -/
inductive Answer where
  | done
  | handled (outcome : Except HandleError Unit) (remaining : Nat)
  | attached (outcome : Except ComponentError Unit)
  | enlisted (outcome : AddOutcome)
  | dismissed (outcome : RemoveOutcome)
deriving Repr, Inhabited

/-- What a step answers and what the observers notice of it. -/
structure Report where
  answer : Answer
  callbacks : List Callback
deriving Repr, Inhabited

namespace World

/-- One server without components, and services that nothing happened to. -/
def initial : World := ⟨Servers.create [], .initial, .initial, []⟩

/-- The user record with a name. -/
def user (w : World) : UserRef → User := w.users.directory.user

/-- Records messages that a component sent through the server it is bound to. -/
def send (w : World) (b : Binding) (messages : List Outgoing) : World :=
  match b.get? w.servers with
  | some i => { w with record := w.record ++ messages.map fun m => (i, m) }
  | none => w

/-- What the observers of the channels notice of events. -/
def notice (rules : Rules) (w : World) (events : List ChannelEvent) : List Callback :=
  w.channels.callbacks rules.channel w.user events

/-- Tells one component that a client connected. -/
def connectTo (rules : Rules) (client : ClientId) (hostname suffix : String) (w : World) :
    ComponentId → World
  | .users => { w with users := w.users.connect rules.user client hostname suffix }
  | _ => w

/-- Tells one component that a client is gone. -/
def disconnectFrom (rules : Rules) (client : ClientId) (w : World) (c : ComponentId) :
    World × List Callback :=
  match c with
  | .users => ({ w with users := w.users.disconnect client }, [])
  | .channels =>
    let (s, effects) := w.channels.disconnect w.servers w.user client
    let w' := { w with channels := s }.send w.channels.binding effects.messages
    (w', w'.notice rules effects.events)
  | _ => (w, [])

/-- Hands a message to a component. A channel service that was just made is bound to no server. -/
def deliver (rules : Rules) (w : World) (c : ComponentId) (client : ClientId) (code : UInt16)
    (p : Payload) : World × Report :=
  match c with
  | .freshForeign => (w, ⟨.handled (.ok ()) p.remaining, []⟩)
  | .freshChannels => (w, ⟨.handled (.error .notInitialized) p.remaining, []⟩)
  | .users =>
    match w.users.handle rules.user w.servers client code p with
    | (.error e, p) => (w, ⟨.handled (.error e) p.remaining, []⟩)
    | (.ok (s, messages), p) =>
      ({ w with users := s }.send w.users.binding messages, ⟨.handled (.ok ()) p.remaining, []⟩)
  | .channels =>
    match w.channels.handle rules.channel w.servers w.users.directory client code p with
    | (.error e, p) => (w, ⟨.handled (.error e) p.remaining, []⟩)
    | (.ok (s, effects), p) =>
      let w' := { w with channels := s }.send w.channels.binding effects.messages
      (w', ⟨.handled (.ok ()) p.remaining, w'.notice rules effects.events⟩)

/-- Binds a component to a server, which a component that was just made never refuses. -/
def attach (w : World) (c : ComponentId) (i : ServerId) : World × Except ComponentError Unit :=
  match c with
  | .users =>
    match w.users.attach w.servers i with
    | .ok s => ({ w with users := s }, .ok ())
    | .error e => (w, .error e)
  | .channels =>
    match w.channels.attach w.servers i with
    | .ok s => ({ w with channels := s }, .ok ())
    | .error e => (w, .error e)
  | _ => (w, .ok ())

/-- Gives a server a component, which keeps its place also if it cannot be bound. -/
def register (w : World) (c : ComponentId) (i : ServerId) : World × Except ComponentError Unit :=
  match w.servers.component? i c.type with
  | some _ => (w, .error (.duplicate c.type))
  | none => { w with servers := w.servers.place i c }.attach c i

/-- Stops a component; only the channel service has something to do. -/
def stop (w : World) : ComponentId → World
  | .channels => { w with channels := w.channels.clear }
  | _ => w

/-- Takes a component from its server. -/
def shutdown (w : World) : ComponentId → World
  | .users => { w with users := w.users.shutdown }
  | .channels => { w with channels := w.channels.shutdown }
  | _ => w

/-- Makes a step. -/
def step (rules : Rules) (w : World) : Step → World × Report
  | .connect hooks client hostname suffix =>
    (hooks.foldl (connectTo rules client hostname suffix) w, ⟨.done, []⟩)
  | .disconnect hooks client =>
    let (w', callbacks) :=
      hooks.foldl
        (fun (w, callbacks) c =>
          let (w', more) := w.disconnectFrom rules client c
          (w', callbacks ++ more))
        (w, [])
    (w', ⟨.done, callbacks⟩)
  | .message c client code p => w.deliver rules c client code p
  | .start _ => (w, ⟨.done, []⟩)
  | .stop c => (w.stop c, ⟨.done, []⟩)
  | .shutdown c => (w.shutdown c, ⟨.done, []⟩)
  | .createServer => ({ w with servers := w.servers.create }, ⟨.done, []⟩)
  | .dropServer i =>
    ({ w with servers := w.servers.drop i, record := w.record.filter fun e => e.1 ≠ i },
      ⟨.done, []⟩)
  | .register c i =>
    let (w', outcome) := w.register c i
    (w', ⟨.attached outcome, []⟩)
  | .attach c i =>
    let (w', outcome) := w.attach c i
    (w', ⟨.attached outcome, []⟩)
  | .observe o => ({ w with channels := w.channels.observe o }, ⟨.done, []⟩)
  | .enlist channel user audience =>
    let (s, outcome) := w.channels.enlist w.user channel user audience
    ({ w with channels := s }, ⟨.enlisted outcome, []⟩)
  | .dismiss channel client audience =>
    let (s, outcome) := w.channels.dismiss w.user channel client audience
    ({ w with channels := s }, ⟨.dismissed outcome, []⟩)

/-- Makes steps one after another. -/
def run (rules : Rules) (w : World) : List Step → World
  | [] => w
  | st :: steps => run rules (w.step rules st).1 steps

/-- Steps in two parts are made as one list of steps. -/
theorem run_append (rules : Rules) (w : World) (before after : List Step) :
    w.run rules (before ++ after) = (w.run rules before).run rules after := by
  induction before generalizing w with
  | nil => rfl
  | cons st _ ih => exact ih (w.step rules st).1

/-- Takes all recorded messages, those of the first server first. -/
def takeRecord (w : World) : List (ServerId × Outgoing) × World :=
  (w.record.mergeSort fun a b => a.1 ≤ b.1, { w with record := [] })

/-- Takes the recorded messages that a server sent to a client. -/
def takeRecordOf (w : World) (i : ServerId) (client : ClientId) : List Outgoing × World :=
  let mine := fun (e : ServerId × Outgoing) => e.1 = i && e.2.client = client
  ((w.record.filter mine).map Prod.snd, { w with record := w.record.filter fun e => !mine e })

end World

end ChatServer
