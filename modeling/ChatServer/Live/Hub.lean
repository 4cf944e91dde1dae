import ChatServer.Config
import ChatServer.Error
import ChatServer.Live.Address
import ChatServer.Live.Outbox
import ChatServer.World

/-!
# `Hub`: a running server

A hub is built from settings and components and has one outbox per connection. A connection first
registers its outbox, if a queue can be made for it, and tells every component of the client; then
its messages are handed to the components in the order of their arrival, until one is refused or the
connection ends; then the outbox is unregistered and every component learns that the client is gone.
The journal lists all of this in order.
-/

namespace ChatServer.Live

/-- A component that a server is to be built with. A component that is bound already runs on
another server. -/
inductive Part where
  | users (rules : UserRules) (bound : Bool)
  | channels (config : ChannelConfig) (bound : Bool)
  | foreign

/-- The component that a part is. -/
def Part.component : Part → ComponentId
  | users _ _ => .users
  | channels _ _ => .channels
  | foreign => .freshForeign

/-- Something that happened between a connection and the rest of the server. -/
inductive Call where
  | registered (client : ClientId)
  | connected (component : ComponentId) (client : ClientId)
  | handled (component : ComponentId) (client : ClientId) (frame : Frame)
  | unregistered (client : ClientId)
  | disconnected (component : ComponentId) (client : ClientId)
deriving DecidableEq, Repr

/-- The state of a running server. It is the first server of its world. -/
structure Hub where
  config : ServerConfig
  rules : Rules
  components : List ComponentId
  world : World
  outboxes : Outboxes
  journal : List Call

namespace Hub

/-! ## Building -/

/-- The parts with the standard ones for the types that are missing: the user service goes first and
the channel service last. -/
def withDefaults (config : ServerConfig) (parts : List Part) : List Part :=
  let has (type : ComponentType) := parts.any fun p => p.component.type = type
  let front := if has .user then [] else [Part.users ⟨config.user, .everyone⟩ false]
  let back := if has .channel then [] else [Part.channels config.channel false]
  front ++ parts ++ back

/-- The first type that occurs for a second time. -/
def duplicate? : (seen : List ComponentType) → List ComponentId → Option ComponentType
  | _, [] => none
  | seen, c :: cs => if c.type ∈ seen then some c.type else duplicate? (c.type :: seen) cs

/-- The world before the components are bound. Its second server is the one where components that
are bound already run. -/
def worldOf (parts : List Part) : World :=
  let servers : Servers := [⟨true, ∅⟩, ⟨true, ∅⟩]
  let placed := parts.foldl (fun servers p => servers.place 0 p.component) servers
  let elsewhere : Binding := ⟨some 1⟩
  let runsElsewhere (c : ComponentId) :=
    parts.any fun
      | .users _ bound => c == .users && bound
      | .channels _ bound => c == .channels && bound
      | .foreign => false
  { servers := placed
    users := { UserService.initial with
      binding := if runsElsewhere .users then elsewhere else .none }
    channels := { ChannelService.initial with
      binding := if runsElsewhere .channels then elsewhere else .none }
    record := [] }

/-- The rules that the parts bring. -/
def rulesOf (parts : List Part) : Rules :=
  parts.foldl
    (fun rules p =>
      match p with
      | .users user _ => { rules with user }
      | .channels channel _ => { rules with channel }
      | .foreign => rules)
    ⟨⟨{}, .everyone⟩, {}⟩

/-- Binds components one after another. -/
def attachAll (w : World) : List ComponentId → Except ComponentError World
  | [] => .ok w
  | c :: cs =>
    match w.attach c 0 with
    | (w, .ok ()) => attachAll w cs
    | (_, .error e) => .error e

/-- Builds a server. The components come first, then the address to listen at. -/
def build (network : Network) (config : ServerConfig) (parts : List Part) :
    Except ServerError Hub :=
  let parts := withDefaults config parts
  let components := parts.map Part.component
  match duplicate? [] components with
  | some type => .error (.component (.duplicate type))
  | none =>
    match attachAll (worldOf parts) components with
    | .error e => .error (.component e)
    | .ok world =>
      match checkAddress network config.bind with
      | .error e => .error (.transport (.acceptFailed e.message))
      | .ok () =>
        .ok
          { config, rules := rulesOf parts, components, world
            outboxes := .initial config.queueCapacity, journal := [] }

/-! ## Connections -/

/-- Queues the messages that the components sent. -/
def flush (h : Hub) : Hub :=
  { h with
    world := h.world.takeRecord.2
    outboxes :=
      h.world.takeRecord.1.foldl (fun o m => o.send m.2.client m.2.message.frame) h.outboxes }

/-- Makes a step of the world and queues what it sends. -/
def act (h : Hub) (s : Step) : Hub × Report :=
  let (world, report) := h.world.step h.rules s
  ({ h with world }.flush, report)

/-- Adds to the journal. -/
def note (h : Hub) (call : Call) : Hub := { h with journal := h.journal ++ [call] }

/-- Registers a new connection and tells every component. `makes` says for how many frames a queue
can be made. Where none can be made the connection is over before anything is done about it. -/
def connect (makes : Nat → Bool) (h : Hub) (client : ClientId) (hostname suffix : String) :
    Option Hub :=
  if makes h.outboxes.capacity then
    some
      (h.components.foldl
        (fun h c => ((h.note (.connected c client)).act (.connect [c] client hostname suffix)).1)
        ({ h with outboxes := h.outboxes.register client }.note (.registered client)))
  else none

/-- Ends the registration of a connection and tells every component. -/
def disconnect (h : Hub) (client : ClientId) : Hub :=
  h.components.foldl
    (fun h c => ((h.note (.disconnected c client)).act (.disconnect [c] client)).1)
    ({ h with outboxes := h.outboxes.unregister client }.note (.unregistered client))

/-- Hands a received message to the component that it addresses. -/
def receive (h : Hub) (client : ClientId) (bytes : List UInt8) : Hub × Except ServerError Unit :=
  match Frame.decode bytes with
  | .error e => (h, .error (.protocol e))
  | .ok frame =>
    match h.world.servers.component? 0 frame.component with
    | none => (h, .error (.handle (.componentUnavailable frame.component)))
    | some c =>
      match (h.note (.handled c client frame)).act
          (.message c client frame.message frame.payload) with
      | (h, ⟨.handled (.error e) _, _⟩) => (h, .error (.handle e))
      | (h, _) => (h, .ok ())

/-- Stops all components and then takes them from the server. -/
def stop (h : Hub) : Hub :=
  let stopped := h.components.foldl (fun h c => (h.act (.stop c)).1) h
  h.components.foldl (fun h c => (h.act (.shutdown c)).1) stopped

/-- The number of users, if the user service is not replaced. -/
def userCount (h : Hub) : Option Nat :=
  if h.components.contains .users then some h.world.users.directory.count else none

/-- What is known about the channel with a name. -/
def info? (h : Hub) (name : String) : Option ChannelInfo :=
  h.world.channels.info? h.rules.channel h.world.user name

end Hub

end ChatServer.Live
