import ChatServer.Live.Handshake
import ChatServer.Live.Hub

/-!
# `Machine`: a server and its clients on one clock

The machine moves a server and the clients around it step by step. Time passes only when it is told
to. After every step all queued frames reach their clients, and connections that have to end do so:
those for which no queue can be made, those whose outbox overflowed, those that were silent for too
long and those that did not open in time. A client reaches the server only over a network that
connects them.
-/

namespace ChatServer.Live

/-- A connection that is open: its client and outbox, and when it was last heard of. -/
structure Connection where
  client : ClientId
  outbox : Nat
  heard : Nat
deriving DecidableEq, Repr, Inhabited

/-- The connection of a client. -/
inductive Link where
  /-- The request that opens the connection is not complete. -/
  | opening (since : Nat) (received : List UInt8)
  | connected (connection : Connection)
  | closed
deriving DecidableEq, Repr, Inhabited

/-- How a client is called. -/
abbrev Label := Nat

/-- The server, the time in milliseconds, and the clients by label. -/
structure Machine where
  hub : Hub
  network : Network
  accepting : Bool
  now : Nat
  nextClient : Nat
  links : Table Label Link

/-- What a step brought about: the frames that reached clients, the clients whose connection ended,
and the errors that ended connections. -/
structure Digest where
  received : List (Label × List UInt8)
  closed : List Label
  errors : List ServerError
deriving Repr

/-- What a client does, or what is done to the server. -/
inductive Action where
  | connect (label : Label)
  /-- Binary messages, sent back to back. -/
  | send (label : Label) (messages : List (List UInt8))
  | ping (label : Label)
  /-- The client closes its connection. -/
  | close (label : Label)
  /-- The connection of the client breaks. -/
  | drop (label : Label)
  /-- A connection without a request. -/
  | openRaw (label : Label)
  | sendRaw (label : Label) (bytes : List UInt8)
  /-- Time passes. -/
  | advance (milliseconds : Nat)
  | stop
  | info (name : String)
deriving Repr

/-- What a step answers. -/
inductive Reply where
  | nothing
  | refused
  | stopped
  | info (channel : Option ChannelInfo)
deriving Repr

/-- The reasons for which a step cannot be made. -/
inductive Fault where
  | noSuchClient
  | networkUnreachable
  | connectionRefused
deriving DecidableEq, Repr

/-- The wording of the fault. -/
def Fault.message : Fault → String
  | noSuchClient => "no such client"
  | networkUnreachable => "Network is unreachable (os error 101)"
  | connectionRefused => "Connection refused (os error 111)"

namespace Machine

/-- A server that runs, without clients. -/
def start (network : Network) (hub : Hub) : Machine := ⟨hub, network, true, 0, 1, ∅⟩

/-- The host name of every client. -/
def loopback : String := "127.0.0.1"

/-- The machine with the link of a client replaced. -/
def withLink (m : Machine) (label : Label) (link : Link) : Machine :=
  { m with links := m.links.insert label link }

/-- The clients with open connections, in the order of their connections. -/
def connections (m : Machine) : List (Label × Connection) :=
  (m.links.entries.filterMap fun e =>
    match e.2 with
    | .connected c => some (e.1, c)
    | _ => none).mergeSort fun a b => a.2.client.val ≤ b.2.client.val

/-- Brings a client the frames that wait for it. -/
def serveOutbox (state : Machine × Digest) (target : Label × Connection) : Machine × Digest :=
  let (m, d) := state
  let (frames, outboxes) := m.hub.outboxes.drain target.2.outbox
  ({ m with hub := { m.hub with outboxes } },
    { d with received := d.received ++ frames.map fun bytes => (target.1, bytes) })

/-- Ends a connection. The frames that wait for its client are still delivered. -/
def finish (state : Machine × Digest) (target : Label × Connection)
    (outcome : Except ServerError Unit) : Machine × Digest :=
  let (m, d) := state
  let m := { m with hub := m.hub.disconnect target.2.client }
  let (m, d) := serveOutbox (m, d) target
  let errors := match outcome with
    | .ok () => d.errors
    | .error e => d.errors ++ [e]
  (m.withLink target.1 .closed, { d with closed := d.closed ++ [target.1], errors })

/-- Brings all clients their frames and ends connections whose outbox overflowed, at most
`rounds` of them. -/
def settle : (rounds : Nat) → Machine × Digest → Machine × Digest
  | 0, state => state
  | rounds + 1, (m, d) =>
    let state := m.connections.foldl serveOutbox (m, d)
    match state.1.connections.find? fun t => state.1.hub.outboxes.overflowed t.2.outbox with
    | none => state
    | some target => settle rounds (finish state target (.ok ()))

/-- Brings everything to rest after the server did something. -/
def rest (state : Machine × Digest) : Machine × Digest :=
  settle (state.1.links.size + 1) state

/-- Hands messages of a client to the server until one ends its connection. -/
def sendAll (label : Label) : Machine × Digest → List (List UInt8) → Machine × Digest
  | state, [] => state
  | (m, d), bytes :: messages =>
    match m.links.get? label with
    | some (.connected c) =>
      let (hub, outcome) := m.hub.receive c.client bytes
      let c := { c with heard := m.now }
      let m := { m with hub }.withLink label (.connected c)
      match outcome with
      | .ok () => sendAll label (rest (m, d)) messages
      | .error e => rest (finish (m, d) (label, c) (.error e))
    | _ => (m, d)

/-- When a connection has to end if nothing more comes, with its client. -/
def deadlines (m : Machine) : List (Nat × Label × Link) :=
  (m.links.entries.filterMap fun e =>
    match e.2 with
    | .opening since _ =>
      m.hub.config.handshakeTimeout.map fun limit => (since + 1000 * limit, e)
    | .connected c => m.hub.config.idleTimeout.map fun limit => (c.heard + 1000 * limit, e)
    | .closed => none).mergeSort fun a b => a.1 ≤ b.1

/-- Ends a connection because its time is over, unless it ended already. -/
def expire (state : Machine × Digest) (label : Label) : Machine × Digest :=
  match state.1.links.get? label with
  | some (.opening _ _) =>
    (state.1.withLink label .closed, { state.2 with closed := state.2.closed ++ [label] })
  | some (.connected c) => rest (finish state (label, c) (.ok ()))
  | _ => state

/-- Ends a connection from the side of its client. -/
def hangUp (m : Machine) (label : Label) (link : Link) (outcome : Except ServerError Unit) :
    Machine × Digest :=
  match link with
  | .connected c => rest (finish (m, ⟨[], [], []⟩) (label, c) outcome)
  | .opening _ _ => (m.withLink label .closed, ⟨[], [label], []⟩)
  | .closed => (m, ⟨[], [], []⟩)

/-- The error of a connection that broke. -/
def broken : Except ServerError Unit := .error (.transport (.receiveFailed ""))

/-- The machine after an old connection under a label was given up. -/
def replaced (m : Machine) (label : Label) : Machine × Digest :=
  match m.links.get? label with
  | some link => m.hangUp label link broken
  | none => (m, ⟨[], [], []⟩)

/-- Opens a connection for a client. Its number is used up even if no queue can be made for it. -/
def establish (state : Machine × Digest) (label : Label) (suffix : String) : Machine × Digest :=
  let (m, d) := state
  let client : ClientId := ⟨UInt64.ofNat m.nextClient⟩
  let c : Connection := ⟨client, m.hub.outboxes.boxes.length, m.now⟩
  match m.hub.connect Outboxes.canMake client loopback suffix with
  | none =>
    ({ m with nextClient := m.nextClient + 1 }.withLink label .closed,
      { d with closed := d.closed ++ [label] })
  | some hub =>
    rest ({ m with hub, nextClient := m.nextClient + 1 }.withLink label (.connected c), d)

/-- Does something with the link of a client, which must be known. -/
def withClient {α : Type} (m : Machine) (label : Label) (f : Link → α) : Except Fault α :=
  match m.links.get? label with
  | some link => .ok (f link)
  | none => .error .noSuchClient

/-- Makes a step. -/
def step (m : Machine) (suffix : String) : Action → Except Fault (Machine × Reply × Digest)
  | .connect label =>
    if m.network = .unreachable || !m.accepting then .ok (m, .refused, ⟨[], [], []⟩)
    else
      let (m, d) := establish (m.replaced label) label suffix
      .ok (m, .nothing, d)
  | .send label messages =>
    m.withClient label fun _ =>
      let (m, d) := sendAll label (m, ⟨[], [], []⟩) messages
      (m, .nothing, d)
  | .ping label => m.withClient label fun _ => (m, .nothing, ⟨[], [], []⟩)
  | .close label =>
    m.withClient label fun link =>
      let (m, d) := m.hangUp label link (.ok ())
      (m, .nothing, d)
  | .drop label =>
    m.withClient label fun link =>
      let (m, d) := m.hangUp label link broken
      (m, .nothing, d)
  | .openRaw label =>
    if m.network = .unreachable then .error .networkUnreachable
    else if !m.accepting then .error .connectionRefused
    else
      let (m, d) := m.replaced label
      .ok (m.withLink label (.opening m.now []), .nothing, d)
  | .sendRaw label bytes =>
    m.withClient label fun link =>
      match link with
      | .opening since received =>
        let received := received ++ bytes
        if awaitsRequest received then
          (m.withLink label (.opening since received), .nothing, ⟨[], [], []⟩)
        else
          let (m, d) := m.hangUp label link (.ok ())
          (m, .nothing, d)
      | _ => (m, .nothing, ⟨[], [], []⟩)
  | .advance milliseconds =>
    let m := { m with now := m.now + milliseconds }
    let due := (m.deadlines.filter fun e => e.1 ≤ m.now).map fun e => e.2.1
    let (m, d) := due.foldl expire (m, ⟨[], [], []⟩)
    .ok (m, .nothing, d)
  | .stop =>
    if m.accepting then
      let (m, d) := rest ({ m with hub := m.hub.stop, accepting := false }, ⟨[], [], []⟩)
      .ok (m, .stopped, d)
    else .ok (m, .nothing, ⟨[], [], []⟩)
  | .info name => .ok (m, .info (m.hub.info? name), ⟨[], [], []⟩)

end Machine

end ChatServer.Live
