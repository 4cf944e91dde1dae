import ChatServer.User.Basic
import ChatServer.Wire.Frame

/-!
# `Outboxes`: frames that wait for their clients

Each connection registers an outbox, a queue of bounded length from which the client is served. A
frame for a client that is not registered is dropped. A frame that finds the queue full is dropped
too, and the overflow is noted until the connection takes notice of it. An outbox that is no longer
registered takes no frames but is still served.
-/

namespace ChatServer.Live

/-- The queue of one registration. -/
structure Outbox where
  client : ClientId
  waiting : List (List UInt8)
  closed : Bool
  overflowed : Bool
deriving DecidableEq, Repr, Inhabited

namespace Outbox

/-- The queue of a new registration. -/
def fresh (client : ClientId) : Outbox := ⟨client, [], false, false⟩

/-- Adds a frame at the end, if there is room and someone to take it. -/
def push (capacity : Nat) (bytes : List UInt8) (o : Outbox) : Outbox :=
  if o.closed then o
  else if o.waiting.length < capacity then { o with waiting := o.waiting ++ [bytes] }
  else { o with overflowed := true }

/-- Takes the frame that has waited longest. -/
def pop (o : Outbox) : Option (List UInt8) × Outbox :=
  match o.waiting with
  | [] => (none, o)
  | bytes :: rest => (some bytes, { o with waiting := rest })

end Outbox

/-- The most frames that a queue can be made for: an eighth of what a word of 64 bits can count. -/
def mostFrames : Nat := (UInt64.size - 1) >>> 3

/-- All outboxes ever registered, by number, and the one of each registered client. -/
structure Outboxes where
  capacity : Nat
  boxes : List Outbox
  current : Table ClientId Nat
deriving Repr, Inhabited

namespace Outboxes

/-- Whether a queue can be made for `n` frames: it needs room for one, and memory is bounded. -/
def canMake (n : Nat) : Bool := n ≠ 0 && n ≤ mostFrames

/-- No outboxes yet. -/
def initial (capacity : Nat) : Outboxes := ⟨capacity, [], ∅⟩

/-- Registers an outbox for a client, under the next number. -/
def register (o : Outboxes) (client : ClientId) : Outboxes :=
  { o with
    boxes := o.boxes ++ [.fresh client]
    current := o.current.insert client o.boxes.length }

/-- Ends the registration of a client. -/
def unregister (o : Outboxes) (client : ClientId) : Outboxes :=
  { o with current := o.current.erase client }

/-- The number of registered clients. -/
def clientCount (o : Outboxes) : Nat := o.current.size

/-- Queues a frame for a client. -/
def send (o : Outboxes) (client : ClientId) (frame : Frame) : Outboxes :=
  match o.current.get? client with
  | none => o
  | some n => { o with boxes := o.boxes.modify n (.push o.capacity frame.encode) }

/-- Takes the next frame from an outbox. -/
def receive (o : Outboxes) (n : Nat) : Option (List UInt8) × Outboxes :=
  match o.boxes[n]? with
  | none => (none, o)
  | some box => (box.pop.1, { o with boxes := o.boxes.set n box.pop.2 })

/-- Stops taking frames from an outbox. -/
def close (o : Outboxes) (n : Nat) : Outboxes :=
  { o with boxes := o.boxes.modify n fun box => { box with closed := true } }

/-- Takes all frames from an outbox. -/
def drain (o : Outboxes) (n : Nat) : List (List UInt8) × Outboxes :=
  match o.boxes[n]? with
  | none => ([], o)
  | some box => (box.waiting, { o with boxes := o.boxes.set n { box with waiting := [] } })

/-- Whether an outbox overflowed. -/
def overflowed (o : Outboxes) (n : Nat) : Bool := o.boxes[n]?.any (·.overflowed)

end Outboxes

end ChatServer.Live
