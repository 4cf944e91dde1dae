import ChatServer.User.Basic
import ChatServer.Wire.Payload

/-!
# `Snapshot`: the rosters as a client sees them

A snapshot lists the enabled operators and members of a channel with their host names, sorted by
user name. On the wire each list is its length, as a 32-bit number, and its pairs.
-/

namespace ChatServer

/-- A user as listed in a snapshot. -/
structure RosterEntry where
  username : String
  hostname : String
deriving DecidableEq, Repr, Inhabited

/-- How a user is listed. -/
def User.entry (u : User) : RosterEntry := ⟨u.username, u.hostname⟩

/-- The rosters of a channel. -/
structure Snapshot where
  operators : List RosterEntry
  members : List RosterEntry
deriving DecidableEq, Repr, Inhabited

namespace Snapshot

/-- The snapshot without users. -/
def empty : Snapshot := ⟨[], []⟩

/-- The values that stand for a roster. -/
def rosterValues (roster : List RosterEntry) : List Value :=
  ⟨.u32, UInt32.ofNat roster.length⟩ ::
    roster.flatMap fun e => [⟨.string, e.username⟩, ⟨.string, e.hostname⟩]

/-- Adds the snapshot at the end of a payload. -/
def writeTo (s : Snapshot) (p : Payload) : Payload :=
  p.writeAll (rosterValues s.operators ++ rosterValues s.members)

end Snapshot

/-- What observers are told about a channel. The count covers all members, the operators are
sorted. -/
structure ChannelInfo where
  name : String
  memberCount : Nat
  operators : List String
deriving DecidableEq, Repr, Inhabited

end ChatServer
