import ChatServer.Channel.Snapshot

/-!
# `Channel`: one channel and its rosters

A channel holds the names of its members' records and of its operators' records. It is enabled
from its creation until its last member leaves or it is closed, and never again after that.
-/

namespace ChatServer

/-- The record that a channel holds of each of some clients, by its number. -/
abbrev Roster := Table ClientId Nat

/-- Who is told of a change besides the other members. -/
inductive Audience where
  /-- The client that caused the change is told too. -/
  | everyone
  /-- Only the other members are told. -/
  | others
deriving DecidableEq, Repr, Inhabited

/-- The client that an audience leaves out. -/
def Audience.excluded (a : Audience) (c : ClientId) : Option ClientId :=
  match a with
  | everyone => none
  | others => some c

namespace Roster

/-- The clients on a roster with the records held of them. -/
def records (users : UserRef → User) (r : Roster) : List (ClientId × User) :=
  r.entries.map fun e => (e.1, users ⟨e.1, e.2⟩)

/-- The enabled users, sorted by name. -/
def listing (users : UserRef → User) (r : Roster) : List RosterEntry :=
  (((records users r).filter fun e => e.2.enabled).map fun e => e.2.entry).mergeSort
    fun a b => a.username ≤ b.username

/-- The names of all users, sorted. -/
def usernames (users : UserRef → User) (r : Roster) : List String :=
  ((records users r).map fun e => e.2.username).mergeSort fun a b => a ≤ b

/-- The clients with an enabled record except `excluded`, in ascending order. -/
def recipients (users : UserRef → User) (r : Roster) (excluded : Option ClientId) :
    List ClientId :=
  (((records users r).filter fun e => some e.1 ≠ excluded && e.2.enabled).map Prod.fst).mergeSort
    fun a b => a.val ≤ b.val

end Roster

/-- A channel: its name as its creator wrote it, the key under which it is found, and who is in
it. -/
structure Channel where
  name : String
  key : String
  enabled : Bool
  members : Roster
  operators : Roster
deriving Repr, Inhabited

/-- What comes of adding a member. -/
inductive AddOutcome where
  | added (snapshot : Snapshot) (recipients : List ClientId) (info : ChannelInfo)
  | alreadyMember
  | disabled
deriving DecidableEq, Repr, Inhabited

/-- What comes of removing a member. -/
inductive RemoveOutcome where
  | removed (user : User) (recipients : List ClientId) (nowEmpty : Bool) (info : ChannelInfo)
  | notMember
  | disabled
deriving DecidableEq, Repr, Inhabited

namespace Channel

/-- A new channel. Its creator is its first member and its operator. -/
def create (name key : String) (creator : UserRef) : Channel :=
  { name, key, enabled := true
    members := Table.empty.insert creator.owner creator.number
    operators := Table.empty.insert creator.owner creator.number }

/-- What a name without a channel stands for: a closed channel. -/
def absent (key : String) : Channel := ⟨key, key, false, ∅, ∅⟩

/-- Whether a client is a member. -/
def isMember (c : Channel) (client : ClientId) : Bool := c.members.contains client

/-- Whether a client is an operator. -/
def isOperator (c : Channel) (client : ClientId) : Bool := c.operators.contains client

/-- The number of members. -/
def memberCount (c : Channel) : Nat := c.members.size

/-- The rosters as clients see them. -/
def snapshot (users : UserRef → User) (c : Channel) : Snapshot :=
  ⟨Roster.listing users c.operators, Roster.listing users c.members⟩

/-- What observers are told about the channel. -/
def info (users : UserRef → User) (c : Channel) : ChannelInfo :=
  ⟨c.name, c.memberCount, Roster.usernames users c.operators⟩

/-- Adds a plain member. The snapshot, the info and the recipients are those after it. -/
def add (users : UserRef → User) (c : Channel) (r : UserRef) (audience : Audience) :
    Channel × AddOutcome :=
  if !c.enabled then (c, .disabled)
  else if c.isMember r.owner then (c, .alreadyMember)
  else
    let c' := { c with members := c.members.insert r.owner r.number }
    (c', .added (c'.snapshot users)
      (Roster.recipients users c'.members (audience.excluded r.owner)) (c'.info users))

/-- Removes a member; the channel is disabled with its last one. The recipients are those before
the removal, the info is that after it. -/
def remove (users : UserRef → User) (c : Channel) (client : ClientId) (audience : Audience) :
    Channel × RemoveOutcome :=
  if !c.enabled then (c, .disabled)
  else
    match c.members.get? client with
    | none => (c, .notMember)
    | some n =>
      let members := c.members.erase client
      let c' :=
        { c with members, operators := c.operators.erase client, enabled := !members.isEmpty }
      (c', .removed (users ⟨client, n⟩)
        (Roster.recipients users c.members (audience.excluded client)) members.isEmpty
        (c'.info users))

/-- Disables the channel and empties its rosters. -/
def close (c : Channel) : Channel := { c with enabled := false, members := ∅, operators := ∅ }

end Channel

end ChatServer
