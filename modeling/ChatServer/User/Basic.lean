import ChatServer.Archive
import ChatServer.Text.Blank
import ChatServer.Text.Lowercase

/-!
# `User`: who a connected client is

Every connection has a user record. It starts as a guest, may claim a name once, and is disabled
when the connection ends. The directory knows the current record of each connected client and
keeps every record it ever opened, because channels may hold records of clients that are gone.
-/

namespace ChatServer

/-- The number of a connection. -/
structure ClientId where
  val : UInt64
deriving DecidableEq, Repr, Inhabited

/-- How messages name a client. -/
def ClientId.text (c : ClientId) : String := "client-" ++ toString c.val.toNat

/-- What is known about the user behind a connection. -/
structure User where
  client : ClientId
  hostname : String
  username : String
  identified : Bool
  enabled : Bool
deriving DecidableEq, Repr, Inhabited

namespace User

/-- A connected user who claimed no name yet. -/
def guest (client : ClientId) (username hostname : String) : User :=
  { client, hostname, username, identified := false, enabled := true }

/-- What a name without a record stands for: a disabled nobody. -/
def absent (client : ClientId) : User :=
  { client, hostname := "", username := "", identified := false, enabled := false }

/-- The user under a claimed name. -/
def identify (u : User) (username : String) : User := { u with username, identified := true }

/-- The user after the connection ended. -/
def disable (u : User) : User := { u with enabled := false }

end User

/-- The rules for user names. -/
structure UserConfig where
  maxUsernameLength : Nat := 32
  guestPrefix : String := "guest"
deriving DecidableEq, Repr

instance : Inhabited UserConfig := ⟨{}⟩

namespace UserConfig

/-- A name has at least one character, at most as many as allowed, and no blank and no `#`. -/
def isValidUsername (config : UserConfig) (name : String) : Bool :=
  let cs := name.toList
  !cs.isEmpty && cs.length ≤ config.maxUsernameLength && !cs.any fun c => Text.isBlank c || c == '#'

/-- The name of a guest. -/
def guestName (config : UserConfig) (suffix : String) : String :=
  config.guestPrefix ++ "-" ++ suffix

end UserConfig

/-- The name of a user record. -/
abbrev UserRef := Ref ClientId

/-- The current record of each connected client, and all records ever opened. -/
structure UserDirectory where
  registered : Table ClientId Nat
  records : Archive ClientId User
deriving Repr, Inhabited

namespace UserDirectory

/-- The directory that never saw a client. -/
def empty : UserDirectory := ⟨∅, ∅⟩

instance : EmptyCollection UserDirectory := ⟨empty⟩

/-- The record with a name. -/
def user (d : UserDirectory) (r : UserRef) : User := (d.records.get? r).getD (.absent r.owner)

/-- The name of a client's current record. -/
def ref? (d : UserDirectory) (c : ClientId) : Option UserRef :=
  (d.registered.get? c).map fun n => ⟨c, n⟩

/-- A client's current record. -/
def find? (d : UserDirectory) (c : ClientId) : Option User := (d.ref? c).map d.user

/-- The number of connected clients. -/
def count (d : UserDirectory) : Nat := d.registered.size

/-- Opens a record that is not the current one of its client. -/
def file (d : UserDirectory) (u : User) : UserDirectory :=
  { d with records := d.records.add u.client u }

/-- Opens a record and makes it the current one of its client. -/
def enrol (d : UserDirectory) (u : User) : UserDirectory :=
  { registered := d.registered.insert u.client (d.records.next u.client).number
    records := d.records.add u.client u }

/-- Forgets which record is a client's current one. -/
def remove (d : UserDirectory) (c : ClientId) : UserDirectory :=
  { d with registered := d.registered.erase c }

/-- Forgets the current records of all clients. -/
def clear (d : UserDirectory) : UserDirectory := { d with registered := ∅ }

/-- Changes a record. -/
def update (d : UserDirectory) (r : UserRef) (f : User → User) : UserDirectory :=
  { d with records := d.records.update r f }

/-- Whether a client other than `except` claimed a name that differs from `name` at most in
case. -/
def isNameTaken (d : UserDirectory) (name : String) (except : ClientId) : Bool :=
  let wanted := Text.lowercase name
  d.registered.entries.any fun e =>
    let u := d.user ⟨e.1, e.2⟩
    e.1 ≠ except && u.identified && Text.lowercase u.username = wanted

end UserDirectory

end ChatServer
