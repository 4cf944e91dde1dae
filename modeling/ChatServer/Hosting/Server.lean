import ChatServer.Hosting.Error

/-!
# `Server`: where components run

A server has at most one component of each type. Servers are numbered in the order in which they
were created and may be gone; a component is bound to one server at a time, and a binding to a
server that is gone is as good as none.
-/

namespace ChatServer

/-- The components that a server can be given. The user service and the channel service are there
once and keep their state. The others are made anew whenever one is named. -/
inductive ComponentId where
  | users
  | channels
  /-- A channel service to which nothing happened yet. -/
  | freshChannels
  /-- A component in the place of the user service that accepts everything and does nothing. -/
  | freshForeign
deriving DecidableEq, Repr, Inhabited

/-- The type under which a component is found. -/
def ComponentId.type : ComponentId → ComponentType
  | users => .user
  | channels => .channel
  | freshChannels => .channel
  | freshForeign => .user

/-- The number of a server. -/
abbrev ServerId := Nat

/-- A server: whether it still runs, and its component of each type. -/
structure Server where
  live : Bool
  components : Table ComponentType ComponentId
deriving Repr, Inhabited

/-- The servers ever created, by number. -/
abbrev Servers := List Server

namespace Servers

/-- Whether a server exists and still runs. -/
def isLive (servers : Servers) (i : ServerId) : Bool :=
  match servers[i]? with
  | some s => s.live
  | none => false

/-- The component of a type on a server. -/
def component? (servers : Servers) (i : ServerId) (type : ComponentType) : Option ComponentId :=
  servers[i]?.bind fun s => s.components.get? type

/-- A new server, without components. -/
def create (servers : Servers) : Servers := servers ++ [⟨true, ∅⟩]

/-- Ends a server. -/
def drop (servers : Servers) (i : ServerId) : Servers :=
  servers.modify i fun s => { s with live := false }

/-- Gives a server a component. -/
def place (servers : Servers) (i : ServerId) (c : ComponentId) : Servers :=
  servers.modify i fun s => { s with components := s.components.insert c.type c }

end Servers

/-- The server that a component was last bound to. -/
structure Binding where
  server : Option ServerId
deriving DecidableEq, Repr, Inhabited

namespace Binding

/-- The binding to no server. -/
def none : Binding := ⟨Option.none⟩

/-- The server bound to, if it still runs. -/
def get? (b : Binding) (servers : Servers) : Option ServerId :=
  b.server.filter servers.isLive

/-- Binds to a server, unless the one bound to still runs. -/
def bind (b : Binding) (servers : Servers) (type : ComponentType) (i : ServerId) :
    Except ComponentError Binding :=
  match b.get? servers with
  | some _ => .error (.initializationFailed type "already bound to a running server")
  | Option.none => .ok ⟨some i⟩

end Binding

end ChatServer
