import ChatServer.Channel.Name
import ChatServer.Toml.Document
import ChatServer.User.Basic
import ChatServer.Wire.Utf8

/-!
# `ServerConfig`: the settings of a server

The settings are read from a document in which every key may be missing and unknown keys do not
count. A value of a wrong type is refused.
-/

namespace ChatServer

/-- The settings of a server. -/
structure ServerConfig where
  bind : String := "127.0.0.1:8080"
  idleTimeoutSecs : Nat := 300
  handshakeTimeoutSecs : Nat := 10
  outboundQueueLen : Nat := 256
  logFilter : String := "parley=info"
  channel : ChannelConfig := {}
  user : UserConfig := {}
deriving DecidableEq, Repr

instance : Inhabited ServerConfig := ⟨{}⟩

/-- The reasons for which there are no settings. -/
inductive ConfigError where
  /-- There is no such file. -/
  | notFound
  /-- The file is no text. -/
  | invalidData
  /-- The text is no document, or a value has a wrong type. -/
  | malformed
deriving DecidableEq, Repr, Inhabited

namespace ServerConfig

open Toml

/-! ## Values by type -/

/-- A text. -/
def text? : Item → Option String
  | .string s => some s
  | _ => none

/-- A number that is not negative. -/
def number? : Item → Option Nat
  | .integer n => if 0 ≤ n then some n.toNat else none
  | _ => none

/-- A flag. -/
def flag? : Item → Option Bool
  | .boolean b => some b
  | _ => none

/-- The value under a key, or the standard one where the key is missing. -/
def fieldOr {α : Type} (es : Entries) (k : String) (read : Item → Option α) (standard : α) :
    Option α :=
  match es.get? k with
  | some v => read v
  | none => some standard

/-- The value at a place of a list, or the standard one where the list is shorter. -/
def placeOr {α : Type} (items : List Item) (i : Nat) (read : Item → Option α) (standard : α) :
    Option α :=
  match items[i]? with
  | some v => read v
  | none => some standard

/-- Settings of two values, which are given as a table, or in order as an array. A date stands for
the standard settings. -/
def settings? {α β γ : Type} (make : α → β → γ) (first : String × (Item → Option α) × α)
    (second : String × (Item → Option β) × β) : Item → Option γ
  | .table _ es => do
    let a ← fieldOr es first.1 first.2.1 first.2.2
    let b ← fieldOr es second.1 second.2.1 second.2.2
    some (make a b)
  | .array items => do
    let a ← placeOr items 0 first.2.1 first.2.2
    let b ← placeOr items 1 second.2.1 second.2.2
    some (make a b)
  | .datetime => some (make first.2.2 second.2.2)
  | _ => none

/-- The settings for channels. -/
def channel? : Item → Option ChannelConfig :=
  settings? ChannelConfig.mk ("case_sensitive", flag?, true) ("notify_joiner", flag?, false)

/-- The settings for user names. -/
def user? : Item → Option UserConfig :=
  settings? UserConfig.mk ("max_username_len", number?, 32) ("guest_prefix", text?, "guest")

/-- The settings in a document. -/
def ofEntries (es : Entries) : Option ServerConfig := do
  let standard : ServerConfig := {}
  let bind ← fieldOr es "bind" text? standard.bind
  let idle ← fieldOr es "idle_timeout_secs" number? standard.idleTimeoutSecs
  let handshake ← fieldOr es "handshake_timeout_secs" number? standard.handshakeTimeoutSecs
  let queue ← fieldOr es "outbound_queue_len" number? standard.outboundQueueLen
  let filter ← fieldOr es "log_filter" text? standard.logFilter
  let channel ← fieldOr es "channel" channel? standard.channel
  let user ← fieldOr es "user" user? standard.user
  some ⟨bind, idle, handshake, queue, filter, channel, user⟩

/-- The settings in a text. -/
def ofToml (text : String) : Except ConfigError ServerConfig :=
  match (Toml.parse text).bind ofEntries with
  | some config => .ok config
  | none => .error .malformed

/-- The settings in a file, which is given by its bytes or missing. -/
def ofFile (file : Option (List UInt8)) : Except ConfigError ServerConfig :=
  match file with
  | none => .error .notFound
  | some bytes =>
    match Utf8.decode? bytes with
    | none => .error .invalidData
    | some text => ofToml text

/-! ## Limits in use -/

/-- The seconds after which a silent connection ends; zero means never. -/
def idleTimeout (config : ServerConfig) : Option Nat :=
  if config.idleTimeoutSecs = 0 then none else some config.idleTimeoutSecs

/-- The seconds that a connection has to open; zero means any number. -/
def handshakeTimeout (config : ServerConfig) : Option Nat :=
  if config.handshakeTimeoutSecs = 0 then none else some config.handshakeTimeoutSecs

/-- The number of frames that can wait for a client, which is at least one. -/
def queueCapacity (config : ServerConfig) : Nat := max config.outboundQueueLen 1

end ServerConfig

end ChatServer
