import ChatServer.Text.Lowercase

/-!
# `ChannelConfig`: names and keys of channels

A channel name contains a `#`. Channels are found by the key of a name, which is the name itself
or, when case does not count, its lower-case form.
-/

namespace ChatServer

/-- The rules for channels. -/
structure ChannelConfig where
  caseSensitive : Bool := true
  notifyJoiner : Bool := false
deriving DecidableEq, Repr

instance : Inhabited ChannelConfig := ⟨{}⟩

/-- The key under which the channel with a name is found. -/
def ChannelConfig.keyFor (config : ChannelConfig) (name : String) : String :=
  if config.caseSensitive then name else Text.lowercase name

/-- Whether a text can be the name of a channel. -/
def isValidChannelName (name : String) : Bool := name.toList.contains '#'

end ChatServer
