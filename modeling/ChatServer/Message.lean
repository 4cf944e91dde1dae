import ChatServer.Channel.Snapshot
import ChatServer.Wire.Frame

/-!
# `ServerMessage`: what clients are told

Every frame that the server sends is one of these messages. The payload of an answer starts with
its result; an answer that grants something, and every notice, says what it is about after that.
-/

namespace ChatServer

/-- The name of a channel record: its key, and how many channels had this key before it. -/
abbrev ChannelRef := Ref String

/-- A message to one client. -/
inductive ServerMessage where
  /-- The client now has the name it asked for. -/
  | nameGranted (username : String)
  /-- The client does not get a name. -/
  | nameRefused (reason : UserResult)
  /-- The client created the channel that it asked to join. -/
  | channelCreated
  /-- The client joined a channel, whose rosters include it. -/
  | joined (rosters : Snapshot)
  /-- The client does not join. -/
  | joinRefused (reason : ChannelResult)
  /-- The client left the channel that it named. -/
  | left (name : String)
  /-- The client does not leave. -/
  | leaveRefused (reason : ChannelResult)
  /-- Someone joined a channel of the client. -/
  | memberJoined (channel : ChannelRef) (member : RosterEntry)
  /-- Someone left a channel of the client. -/
  | memberLeft (channel : ChannelRef) (member : RosterEntry)
deriving DecidableEq, Repr

namespace ServerMessage

/-- The payload that starts with a result. -/
def resultPayload {α : Type} [Coded α] (result : α) : Payload :=
  Payload.empty.write .u16 (Coded.code result)

/-- The payload that says what a member did. -/
def noticePayload (result : ChannelResult) (member : RosterEntry) : Payload :=
  ((resultPayload result).write .string member.username).write .string member.hostname

/-- The frame of a message about channels. -/
def channelFrame (message : ChannelMessage) (payload : Payload) : Frame :=
  ⟨.channel, Coded.code message, payload⟩

/-- The frame of a message about user names. -/
def userFrame (message : UserMessage) (payload : Payload) : Frame :=
  ⟨.user, Coded.code message, payload⟩

/-- The frame of a message. Notices do not say which channel they are about. -/
def frame : ServerMessage → Frame
  | nameGranted username =>
    userFrame .identifyComplete ((resultPayload UserResult.ok).write .string username)
  | nameRefused reason => userFrame .identifyComplete (resultPayload reason)
  | channelCreated => channelFrame .joinComplete (resultPayload ChannelResult.channelCreated)
  | joined rosters => channelFrame .joinComplete (rosters.writeTo (resultPayload ChannelResult.ok))
  | joinRefused reason => channelFrame .joinComplete (resultPayload reason)
  | left name => channelFrame .leaveComplete ((resultPayload ChannelResult.ok).write .string name)
  | leaveRefused reason => channelFrame .leaveComplete (resultPayload reason)
  | memberJoined _ member => channelFrame .join (noticePayload .userJoined member)
  | memberLeft _ member => channelFrame .leave (noticePayload .userLeft member)

end ServerMessage

/-- A message and the client it is for. -/
structure Outgoing where
  client : ClientId
  message : ServerMessage
deriving DecidableEq, Repr

end ChatServer
