import ChatServer.Channel.Basic
import ChatServer.Wire.Code

/-!
# `ChannelEvent`: what observers of the channels are told
-/

namespace ChatServer

/-- Something that happened to a channel, or the end of a request. -/
inductive ChannelEvent where
  | created (channel : ChannelInfo)
  | joined (channel : ChannelInfo) (user : User)
  | left (channel : ChannelInfo) (user : User)
  | joinCompleted (result : ChannelResult) (user : User)
  | leaveCompleted (result : ChannelResult) (user : User)
deriving DecidableEq, Repr, Inhabited

/-- The channel that an event is about. -/
def ChannelEvent.channel? : ChannelEvent → Option ChannelInfo
  | created channel => some channel
  | joined channel _ => some channel
  | left channel _ => some channel
  | joinCompleted _ _ => none
  | leaveCompleted _ _ => none

/-- Someone who is told of every event, and who either takes note, under a number, or not. -/
inductive Observer where
  | recording (number : Nat)
  | silent
deriving DecidableEq, Repr, Inhabited

/-- An event as it reaches an observer, with what the observer then finds out by asking: how many
members the channel has and how many channels there are. -/
structure Callback where
  observer : Nat
  event : ChannelEvent
  memberCount : Option Nat
  channelCount : Nat
deriving DecidableEq, Repr, Inhabited

end ChatServer
