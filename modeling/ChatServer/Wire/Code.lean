import ChatServer.Wire.Error

/-!
# `Coded`: enumerations with numeric codes

Components, messages and results travel as 16-bit codes. `ofCode?` inverts `code`, and an unknown
code is refused with the error of its enumeration.
-/

namespace ChatServer

/-- An enumeration whose members have codes and names. -/
class Coded (α : Type) where
  members : List α
  code : α → UInt16
  name : α → String
  unknown : UInt16 → WireError

namespace Coded

variable {α : Type} [Coded α]

/-- The member with a code. -/
def ofCode? (n : UInt16) : Option α := members.find? fun a => code a = n

/-- The member with a code, or the error that there is none. -/
def ofCode (n : UInt16) : Except WireError α :=
  match ofCode? n with
  | some a => .ok a
  | none => .error (unknown α n)

end Coded

/-- The parts of the server that clients talk to. -/
inductive ComponentType where
  | user
  | channel
deriving DecidableEq, Repr, Inhabited

instance : Coded ComponentType where
  members := [.user, .channel]
  code
    | .user => 1
    | .channel => 2
  name
    | .user => "User"
    | .channel => "Channel"
  unknown := .unknownComponent

/-- The messages about channels, requests and answers. -/
inductive ChannelMessage where
  | join
  | joinComplete
  | leave
  | leaveComplete
  | max
deriving DecidableEq, Repr, Inhabited

instance : Coded ChannelMessage where
  members := [.join, .joinComplete, .leave, .leaveComplete, .max]
  code
    | .join => 0
    | .joinComplete => 1
    | .leave => 2
    | .leaveComplete => 3
    | .max => 4
  name
    | .join => "JoinChannel"
    | .joinComplete => "JoinChannelComplete"
    | .leave => "LeaveChannel"
    | .leaveComplete => "LeaveChannelComplete"
    | .max => "Max"
  unknown := .unknownMessageType

/-- The outcomes that messages about channels carry. -/
inductive ChannelResult where
  | ok
  | channelCreated
  | userJoined
  | userLeft
  | notIdentified
  | invalidChannelName
  | alreadyInChannel
  | notInChannel
deriving DecidableEq, Repr, Inhabited

instance : Coded ChannelResult where
  members := [.ok, .channelCreated, .userJoined, .userLeft, .notIdentified, .invalidChannelName,
    .alreadyInChannel, .notInChannel]
  code
    | .ok => 0
    | .channelCreated => 1
    | .userJoined => 2
    | .userLeft => 3
    | .notIdentified => 4
    | .invalidChannelName => 5
    | .alreadyInChannel => 6
    | .notInChannel => 7
  name
    | .ok => "Ok"
    | .channelCreated => "ChannelCreated"
    | .userJoined => "UserJoined"
    | .userLeft => "UserLeft"
    | .notIdentified => "NotIdentified"
    | .invalidChannelName => "InvalidChannelName"
    | .alreadyInChannel => "AlreadyInChannel"
    | .notInChannel => "NotInChannel"
  unknown := .unknownResult

/-- The messages about user names, requests and answers. -/
inductive UserMessage where
  | identify
  | identifyComplete
  | max
deriving DecidableEq, Repr, Inhabited

instance : Coded UserMessage where
  members := [.identify, .identifyComplete, .max]
  code
    | .identify => 0
    | .identifyComplete => 1
    | .max => 2
  name
    | .identify => "Identify"
    | .identifyComplete => "IdentifyComplete"
    | .max => "Max"
  unknown := .unknownMessageType

/-- The outcomes of a request for a name. -/
inductive UserResult where
  | ok
  | invalidUsername
  | usernameTaken
  | alreadyIdentified
  | authFailed
deriving DecidableEq, Repr, Inhabited

instance : Coded UserResult where
  members := [.ok, .invalidUsername, .usernameTaken, .alreadyIdentified, .authFailed]
  code
    | .ok => 0
    | .invalidUsername => 1
    | .usernameTaken => 2
    | .alreadyIdentified => 3
    | .authFailed => 4
  name
    | .ok => "Ok"
    | .invalidUsername => "InvalidUsername"
    | .usernameTaken => "UsernameTaken"
    | .alreadyIdentified => "AlreadyIdentified"
    | .authFailed => "AuthFailed"
  unknown := .unknownResult

end ChatServer
