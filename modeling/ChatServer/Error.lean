import ChatServer.Hosting.Error

/-!
# `ServerError`: everything that can end a connection or a start
-/

namespace ChatServer

/-- The failures of connections, each with the reason that the network gives. -/
inductive TransportError where
  | connectionClosed (reason : String)
  | sendFailed (reason : String)
  | receiveFailed (reason : String)
  | acceptFailed (reason : String)
  | handshakeFailed (reason : String)
deriving DecidableEq, Repr, Inhabited

/-- The wording of the error. -/
def TransportError.message : TransportError → String
  | connectionClosed reason => "connection closed: " ++ reason
  | sendFailed reason => "send failed: " ++ reason
  | receiveFailed reason => "receive failed: " ++ reason
  | acceptFailed reason => "accept failed: " ++ reason
  | handshakeFailed reason => "handshake failed: " ++ reason

/-- The failures of the server, by the layer where they arise. -/
inductive ServerError where
  | transport (error : TransportError)
  | protocol (error : WireError)
  | component (error : ComponentError)
  | handle (error : HandleError)
  | config (reason : String)
  | io (reason : String)
deriving DecidableEq, Repr, Inhabited

/-- The wording of the error, which is that of its layer. -/
def ServerError.message : ServerError → String
  | transport error => error.message
  | protocol error => error.message
  | component error => error.message
  | handle error => error.message
  | config reason => "invalid configuration: " ++ reason
  | io reason => reason

end ChatServer
