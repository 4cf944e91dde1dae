import ChatServer.User.Basic
import ChatServer.Wire.Code

/-!
# `HandleError` and `ComponentError`: what components refuse
-/

namespace ChatServer

/-- The reasons for which a component does not handle a message. -/
inductive HandleError where
  /-- The component has no request with this code. -/
  | unknownMessageType (component : ComponentType) (code : UInt16)
  /-- The payload of the request cannot be read. -/
  | decode (error : WireError)
  /-- A component that the request needs is missing. -/
  | componentUnavailable (component : ComponentType)
  /-- The client has no user record. -/
  | unknownUser (client : ClientId)
  /-- The component is bound to no running server. -/
  | notInitialized
deriving DecidableEq, Repr, Inhabited

/-- The wording of the error. -/
def HandleError.message : HandleError → String
  | unknownMessageType component code =>
    "component " ++ Coded.name component ++ " does not accept message type " ++
      toString code.toNat
  | decode error => error.message
  | componentUnavailable component => "component " ++ Coded.name component ++ " is unavailable"
  | unknownUser client => "no user record for " ++ client.text
  | notInitialized => "component is not bound to a server"

/-- The reasons for which a component does not become part of a server. -/
inductive ComponentError where
  /-- The component does not start on this server. -/
  | initializationFailed (component : ComponentType) (reason : String)
  /-- The server has a component of this type. -/
  | duplicate (component : ComponentType)
deriving DecidableEq, Repr, Inhabited

/-- The wording of the error. -/
def ComponentError.message : ComponentError → String
  | initializationFailed component reason =>
    "component " ++ Coded.name component ++ " failed to initialize: " ++ reason
  | duplicate component => "component " ++ Coded.name component ++ " is already registered"

end ChatServer
