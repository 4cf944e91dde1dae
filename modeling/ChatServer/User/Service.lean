import ChatServer.Hosting.Server
import ChatServer.Message

/-!
# `UserService`: connections and their names

The user service opens a record for every connection and lets each client claim a name once. A
request is answered to the client that made it, whether the claim is granted or not.
-/

namespace ChatServer

/-- The reason for which a password is refused. -/
inductive AuthError where
  | authFailed (reason : String)
deriving DecidableEq, Repr, Inhabited

/-- The wording of the error. -/
def AuthError.message : AuthError → String
  | authFailed reason => "authentication failed: " ++ reason

/-- The check of a user name and a password. -/
abbrev Authenticator := (username password : String) → Except AuthError Unit

/-- The authenticator that accepts everyone. -/
def Authenticator.everyone : Authenticator := fun _ _ => .ok ()

/-- The authenticator that accepts the listed pairs of a name and its password. -/
def Authenticator.ofPairs (pairs : List (String × String)) : Authenticator :=
  fun username password =>
    if (username, password) ∈ pairs then .ok () else .error (.authFailed "bad credentials")

/-- The rules that the user service goes by: those for names, and who may claim which. -/
structure UserRules where
  config : UserConfig
  authenticate : Authenticator

instance : Inhabited UserRules := ⟨⟨{}, .everyone⟩⟩

/-- The state of the user service. -/
structure UserService where
  binding : Binding
  directory : UserDirectory
deriving Repr, Inhabited

/-- A request for a name. -/
structure NameClaim where
  username : String
  password : String
deriving DecidableEq, Repr, Inhabited

namespace NameClaim

/-- Reads a claim from a payload. What was read of a claim that is incomplete stays read. -/
def read (p : Payload) : Except HandleError NameClaim × Payload :=
  match p.read .string with
  | .error e => (.error (.decode e), p)
  | .ok (username, p) =>
    match p.read .string with
    | .error e => (.error (.decode e), p)
    | .ok (password, p) => (.ok ⟨username, password⟩, p)

/-- Reads a request with a message code. -/
def ofMessage (code : UInt16) (p : Payload) : Except HandleError NameClaim × Payload :=
  if Coded.ofCode? code = some UserMessage.identify then read p
  else (.error (.unknownMessageType .user code), p)

end NameClaim

namespace UserService

/-- The service before anything happened. -/
def initial : UserService := ⟨.none, ∅⟩

/-- What a claim by the client whose record is `r` comes to. -/
def judge (rules : UserRules) (d : UserDirectory) (r : UserRef) (claim : NameClaim) : UserResult :=
  if (d.user r).identified then .alreadyIdentified
  else if !rules.config.isValidUsername claim.username then .invalidUsername
  else if !(rules.authenticate claim.username claim.password).isOk then .authFailed
  else if d.isNameTaken claim.username r.owner then .usernameTaken
  else .ok

/-- The answer to a claim. -/
def reply (username : String) (result : UserResult) : ServerMessage :=
  if result = .ok then .nameGranted username else .nameRefused result

/-- Decides a claim by the client whose record is `r`. -/
def claim (rules : UserRules) (s : UserService) (r : UserRef) (request : NameClaim) :
    UserService × List Outgoing :=
  let result := judge rules s.directory r request
  let s' :=
    if result = .ok then
      { s with directory := s.directory.update r fun u => u.identify request.username }
    else s
  (s', [⟨r.owner, reply request.username result⟩])

/-- Handles a message. Returns what is left of its payload also if it is refused. -/
def handle (rules : UserRules) (servers : Servers) (s : UserService) (client : ClientId)
    (code : UInt16) (p : Payload) : Except HandleError (UserService × List Outgoing) × Payload :=
  match s.binding.get? servers with
  | none => (.error .notInitialized, p)
  | some _ =>
    match NameClaim.ofMessage code p with
    | (.error e, p) => (.error e, p)
    | (.ok request, p) =>
      match s.directory.ref? client with
      | none => (.error (.unknownUser client), p)
      | some r => (.ok (claim rules s r request), p)

/-- Opens a guest record for a new connection. -/
def connect (rules : UserRules) (s : UserService) (client : ClientId) (hostname suffix : String) :
    UserService :=
  { s with
    directory := s.directory.enrol (.guest client (rules.config.guestName suffix) hostname) }

/-- Disables the record of a connection that ended. -/
def disconnect (s : UserService) (client : ClientId) : UserService :=
  match s.directory.ref? client with
  | none => s
  | some r => { s with directory := (s.directory.update r User.disable).remove client }

/-- Binds the service to a server. -/
def attach (servers : Servers) (s : UserService) (i : ServerId) :
    Except ComponentError UserService :=
  (s.binding.bind servers .user i).map fun binding => { s with binding }

/-- Unbinds the service and forgets who is connected. -/
def shutdown (s : UserService) : UserService :=
  { binding := .none, directory := s.directory.clear }

end UserService

end ChatServer
