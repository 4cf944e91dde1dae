import ChatServer.Proofs.User.Directory
import ChatServer.Proofs.World.Frames

/-!
# What comes of a claim to a name

As with requests about channels, each thing that can be in the way of a claim is judged on its own,
in the order in which it counts, and the first one is the result. Only a claim that is granted
changes anything, and only the record of the client that made it. Whom the authenticator accepts
matters only for a guest who claims a name that is allowed.
-/

namespace ChatServer

/-- A name that a client can have: it is not empty and not too long, and has no blank and no `#`. -/
structure UserConfig.Allows (config : UserConfig) (name : String) : Prop where
  nonempty : name ≠ ""
  short : name.toList.length ≤ config.maxUsernameLength
  plain : ∀ c ∈ name.toList, Text.isBlank c = false ∧ c ≠ '#'

/-- A username is valid if the configuration allows it. -/
theorem UserConfig.isValidUsername_iff {config : UserConfig} {name : String} :
    config.isValidUsername name ↔ config.Allows name := by
  have hplain : (!name.toList.any fun c => Text.isBlank c || c == '#') = true ↔
      ∀ c ∈ name.toList, Text.isBlank c = false ∧ c ≠ '#' := by
    simp
  have hnonempty : (!name.toList.isEmpty) = true ↔ name ≠ "" := by
    simp
  rw [isValidUsername, Bool.and_eq_true, Bool.and_eq_true, hplain, hnonempty, decide_eq_true_eq]
  exact ⟨fun h => ⟨h.1.1, h.1.2, h.2⟩, fun h => ⟨⟨h.nonempty, h.short⟩, h.plain⟩⟩

instance (config : UserConfig) (name : String) : Decidable (config.Allows name) :=
  decidable_of_iff _ UserConfig.isValidUsername_iff

namespace UserDirectory

/-- Another client that is connected has claimed the name, up to case. -/
def IsHeld (d : UserDirectory) (name : String) (except : ClientId) : Prop :=
  ∃ q, d.IsCurrent q ∧ q.owner ≠ except ∧ (d.user q).identified ∧
    Text.lowercase (d.user q).username = Text.lowercase name

/-- A name is taken if another client holds it. -/
theorem isNameTaken_iff {d : UserDirectory} {name : String} {except : ClientId} :
    d.isNameTaken name except ↔ d.IsHeld name except := by
  rw [← Bool.not_eq_false, isNameTaken_eq_false_iff, IsHeld]
  push Not
  rfl

instance (d : UserDirectory) (name : String) (except : ClientId) :
    Decidable (d.IsHeld name except) :=
  decidable_of_iff _ isNameTaken_iff

end UserDirectory

namespace UserService

variable {rules : UserRules} {d : UserDirectory} {r : UserRef} {claim : NameClaim}

/-- What can keep a claim from being granted: the client has a name already, the name is not
allowed, the authenticator does not accept the password for it, or another client has it. -/
def claimObstacles (rules : UserRules) (d : UserDirectory) (r : UserRef) (claim : NameClaim) :
    List (Option UserResult) :=
  [if (d.user r).identified then some .alreadyIdentified else none,
    if rules.config.Allows claim.username then none else some .invalidUsername,
    if (rules.authenticate claim.username claim.password).isOk then none else some .authFailed,
    if d.IsHeld claim.username r.owner then some .usernameTaken else none]

/-- The result of a claim. -/
def claimResult (rules : UserRules) (d : UserDirectory) (r : UserRef) (claim : NameClaim) :
    UserResult :=
  ((claimObstacles rules d r claim).findSome? id).getD .ok

/-- The service decides by the first thing in the way. -/
theorem judge_eq (rules : UserRules) (d : UserDirectory) (r : UserRef) (claim : NameClaim) :
    judge rules d r claim = claimResult rules d r claim := by
  rw [judge, claimResult, claimObstacles]
  simp only [← UserConfig.isValidUsername_iff, ← UserDirectory.isNameTaken_iff]
  cases (d.user r).identified with
  | true => rfl
  | false =>
    cases rules.config.isValidUsername claim.username with
    | false => rfl
    | true =>
      cases (rules.authenticate claim.username claim.password).isOk with
      | false => rfl
      | true => cases d.isNameTaken claim.username r.owner <;> rfl

/-- The authenticator decides only about guests who claim a name that is allowed, and only by
whether it accepts this name with this password. -/
theorem judge_congr {authenticate : Authenticator}
    (agree : (d.user r).identified = false → rules.config.Allows claim.username →
      (authenticate claim.username claim.password).isOk =
        (rules.authenticate claim.username claim.password).isOk) :
    judge { rules with authenticate } d r claim = judge rules d r claim := by
  unfold judge
  dsimp only
  by_cases hidentified : (d.user r).identified
  · rw [if_pos hidentified, if_pos hidentified]
  by_cases hvalid : rules.config.isValidUsername claim.username
  · rw [agree (Bool.eq_false_of_not_eq_true hidentified) (UserConfig.isValidUsername_iff.1 hvalid)]
  · simp [hvalid]

end UserService

namespace World

variable {rules : Rules} {w : World} {client : ClientId} {code : UInt16} {p rest : Payload}
  {claim : NameClaim} {r : UserRef}

/-- The frame that completes a claim, with the name that follows the result. -/
def identifyComplete (result : UserResult) (name : Option String) : Frame :=
  ServerMessage.userFrame .identifyComplete
    (match name with
    | none => ServerMessage.resultPayload result
    | some name => (ServerMessage.resultPayload result).write .string name)

/-- A client is refused: it is told the reason, and nothing changes. -/
structure ClaimRefused (w w' : World) (e : Occurrence) (r : UserRef) (reason : UserResult) :
    Prop where
  users : w'.users = w.users
  frames : e.sent.map Outgoing.framed = [(r.owner, identifyComplete reason none)]

/-- A client gets the name that it wrote, and is told so. -/
structure ClaimGranted (w w' : World) (e : Occurrence) (r : UserRef) (name : String) : Prop where
  named : w'.user r = { w.user r with username := name, identified := true }
  others : ∀ q, q ≠ r → w'.user q = w.user q
  registered : w'.users.directory.registered = w.users.directory.registered
  binding : w'.users.binding = w.users.binding
  frames : e.sent.map Outgoing.framed = [(r.owner, identifyComplete .ok (some name))]
  readable : ∃ p, Reading.ofFrame (identifyComplete .ok (some name)) =
    .ok (.identifyComplete .ok (some name), p) ∧ p.unread = []

/-- What the result of a claim leads to. -/
inductive ClaimOutcome (w w' : World) (e : Occurrence) (r : UserRef) (name : String) :
    UserResult → Prop
  | refused {reason : UserResult} (why : reason ≠ .ok) (h : ClaimRefused w w' e r reason) :
    ClaimOutcome w w' e r name reason
  | granted (h : ClaimGranted w w' e r name) : ClaimOutcome w w' e r name .ok

/-- A claim that is judged to be wrong is answered by the reason, and nothing else comes of it. -/
theorem IsClaim.refused (request : w.IsClaim client code p claim rest r)
    (refused : UserService.judge rules.user w.users.directory r claim ≠ .ok) :
    let st := Step.message .users client code p
    ClaimRefused w (w.step rules st).1 (w.occurrence rules st) r
      (UserService.judge rules.user w.users.directory r claim) := by
  intro st
  obtain ⟨-, -, -, husers, hsent⟩ := request.performed rules
  rw [UserService.claim_of_refused refused] at husers hsent
  exact ⟨husers, congrArg (List.map Outgoing.framed) hsent⟩

/-- A claim that is judged to be right is answered, and the client gets its name. -/
theorem IsClaim.granted (request : w.IsClaim client code p claim rest r)
    (enabled : (w.user r).enabled)
    (granted : UserService.judge rules.user w.users.directory r claim = .ok) :
    let st := Step.message .users client code p
    ClaimGranted w (w.step rules st).1 (w.occurrence rules st) r claim.username := by
  intro st
  obtain ⟨-, -, -, husers, hsent⟩ := request.performed rules
  rw [UserService.claim_of_granted granted] at husers hsent
  have huser : ∀ q, (w.step rules st).1.user q =
      if q = r then (w.user r).identify claim.username else w.user q := fun q => by
    rw [user, husers]
    exact UserDirectory.user_update enabled _ q
  constructor
  case named => exact (huser r).trans (if_pos rfl)
  case others => exact fun q hne => (huser q).trans (if_neg hne)
  case registered => rw [husers]; rfl
  case binding => rw [husers]
  case frames => exact congrArg (List.map Outgoing.framed) hsent
  case readable =>
    -- the name came from a payload, where no string is longer than can be written
    have hfits : (ServerMessage.nameGranted claim.username).Fits :=
      NameClaim.fitsOnWire_username request.ofMessage
    exact ⟨_, ServerMessage.ofFrame_frame hfits, rfl⟩

/-- With another authenticator that decides the same about the claim, if it is asked at all, nothing
else happens. -/
theorem IsClaim.step_congr (request : w.IsClaim client code p claim rest r)
    {authenticate : Authenticator}
    (agree : (w.user r).identified = false → rules.user.config.Allows claim.username →
      (authenticate claim.username claim.password).isOk =
        (rules.user.authenticate claim.username claim.password).isOk) :
    w.step { rules with user := { rules.user with authenticate } }
        (.message .users client code p) =
      w.step rules (.message .users client code p) := by
  obtain ⟨i, hclaim⟩ := request.claimOf
  have hjudge : UserService.judge { rules.user with authenticate } w.users.directory r claim =
      UserService.judge rules.user w.users.directory r claim := UserService.judge_congr agree
  have hdecided : w.users.claim { rules.user with authenticate } r claim =
      w.users.claim rules.user r claim := by
    rw [UserService.claim, UserService.claim, hjudge]
  show w.deliver _ .users client code p = w.deliver rules .users client code p
  rw [deliver_users, deliver_users, hclaim]
  dsimp only [afterClaim]
  rw [hdecided]

/-- A claim is decided in every state that can be reached. Its result is the first thing in its way,
and that the client gets the name if there is none. What the result leads to is listed in full, and
the authenticator matters only where nothing that counts before it is in the way. -/
theorem claiming_in_full (rules : Rules) (steps : List Step)
    (request : (initial.run rules steps).IsClaim client code p claim rest r) :
    let w := initial.run rules steps
    let st := Step.message .users client code p
    let w' := (w.step rules st).1
    let e := w.occurrence rules st
    let result := UserService.claimResult rules.user w.users.directory r claim
    r.owner = client ∧ e.answer = .handled (.ok ()) rest.remaining ∧ e.callbacks = [] ∧
    w'.servers = w.servers ∧ w'.channels = w.channels ∧
    ClaimOutcome w w' e r claim.username result ∧
    ∀ authenticate : Authenticator,
      ((w.user r).identified = false → rules.user.config.Allows claim.username →
        (authenticate claim.username claim.password).isOk =
          (rules.user.authenticate claim.username claim.password).isOk) →
      w.step { rules with user := { rules.user with authenticate } } st = w.step rules st := by
  intro w st w' e result
  obtain ⟨hreport, hservers, hchannels, -⟩ := request.performed rules
  obtain ⟨hcurrent, howner⟩ := UserDirectory.isCurrent_of_ref? request.current
  have henabled : (w.user r).enabled := (directory_sound rules steps).enabled r hcurrent
  refine ⟨howner, congrArg Report.answer hreport, congrArg Report.callbacks hreport, hservers,
    hchannels, ?_, fun authenticate agree => request.step_congr agree⟩
  have hresult : UserService.judge rules.user w.users.directory r claim = result :=
    UserService.judge_eq rules.user w.users.directory r claim
  rw [← hresult]
  by_cases hok : UserService.judge rules.user w.users.directory r claim = .ok
  · rw [hok]
    exact .granted (request.granted henabled hok)
  · exact .refused hok (request.refused hok)

set_option maxRecDepth 100000 in
/-- A guest claims a name that another client has in another spelling, and with a password that is
not accepted. -/
theorem claiming_in_full_of_taken_name :
    let rules : Rules := ⟨⟨default, .ofPairs [("Ann", "secret")]⟩, default⟩
    let ann : ClientId := ⟨1⟩
    let bob : ClientId := ⟨2⟩
    let both := [ComponentId.users, .channels]
    let asked := fun name => Payload.ofValues [⟨.string, name⟩, ⟨.string, "secret"⟩]
    let claim := fun c name => Step.message .users c (Coded.code UserMessage.identify) (asked name)
    let steps := [.register .users 0, .register .channels 0, .connect both ann "host" "a",
      .connect both bob "host" "b", claim ann "Ann"]
    let w := initial.run rules steps
    w.IsClaim bob (Coded.code UserMessage.identify) (asked "ANN") ⟨"ANN", "secret"⟩
        ⟨(asked "ANN").unread, []⟩ ⟨bob, 0⟩ ∧
      w.users.directory.IsHeld "ANN" bob ∧
      UserService.claimResult rules.user w.users.directory ⟨bob, 0⟩ ⟨"ANN", "secret"⟩ =
        .authFailed ∧
      ClaimOutcome w (w.step rules (claim bob "ANN")).1 (w.occurrence rules (claim bob "ANN"))
        ⟨bob, 0⟩ "ANN" .authFailed := by
  intro rules ann bob both asked claim steps w
  have hclaim : w.IsClaim bob (Coded.code UserMessage.identify) (asked "ANN") ⟨"ANN", "secret"⟩
      ⟨(asked "ANN").unread, []⟩ ⟨bob, 0⟩ :=
    ⟨⟨0, by decide +kernel⟩, by decide +kernel, ⟨_, by rfl, by decide +kernel⟩,
      by decide +kernel⟩
  have hheld : w.users.directory.IsHeld "ANN" bob := by decide +kernel
  have hresult : UserService.claimResult rules.user w.users.directory ⟨bob, 0⟩
      ⟨"ANN", "secret"⟩ = .authFailed := by decide +kernel
  have houtcome := (claiming_in_full rules steps hclaim).2.2.2.2.2.1
  exact ⟨hclaim, hheld, hresult, hresult ▸ houtcome⟩

end World

end ChatServer
