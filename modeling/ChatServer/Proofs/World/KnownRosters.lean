import ChatServer.Proofs.Channel.Notices
import ChatServer.Proofs.World.Sessions

/-!
# Members know who the members are

A client that puts together the answer to its last request to join a channel and the notices about
that channel it got since knows who is in the channel. This holds for every member of every channel
after every step of a session, because each step informs the members it leaves in the channel, and
no step changes how a member is listed.
-/

namespace ChatServer

/-- Whoever knows a roster still knows it when records evolve, since the entries of members do not
change. -/
theorem ChannelService.Informs.of_evolves {config : ChannelConfig} {d d' : UserDirectory}
    {s : ChannelService} {client : ClientId} {channel : ChannelRef} {known : KnownRoster}
    (h : s.Informs d.user client channel known) (hs : Sound config d.user s)
    (hd : d.Evolves d') : s.Informs d'.user client channel known := by
  intro hreg hmember
  rw [h hreg hmember]
  have hset : Roster.entrySet d'.user (s.channel channel).members =
      Roster.entrySet d.user (s.channel channel).members := by
    refine Roster.entrySet_congr fun c n hn => ?_
    obtain ⟨-, hidentified⟩ := (hs.intact channel hreg).record c n hn
    have hbecomes := hd.user hidentified
    have hname := (hbecomes.identified hidentified).2
    rw [User.entry, User.entry, hname, hbecomes.hostname]
  rw [hset]

/-- Whatever becomes of a disconnected client's record, its names stay, and so do all other
records. -/
theorem UserService.user_disconnect {config : UserConfig} (s : UserService)
    (hd : s.directory.Sound config) (client : ClientId) (r : UserRef) :
    ((s.disconnect client).directory.user r).entry = (s.directory.user r).entry ∧
      (r.owner ≠ client → (s.disconnect client).directory.user r = s.directory.user r) := by
  unfold disconnect
  cases hq : s.directory.ref? client with
  | none => exact ⟨rfl, fun _ => rfl⟩
  | some q =>
    obtain ⟨hcurrent, hclient⟩ := UserDirectory.isCurrent_of_ref? hq
    dsimp only
    rw [UserDirectory.user_remove, UserDirectory.user_update (hd.enabled q hcurrent)]
    split
    · next hr =>
      subst hr
      exact ⟨rfl, fun hne => absurd hclient hne⟩
    · exact ⟨rfl, fun _ => rfl⟩

namespace World

variable {rules : Rules} {w : World} {session : Session} {client : ClientId}
  {channel : ChannelRef} {known : KnownRoster}

/-- How a client is listed if a step is its request to join the channel. -/
def ownEntry (rules : Rules) (w : World) (client : ClientId) (channel : ChannelRef) :
    Step → Option RosterEntry
  | .message .channels c code p =>
    match (ChannelRequest.ofMessage code p).1, w.users.directory.ref? c with
    | .ok request, some r =>
      ChannelService.ownEntry rules.channel w.user client channel r request
    | _, _ => none
  | _ => none

/-- What a client knows of a channel after the messages that it gets in a step. -/
def learned (rules : Rules) (w : World) (client : ClientId) (channel : ChannelRef)
    (known : KnownRoster) (st : Step) : KnownRoster :=
  (Outgoing.received client (w.sent rules st)).foldl
    (KnownRoster.learn channel (w.ownEntry rules client channel st)) known

/-- What a client knows of a channel after the messages that it gets in several steps. -/
def follow (rules : Rules) (client : ClientId) (channel : ChannelRef) :
    World → KnownRoster → List Step → KnownRoster
  | _, known, [] => known
  | w, known, st :: steps =>
    follow rules client channel (w.step rules st).1 (w.learned rules client channel known st) steps

/-- What a client learns from a step is what it learns from the messages that are added to the
record. -/
theorem learned_of_record {st : Step} {i : ServerId} {messages : List Outgoing}
    (h : (w.step rules st).1.record = w.record ++ messages.map fun m => (i, m)) :
    w.learned rules client channel known st =
      (Outgoing.received client messages).foldl
        (KnownRoster.learn channel (w.ownEntry rules client channel st)) known := by
  rw [learned, sent_of_record h]

/-- A step that sends nothing teaches nothing. -/
theorem learned_eq_self {st : Step} (h : (w.step rules st).1.record = w.record) :
    w.learned rules client channel known st = known := by
  have hnone : (w.step rules st).1.record =
      w.record ++ ([] : List Outgoing).map fun m => ((0 : ServerId), m) := by
    rw [h, List.map_nil, List.append_nil]
  rw [learned_of_record hnone]
  rfl

/-- The end of a connection informs all members that are left. -/
theorem informs_disconnected (h : w.channels.Informs w.user client channel known)
    (ha : w.Agreement session) (hs : w.Sound rules) {hooks : List ComponentId} {gone : ClientId}
    {view : UserRef → User}
    (hview : view = w.user ∨ view = (w.users.disconnect gone).directory.user)
    (hw : (w.step rules (.disconnect hooks gone)).1 = w.bothDisconnect gone view) :
    (w.bothDisconnect gone view).channels.Informs w.user client channel
      (w.learned rules client channel known (.disconnect hooks gone)) := by
  have hkept : ∀ r, (view r).entry = (w.user r).entry ∧
      (r.owner ≠ gone → view r = w.user r) := by
    intro r
    rcases hview with hview | hview
    · rw [hview]
      exact ⟨rfl, fun _ => rfl⟩
    · rw [hview]
      exact w.users.user_disconnect hs.directory gone r
  have hinforms := h.disconnected hs.directory hs.channels ha.current (ha.bound channel)
    (fun r => (hkept r).1) (fun r => (hkept r).2)
  rw [bothDisconnect, channels_send]
  intro hreg hmember
  -- there is a channel, so a server is bound and the notices are sent
  have hregistered : w.channels.IsRegistered channel := by
    have hreg : (w.channels.disconnect w.servers view gone).1.IsRegistered channel := hreg
    rw [ChannelService.disconnect_eq] at hreg
    exact ((ChannelService.isRegistered_retire w.channels.nodup_refs).1 hreg).1
  obtain ⟨i, hbound⟩ := Option.isSome_iff_exists.1 (ha.bound channel hregistered)
  have hrecord : (w.step rules (.disconnect hooks gone)).1.record = w.record ++
      (w.channels.disconnect w.servers view gone).2.messages.map fun m => (i, m) := by
    rw [hw, bothDisconnect, send_of_bound (i := i) (by exact hbound)]
  rw [learned_of_record hrecord]
  exact hinforms hreg hmember

/-- A message informs all members, whether it comes from one of them or from someone else. -/
theorem informs_handled (h : w.channels.Informs w.user client channel known)
    (ha : w.Agreement session) (hs : w.Sound rules) {c : ComponentId} {sender : ClientId}
    {code : UInt16} {p : Payload} {w' : World} (hd : Delivery rules w sender code p c w')
    (hw : (w.step rules (.message c sender code p)).1 = w') :
    w'.channels.Informs w.user client channel
      (w.learned rules client channel known (.message c sender code p)) := by
  cases hd with
  | refused c =>
    rw [learned_eq_self (by rw [hw])]
    exact h
  -- a reply to a claim tells nothing about rosters
  | claimed bound read current =>
    rw [learned_of_record (by rw [hw, afterClaim])]
    rw [KnownRoster.foldl_received_eq_self fun o ho known => ?_]
    · exact h
    · rw [List.mem_singleton.1 ho]
      dsimp only [UserService.reply]
      split <;> rfl
  | @requested i r request rest bound read current =>
    obtain ⟨hcurrent, -⟩ := UserDirectory.isCurrent_of_ref? current
    have hown : w.ownEntry rules client channel (.message .channels sender code p) =
        ChannelService.ownEntry rules.channel w.user client channel r request := by
      rw [ownEntry, read, current]
    rw [learned_of_record (by rw [hw, afterRequest]), hown]
    exact h.perform hs.directory hs.channels ha.current hcurrent request

/-- Every step of a session informs all members. -/
theorem informs_step (h : w.channels.Informs w.user client channel known)
    (ha : w.Agreement session) (hs : w.Sound rules) {st : Step} (hst : session.admits st) :
    (w.step rules st).1.channels.Informs (w.step rules st).1.user client channel
      (w.learned rules client channel known st) := by
  have hsound := hs.channels.changes hs.directory.client
    (step_channels rules w (Session.isDirect_of_admits hst))
  refine ChannelService.Informs.of_evolves ?_ hsound (directory_evolves rules w st)
  -- what is left to show looks at the records of users as they were before the step
  have ht := taken rules w hst
  generalize hw : (w.step rules st).1 = w' at ht ⊢
  have hquiet : w'.record = w.record →
      w.learned rules client channel known st = known := by
    intro hrecord
    exact learned_eq_self (by rw [hw, hrecord])
  cases ht with
  | disconnected hview => exact informs_disconnected h ha hs hview hw
  | handled delivery => exact informs_handled h ha hs delivery hw
  | connected fresh => rw [hquiet rfl]; exact h
  | started c => rw [hquiet rfl]; exact h
  | usersStopped => rw [hquiet rfl]; exact h
  | usersDown phase => rw [hquiet rfl]; exact h
  | observed o => rw [hquiet rfl]; exact h
  | channelsStopped => exact fun hreg => absurd hreg (w.channels.not_isRegistered_clear channel)
  | channelsDown => exact fun hreg => absurd hreg (w.channels.not_isRegistered_clear channel)

/-- Through a whole session a client that follows what it is told knows the roster. -/
theorem informs_follow (h : w.channels.Informs w.user client channel known)
    (ha : w.Agreement session) (hs : w.Sound rules) {steps : List Step}
    (ho : session.orderly steps) :
    (w.run rules steps).channels.Informs (w.run rules steps).user client channel
      (follow rules client channel w known steps) := by
  induction steps generalizing w session known with
  | nil => exact h
  | cons st steps ih =>
    rw [Session.orderly, Bool.and_eq_true] at ho
    rcases ho with ⟨hst, ho⟩
    exact ih (informs_step h ha hs hst) (ha.step hs hst)
      (hs.step (Session.isDirect_of_admits hst)) ho

/-- In every session of a server with both services, every member of every channel knows exactly who
the members are, from the answer to its last request to join the channel and the notices about the
channel that it got since. -/
theorem known_roster_eq (rules : Rules) {steps : List Step} (h : Session.start.orderly steps)
    (client : ClientId) (channel : ChannelRef) :
    let w := (hosted rules).run rules steps
    (w.channels.channel channel).isMember client →
      follow rules client channel (hosted rules) none steps =
        some (Roster.entrySet w.user (w.channels.channel channel).members) := by
  intro w hmember
  obtain ⟨n, hn⟩ := Table.contains_iff.1 hmember
  have hnobody : (hosted rules).channels.Informs (hosted rules).user client channel none :=
    fun hreg => nomatch hreg
  have hinforms := informs_follow hnobody (agreement_hosted rules) (sound_hosted rules) h
  obtain ⟨-, hsound⟩ := (agreement_hosted rules).run (sound_hosted rules) h
  exact hinforms (hsound.channels.registered_of_member hn) hmember

set_option maxRecDepth 100000 in
/-- A founder that is told of its own arrivals follows one user who comes, one who goes, and its own
return. -/
theorem known_roster_of_founder :
    let rules : Rules := ⟨default, { notifyJoiner := true }⟩
    let ann : ClientId := ⟨1⟩
    let bob : ClientId := ⟨2⟩
    let eve : ClientId := ⟨3⟩
    let both := [ComponentId.users, .channels]
    let claim := fun c name => Step.message .users c (Coded.code UserMessage.identify)
      (Payload.ofValues [⟨.string, name⟩, ⟨.string, "secret"⟩])
    let ask := fun c request => Step.message .channels c (Coded.code (α := ChannelMessage) request)
      (Payload.ofValues [⟨.string, "#"⟩])
    let steps := [.connect both ann "host" "a", .connect both bob "host" "b",
      .connect both eve "host" "c", claim ann "Ann", claim bob "Bob", claim eve "Eve",
      ask ann .join, ask bob .join, ask ann .leave, ask ann .join, ask eve .join,
      .disconnect both bob]
    (((hosted rules).run rules steps).channels.channel ⟨"#", 0⟩).isMember ann ∧
      follow rules ann ⟨"#", 0⟩ (hosted rules) none steps =
        some {⟨"Ann", "host"⟩, ⟨"Eve", "host"⟩} := by
  intro rules ann bob eve both claim ask steps
  have horderly : Session.start.orderly steps := by decide +kernel
  have hmember : (((hosted rules).run rules steps).channels.channel ⟨"#", 0⟩).isMember ann := by
    decide +kernel
  have hset : Roster.entrySet ((hosted rules).run rules steps).user
      (((hosted rules).run rules steps).channels.channel ⟨"#", 0⟩).members =
        {⟨"Ann", "host"⟩, ⟨"Eve", "host"⟩} := by
    decide +kernel
  have hknown := known_roster_eq rules horderly ann ⟨"#", 0⟩ hmember
  exact ⟨hmember, hknown.trans (congrArg some hset)⟩

end World

end ChatServer
