import ChatServer.Proofs.Channel.Listings
import ChatServer.Proofs.World.Frames

/-!
# What comes of a request to leave

As with a request to join, each thing that can be in the way is judged on its own, in the order in
which it counts, and the first one is the result. A client that leaves is told of with the record
that the channel has of it, to all who were members before it left, and its request is completed
after that.
-/

namespace ChatServer

namespace ChannelService

variable {config : ChannelConfig} {users : UserRef → User} {s : ChannelService} {r : UserRef}
  {name : String}

/-- What can keep a request to leave from being granted: the client has no name, the channel's name
has no `#`, there is no channel in use under its key, or the client is not a member. -/
def leaveObstacles (config : ChannelConfig) (users : UserRef → User) (s : ChannelService)
    (r : UserRef) (name : String) : List (Option ChannelResult) :=
  [if (users r).identified then none else some .notIdentified,
    if '#' ∈ name.toList then none else some .invalidChannelName,
    if s.lookup? config name = none then some .invalidChannelName else none,
    if s.isMember config name r.owner then none else some .notInChannel]

/-- The result of a request to leave. -/
def leaveResult (config : ChannelConfig) (users : UserRef → User) (s : ChannelService)
    (r : UserRef) (name : String) : ChannelResult :=
  ((leaveObstacles config users s r name).findSome? id).getD .ok

/-- The operation refuses for the first thing in the way. -/
theorem leaveRefusal?_eq (config : ChannelConfig) (users : UserRef → User) (s : ChannelService)
    (r : UserRef) (name : String) :
    leaveRefusal? config users s r name = (leaveObstacles config users s r name).findSome? id := by
  have hvalid : isValidChannelName name = decide ('#' ∈ name.toList) := by
    rw [isValidChannelName, List.contains_eq_mem]
  rw [leaveRefusal?, hvalid]
  -- each obstacle is looked at only where those before it are out of the way
  cases hidentified : (users r).identified with
  | false => simp [leaveObstacles, hidentified]
  | true =>
    by_cases hhash : '#' ∈ name.toList
    · cases hfound : s.lookup? config name with
      | none => simp [leaveObstacles, hidentified, hhash, hfound]
      | some q =>
        have hmember : s.isMember config name r.owner = (s.channel q).isMember r.owner := by
          rw [isMember, hfound]
          rfl
        simp [leaveObstacles, hidentified, hhash, hfound, hmember]
    · simp [leaveObstacles, hidentified, hhash]

end ChannelService

namespace World

variable {rules : Rules} {w : World} {client : ClientId} {code : UInt16} {p rest : Payload}
  {name : String} {r : UserRef} {reason : ChannelResult} {q : ChannelRef} {n : Nat}

/-- A request to leave is performed by the channel service, and only there. -/
theorem IsRequest.leave (rules : Rules) (h : w.IsRequest .leave client code p name rest r) :
    let st := Step.message .channels client code p
    let w' := (w.step rules st).1
    let result := w.channels.leave rules.channel w.user r name
    (w.step rules st).2.answer = .handled (.ok ()) rest.remaining ∧
      w'.servers = w.servers ∧ w'.users = w.users ∧ w'.channels = result.1 ∧
      w.sent rules st = result.2.messages ∧
      (w.step rules st).2.callbacks = w'.notice rules result.2.events :=
  h.performed rules h.ofMessage_leave

/-- The frame that completes a request to leave, with the name that follows the result. -/
def leaveComplete (result : ChannelResult) (name : Option String) : Frame :=
  ServerMessage.channelFrame .leaveComplete
    (match name with
    | none => ServerMessage.resultPayload result
    | some name => (ServerMessage.resultPayload result).write .string name)

/-- The frame that tells that a user left. -/
def leaveNotice (u : User) : Frame :=
  ServerMessage.channelFrame .leave (ServerMessage.noticePayload .userLeft u.entry)

/-- A client is refused: its request is completed with the reason, and nothing changes. -/
structure LeaveRefused (rules : Rules) (w w' : World) (e : Occurrence) (r : UserRef)
    (reason : ChannelResult) : Prop where
  channels : w'.channels = w.channels
  frames : e.sent.map Outgoing.framed = [(r.owner, leaveComplete reason none)]
  callbacks : e.callbacks = w'.notice rules [.leaveCompleted reason (w.user r)]

/-- A client leaves a channel, which has record `n` of it. Those who were members are told, in
ascending order, and then the client gets the name that it wrote. -/
structure LeaveParted (rules : Rules) (w w' : World) (e : Occurrence) (r : UserRef)
    (name : String) (q : ChannelRef) (n : Nat) (told : List ClientId) : Prop where
  found : w.channels.lookup? rules.channel name = some q
  member : (w.channels.channel q).members.get? r.owner = some n
  named : (w'.channels.channel q).name = (w.channels.channel q).name
  key : (w'.channels.channel q).key = (w.channels.channel q).key
  members : ∀ b, (w'.channels.channel q).members.get? b =
    if b = r.owner then none else (w.channels.channel q).members.get? b
  operators : ∀ b, (w'.channels.channel q).operators.get? b =
    if b = r.owner then none else (w.channels.channel q).operators.get? b
  enabled : (w'.channels.channel q).enabled ↔ (w.channels.channel q).HasOther r.owner
  others : ∀ q', q' ≠ q → w'.channels.channel q' = w.channels.channel q'
  registry : ∀ q', w'.channels.IsRegistered q' ↔
    w.channels.IsRegistered q' ∧ (q' = q → (w.channels.channel q).HasOther r.owner)
  ascending : told.Pairwise fun a b => a.val < b.val
  mem_told : ∀ b, b ∈ told ↔
    ∃ m, (w.channels.channel q).members.get? b = some m ∧ (w.user ⟨b, m⟩).enabled
  frames : e.sent.map Outgoing.framed =
    told.map (fun b => (b, leaveNotice (w.user ⟨r.owner, n⟩))) ++
      [(r.owner, leaveComplete .ok (some name))]
  readable : ∃ p, Reading.ofFrame (leaveComplete .ok (some name)) =
    .ok (.leaveComplete .ok (some name), p) ∧ p.unread = []
  callbacks : e.callbacks = w'.notice rules
    [.left ((w'.channels.channel q).info w'.user) (w.user ⟨r.owner, n⟩),
      .leaveCompleted .ok (w.user r)]

/-- What the result of a request to leave leads to. -/
inductive LeaveOutcome (rules : Rules) (w w' : World) (e : Occurrence) (r : UserRef)
    (name : String) : ChannelResult → Prop
  | refused {reason : ChannelResult} (why : reason ≠ .ok)
    (h : LeaveRefused rules w w' e r reason) : LeaveOutcome rules w w' e r name reason
  | parted {q : ChannelRef} {n : Nat} {told : List ClientId}
    (h : LeaveParted rules w w' e r name q n told) : LeaveOutcome rules w w' e r name .ok

/-- A leave that is refused is answered by the reason, and changes nothing. -/
theorem IsRequest.leave_refused (request : w.IsRequest .leave client code p name rest r)
    (refused : w.channels.leave rules.channel w.user r name =
      (w.channels, ChannelService.refuseLeave (w.user r) r.owner reason)) :
    let st := Step.message .channels client code p
    LeaveRefused rules w (w.step rules st).1 (w.occurrence rules st) r reason := by
  intro st
  obtain ⟨-, -, -, hchannels, hsent, hcallbacks⟩ := request.leave rules
  rw [refused] at hchannels hsent hcallbacks
  exact ⟨hchannels, congrArg (List.map Outgoing.framed) hsent, hcallbacks⟩

/-- A leave of a channel takes the client off it, and the members that stay are told. -/
theorem IsRequest.leave_parted (request : w.IsRequest .leave client code p name rest r)
    (found : w.channels.lookup? rules.channel name = some q)
    (member : (w.channels.channel q).members.get? r.owner = some n)
    (parted : w.channels.leave rules.channel w.user r name =
      (w.channels.part q r.owner,
        ChannelService.leaveEffects w.user q (w.channels.channel q) r
          (w.user ⟨r.owner, n⟩) name)) :
    let st := Step.message .channels client code p
    LeaveParted rules w (w.step rules st).1 (w.occurrence rules st) r name q n
      (Roster.recipients w.user (w.channels.channel q).members none) := by
  intro st
  obtain ⟨-, -, husers, hchannels, hsent, hcallbacks⟩ := request.leave rules
  rw [parted] at hchannels hsent hcallbacks
  have huser : (w.step rules st).1.user = w.user := by rw [user, user, husers]
  -- a channel that is found is in use, and only such a channel can be changed
  obtain ⟨-, -, hopen⟩ := ChannelService.lookup?_eq_some_iff.1 found
  have hchannel : ∀ q', (w.step rules st).1.channels.channel q' =
      if q' = q then (w.channels.channel q).withoutMember r.owner
      else w.channels.channel q' := fun q' => by
    rw [hchannels, ChannelService.channel_part hopen]
  have hthis : (w.step rules st).1.channels.channel q =
      (w.channels.channel q).withoutMember r.owner := (hchannel q).trans (if_pos rfl)
  constructor
  case found => exact found
  case member => exact member
  case named => rw [hthis]; rfl
  case key => rw [hthis]; rfl
  case members => rw [hthis]; exact Channel.get?_withoutMember _ _
  case operators => rw [hthis]; exact Table.get?_erase _ _
  case enabled => rw [hthis, Channel.enabled_withoutMember_iff]
  case others => exact fun q' hne => (hchannel q').trans (if_neg hne)
  case registry =>
    intro q'
    rw [hchannels, ChannelService.isRegistered_part, Channel.isEmpty_withoutMember_iff]
  case ascending => exact Roster.recipients_strict _ _ _
  case mem_told =>
    intro b
    rw [Roster.mem_recipients_iff, and_iff_right (Option.some_ne_none b)]
  case frames =>
    have hframed := ChannelService.framed_announceLeave q
      (Roster.recipients w.user (w.channels.channel q).members none) (w.user ⟨r.owner, n⟩)
    show (w.sent rules st).map Outgoing.framed = _
    rw [hsent, ChannelService.leaveEffects, List.map_append, hframed]
    rfl
  case readable =>
    have hfits : (ServerMessage.left name).Fits :=
      ChannelRequest.fitsOnWire_name request.ofMessage_leave
    exact ⟨_, ServerMessage.ofFrame_frame hfits, rfl⟩
  case callbacks =>
    show (w.step rules st).2.callbacks = _
    rw [hcallbacks, hthis, huser]
    rfl

/-- A request to leave is answered in every state that can be reached. Its result is the first thing
in its way, and that the client leaves if there is none. What the result leads to is listed in full:
what becomes of the channels, who is sent what and what observers notice. -/
theorem leaving_in_full (rules : Rules) (steps : List Step)
    (request : (initial.run rules steps).IsRequest .leave client code p name rest r) :
    let w := initial.run rules steps
    let st := Step.message .channels client code p
    let w' := (w.step rules st).1
    let e := w.occurrence rules st
    let result := w.channels.leaveResult rules.channel w.user r name
    r.owner = client ∧ e.answer = .handled (.ok ()) rest.remaining ∧
    w'.servers = w.servers ∧ w'.users = w.users ∧
    w'.channels.binding = w.channels.binding ∧ w'.channels.observers = w.channels.observers ∧
    LeaveOutcome rules w w' e r name result := by
  intro w st w' e result
  obtain ⟨hanswer, hservers, husers, hchannels, -⟩ := request.leave rules
  obtain ⟨-, howner⟩ := UserDirectory.isCurrent_of_ref? request.current
  have hbinding := ChannelService.binding_perform rules.channel w.user w.channels r (.leave name)
  have hobservers :=
    ChannelService.observers_perform rules.channel w.user w.channels r (.leave name)
  refine ⟨howner, hanswer, hservers, husers, (congrArg _ hchannels).trans hbinding,
    (congrArg _ hchannels).trans hobservers, ?_⟩
  have hresult : result =
      (ChannelService.leaveRefusal? rules.channel w.user w.channels r name).getD .ok := by
    rw [ChannelService.leaveRefusal?_eq]
    rfl
  -- the result and what it leads to are read off the same outcome of the operation
  have hcases := ChannelService.leaving rules.channel w.user w.channels r name
  generalize houtcome : w.channels.leave rules.channel w.user r name = outcome at hcases
  cases hcases with
  | refused why =>
    rw [hresult, why]
    exact .refused (leaveRefusal?_possible why).2 (request.leave_refused houtcome)
  | parted allowed found member =>
    rw [hresult, allowed]
    exact .parted (request.leave_parted found member houtcome)

set_option maxRecDepth 100000 in
/-- A client came back with another name, and the channel still has the record that it had before.
-/
theorem leaving_in_full_after_reconnect :
    let rules : Rules := ⟨default, { caseSensitive := false }⟩
    let ann : ClientId := ⟨1⟩
    let bob : ClientId := ⟨2⟩
    let both := [ComponentId.users, .channels]
    let claim := fun c name => Step.message .users c (Coded.code UserMessage.identify)
      (Payload.ofValues [⟨.string, name⟩, ⟨.string, "secret"⟩])
    let join := fun c => Step.message .channels c (Coded.code ChannelMessage.join)
      (Payload.ofValues [⟨.string, "#One"⟩])
    let named := Payload.ofValues [⟨.string, "#ONE"⟩]
    let leave := Step.message .channels bob (Coded.code ChannelMessage.leave) named
    let steps := [.register .users 0, .register .channels 0, .connect both ann "host" "a",
      .connect both bob "host" "b", claim ann "Ann", claim bob "Bob", join ann, join bob,
      .disconnect [.users] bob, .connect both bob "away" "c", claim bob "Bobby"]
    let w := initial.run rules steps
    w.IsRequest .leave bob (Coded.code ChannelMessage.leave) named "#ONE" ⟨named.unread, []⟩
        ⟨bob, 1⟩ ∧
      (w.channels.channel ⟨"#one", 0⟩).members.get? bob = some 0 ∧
      w.channels.leaveResult rules.channel w.user ⟨bob, 1⟩ "#ONE" = .ok ∧
      LeaveOutcome rules w (w.step rules leave).1 (w.occurrence rules leave) ⟨bob, 1⟩ "#ONE"
        .ok := by
  intro rules ann bob both claim join named leave steps w
  have hrequest : w.IsRequest .leave bob (Coded.code ChannelMessage.leave) named "#ONE"
      ⟨named.unread, []⟩ ⟨bob, 1⟩ :=
    ⟨⟨0, by decide +kernel⟩, by decide +kernel, by decide +kernel, by decide +kernel⟩
  have hmember : (w.channels.channel ⟨"#one", 0⟩).members.get? bob = some 0 := by decide +kernel
  have hok : w.channels.leaveResult rules.channel w.user ⟨bob, 1⟩ "#ONE" = .ok := by
    decide +kernel
  have houtcome := (leaving_in_full rules steps hrequest).2.2.2.2.2.2
  exact ⟨hrequest, hmember, hok, hok ▸ houtcome⟩

end World

end ChatServer
