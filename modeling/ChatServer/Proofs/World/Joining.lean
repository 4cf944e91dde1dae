import ChatServer.Proofs.Channel.Keys
import ChatServer.Proofs.Channel.Listings
import ChatServer.Proofs.World.Traces

/-!
# What comes of a request to join

A request to join has one of five results. `joinObstacles` judges each thing that can be in the way
on its own, in the order in which it counts; the first one is the result. The result decides what
becomes of the channels, who is sent what and what observers are told.
-/

namespace ChatServer

namespace ChannelService

variable {config : ChannelConfig} {users : UserRef → User} {s : ChannelService} {r : UserRef}
  {name : String} {channel : ChannelRef} {reason : ChannelResult}

end ChannelService

namespace World

variable {rules : Rules} {w : World} {client : ClientId} {code : UInt16} {p rest : Payload}
  {name : String} {r : UserRef}

/-- A request to join is performed by the channel service, and only there. -/
theorem IsRequest.join (rules : Rules) (h : w.IsRequest .join client code p name rest r) :
    let st := Step.message .channels client code p
    let w' := (w.step rules st).1
    let result := w.channels.join rules.channel w.user r name
    (w.step rules st).2.answer = .handled (.ok ()) rest.remaining ∧
      w'.servers = w.servers ∧ w'.users = w.users ∧ w'.channels = result.1 ∧
      w.sent rules st = result.2.messages ∧
      (w.step rules st).2.callbacks = w'.notice rules result.2.events :=
  h.performed rules h.ofMessage_join

/-- The frame that completes a request to join, with what follows the result. -/
def joinComplete (result : ChannelResult) (rosters : Option Snapshot) : Frame :=
  ServerMessage.channelFrame .joinComplete
    (match rosters with
    | none => ServerMessage.resultPayload result
    | some s => s.writeTo (ServerMessage.resultPayload result))

/-- The frame that tells that a user joined. -/
def joinNotice (u : User) : Frame :=
  ServerMessage.channelFrame .join (ServerMessage.noticePayload .userJoined u.entry)

/-- Who is told: the members, and whoever joined only if the rules say so. -/
theorem mem_recipients_join {config : ChannelConfig} {users : UserRef → User} {members : Roster}
    {joiner b : ClientId} :
    b ∈ Roster.recipients users members ((ChannelService.joinAudience config).excluded joiner) ↔
      (∃ n, members.get? b = some n ∧ (users ⟨b, n⟩).enabled) ∧
        (b = joiner → config.notifyJoiner) := by
  rw [Roster.mem_recipients_iff, and_comm, ChannelService.joinAudience]
  cases config.notifyJoiner with
  | true => simp [Audience.excluded]
  | false => simp [Audience.excluded]

/-- A client is refused: its request is completed with the reason, and nothing changes. -/
structure JoinRefused (rules : Rules) (w w' : World) (e : Occurrence) (r : UserRef)
    (reason : ChannelResult) : Prop where
  channels : w'.channels = w.channels
  frames : e.sent.map Outgoing.framed = [(r.owner, joinComplete reason none)]
  callbacks : e.callbacks = w'.notice rules [.joinCompleted reason (w.user r)]

/-- A client creates a channel of its own, which takes the place under its key. -/
structure JoinFounded (rules : Rules) (w w' : World) (e : Occurrence) (r : UserRef)
    (name : String) (q : ChannelRef) : Prop where
  key : q.owner = rules.channel.keyFor name
  new : w.channels.channels.get? q = none
  named : (w'.channels.channel q).name = name
  enabled : (w'.channels.channel q).enabled
  members : ∀ b, (w'.channels.channel q).members.get? b =
    if b = r.owner then some r.number else none
  operators : ∀ b, (w'.channels.channel q).operators.get? b =
    if b = r.owner then some r.number else none
  others : ∀ q', q' ≠ q → w'.channels.channel q' = w.channels.channel q'
  registry : ∀ k, w'.channels.registry.get? k =
    if k = q.owner then some q.number else w.channels.registry.get? k
  frames : e.sent.map Outgoing.framed = [(r.owner, joinComplete .channelCreated none)]
  callbacks : e.callbacks = w'.notice rules
    [.joinCompleted .channelCreated (w.user r), .created ((w'.channels.channel q).info w'.user),
      .joined ((w'.channels.channel q).info w'.user) (w.user r)]

/-- A client enters a channel: it gets the rosters, on which it is listed by then, and some members
are told, in ascending order. -/
structure JoinEntered (rules : Rules) (w w' : World) (e : Occurrence) (r : UserRef)
    (name : String) (q : ChannelRef) (told : List ClientId) : Prop where
  found : w.channels.lookup? rules.channel name = some q
  absent : (w.channels.channel q).members.get? r.owner = none
  entered : w'.channels.channel q =
    { w.channels.channel q with
      members := (w.channels.channel q).members.insert r.owner r.number }
  others : ∀ q', q' ≠ q → w'.channels.channel q' = w.channels.channel q'
  registry : w'.channels.registry = w.channels.registry
  listed : (w.user r).entry ∈ ((w'.channels.channel q).snapshot w'.user).members
  ascending : told.Pairwise fun a b => a.val < b.val
  mem_told : ∀ b, b ∈ told ↔
    (∃ n, (w'.channels.channel q).members.get? b = some n ∧ (w'.user ⟨b, n⟩).enabled) ∧
      (b = r.owner → rules.channel.notifyJoiner)
  frames : e.sent.map Outgoing.framed =
    (r.owner, joinComplete .ok (some ((w'.channels.channel q).snapshot w'.user))) ::
      told.map fun b => (b, joinNotice (w.user r))
  callbacks : e.callbacks = w'.notice rules
    [.joinCompleted .ok (w.user r), .joined ((w'.channels.channel q).info w'.user) (w.user r)]

variable {w' : World} {e : Occurrence} {result : ChannelService × Effects} {q : ChannelRef}
  {reason : ChannelResult}

/-- The world and the occurrence are those of a request to join with this outcome, which leaves
the users as they are. -/
structure JoinsBy (rules : Rules) (w w' : World) (e : Occurrence)
    (result : ChannelService × Effects) : Prop where
  users : w'.users = w.users
  channels : w'.channels = result.1
  sent : e.sent = result.2.messages
  callbacks : e.callbacks = w'.notice rules result.2.events

theorem JoinsBy.user_eq (h : JoinsBy rules w w' e result) : w'.user = w.user := by
  rw [user, user, h.users]

/-- A join that is refused is answered by the reason, and changes nothing. -/
theorem JoinsBy.refused
    (h : JoinsBy rules w w' e
      (w.channels, ChannelService.refuseJoin (w.user r) r.owner reason)) :
    JoinRefused rules w w' e r reason where
  channels := h.channels
  frames := by rw [h.sent]; rfl
  callbacks := h.callbacks

/-- A join of a name that finds nothing founds the channel. -/
theorem JoinsBy.founded
    (h : JoinsBy rules w w' e (w.channels.found rules.channel w.user r name)) :
    JoinFounded rules w w' e r name
      (w.channels.channels.next (rules.channel.keyFor name)) := by
  -- one channel is new, and all the others are as they were
  have hchannel : ∀ q', w'.channels.channel q' =
      if q' = w.channels.channels.next (rules.channel.keyFor name) then
        Channel.create name (rules.channel.keyFor name) r
      else w.channels.channel q' := fun q' => by
    rw [h.channels]
    exact ChannelService.channel_register _ _ q'
  have hnew : w'.channels.channel (w.channels.channels.next (rules.channel.keyFor name)) =
      Channel.create name (rules.channel.keyFor name) r := (hchannel _).trans (if_pos rfl)
  constructor
  case key => rfl
  case new => exact Archive.get?_next _ _
  case named => rw [hnew]; rfl
  case enabled => rw [hnew]; rfl
  case members => rw [hnew]; exact Channel.get?_singleton r
  case operators => rw [hnew]; exact Channel.get?_singleton r
  case others => exact fun q' hne => (hchannel q').trans (if_neg hne)
  case registry =>
    intro k
    rw [h.channels]
    exact Table.get?_insert _ _ _ _
  case frames => rw [h.sent]; rfl
  case callbacks => rw [h.callbacks, hnew, h.user_eq]; rfl

/-- A join of a name that finds a channel enters it, and its members are told. -/
theorem JoinsBy.entered (enabled : (w.user r).enabled)
    (absent : (w.channels.channel q).members.get? r.owner = none)
    (found : w.channels.lookup? rules.channel name = some q)
    (h : JoinsBy rules w w' e
      (w.channels.update q ((w.channels.channel q).withMember r),
        ChannelService.joinEffects rules.channel w.user q
          ((w.channels.channel q).withMember r) r)) :
    JoinEntered rules w w' e r name q
      (Roster.recipients w.user ((w.channels.channel q).withMember r).members
        ((ChannelService.joinAudience rules.channel).excluded r.owner)) := by
  -- a channel that is found is in use, and only such a channel can be changed
  obtain ⟨-, -, hopen⟩ := ChannelService.lookup?_eq_some_iff.1 found
  have hchannel : ∀ q', w'.channels.channel q' =
      if q' = q then (w.channels.channel q).withMember r else w.channels.channel q' := fun q' => by
    rw [h.channels, ChannelService.channel_update hopen]
  have hthis : w'.channels.channel q = (w.channels.channel q).withMember r :=
    (hchannel q).trans (if_pos rfl)
  constructor
  case found => exact found
  case absent => exact absent
  case entered => exact hthis
  case others => exact fun q' hne => (hchannel q').trans (if_neg hne)
  case registry => rw [h.channels]; rfl
  case listed =>
    rw [hthis, h.user_eq]
    refine Roster.mem_listing_iff.2 ⟨r.owner, r.number, ?_, enabled, rfl⟩
    exact (Channel.get?_withMember _ r r.owner).trans (if_pos rfl)
  case ascending => exact Roster.recipients_strict _ _ _
  case mem_told =>
    intro b
    rw [mem_recipients_join, hthis, h.user_eq]
  case frames =>
    rw [h.sent, hthis, h.user_eq]
    exact congrArg (_ :: ·) (ChannelService.framed_announceJoin q _ (w.user r))
  case callbacks => rw [h.callbacks, hthis, h.user_eq]; rfl

end World

end ChatServer
