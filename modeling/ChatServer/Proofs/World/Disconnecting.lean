import ChatServer.Proofs.Channel.Withdrawal
import ChatServer.Proofs.World.Leaving
import ChatServer.Proofs.World.Stopping

/-!
# What comes of a client that is gone

The channel service takes the client off each channel of which it is a member. The other members of
each are told, if there is a server to tell them through; state and observers do not depend on that.
-/

namespace ChatServer

namespace World

variable {rules : Rules} {w : World}

/-- A client is taken off the channels that it was in, each of which tells its other members in
ascending order, with the record that it has of the client. -/
structure Withdrawn (rules : Rules) (w w' : World) (e : Occurrence) (client : ClientId)
    (parted : List ChannelRef) (told : ChannelRef → List ClientId)
    (departed : ChannelRef → User) : Prop where
  once : parted.Nodup
  mem_parted : ∀ q, q ∈ parted ↔ (w.channels.channel q).isMember client
  record : ∀ q n, (w.channels.channel q).members.get? client = some n →
    departed q = w.user ⟨client, n⟩
  lacks : ∀ q, (w'.channels.channel q).Lacks client
  members : ∀ q b, b ≠ client →
    (w'.channels.channel q).members.get? b = (w.channels.channel q).members.get? b
  operators : ∀ q b, b ≠ client →
    (w'.channels.channel q).operators.get? b = (w.channels.channel q).operators.get? b
  named : ∀ q, (w'.channels.channel q).name = (w.channels.channel q).name
  key : ∀ q, (w'.channels.channel q).key = (w.channels.channel q).key
  others : ∀ q, q ∉ parted → w'.channels.channel q = w.channels.channel q
  enabled : ∀ q ∈ parted,
    (w'.channels.channel q).enabled ↔ (w.channels.channel q).HasOther client
  registry : ∀ q, w'.channels.IsRegistered q ↔
    w.channels.IsRegistered q ∧ (q ∈ parted → (w.channels.channel q).HasOther client)
  ascending : ∀ q, (told q).Pairwise fun a b => a.val < b.val
  mem_told : ∀ q b, b ∈ told q ↔
    b ≠ client ∧ ∃ m, (w.channels.channel q).members.get? b = some m ∧ (w.user ⟨b, m⟩).enabled
  frames : e.sent.map Outgoing.framed =
    if (w.channels.binding.get? w.servers).isSome then
      parted.flatMap fun q => (told q).map fun b => (b, leaveNotice (departed q))
    else []
  callbacks : e.callbacks = w'.notice rules
    (parted.map fun q => .left ((w'.channels.channel q).info w'.user) (departed q))

/-- In a tidy world a disconnect withdraws the client from all channels. -/
theorem withdrawn_disconnect (tidy : w.channels.Tidy) (rules : Rules) (client : ClientId) :
    let st := Step.disconnect [.channels] client
    Withdrawn rules w (w.step rules st).1 (w.occurrence rules st) client
      (w.channels.heldBy client)
      (fun q => Roster.recipients w.user (w.channels.channel q).members (some client))
      (fun q => (w.channels.channel q).recordOf w.user client) := by
  intro st
  obtain ⟨record, hstep⟩ := step_disconnect_channels rules w client
  -- all that is asked for follows from what becomes of each channel
  have hretire : (w.channels.disconnect w.servers w.user client).1 =
      w.channels.retire client w.channels.refs :=
    congrArg Prod.fst (ChannelService.disconnect_eq _ _ _ _)
  have huser : (w.step rules st).1.user = w.user := by rw [hstep]; rfl
  have hchannels : (w.step rules st).1.channels = w.channels.retire client w.channels.refs := by
    rw [hstep]
    exact hretire
  have hchannel : ∀ q, (w.step rules st).1.channels.channel q =
      if (w.channels.channel q).isMember client then
        (w.channels.channel q).withoutMember client
      else w.channels.channel q := fun q => by
    rw [hchannels, tidy.channel_retire]
  have hoccurrence : w.occurrence rules st = _ := occurrence_disconnect_channels client
  constructor
  case once => exact w.channels.nodup_heldBy client
  case mem_parted => exact fun q => tidy.mem_heldBy_iff
  case record =>
    intro q n hn
    rw [Channel.recordOf, hn]
    rfl
  case lacks =>
    intro q
    rw [hchannels]
    exact tidy.lacks_retire client q
  case members =>
    intro q b hne
    rw [hchannel]
    split
    · exact (Channel.get?_withoutMember _ _ _).trans (if_neg hne)
    · rfl
  case operators =>
    intro q b hne
    rw [hchannel]
    split
    · exact (Table.get?_erase _ _ _).trans (if_neg hne)
    · rfl
  case named =>
    intro q
    rw [hchannel]
    split <;> rfl
  case key =>
    intro q
    rw [hchannel]
    split <;> rfl
  case others =>
    intro q hq
    rw [hchannel, if_neg fun hmember => hq (tidy.mem_heldBy_iff.2 hmember)]
  case enabled =>
    intro q hq
    rw [hchannel, if_pos (tidy.mem_heldBy_iff.1 hq), Channel.enabled_withoutMember_iff]
  case registry =>
    intro q
    rw [hchannels, tidy.isRegistered_retire, tidy.mem_heldBy_iff]
  case ascending => exact fun q => Roster.recipients_strict _ _ _
  case mem_told =>
    intro q b
    rw [Roster.mem_recipients_iff, Ne, Option.some.injEq]
  case frames =>
    rw [hoccurrence]
    dsimp only
    rw [tidy.messages_disconnect]
    split
    · rw [List.map_flatMap]
      exact List.flatMap_congr fun q _ => ChannelService.framed_announceLeave q _ _
    · rfl
  case callbacks =>
    -- events tell of channels as they are when all are left, not one by one
    have hevents : (w.channels.disconnect w.servers w.user client).2.events =
        (w.channels.heldBy client).map fun q =>
          .left (((w.step rules st).1.channels.channel q).info (w.step rules st).1.user)
            ((w.channels.channel q).recordOf w.user client) := by
      rw [tidy.events_disconnect]
      refine List.map_congr_left fun q hq => ?_
      rw [hchannel, if_pos (tidy.mem_heldBy_iff.1 hq), huser]
    rw [hoccurrence]
    dsimp only
    rw [hevents, notice, huser, hchannels, hretire]

/-- Who is on no channel is not missed. -/
theorem step_disconnect_of_lacks (rules : Rules) {client : ClientId}
    (lacks : ∀ q, (w.channels.channel q).Lacks client) :
    let st := Step.disconnect [.channels] client
    (w.step rules st).1 = w ∧ w.occurrence rules st = ⟨st, .done, [], []⟩ := by
  intro st
  have hdisconnect := ChannelService.disconnect_of_lacks lacks w.servers w.user
  refine ⟨?_, ?_⟩
  · show ({ w with channels := (w.channels.disconnect w.servers w.user client).1 } : World).send
      w.channels.binding (w.channels.disconnect w.servers w.user client).2.messages = w
    rw [hdisconnect]
    exact send_nil w _
  · rw [occurrence_disconnect_channels, hdisconnect]
    rfl

/-- Where a service is bound to makes no difference to what becomes of the channels of a client that
is gone and to what observers notice. Nobody is told if it is bound to no server. -/
theorem step_disconnect_elsewhere (rules : Rules) (w : World) (client : ClientId)
    (servers : Servers) (binding : Binding) :
    let st := Step.disconnect [.channels] client
    let away : World := { w with servers, channels := { w.channels with binding } }
    (away.step rules st).1.channels = { (w.step rules st).1.channels with binding } ∧
      (away.occurrence rules st).callbacks = (w.occurrence rules st).callbacks ∧
      (binding.get? servers = none → (away.occurrence rules st).sent = []) := by
  intro st away
  obtain ⟨hstate, hevents⟩ :=
    ChannelService.disconnect_rebind w.servers servers w.user w.channels binding client
  obtain ⟨record, hstep⟩ := step_disconnect_channels rules w client
  obtain ⟨record', hstep'⟩ := step_disconnect_channels rules away client
  -- the binding matters for what is sent, not for what is done or noticed
  refine ⟨?_, ?_, fun hunbound => ?_⟩
  · rw [hstep, hstep']
    exact hstate
  · rw [occurrence_disconnect_channels, occurrence_disconnect_channels]
    dsimp only
    show ChannelService.callbacks _ _ (away.channels.disconnect servers w.user client).1
      (away.channels.disconnect servers w.user client).2.events = _
    rw [hstate, hevents]
    rfl
  · rw [occurrence_disconnect_channels]
    exact messages_disconnect_of_unbound hunbound _ _

/-- What comes of it when the channel service learns that a client is gone, in every state that can
be reached. -/
theorem disconnecting_in_full (rules : Rules) (steps : List Step) (client : ClientId) :
    let w := initial.run rules steps
    let st := Step.disconnect [.channels] client
    let w' := (w.step rules st).1
    let e := w.occurrence rules st
    e.answer = .done ∧ w'.servers = w.servers ∧ w'.users = w.users ∧
    w'.channels.binding = w.channels.binding ∧ w'.channels.observers = w.channels.observers ∧
    (∃ parted told departed, Withdrawn rules w w' e client parted told departed) ∧
    (∀ servers binding,
      let away : World := { w with servers, channels := { w.channels with binding } }
      (away.step rules st).1.channels = { w'.channels with binding } ∧
        (away.occurrence rules st).callbacks = e.callbacks ∧
        (binding.get? servers = none → (away.occurrence rules st).sent = [])) ∧
    (w'.step rules st).1 = w' ∧ w'.occurrence rules st = ⟨st, .done, [], []⟩ := by
  intro w st w' e
  have htidy : w.channels.Tidy := tidy_initial_run rules steps
  have hwithdrawn := withdrawn_disconnect htidy rules client
  obtain ⟨record, hstep⟩ := step_disconnect_channels rules w client
  have hretire : w'.channels = w.channels.retire client w.channels.refs :=
    (congrArg World.channels hstep).trans
      (congrArg Prod.fst (ChannelService.disconnect_eq _ _ _ _))
  obtain ⟨hagain, hquiet⟩ := step_disconnect_of_lacks rules hwithdrawn.lacks
  refine ⟨rfl, ?_, ?_, ?_, ?_, ⟨_, _, _, hwithdrawn⟩,
    step_disconnect_elsewhere rules w client, hagain, hquiet⟩
  · exact (congrArg World.servers hstep).trans rfl
  · exact (congrArg World.users hstep).trans rfl
  · rw [hretire, ChannelService.binding_retire]
  · rw [hretire, ChannelService.observers_retire]

end World

end ChatServer
