import ChatServer.Proofs.Channel.Keys
import ChatServer.Proofs.Channel.Withdrawal

/-!
# What observers find when they ask back

Observers are told of an operation when it is finished, but what they are told of a channel was
written down on the way. When they ask for the channel by the name that they were told, the service
looks it up under the key of that name. `Keyed` says that this is the key under which the channel
was registered, however its founder spelled the name; so they find the channel as they were told of
it, or no channel if it was left empty.
-/

namespace ChatServer

namespace ChannelService

variable {config : ChannelConfig} {users users' : UserRef → User} {s s' : ChannelService}
  {r : ChannelRef}

/-! ## Names and keys -/

/-- Every channel that there ever was got the key of its name. -/
def Keyed (config : ChannelConfig) (s : ChannelService) : Prop :=
  ∀ r c, s.channels.get? r = some c → config.keyFor c.name = r.owner

/-- A channel in use is registered, if at all, under the key of its name. -/
theorem Keyed.keyFor_name (h : Keyed config s) (enabled : (s.channel r).enabled) :
    config.keyFor (s.channel r).name = r.owner := by
  rw [channel] at enabled ⊢
  cases hc : s.channels.get? r with
  | none =>
    -- a closed channel stands for one that is missing
    rw [hc] at enabled
    cases enabled
  | some c => exact h r c hc

/-- A channel in use is found by its name. -/
theorem Keyed.info?_name (h : Keyed config s) (tidy : s.Tidy) (enabled : (s.channel r).enabled)
    (users : UserRef → User) :
    s.info? config users (s.channel r).name = some ((s.channel r).info users) := by
  have hfound : s.lookup? config (s.channel r).name = some r :=
    lookup?_eq_some_iff.2 ⟨(h.keyFor_name enabled).symm, tidy.registered r enabled, enabled⟩
  rw [info?, hfound]
  rfl

/-! ## Asking for the channel of an event -/

/-- Whoever asks for the channel that an event is about finds what the event says, or no channel
if the event says that nobody is left. -/
def ReadsBack (config : ChannelConfig) (users : UserRef → User) (s : ChannelService) :
    ChannelEvent → Prop
  | .created info => s.info? config users info.name = some info
  | .joined info _ => s.info? config users info.name = some info
  | .left info _ =>
    s.info? config users info.name = if info.memberCount = 0 then none else some info
  | .joinCompleted _ _ => True
  | .leaveCompleted _ _ => True

/-- A channel that a client left is found as it is then, or not at all if nobody is left in it. -/
theorem readsBack_left (keyed : Keyed config s) (keyed' : Keyed config s') (tidy' : s'.Tidy)
    (registered : s.IsRegistered r) (enabled : (s.channel r).enabled) {client : ClientId}
    (channel : s'.channel r = (s.channel r).withoutMember client)
    (kept : ∀ q, s'.IsRegistered q → s.IsRegistered q)
    (released : ((s.channel r).withoutMember client).members.isEmpty → ¬s'.IsRegistered r)
    (users : UserRef → User) (user : User) :
    s'.ReadsBack config users (.left (((s.channel r).withoutMember client).info users) user) := by
  show s'.info? config users (s.channel r).name =
    if ((s.channel r).withoutMember client).members.size = 0 then none else _
  simp only [Table.size_eq_zero_iff]
  split
  · next hempty =>
    -- nothing else is registered under the key
    have hnone : s'.lookup? config (s.channel r).name = none := by
      refine lookup?_eq_none_iff.2 fun q hq hregistered => ?_
      have heq : q = r :=
        (kept q hregistered).eq registered (hq.trans (keyed.keyFor_name enabled))
      exact absurd (heq ▸ hregistered) (released hempty)
    rw [info?, hnone]
    rfl
  · next hnot =>
    have hopen : (s'.channel r).enabled := by
      rw [channel, Channel.enabled_withoutMember_iff, ← Channel.isEmpty_withoutMember_iff]
      exact Bool.eq_false_of_not_eq_true hnot
    have hfound := keyed'.info?_name tidy' hopen users
    rw [channel] at hfound
    exact hfound

/-- What is asked about the channel of an event of a join is answered as the channel is after it. -/
theorem readsBack_join {q : UserRef} {name : String}
    (keyed' : Keyed config (s.join config users q name).1)
    (tidy' : (s.join config users q name).1.Tidy) :
    ∀ event ∈ (s.join config users q name).2.events,
      (s.join config users q name).1.ReadsBack config users event := by
  have h := joining config users s q name
  generalize s.join config users q name = result at h keyed' tidy'
  cases h with
  | refused why => exact List.forall_mem_singleton.2 trivial
  | founded allowed free =>
    -- the new channel is the next one under its key
    have hnew : (s.found config users q name).1.channel
        (s.channels.next (config.keyFor name)) = .create name (config.keyFor name) q :=
      (channel_register s _ _).trans (if_pos rfl)
    have hfound := keyed'.info?_name tidy' (by rw [hnew]; rfl) users
    rw [hnew] at hfound
    exact List.forall_mem_cons.2 ⟨trivial, List.forall_mem_cons.2 ⟨hfound,
      List.forall_mem_singleton.2 hfound⟩⟩
  | @entered channel allowed found =>
    obtain ⟨-, -, hopen⟩ := lookup?_eq_some_iff.1 found
    have hthis : (s.update channel ((s.channel channel).withMember q)).channel channel =
        (s.channel channel).withMember q := (channel_update hopen _ _).trans (if_pos rfl)
    have hfound := keyed'.info?_name tidy' (by rw [hthis]; exact hopen) users
    rw [hthis] at hfound
    exact List.forall_mem_cons.2 ⟨trivial, List.forall_mem_singleton.2 hfound⟩

/-- What is asked about the channel of an event of a leave is answered so too. -/
theorem readsBack_leave (keyed : Keyed config s) {q : UserRef} {name : String}
    (keyed' : Keyed config (s.leave config users q name).1)
    (tidy' : (s.leave config users q name).1.Tidy) :
    ∀ event ∈ (s.leave config users q name).2.events,
      (s.leave config users q name).1.ReadsBack config users event := by
  have h := leaving config users s q name
  generalize s.leave config users q name = result at h keyed' tidy'
  cases h with
  | refused why => exact List.forall_mem_singleton.2 trivial
  | parted allowed found member =>
    obtain ⟨-, hregistered, hopen⟩ := lookup?_eq_some_iff.1 found
    have hleft := readsBack_left keyed keyed' tidy' hregistered hopen
      ((channel_part hopen _ _).trans (if_pos rfl))
      (fun _ hq => (isRegistered_part.1 hq).1)
      (fun hempty hstays => by simp [(isRegistered_part.1 hstays).2 rfl] at hempty)
    exact List.forall_mem_cons.2 ⟨hleft users _, List.forall_mem_singleton.2 trivial⟩

/-- Whatever is requested, events read back. -/
theorem readsBack_perform (keyed : Keyed config s) {q : UserRef} {request : ChannelRequest}
    (keyed' : Keyed config (s.perform config users q request).1)
    (tidy' : (s.perform config users q request).1.Tidy) :
    ∀ event ∈ (s.perform config users q request).2.events,
      (s.perform config users q request).1.ReadsBack config users event := by
  cases request with
  | join name => exact readsBack_join keyed' tidy'
  | leave name => exact readsBack_leave keyed keyed' tidy'

/-- The events of a disconnect read back, although they come when all channels are left. -/
theorem readsBack_disconnect (keyed : Keyed config s) (tidy : s.Tidy) {servers : Servers}
    {client : ClientId} (keyed' : Keyed config (s.disconnect servers users client).1)
    (tidy' : (s.disconnect servers users client).1.Tidy) :
    ∀ event ∈ (s.disconnect servers users client).2.events,
      (s.disconnect servers users client).1.ReadsBack config users event := by
  have hretire : (s.disconnect servers users client).1 = s.retire client s.refs :=
    congrArg Prod.fst (disconnect_eq servers users s client)
  rw [tidy.events_disconnect]
  rw [hretire] at keyed' tidy' ⊢
  refine List.forall_mem_map.2 fun r hr => ?_
  have hmember := tidy.mem_heldBy_iff.1 hr
  have hopen := (tidy.holds hmember).1
  exact readsBack_left keyed keyed' tidy' (tidy.registered r hopen) hopen
    ((tidy.channel_retire r).trans (if_pos hmember))
    (fun _ hq => (tidy.isRegistered_retire.1 hq).1)
    (fun hempty hstays => by
      have hother := (tidy.isRegistered_retire.1 hstays).2 hmember
      simp [Channel.isEmpty_withoutMember_iff.2 hother] at hempty)
    users _

end ChannelService

end ChatServer
