import ChatServer.Channel.Service
import ChatServer.Proofs.Channel.Roster

/-!
# What the operations on channels come to

The outcomes of joining, leaving, withdrawing a client that is gone and clearing, with the new state
of the service, what is sent and what the observers are told. Later modules cite these outcomes and
do not open the operations. References do the bookkeeping: a channel is registered when the registry
has its very reference, so no outcome mentions a successor under the same key.
-/

namespace ChatServer

/-- The client that a message is for, with the frame that it gets. -/
def Outgoing.framed (o : Outgoing) : ClientId × Frame := (o.client, o.message.frame)

namespace ChannelService

/-- The channel is the one registered under its key. -/
def IsRegistered (s : ChannelService) (r : ChannelRef) : Prop :=
  s.registry.get? r.owner = some r.number

instance (s : ChannelService) (r : ChannelRef) : Decidable (s.IsRegistered r) :=
  inferInstanceAs (Decidable (_ = _))

variable {config : ChannelConfig} {users : UserRef → User} {s : ChannelService} {r : ChannelRef}
  {name : String}

/-- What is registered under a key is the channel whose number the registry has. -/
theorem registered?_eq_some_iff {key : String} :
    s.registered? key = some r ↔ r.owner = key ∧ s.IsRegistered r := by
  rcases r with ⟨owner, number⟩
  rw [registered?, Option.map_eq_some_iff, IsRegistered]
  constructor
  · intro h
    rcases h with ⟨n, hn, heq⟩
    cases heq
    exact ⟨rfl, hn⟩
  · intro h
    rcases h with ⟨hk, hn⟩
    cases hk
    exact ⟨number, hn, rfl⟩

/-- A name finds the channel that is registered under its key, if that is in use. -/
theorem lookup?_eq_some_iff :
    s.lookup? config name = some r ↔
      r.owner = config.keyFor name ∧ s.IsRegistered r ∧ (s.channel r).enabled := by
  rw [lookup?, Option.filter_eq_some_iff, registered?_eq_some_iff, and_assoc]

/-- A name finds nothing if no channel in use is registered under its key. -/
theorem lookup?_eq_none_iff :
    s.lookup? config name = none ↔
      ∀ r, r.owner = config.keyFor name → s.IsRegistered r → (s.channel r).enabled = false := by
  rw [Option.eq_none_iff_forall_ne_some]
  constructor
  · intro h r hk hr
    rw [← Bool.not_eq_true]
    intro he
    exact h r (lookup?_eq_some_iff.2 ⟨hk, hr, he⟩)
  · intro h r hr
    obtain ⟨hk, hreg, he⟩ := lookup?_eq_some_iff.1 hr
    rw [h r hk hreg] at he
    cases he

/-- At most one channel is registered under a key. -/
theorem IsRegistered.eq {q : ChannelRef} (hr : s.IsRegistered r) (hq : s.IsRegistered q)
    (h : r.owner = q.owner) : r = q := by
  rcases r with ⟨owner, number⟩
  rcases q with ⟨owner', number'⟩
  cases h
  rw [IsRegistered, hq] at hr
  cases hr
  rfl

/-! ## Changes of one channel and of the registry -/

/-- An update puts another channel in the place that it is about, if the one there is in use. -/
theorem channel_update (h : (s.channel r).enabled) (c : Channel) (q : ChannelRef) :
    (s.update r c).channel q = if q = r then c else s.channel q := by
  simp only [channel, update, Archive.get?_update]
  split
  · next hq =>
    subst hq
    -- a closed channel stands for one that is missing
    cases hc : s.channels.get? q with
    | none => simp [channel, hc, Channel.absent] at h
    | some c' => rfl
  · rfl

/-- To put a channel where it is changes nothing. -/
@[simp]
theorem update_channel (s : ChannelService) (r : ChannelRef) : s.update r (s.channel r) = s := by
  have harchive : (s.channels.update r fun _ => s.channel r) = s.channels := by
    refine Archive.update_eq_self fun c hc => ?_
    rw [channel, hc]
    rfl
  rw [update, harchive]

@[simp]
theorem isRegistered_update (c : Channel) (q : ChannelRef) :
    (s.update r c).IsRegistered q ↔ s.IsRegistered q := Iff.rfl

/-- What is registered is a new channel, and the others stay as they are. -/
theorem channel_register (s : ChannelService) (c : Channel) (q : ChannelRef) :
    (s.register c).channel q = if q = s.channels.next c.key then c else s.channel q := by
  simp only [channel, register, Archive.get?_add]
  split <;> rfl

/-- A new channel takes the place of whatever was registered under its key. -/
theorem isRegistered_register {c : Channel} {q : ChannelRef} :
    (s.register c).IsRegistered q ↔
      q = s.channels.next c.key ∨ (q.owner ≠ c.key ∧ s.IsRegistered q) := by
  rcases q with ⟨owner, number⟩
  simp only [IsRegistered, register, Table.get?_insert, Archive.next, Ref.mk.injEq]
  by_cases h : owner = c.key
  · simp [h, eq_comm]
  · simp [h]

@[simp]
theorem channels_release (s : ChannelService) (r : ChannelRef) :
    (s.release r).channels = s.channels := by
  unfold release
  split <;> rfl

@[simp]
theorem channel_release (s : ChannelService) (r q : ChannelRef) :
    (s.release r).channel q = s.channel q := by
  unfold release
  split <;> rfl

/-- Who releases a channel takes out its own registration only, not that of another one with its
key. -/
theorem isRegistered_release {q : ChannelRef} :
    (s.release r).IsRegistered q ↔ q ≠ r ∧ s.IsRegistered q := by
  unfold release
  split
  · next h =>
    have h : s.IsRegistered r := h
    simp only [IsRegistered, Table.get?_erase]
    split
    · next ho =>
      -- under one key there is one registered channel, and that is released
      have hne : ¬(q ≠ r ∧ s.IsRegistered q) := fun hq => hq.1 (hq.2.eq h ho)
      exact iff_of_false (by simp) hne
    · next ho =>
      have hne : q ≠ r := fun hq => ho (congrArg Ref.owner hq)
      exact (and_iff_right hne).symm
  · next h =>
    have hne : s.IsRegistered q → q ≠ r := by
      intro hq hqr
      exact h (hqr ▸ hq)
    exact ⟨fun hq => ⟨hne hq, hq⟩, And.right⟩

/-- Takes a member off a channel, which is released with its last member. -/
def part (s : ChannelService) (r : ChannelRef) (client : ClientId) : ChannelService :=
  let c := (s.channel r).withoutMember client
  if c.members.isEmpty then (s.update r c).release r else s.update r c

/-- Who leaves a channel changes no other one. -/
theorem channel_part (h : (s.channel r).enabled) (client : ClientId) (q : ChannelRef) :
    (s.part r client).channel q =
      if q = r then (s.channel r).withoutMember client else s.channel q := by
  unfold part
  dsimp only
  split
  · rw [channel_release, channel_update h]
  · rw [channel_update h]

/-- A channel that is left stays registered as long as a member is left. -/
theorem isRegistered_part {client : ClientId} {q : ChannelRef} :
    (s.part r client).IsRegistered q ↔
      s.IsRegistered q ∧
        (q = r → ((s.channel r).withoutMember client).members.isEmpty = false) := by
  unfold part
  dsimp only
  split
  · next he =>
    rw [isRegistered_release, isRegistered_update, he, and_comm]
    simp
  · next he =>
    rw [Bool.not_eq_true] at he
    simp [he]

@[simp]
theorem binding_release (s : ChannelService) (r : ChannelRef) :
    (s.release r).binding = s.binding := by
  unfold release
  split <;> rfl

@[simp]
theorem binding_part (s : ChannelService) (r : ChannelRef) (client : ClientId) :
    (s.part r client).binding = s.binding := by
  unfold part
  dsimp only
  split
  · exact binding_release _ r
  · rfl

@[simp]
theorem observers_release (s : ChannelService) (r : ChannelRef) :
    (s.release r).observers = s.observers := by
  unfold release
  split <;> rfl

@[simp]
theorem observers_part (s : ChannelService) (r : ChannelRef) (client : ClientId) :
    (s.part r client).observers = s.observers := by
  unfold part
  dsimp only
  split
  · exact observers_release _ r
  · rfl

/-! ## Notices -/

/-- A notice does not say which channel it is about. -/
theorem framed_announceJoin (channel : ChannelRef) (recipients : List ClientId) (u : User) :
    (announceJoin channel recipients u).map Outgoing.framed =
      recipients.map fun client =>
        (client, ServerMessage.channelFrame .join
          (ServerMessage.noticePayload .userJoined u.entry)) := by
  rw [announceJoin, List.map_map]
  rfl

/-- What the others are told of a departure is the same frame for each. -/
theorem framed_announceLeave (channel : ChannelRef) (recipients : List ClientId) (u : User) :
    (announceLeave channel recipients u).map Outgoing.framed =
      recipients.map fun client =>
        (client, ServerMessage.channelFrame .leave
          (ServerMessage.noticePayload .userLeft u.entry)) := by
  rw [announceLeave, List.map_map]
  rfl

/-! ## Joining -/

/-- The reason for which a client may not join the channel with a name. -/
def joinRefusal? (config : ChannelConfig) (users : UserRef → User) (s : ChannelService)
    (r : UserRef) (name : String) : Option ChannelResult :=
  if !(users r).identified then some .notIdentified
  else if !isValidChannelName name then some .invalidChannelName
  else if s.isMember config name r.owner then some .alreadyInChannel
  else none

/-- Who is told that a user joined. -/
def joinAudience (config : ChannelConfig) : Audience :=
  if config.notifyJoiner then .everyone else .others

/-- The members besides the one that joined are told in any case. -/
theorem mem_recipients_joinAudience (config : ChannelConfig) {members : Roster}
    {client joiner : ClientId} {n : Nat} (ne : client ≠ joiner)
    (member : members.get? client = some n) (enabled : (users ⟨client, n⟩).enabled) :
    client ∈ Roster.recipients users members ((joinAudience config).excluded joiner) := by
  rw [Roster.mem_recipients_iff]
  refine ⟨?_, n, member, enabled⟩
  cases joinAudience config with
  | everyone => exact Option.some_ne_none client
  | others => exact fun heq => ne (Option.some.inj heq)

/-- What joining a channel sends and tells when `c` is the channel after it. -/
def joinEffects (config : ChannelConfig) (users : UserRef → User) (channel : ChannelRef)
    (c : Channel) (r : UserRef) : Effects where
  messages :=
    ⟨r.owner, .joined (c.snapshot users)⟩ ::
      announceJoin channel
        (Roster.recipients users c.members ((joinAudience config).excluded r.owner)) (users r)
  events := [.joinCompleted .ok (users r), .joined (c.info users) (users r)]

/-- What a request to join comes to. -/
inductive Joining (config : ChannelConfig) (users : UserRef → User) (s : ChannelService)
    (r : UserRef) (name : String) : ChannelService × Effects → Prop
  | refused {reason : ChannelResult} (why : joinRefusal? config users s r name = some reason) :
    Joining config users s r name (s, refuseJoin (users r) r.owner reason)
  | founded (allowed : joinRefusal? config users s r name = none)
    (free : s.lookup? config name = none) :
    Joining config users s r name (s.found config users r name)
  | entered {channel : ChannelRef} (allowed : joinRefusal? config users s r name = none)
    (found : s.lookup? config name = some channel) :
    Joining config users s r name
      (s.update channel ((s.channel channel).withMember r),
        joinEffects config users channel ((s.channel channel).withMember r) r)

/-- Nothing stands against joining if the client has a name, the channel could have the one it asks
for, and it is no member of the channel that this finds. -/
theorem joinRefusal?_eq_none_iff {r : UserRef} :
    joinRefusal? config users s r name = none ↔
      (users r).identified ∧ isValidChannelName name ∧
        ∀ channel, s.lookup? config name = some channel →
          (s.channel channel).members.get? r.owner = none := by
  unfold joinRefusal?
  split_ifs with hi hv hm
  · simp_all
  · simp_all
  · obtain ⟨channel, hc, hmem⟩ := (Option.any_eq_true _ _).1 hm
    obtain ⟨n, hn⟩ := Table.contains_iff.1 hmem
    simp [hc, hn]
  · simp only [Bool.not_eq_true', Bool.not_eq_false] at hi hv
    refine iff_of_true rfl ⟨hi, hv, fun channel hc => ?_⟩
    rw [isMember, hc] at hm
    exact Table.contains_eq_false_iff.1 (by simpa [Channel.isMember] using hm)

/-- A request to join is refused, founds a channel, or enters the one that is found. -/
theorem joining (config : ChannelConfig) (users : UserRef → User) (s : ChannelService)
    (r : UserRef) (name : String) :
    Joining config users s r name (s.join config users r name) := by
  unfold join
  dsimp only
  rw [← joinAudience]
  by_cases hi : !(users r).identified
  · rw [if_pos hi]
    exact .refused (by rw [joinRefusal?, if_pos hi])
  by_cases hv : !isValidChannelName name
  · rw [if_neg hi, if_pos hv]
    exact .refused (by rw [joinRefusal?, if_neg hi, if_pos hv])
  rw [if_neg hi, if_neg hv]
  cases hc : s.lookup? config name with
  | none => exact .founded (by simp [joinRefusal?, isMember, hi, hv, hc]) hc
  | some channel =>
    have hmember : s.isMember config name r.owner = (s.channel channel).isMember r.owner := by
      rw [isMember, hc]
      rfl
    have hadd := Channel.addition users (s.channel channel) r (joinAudience config)
    unfold enlist
    dsimp only
    generalize (s.channel channel).add users r (joinAudience config) = result at hadd
    cases hadd with
    | disabled closed =>
      -- a channel that was looked up is enabled, so no second one is founded in its place
      rw [(lookup?_eq_some_iff.1 hc).2.2] at closed
      cases closed
    | alreadyMember enabled member =>
      rw [update_channel]
      exact .refused (by rw [joinRefusal?, if_neg hi, if_neg hv, hmember, if_pos member])
    | added enabled absent =>
      refine .entered ?_ hc
      rw [joinRefusal?, if_neg hi, if_neg hv, hmember, Channel.isMember,
        Table.contains_eq_false_iff.2 absent]
      rfl

/-! ## Leaving -/

/-- The reason for which a client cannot leave the channel with a name. -/
def leaveRefusal? (config : ChannelConfig) (users : UserRef → User) (s : ChannelService)
    (r : UserRef) (name : String) : Option ChannelResult :=
  if !(users r).identified then some .notIdentified
  else if !isValidChannelName name then some .invalidChannelName
  else
    match s.lookup? config name with
    | none => some .invalidChannelName
    | some channel =>
      if (s.channel channel).isMember r.owner then none else some .notInChannel

/-- What leaving a channel sends and tells when `c` is the channel before it and `departed` its
record of the client. -/
def leaveEffects (users : UserRef → User) (channel : ChannelRef) (c : Channel) (r : UserRef)
    (departed : User) (name : String) : Effects where
  messages :=
    announceLeave channel (Roster.recipients users c.members none) departed ++
      [⟨r.owner, .left name⟩]
  events :=
    [.left ((c.withoutMember r.owner).info users) departed, .leaveCompleted .ok (users r)]

/-- What a request to leave comes to. -/
inductive Leaving (config : ChannelConfig) (users : UserRef → User) (s : ChannelService)
    (r : UserRef) (name : String) : ChannelService × Effects → Prop
  | refused {reason : ChannelResult} (why : leaveRefusal? config users s r name = some reason) :
    Leaving config users s r name (s, refuseLeave (users r) r.owner reason)
  | parted {channel : ChannelRef} {n : Nat} (allowed : leaveRefusal? config users s r name = none)
    (found : s.lookup? config name = some channel)
    (member : (s.channel channel).members.get? r.owner = some n) :
    Leaving config users s r name
      (s.part channel r.owner,
        leaveEffects users channel (s.channel channel) r (users ⟨r.owner, n⟩) name)

/-- A request to leave is refused, or takes the client off the channel that is found. -/
theorem leaving (config : ChannelConfig) (users : UserRef → User) (s : ChannelService)
    (r : UserRef) (name : String) :
    Leaving config users s r name (s.leave config users r name) := by
  unfold leave
  dsimp only
  by_cases hi : !(users r).identified
  · rw [if_pos hi]
    exact .refused (by rw [leaveRefusal?, if_pos hi])
  by_cases hv : !isValidChannelName name
  · rw [if_neg hi, if_pos hv]
    exact .refused (by rw [leaveRefusal?, if_neg hi, if_pos hv])
  rw [if_neg hi, if_neg hv]
  cases hc : s.registered? (config.keyFor name) with
  | none =>
    have hnone : s.lookup? config name = none := by rw [lookup?, hc]; rfl
    exact .refused (by rw [leaveRefusal?, if_neg hi, if_neg hv, hnone])
  | some channel =>
    obtain ⟨hk, hreg⟩ := registered?_eq_some_iff.1 hc
    have hremove := Channel.removal users (s.channel channel) r.owner .everyone
    unfold dismiss
    dsimp only
    generalize (s.channel channel).remove users r.owner .everyone = result at hremove
    cases hremove with
    | disabled closed =>
      -- a registered channel that is closed cannot be looked up, which is the reason given
      have hnone : s.lookup? config name = none := by
        refine lookup?_eq_none_iff.2 fun q hq hqreg => ?_
        rw [hqreg.eq hreg (hq.trans hk.symm)]
        exact closed
      rw [update_channel]
      exact .refused (by rw [leaveRefusal?, if_neg hi, if_neg hv, hnone])
    | notMember enabled absent =>
      have hsome : s.lookup? config name = some channel :=
        lookup?_eq_some_iff.2 ⟨hk, hreg, enabled⟩
      rw [update_channel]
      refine .refused ?_
      rw [leaveRefusal?, if_neg hi, if_neg hv, hsome]
      simp [Channel.isMember, Table.contains_eq_false_iff.2 absent]
    | removed enabled member =>
      have hsome : s.lookup? config name = some channel :=
        lookup?_eq_some_iff.2 ⟨hk, hreg, enabled⟩
      refine .parted ?_ hsome member
      rw [leaveRefusal?, if_neg hi, if_neg hv, hsome]
      simp [Channel.isMember, Table.contains_iff.2 ⟨_, member⟩]

/-! ## Requests -/

/-- What becomes of the service on a request. -/
inductive Performed (config : ChannelConfig) (users : UserRef → User) (s : ChannelService)
    (r : UserRef) : ChannelRequest → ChannelService → Prop
  | refused (request : ChannelRequest) : Performed config users s r request s
  | founded {target : String} (allowed : joinRefusal? config users s r target = none)
    (free : s.lookup? config target = none) :
    Performed config users s r (.join target)
      (s.register (.create target (config.keyFor target) r))
  | entered {target : String} {channel : ChannelRef}
    (allowed : joinRefusal? config users s r target = none)
    (found : s.lookup? config target = some channel) :
    Performed config users s r (.join target)
      (s.update channel ((s.channel channel).withMember r))
  | parted {target : String} {channel : ChannelRef}
    (found : s.lookup? config target = some channel) :
    Performed config users s r (.leave target) (s.part channel r.owner)

/-- A request is refused, or it founds a channel, enters one or leaves one. -/
theorem performed (config : ChannelConfig) (users : UserRef → User) (s : ChannelService)
    (r : UserRef) (request : ChannelRequest) :
    Performed config users s r request (s.perform config users r request).1 := by
  cases request with
  | join name =>
    have h := joining config users s r name
    show Performed config users s r (.join name) (s.join config users r name).1
    generalize s.join config users r name = result at h
    cases h with
    | refused why => exact .refused _
    | founded allowed free => exact .founded allowed free
    | entered allowed found => exact .entered allowed found
  | leave name =>
    have h := leaving config users s r name
    show Performed config users s r (.leave name) (s.leave config users r name).1
    generalize s.leave config users r name = result at h
    cases h with
    | refused why => exact .refused _
    | parted allowed found member => exact .parted found

/-- No request changes what the service is bound to. -/
@[simp]
theorem binding_perform (config : ChannelConfig) (users : UserRef → User) (s : ChannelService)
    (r : UserRef) (request : ChannelRequest) :
    (s.perform config users r request).1.binding = s.binding := by
  have h := performed config users s r request
  generalize (s.perform config users r request).1 = s' at h ⊢
  cases h with
  | parted found => exact binding_part s _ _
  | _ => rfl

/-- No request changes who observes the service. -/
@[simp]
theorem observers_perform (config : ChannelConfig) (users : UserRef → User) (s : ChannelService)
    (r : UserRef) (request : ChannelRequest) :
    (s.perform config users r request).1.observers = s.observers := by
  have h := performed config users s r request
  generalize (s.perform config users r request).1 = s' at h ⊢
  cases h with
  | parted found => exact observers_part s _ _
  | _ => rfl

end ChannelService

end ChatServer
