import ChatServer.Proofs.Channel.Registry

/-!
# What a member learns from the messages it gets

A client that is let into a channel is told the roster, and then of everyone who joins or leaves.
Each operation of the channel service sends just what its members need to keep up: if a member knew
the roster before the operation, it knows it after the messages that the operation sent to it.
-/

namespace ChatServer

/-- The messages to a client, in order. -/
def Outgoing.received (client : ClientId) (messages : List Outgoing) : List ServerMessage :=
  (messages.filter fun m => m.client = client).map Outgoing.message

/-- What a client knows of the members of a channel, once it joined. -/
abbrev KnownRoster := Option (Finset RosterEntry)

/-- What a client knows of a channel after a message. If the message answers the client's request to
join this channel, `own` is how the client itself is listed; else it is nothing, and only notices
about the channel matter. -/
def KnownRoster.learn (channel : ChannelRef) (own : Option RosterEntry) (known : KnownRoster) :
    ServerMessage → KnownRoster
  | .channelCreated =>
    match own with
    | some entry => some {entry}
    | none => known
  | .joined rosters => if own.isSome then some rosters.members.toFinset else known
  | .memberJoined c member => if c = channel then known.map (insert member) else known
  | .memberLeft c member => if c = channel then known.map (·.erase member) else known
  | _ => known

namespace Outgoing

variable {client : ClientId}

theorem received_cons (m : Outgoing) (messages : List Outgoing) :
    received client (m :: messages) =
      if m.client = client then m.message :: received client messages
      else received client messages := by
  simp only [received, List.filter_cons, decide_eq_true_eq]
  split <;> rfl

theorem received_append (before after : List Outgoing) :
    received client (before ++ after) = received client before ++ received client after := by
  simp [received]

/-- An announcement reaches each recipient once. -/
theorem received_map {recipients : List ClientId} (nodup : recipients.Nodup) (m : ServerMessage) :
    received client (recipients.map fun c => ⟨c, m⟩) = if client ∈ recipients then [m] else [] := by
  induction recipients with
  | nil => rfl
  | cons c recipients ih =>
    obtain ⟨hc, nodup⟩ := List.nodup_cons.1 nodup
    rw [List.map_cons, received_cons, ih nodup]
    by_cases h : c = client
    · subst h
      simp [hc]
    · simp [h, Ne.symm h]

theorem received_flatMap {α : Type} (items : List α) (f : α → List Outgoing) :
    received client (items.flatMap f) = items.flatMap fun x => received client (f x) := by
  induction items with
  | nil => rfl
  | cons x items ih => rw [List.flatMap_cons, List.flatMap_cons, received_append, ih]

end Outgoing

namespace KnownRoster

variable {channel : ChannelRef} {own : Option RosterEntry}

/-- Messages that tell nothing new leave a roster as it is known. -/
theorem foldl_learn_eq_self {messages : List ServerMessage}
    (h : ∀ m ∈ messages, ∀ known, learn channel own known m = known) (known : KnownRoster) :
    messages.foldl (learn channel own) known = known := by
  induction messages with
  | nil => rfl
  | cons m messages ih =>
    obtain ⟨hm, h⟩ := List.forall_mem_cons.1 h
    rw [List.foldl_cons, hm]
    exact ih h

/-- A client that is sent only such messages learns nothing new. -/
theorem foldl_received_eq_self {client : ClientId} {messages : List Outgoing}
    (h : ∀ o ∈ messages, ∀ known, learn channel own known o.message = known)
    (known : KnownRoster) :
    (Outgoing.received client messages).foldl (learn channel own) known = known := by
  refine foldl_learn_eq_self (fun m hm => ?_) known
  obtain ⟨o, ho, rfl⟩ := List.mem_map.1 hm
  exact h o (List.mem_of_mem_filter ho)

/-- Of messages about several channels, only those about this one matter. -/
theorem foldl_learn_flatMap {refs : List ChannelRef} (nodup : refs.Nodup)
    {f : ChannelRef → List ServerMessage}
    (other : ∀ r, r ≠ channel → ∀ m ∈ f r, ∀ known, learn channel own known m = known)
    (known : KnownRoster) :
    (refs.flatMap f).foldl (learn channel own) known =
      if channel ∈ refs then (f channel).foldl (learn channel own) known else known := by
  induction refs generalizing known with
  | nil => rfl
  | cons r refs ih =>
    obtain ⟨hr, nodup⟩ := List.nodup_cons.1 nodup
    rw [List.flatMap_cons, List.foldl_append, ih nodup]
    by_cases hc : r = channel
    · subst hc
      simp [hr]
    · rw [foldl_learn_eq_self (other r hc)]
      simp [Ne.symm hc]

end KnownRoster

namespace ChannelService

/-- A member of a registered channel knows who the members are. -/
def Informs (s : ChannelService) (users : UserRef → User) (client : ClientId)
    (channel : ChannelRef) (known : KnownRoster) : Prop :=
  s.IsRegistered channel → (s.channel channel).isMember client →
    known = some (Roster.entrySet users (s.channel channel).members)

variable {rules : UserConfig} {config : ChannelConfig} {d : UserDirectory} {s : ChannelService}
  {client : ClientId} {channel : ChannelRef} {known : KnownRoster}

/-- Two members of a channel are listed differently, because claimed names are unique. -/
theorem RostersCurrent.entry_injective (h : s.RostersCurrent d) (hd : d.Sound rules)
    (hs : Sound config d.user s) (registered : s.IsRegistered channel) {b c : ClientId} {m n : Nat}
    (hb : (s.channel channel).members.get? b = some m)
    (hc : (s.channel channel).members.get? c = some n)
    (heq : (d.user ⟨b, m⟩).entry = (d.user ⟨c, n⟩).entry) : b = c := by
  have hintact := hs.intact channel registered
  have hname : (d.user ⟨b, m⟩).username = (d.user ⟨c, n⟩).username :=
    congrArg RosterEntry.username heq
  have hsame := hd.unique ⟨b, m⟩ ⟨c, n⟩ (h channel b m registered hb) (h channel c n registered hc)
    (hintact.record b m hb).2 (hintact.record c n hc).2 (by rw [hname])
  exact congrArg Ref.owner hsame

/-- How a client is listed if it asks to join under a name with the key of a channel. -/
def ownEntry (config : ChannelConfig) (users : UserRef → User) (client : ClientId)
    (channel : ChannelRef) (r : UserRef) : ChannelRequest → Option RosterEntry
  | .join name =>
    if r.owner = client ∧ config.keyFor name = channel.owner then some (users r).entry else none
  | .leave _ => none

theorem ownEntry_join_of_ne {r : UserRef} {name : String}
    (h : config.keyFor name ≠ channel.owner) :
    ownEntry config d.user client channel r (.join name) = none :=
  if_neg fun hboth => h hboth.2

/-- The founder of a channel knows that it is alone there. -/
theorem Informs.founded (h : s.Informs d.user client channel known) (r : UserRef)
    (name : String) :
    (s.found config d.user r name).1.Informs d.user client channel
      ((Outgoing.received client (s.found config d.user r name).2.messages).foldl
        (KnownRoster.learn channel (ownEntry config d.user client channel r (.join name)))
        known) := by
  intro hreg hmember
  simp only [found, channel_register] at hmember ⊢
  rcases isRegistered_register.1 hreg with hnew | ⟨hkey, hold⟩
  · -- the only member of the new channel is its founder, so the answer is for this client
    rw [if_pos hnew] at hmember ⊢
    obtain ⟨n, hn⟩ := Table.contains_iff.1 hmember
    have hclient : r.owner = client := congrArg Ref.owner (Channel.get?_create hn).symm
    have hown : ownEntry config d.user client channel r (.join name) = some (d.user r).entry := by
      rw [ownEntry, if_pos ⟨hclient, by rw [hnew]; rfl⟩]
    rw [hown, Channel.entrySet_create, Outgoing.received_cons, if_pos hclient]
    rfl
  · -- every other channel is as it was, and the founder's answer says nothing about it
    have hkey : config.keyFor name ≠ channel.owner := Ne.symm hkey
    rw [if_neg fun heq => hkey (congrArg Ref.owner heq).symm] at hmember ⊢
    rw [ownEntry_join_of_ne hkey, ← h hold hmember]
    refine KnownRoster.foldl_received_eq_self (fun o ho known => ?_) known
    rw [List.mem_singleton.1 ho]
    rfl

/-- The snapshot for a client that enters a channel lists all members. -/
theorem RostersCurrent.toFinset_snapshot (h : s.RostersCurrent d) (hd : d.Sound rules)
    (registered : s.IsRegistered channel) {r : UserRef} (current : d.IsCurrent r) :
    (((s.channel channel).withMember r).snapshot d.user).members.toFinset =
      Roster.entrySet d.user ((s.channel channel).withMember r).members := by
  refine Roster.toFinset_listing fun c n hn => ?_
  rw [Channel.get?_withMember] at hn
  split at hn
  · next heq =>
    rw [heq, ← Option.some.inj hn]
    exact hd.enabled r current
  · exact hd.enabled ⟨c, n⟩ (h channel c n registered hn)

/-- What a client that entered a channel knows from the snapshot, and from the notice of its own
arrival if it is told of that. -/
theorem learn_own_arrival {rosters : Snapshot} {entry : RosterEntry} {entries : Finset RosterEntry}
    (listed : rosters.members.toFinset = entries) (mem : entry ∈ entries) (told : Prop)
    [Decidable told] (known : KnownRoster) :
    (ServerMessage.joined rosters ::
        if told then [.memberJoined channel entry] else []).foldl
      (KnownRoster.learn channel (some entry)) known = some entries := by
  have hfirst : KnownRoster.learn channel (some entry) known (.joined rosters) = some entries := by
    rw [← listed]
    rfl
  rw [List.foldl_cons, hfirst]
  split
  · simp [KnownRoster.learn, Finset.insert_eq_self.2 mem]
  · rfl

/-- Who enters a channel is told the roster, and the other members are told who enters. -/
theorem Informs.entered (h : s.Informs d.user client channel known) (hd : d.Sound rules)
    (hc : s.RostersCurrent d) {r : UserRef} {name : String}
    {target : ChannelRef} (current : d.IsCurrent r)
    (found : s.lookup? config name = some target)
    (absent : (s.channel target).members.get? r.owner = none) :
    (s.update target ((s.channel target).withMember r)).Informs d.user client channel
      ((Outgoing.received client
          (joinEffects config d.user target ((s.channel target).withMember r) r).messages).foldl
        (KnownRoster.learn channel (ownEntry config d.user client channel r (.join name)))
        known) := by
  intro hreg hmember
  have hreg : s.IsRegistered channel := hreg
  obtain ⟨hkey, htarget, henabled⟩ := lookup?_eq_some_iff.1 found
  rw [channel_update henabled] at hmember ⊢
  by_cases hsame : channel = target
  · subst hsame
    rw [if_pos rfl] at hmember ⊢
    have hset : Roster.entrySet d.user ((s.channel channel).withMember r).members =
        insert (d.user r).entry (Roster.entrySet d.user (s.channel channel).members) :=
      Roster.entrySet_insert absent r.number
    rw [joinEffects, Outgoing.received_cons, announceJoin,
      Outgoing.received_map (Roster.nodup_recipients _ _)]
    by_cases hclient : r.owner = client
    · -- the one who enters starts from the snapshot, whatever it knew before
      have hown : ownEntry config d.user client channel r (.join name) =
          some (d.user r).entry := by
        rw [ownEntry, if_pos ⟨hclient, hkey.symm⟩]
      rw [if_pos hclient, hown]
      apply learn_own_arrival (hc.toFinset_snapshot hd hreg current)
      rw [hset]
      exact Finset.mem_insert_self _ _
    · -- the others knew the roster and add the one who enters
      obtain ⟨n, hn⟩ := Table.contains_iff.1 hmember
      have hne : client ≠ r.owner := Ne.symm hclient
      have hold : (s.channel channel).members.get? client = some n := by
        rw [Channel.get?_withMember, if_neg hne] at hn
        exact hn
      have hknown := h hreg (Table.contains_iff.2 ⟨n, hold⟩)
      have henabled := hd.enabled ⟨client, n⟩ (hc channel client n hreg hold)
      rw [if_neg hclient, if_pos (mem_recipients_joinAudience config hne hn henabled), hset]
      simp [KnownRoster.learn, hknown]
  · -- two registered channels have different keys, so this is about the other one
    have hkeys : config.keyFor name ≠ channel.owner := by
      intro heq
      exact hsame (hreg.eq htarget (heq.symm.trans hkey.symm))
    rw [if_neg hsame] at hmember ⊢
    rw [ownEntry_join_of_ne hkeys, ← h hreg hmember]
    refine KnownRoster.foldl_received_eq_self (fun o ho known => ?_) known
    rcases List.mem_cons.1 ho with ho | ho
    · rw [ho]
      rfl
    · obtain ⟨c, -, rfl⟩ := List.mem_map.1 ho
      exact if_neg (Ne.symm hsame)

/-- When a member is removed its entry is the one that goes. -/
theorem RostersCurrent.entrySet_withoutMember (h : s.RostersCurrent d) (hd : d.Sound rules)
    (hs : Sound config d.user s) (registered : s.IsRegistered channel) {gone : ClientId} {n : Nat}
    (member : (s.channel channel).members.get? gone = some n) :
    Roster.entrySet d.user ((s.channel channel).withoutMember gone).members =
      (Roster.entrySet d.user (s.channel channel).members).erase (d.user ⟨gone, n⟩).entry :=
  Roster.entrySet_erase member fun _ _ hm heq => h.entry_injective hd hs registered hm member heq

/-- Who is left in a channel is told who left it. -/
theorem Informs.parted (h : s.Informs d.user client channel known) (hd : d.Sound rules)
    (hs : Sound config d.user s) (hc : s.RostersCurrent d) {r : UserRef} {name : String}
    {target : ChannelRef} {n : Nat} (found : s.lookup? config name = some target)
    (member : (s.channel target).members.get? r.owner = some n) :
    (s.part target r.owner).Informs d.user client channel
      ((Outgoing.received client (leaveEffects d.user target (s.channel target) r
          (d.user ⟨r.owner, n⟩) name).messages).foldl
        (KnownRoster.learn channel none) known) := by
  intro hafter hmember
  have hreg : s.IsRegistered channel := (isRegistered_part.1 hafter).1
  obtain ⟨-, -, henabled⟩ := lookup?_eq_some_iff.1 found
  rw [channel_part henabled] at hmember ⊢
  by_cases hsame : channel = target
  · subst hsame
    rw [if_pos rfl] at hmember ⊢
    obtain ⟨m, hm⟩ := Table.contains_iff.1 hmember
    rw [Channel.get?_withoutMember] at hm
    -- who is still a member is not the one who left
    have hclient : client ≠ r.owner := by
      intro heq
      rw [if_pos heq] at hm
      cases hm
    rw [if_neg hclient] at hm
    have hknown := h hreg (Table.contains_iff.2 ⟨m, hm⟩)
    have hrecipient : client ∈ Roster.recipients d.user (s.channel channel).members none := by
      rw [Roster.mem_recipients_iff]
      exact ⟨Option.some_ne_none client, m, hm,
        hd.enabled ⟨client, m⟩ (hc channel client m hreg hm)⟩
    rw [leaveEffects, Outgoing.received_append, announceLeave,
      Outgoing.received_map (Roster.nodup_recipients _ _), if_pos hrecipient,
      hc.entrySet_withoutMember hd hs hreg member]
    simp [Ne.symm hclient, Outgoing.received, KnownRoster.learn, hknown]
  · rw [if_neg hsame] at hmember ⊢
    rw [← h hreg hmember]
    refine KnownRoster.foldl_received_eq_self (fun o ho known => ?_) known
    rcases List.mem_append.1 ho with ho | ho
    · obtain ⟨c, -, rfl⟩ := List.mem_map.1 ho
      exact if_neg (Ne.symm hsame)
    · rw [List.mem_singleton.1 ho]
      rfl

/-- A request leaves every member informed, whoever made it and however it is answered. -/
theorem Informs.perform (h : s.Informs d.user client channel known) (hd : d.Sound rules)
    (hs : Sound config d.user s) (hc : s.RostersCurrent d) {r : UserRef} (current : d.IsCurrent r)
    (request : ChannelRequest) :
    (s.perform config d.user r request).1.Informs d.user client channel
      ((Outgoing.received client (s.perform config d.user r request).2.messages).foldl
        (KnownRoster.learn channel (ownEntry config d.user client channel r request)) known) := by
  cases request with
  | join name =>
    have hjoin := joining config d.user s r name
    show (s.join config d.user r name).1.Informs d.user client channel
      ((Outgoing.received client (s.join config d.user r name).2.messages).foldl _ known)
    generalize s.join config d.user r name = result at hjoin
    cases hjoin with
    | refused why =>
      rw [KnownRoster.foldl_received_eq_self fun o ho known => ?_]
      · exact h
      · rw [List.mem_singleton.1 ho]
        rfl
    | founded allowed free => exact h.founded r name
    | entered allowed found =>
      obtain ⟨-, -, habsent⟩ := joinRefusal?_eq_none_iff.1 allowed
      exact h.entered hd hc current found (habsent _ found)
  | leave name =>
    have hleave := leaving config d.user s r name
    show (s.leave config d.user r name).1.Informs d.user client channel
      ((Outgoing.received client (s.leave config d.user r name).2.messages).foldl _ known)
    generalize s.leave config d.user r name = result at hleave
    cases hleave with
    | refused why =>
      rw [KnownRoster.foldl_received_eq_self fun o ho known => ?_]
      · exact h
      · rw [List.mem_singleton.1 ho]
        rfl
    | parted allowed found member => exact h.parted hd hs hc found member

/-- Who is left in the channels of a client that is gone is told of each that it left. The records
of users may be looked at after the client's own record was disabled: `view`. -/
theorem Informs.disconnected (h : s.Informs d.user client channel known) (hd : d.Sound rules)
    (hs : Sound config d.user s) (hc : s.RostersCurrent d) {servers : Servers} {gone : ClientId}
    {view : UserRef → User} (bound : s.IsRegistered channel → (s.binding.get? servers).isSome)
    (entries : ∀ r, (view r).entry = (d.user r).entry)
    (others : ∀ r : UserRef, r.owner ≠ gone → view r = d.user r) :
    (s.disconnect servers view gone).1.Informs d.user client channel
      ((Outgoing.received client (s.disconnect servers view gone).2.messages).foldl
        (KnownRoster.learn channel none) known) := by
  intro hafter hmember
  have hclient : client ≠ gone := by
    intro heq
    obtain ⟨n, hn⟩ := Table.contains_iff.1 hmember
    rw [heq, not_member_disconnect hs hafter] at hn
    cases hn
  rw [disconnect_eq] at hafter hmember ⊢
  have hreg : s.IsRegistered channel := ((isRegistered_retire s.nodup_refs).1 hafter).1
  have henabled := (hs.intact channel hreg).enabled
  -- a client gets the notices of all channels, but only one of them counts here
  have hother : ∀ q, q ≠ channel → ∀ m ∈ Outgoing.received client
      (departure (s.binding.get? servers).isSome view gone s q).messages, ∀ known,
      KnownRoster.learn channel none known m = known := by
    intro q hq m hm known
    obtain ⟨o, ho, rfl⟩ := List.mem_map.1 hm
    obtain ⟨member, hleft⟩ := eq_memberLeft_of_mem_departure (List.mem_of_mem_filter ho)
    rw [hleft]
    exact if_neg hq
  rw [channel_retire s.nodup_refs] at hmember ⊢
  rw [Outgoing.received_flatMap, KnownRoster.foldl_learn_flatMap s.nodup_refs hother,
    if_pos (mem_refs_iff.2 hreg), departure, bound hreg]
  cases hgone : (s.channel channel).members.get? gone with
  | none =>
    rw [if_neg fun hboth => Channel.not_holds hgone hboth.2] at hmember ⊢
    exact h hreg hmember
  | some n =>
    have hholds : (s.channel channel).Holds gone := Channel.holds_iff.2 ⟨henabled, n, hgone⟩
    rw [if_pos ⟨mem_refs_iff.2 hreg, hholds⟩] at hmember ⊢
    obtain ⟨m, hm⟩ := Table.contains_iff.1 hmember
    rw [Channel.get?_withoutMember, if_neg hclient] at hm
    have hknown := h hreg (Table.contains_iff.2 ⟨m, hm⟩)
    have hrecipient : client ∈ Roster.recipients view (s.channel channel).members (some gone) := by
      rw [Roster.mem_recipients_iff]
      refine ⟨fun heq => hclient (Option.some.inj heq), m, hm, ?_⟩
      rw [others ⟨client, m⟩ hclient]
      exact hd.enabled ⟨client, m⟩ (hc channel client m hreg hm)
    dsimp only
    rw [if_pos henabled, if_pos rfl, announceLeave,
      Outgoing.received_map (Roster.nodup_recipients _ _), if_pos hrecipient, entries,
      hc.entrySet_withoutMember hd hs hreg hgone]
    simp [KnownRoster.learn, hknown]

end ChannelService

end ChatServer
