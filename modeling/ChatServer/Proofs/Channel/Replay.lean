import ChatServer.Proofs.Channel.Registry
import Mathlib.Data.Finset.Card

/-!
# What the events tell about the members

Whoever notes every event knows which channels are open and who is in them. `Occupancy` is what is
noted, `after` how an event changes it, and `Fits` what every event says about the state in which it
arrives. Each operation of the channel service tells events that fit one after another and lead from
the occupancy before it to the occupancy after it: `Replays`.
-/

namespace ChatServer

namespace Channel

/-- The clients that are members. -/
def memberIds (c : Channel) : Finset ClientId := c.members.keys.toFinset

/-- The members of a channel are the clients on its roster. -/
theorem mem_memberIds {c : Channel} {client : ClientId} :
    client ∈ c.memberIds ↔ ∃ n, c.members.get? client = some n := by
  rw [memberIds, List.mem_toFinset, Table.mem_keys_iff]

/-- There are as many members as a channel counts. -/
theorem card_memberIds (c : Channel) : c.memberIds.card = c.memberCount :=
  (List.toFinset_card_of_nodup c.members.nodup).trans (List.length_map _)

/-- Its creator is the only member of a new channel. -/
theorem memberIds_create (name key : String) (r : UserRef) :
    (create name key r).memberIds = {r.owner} := by
  ext client
  rw [mem_memberIds, Finset.mem_singleton]
  constructor
  · rintro ⟨n, hn⟩
    exact congrArg Ref.owner (get?_create hn)
  · rintro rfl
    exact ⟨r.number, (get?_singleton r r.owner).trans (if_pos rfl)⟩

/-- Who is added is a member as well. -/
theorem memberIds_withMember (c : Channel) (r : UserRef) :
    (c.withMember r).memberIds = insert r.owner c.memberIds := by
  ext client
  rw [mem_memberIds, Finset.mem_insert, mem_memberIds, get?_withMember]
  by_cases h : client = r.owner
  · simp [h]
  · simp [h]

/-- Who is removed is no member any more. -/
theorem memberIds_withoutMember (c : Channel) (gone : ClientId) :
    (c.withoutMember gone).memberIds = c.memberIds.erase gone := by
  ext client
  rw [mem_memberIds, Finset.mem_erase, mem_memberIds, get?_withoutMember]
  by_cases h : client = gone
  · simp [h]
  · simp [h]

theorem memberIds_eq_empty_iff {c : Channel} : c.memberIds = ∅ ↔ c.members.isEmpty := by
  rw [Finset.eq_empty_iff_forall_notMem, Table.isEmpty_iff]
  simp only [mem_memberIds, not_exists, Option.eq_none_iff_forall_ne_some, ne_eq]

end Channel

/-- The open channels by their keys, each with the clients that are in it. -/
abbrev Occupancy := String → Option (Finset ClientId)

namespace Occupancy

/-- No channel is open. -/
def closed : Occupancy := fun _ => none

/-- What is known after an event: one that tells of a new channel opens it, and the departure of the
last member closes it. -/
def after (config : ChannelConfig) (m : Occupancy) : ChannelEvent → Occupancy
  | .created info => Function.update m (config.keyFor info.name) (some ∅)
  | .joined info u =>
    Function.update m (config.keyFor info.name)
      ((m (config.keyFor info.name)).map (insert u.client))
  | .left info u =>
    Function.update m (config.keyFor info.name)
      (((m (config.keyFor info.name)).map (·.erase u.client)).filter (· ≠ ∅))
  | .joinCompleted _ _ => m
  | .leaveCompleted _ _ => m

/-- What holds when an event arrives. A channel is created while it is closed; who joins an open
channel was not in it, who leaves one was, and the number of members is that after the event. -/
def Fits (config : ChannelConfig) (m : Occupancy) : ChannelEvent → Prop
  | .created info => m (config.keyFor info.name) = none
  | .joined info u =>
    ∃ members, m (config.keyFor info.name) = some members ∧ u.client ∉ members ∧
      info.memberCount = (insert u.client members).card
  | .left info u =>
    ∃ members, m (config.keyFor info.name) = some members ∧ u.client ∈ members ∧
      info.memberCount = (members.erase u.client).card
  | .joinCompleted _ _ => True
  | .leaveCompleted _ _ => True

/-- What is known after several events. -/
def replay (config : ChannelConfig) (m : Occupancy) (events : List ChannelEvent) : Occupancy :=
  events.foldl (after config) m

/-- Events that fit one after another and lead from one occupancy to another. -/
inductive Replays (config : ChannelConfig) : Occupancy → List ChannelEvent → Occupancy → Prop
  | nil (m : Occupancy) : Replays config m [] m
  | cons {m m' : Occupancy} {event : ChannelEvent} {events : List ChannelEvent}
    (fits : m.Fits config event) (rest : Replays config (m.after config event) events m') :
    Replays config m (event :: events) m'

namespace Replays

variable {config : ChannelConfig} {m m' m'' : Occupancy} {events events' : List ChannelEvent}

theorem append (h : Replays config m events m') (h' : Replays config m' events' m'') :
    Replays config m (events ++ events') m'' := by
  induction h with
  | nil m => exact h'
  | cons fits _ ih => exact .cons fits (ih h')

/-- What events replay to is what comes of carrying them out one by one. -/
theorem replay_eq (h : Replays config m events m') : m.replay config events = m' := by
  induction h with
  | nil m => rfl
  | cons fits _ ih => exact ih

/-- Each of the events fits what the events before it led to. -/
theorem fits (h : Replays config m events m') {before beyond : List ChannelEvent}
    {event : ChannelEvent} (split : events = before ++ event :: beyond) :
    (m.replay config before).Fits config event := by
  induction h generalizing before with
  | nil m => simp at split
  | cons fits _ ih =>
    cases before with
    | nil =>
      obtain ⟨rfl, -⟩ := List.cons.inj split
      exact fits
    | cons first before =>
      obtain ⟨rfl, hrest⟩ := List.cons.inj split
      exact ih hrest

end Replays

end Occupancy

namespace ChannelService

open Occupancy (Replays)

/-- Who is in the registered channels. -/
def occupancy (s : ChannelService) : Occupancy := fun key =>
  (s.registered? key).map fun r => (s.channel r).memberIds

variable {config : ChannelConfig} {users : UserRef → User} {s : ChannelService} {r : ChannelRef}

/-- Under the key of a registered channel are its members. -/
theorem occupancy_of_isRegistered (h : s.IsRegistered r) :
    s.occupancy r.owner = some (s.channel r).memberIds := by
  rw [occupancy, registered?_eq_some_iff.2 ⟨rfl, h⟩]
  rfl

/-- Under a key without a channel is nobody. -/
theorem occupancy_eq_none {key : String} (h : ∀ r, r.owner = key → ¬s.IsRegistered r) :
    s.occupancy key = none := by
  rw [occupancy, Option.map_eq_none_iff, Option.eq_none_iff_forall_ne_some]
  intro r hr
  obtain ⟨hkey, hreg⟩ := registered?_eq_some_iff.1 hr
  exact h r hkey hreg

/-- Services with the same channels under a key have the same members under it. -/
theorem occupancy_congr {s' : ChannelService} {key : String}
    (registered : ∀ r, r.owner = key → (s'.IsRegistered r ↔ s.IsRegistered r))
    (channel : ∀ r, r.owner = key → s.IsRegistered r → s'.channel r = s.channel r) :
    s'.occupancy key = s.occupancy key := by
  by_cases h : ∃ r, r.owner = key ∧ s.IsRegistered r
  · obtain ⟨r, rfl, hr⟩ := h
    rw [occupancy_of_isRegistered hr, occupancy_of_isRegistered ((registered r rfl).2 hr),
      channel r rfl hr]
  · rw [occupancy_eq_none fun r hk hr => h ⟨r, hk, hr⟩,
      occupancy_eq_none fun r hk hr => h ⟨r, hk, (registered r hk).1 hr⟩]

/-- A channel that is founded has its creator in it, and other keys are as before. -/
theorem occupancy_register (name : String) (r : UserRef) :
    (s.register (.create name (config.keyFor name) r)).occupancy =
      Function.update s.occupancy (config.keyFor name) (some {r.owner}) := by
  funext key
  by_cases hkey : key = config.keyFor name
  · subst hkey
    have hnew : (s.register (.create name (config.keyFor name) r)).IsRegistered
        (s.channels.next (config.keyFor name)) := isRegistered_register.2 (.inl rfl)
    rw [Function.update_self, ← Channel.memberIds_create name (config.keyFor name) r]
    refine (occupancy_of_isRegistered hnew).trans ?_
    rw [channel_register]
    exact congrArg (fun c => some (Channel.memberIds c)) (if_pos rfl)
  · rw [Function.update_of_ne hkey]
    -- nothing changes under other keys
    refine occupancy_congr (fun q hq => ?_) (fun q hq _ => ?_)
    · rw [isRegistered_register]
      constructor
      · rintro (hnew | hold)
        · exact absurd (hq.symm.trans (congrArg Ref.owner hnew)) hkey
        · exact hold.2
      · exact fun hold => .inr ⟨fun ho => hkey (hq.symm.trans ho), hold⟩
    · rw [channel_register]
      refine if_neg fun hnew => ?_
      exact hkey (hq.symm.trans (congrArg Ref.owner hnew))

/-- A channel that is changed has its new members in it, and other keys are as before. -/
theorem occupancy_update (registered : s.IsRegistered r) (enabled : (s.channel r).enabled)
    (c : Channel) :
    (s.update r c).occupancy = Function.update s.occupancy r.owner (some c.memberIds) := by
  funext key
  by_cases hkey : key = r.owner
  · subst hkey
    rw [Function.update_self, occupancy_of_isRegistered ((isRegistered_update c r).2 registered),
      channel_update enabled, if_pos rfl]
  · rw [Function.update_of_ne hkey]
    refine occupancy_congr (fun q _ => isRegistered_update c q) (fun q hq _ => ?_)
    rw [channel_update enabled]
    exact if_neg fun heq => hkey (hq.symm.trans (congrArg Ref.owner heq))

/-- A channel that is left is without the client, or gone when nobody else is in it. -/
theorem occupancy_part (registered : s.IsRegistered r) (enabled : (s.channel r).enabled)
    (client : ClientId) :
    (s.part r client).occupancy =
      Function.update s.occupancy r.owner
        ((some ((s.channel r).memberIds.erase client)).filter (· ≠ ∅)) := by
  rw [← Channel.memberIds_withoutMember]
  funext key
  by_cases hkey : key = r.owner
  · subst hkey
    rw [Function.update_self]
    by_cases hempty : ((s.channel r).withoutMember client).memberIds = ∅
    · -- the channel is released with its last member
      rw [hempty, occupancy_eq_none fun q hq hreg => ?_]
      · rfl
      · obtain ⟨hold, hrest⟩ := isRegistered_part.1 hreg
        rw [Channel.memberIds_eq_empty_iff, hrest (hold.eq registered hq)] at hempty
        cases hempty
    · have hrest : ((s.channel r).withoutMember client).members.isEmpty = false := by
        rw [← Bool.not_eq_true, ← Channel.memberIds_eq_empty_iff]
        exact hempty
      have hreg : (s.part r client).IsRegistered r :=
        isRegistered_part.2 ⟨registered, fun _ => hrest⟩
      rw [occupancy_of_isRegistered hreg, channel_part enabled, if_pos rfl,
        Option.filter_some_pos (by simpa using hempty)]
  · rw [Function.update_of_ne hkey]
    -- nothing changes under other keys
    have hne : ∀ q : ChannelRef, q.owner = key → q ≠ r :=
      fun q hq heq => hkey (hq.symm.trans (congrArg Ref.owner heq))
    refine occupancy_congr (fun q hq => ?_) (fun q hq _ => ?_)
    · rw [isRegistered_part]
      exact and_iff_left fun heq => absurd heq (hne q hq)
    · rw [channel_part enabled, if_neg (hne q hq)]

/-! ## Operations and their events -/

/-- A new channel opens with its founder in it. -/
theorem replays_found (hs : Sound config users s) {r : UserRef} {name : String}
    (client : (users r).client = r.owner) (free : s.lookup? config name = none) :
    Replays config s.occupancy (s.found config users r name).2.events
      (s.found config users r name).1.occupancy := by
  have hnone : s.occupancy (config.keyFor name) = none :=
    occupancy_eq_none fun q key => hs.free_of_lookup? free key
  -- the creation is told with the founder counted already, though it joins only afterwards
  have hcount : (Channel.create name (config.keyFor name) r).memberCount = 1 := by
    rw [← Channel.card_memberIds, Channel.memberIds_create]
    rfl
  rw [show (s.found config users r name).1 = s.register (.create name (config.keyFor name) r)
    from rfl, occupancy_register]
  refine .cons trivial (.cons hnone (.cons ⟨∅, Function.update_self _ _ _, ?_, ?_⟩ ?_))
  · exact Finset.notMem_empty _
  · exact hcount
  · have hafter : Function.update s.occupancy (config.keyFor name) (some {r.owner}) =
        ((s.occupancy.after config
          (.created ((Channel.create name (config.keyFor name) r).info users))).after config
            (.joined ((Channel.create name (config.keyFor name) r).info users) (users r))) := by
      simp only [Occupancy.after, Channel.info, Channel.create, Function.update_self,
        Function.update_idem, Option.map_some, client]
      rfl
    rw [hafter]
    exact .nil _

/-- Who enters a channel was not in it. -/
theorem replays_enter (hs : Sound config users s) {r : UserRef} {channel : ChannelRef}
    (client : (users r).client = r.owner) (registered : s.IsRegistered channel)
    (absent : (s.channel channel).members.get? r.owner = none) :
    Replays config s.occupancy
      (joinEffects config users channel ((s.channel channel).withMember r) r).events
      (s.update channel ((s.channel channel).withMember r)).occupancy := by
  have hintact := hs.intact channel registered
  -- the event names the channel, from which the observer finds the key
  have hkey : config.keyFor (((s.channel channel).withMember r).info users).name =
      channel.owner := hintact.keyFor_name
  have hnew : r.owner ∉ (s.channel channel).memberIds := by
    rw [Channel.mem_memberIds, absent]
    simp
  have hmembers := Channel.memberIds_withMember (s.channel channel) r
  rw [occupancy_update registered hintact.enabled, hmembers]
  refine .cons trivial (.cons ⟨(s.channel channel).memberIds, ?_, ?_, ?_⟩ ?_)
  · rw [hkey]
    exact occupancy_of_isRegistered registered
  · rw [client]
    exact hnew
  · rw [client, ← hmembers, Channel.card_memberIds]
    rfl
  · have hafter : Function.update s.occupancy channel.owner
        (some (insert r.owner (s.channel channel).memberIds)) =
          (s.occupancy.after config (.joinCompleted .ok (users r))).after config
            (.joined (((s.channel channel).withMember r).info users) (users r)) := by
      simp only [Occupancy.after, hkey, occupancy_of_isRegistered registered, client,
        Option.map_some]
    rw [hafter]
    exact .nil _

/-- Who parts from a channel was in it. -/
theorem replays_part (hs : Sound config users s) {client : ClientId} {n : Nat}
    (owner : (users ⟨client, n⟩).client = client) (registered : s.IsRegistered r)
    (member : (s.channel r).members.get? client = some n) :
    Replays config s.occupancy
      [.left (((s.channel r).withoutMember client).info users) (users ⟨client, n⟩)]
      (s.part r client).occupancy := by
  have hintact := hs.intact r registered
  have hkey : config.keyFor (((s.channel r).withoutMember client).info users).name = r.owner :=
    hintact.keyFor_name
  rw [occupancy_part registered hintact.enabled]
  refine .cons ⟨(s.channel r).memberIds, ?_, ?_, ?_⟩ ?_
  · rw [hkey]
    exact occupancy_of_isRegistered registered
  · rw [owner]
    exact Channel.mem_memberIds.2 ⟨n, member⟩
  · rw [owner, ← Channel.memberIds_withoutMember, Channel.card_memberIds]
    rfl
  -- the event does to the occupancy what leaving does to the registry
  · have hafter : Function.update s.occupancy r.owner
        ((some ((s.channel r).memberIds.erase client)).filter (· ≠ ∅)) =
          s.occupancy.after config
            (.left (((s.channel r).withoutMember client).info users) (users ⟨client, n⟩)) := by
      simp only [Occupancy.after, hkey, occupancy_of_isRegistered registered, owner,
        Option.map_some]
    rw [hafter]
    exact .nil _

/-- The events of a request lead to the occupancy after it, however it is answered. -/
theorem replays_perform (hs : Sound config users s) (client : ∀ r, (users r).client = r.owner)
    (r : UserRef) (request : ChannelRequest) :
    Replays config s.occupancy (s.perform config users r request).2.events
      (s.perform config users r request).1.occupancy := by
  cases request with
  | join name =>
    have h := joining config users s r name
    show Replays config s.occupancy (s.join config users r name).2.events _
    rw [show (s.perform config users r (.join name)).1 = (s.join config users r name).1 from rfl]
    generalize s.join config users r name = result at h
    cases h with
    -- a refusal has an event of its own, which changes no roster
    | refused why => exact .cons trivial (.nil _)
    | founded allowed free => exact replays_found hs (client r) free
    | entered allowed found =>
      obtain ⟨-, -, habsent⟩ := joinRefusal?_eq_none_iff.1 allowed
      obtain ⟨-, hreg, -⟩ := lookup?_eq_some_iff.1 found
      exact replays_enter hs (client r) hreg (habsent _ found)
  | leave name =>
    have h := leaving config users s r name
    show Replays config s.occupancy (s.leave config users r name).2.events _
    rw [show (s.perform config users r (.leave name)).1 = (s.leave config users r name).1 from rfl]
    generalize s.leave config users r name = result at h
    cases h with
    | refused why => exact .cons trivial (.nil _)
    | parted allowed found member =>
      obtain ⟨-, hreg, -⟩ := lookup?_eq_some_iff.1 found
      exact (replays_part hs (client _) hreg member).append (.cons trivial (.nil _))

/-- The events of a departure from one channel. -/
theorem replays_departure (hs : Sound config users s) (owner : ∀ r, (users r).client = r.owner)
    (bound : Bool) (client : ClientId) (registered : s.IsRegistered r) :
    Replays config s.occupancy (departure bound users client s r).events
      (s.retireFrom client r).occupancy := by
  have henabled := (hs.intact r registered).enabled
  unfold departure retireFrom
  cases hmember : (s.channel r).members.get? client with
  | none =>
    rw [if_neg (Channel.not_holds hmember)]
    exact .nil _
  | some n =>
    rw [if_pos (Channel.holds_iff.2 ⟨henabled, n, hmember⟩)]
    dsimp only
    rw [if_pos henabled]
    exact replays_part hs (owner ⟨client, n⟩) registered hmember

/-- A service is still sound when a client retires from a registered channel. -/
theorem Sound.retireFrom (hs : Sound config users s) (client : ClientId)
    (registered : s.IsRegistered r) : Sound config users (s.retireFrom client r) := by
  unfold ChannelService.retireFrom
  split
  · exact hs.parted registered client
  · exact hs

/-- The events of departures from several channels, in the order of the channels. -/
theorem replays_retire (bound : Bool) (owner : ∀ r, (users r).client = r.owner)
    (client : ClientId) {refs : List ChannelRef} (nodup : refs.Nodup)
    (hs : Sound config users s) (registered : ∀ r ∈ refs, s.IsRegistered r) :
    Replays config s.occupancy
      (refs.flatMap fun r => (departure bound users client s r).events)
      (s.retire client refs).occupancy := by
  induction refs generalizing s with
  | nil => exact .nil _
  | cons r refs ih =>
    obtain ⟨hr, nodup⟩ := List.nodup_cons.1 nodup
    obtain ⟨hreg, registered⟩ := List.forall_mem_cons.1 registered
    have hne : ∀ q ∈ refs, q ≠ r := fun q hq h => hr (h ▸ hq)
    -- the other channels are still registered, and what they tell is not touched
    have hrest : ∀ q ∈ refs, (s.retireFrom client r).IsRegistered q := by
      intro q hq
      rw [isRegistered_retireFrom]
      exact ⟨registered q hq, fun h => absurd h (hne q hq)⟩
    have hdeparture : ∀ q ∈ refs,
        (departure bound users client (s.retireFrom client r) q).events =
          (departure bound users client s q).events := by
      intro q hq
      rw [departure, departure, channel_retireFrom, if_neg fun h => hne q hq h.1]
    have hfirst := replays_departure hs owner bound client hreg
    have hothers := ih nodup (hs.retireFrom client hreg) hrest
    rw [List.flatMap_congr hdeparture] at hothers
    exact hfirst.append hothers

/-- The events of a disconnect lead to the occupancy after it. -/
theorem replays_disconnect (hs : Sound config users s)
    (owner : ∀ r, (users r).client = r.owner) (servers : Servers) (client : ClientId) :
    Replays config s.occupancy (s.disconnect servers users client).2.events
      (s.disconnect servers users client).1.occupancy := by
  rw [disconnect_eq]
  exact replays_retire _ owner client s.nodup_refs hs fun r hr => mem_refs_iff.1 hr

end ChannelService

end ChatServer
