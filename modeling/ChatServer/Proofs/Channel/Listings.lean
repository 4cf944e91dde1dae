import ChatServer.Proofs.Channel.Separation
import Mathlib.Data.List.Forall2
import Mathlib.Data.List.Sort

/-!
# The order of listings makes no difference to channels

Tables list their entries in some order. Whatever is told of a channel is sorted, by names that no
two members share or by the numbers of clients, so it does not depend on that order. Only where all
channels are gone through, when a client disconnects, what is told of different channels may come in
another order: `Interleaved` compares that.
-/

namespace ChatServer

/-! ## Sorted lists -/

/-- Sorting forgets the order if no two elements tie. -/
theorem mergeSort_eq_of_perm {α : Type} {le : α → α → Bool}
    (trans : ∀ a b c, le a b → le b c → le a c) (total : ∀ a b, (le a b || le b a) = true)
    {l l' : List α} (h : l.Perm l')
    (antisymm : ∀ a ∈ l, ∀ b ∈ l, le a b → le b a → a = b) :
    l'.mergeSort le = l.mergeSort le := by
  refine List.Perm.eq_of_pairwise ?_ (List.pairwise_mergeSort trans total l')
    (List.pairwise_mergeSort trans total l) ?_
  · intro a b ha hb
    exact antisymm a (h.mem_iff.2 (List.mem_mergeSort.1 ha)) b (List.mem_mergeSort.1 hb)
  · exact (List.mergeSort_perm l' le).trans (h.symm.trans (List.mergeSort_perm l le).symm)

/-- The same items in two orders, where those about one thing are in the same order. -/
structure Interleaved {κ α : Type} (about : κ → α → Bool) (l l' : List α) : Prop where
  perm : l.Perm l'
  same : ∀ k, l'.filter (about k) = l.filter (about k)

namespace Interleaved

variable {κ α β : Type} {about : κ → α → Bool} {l l' m m' : List α}

theorem refl (about : κ → α → Bool) (l : List α) : Interleaved about l l :=
  ⟨.refl l, fun _ => rfl⟩

theorem append (h : Interleaved about l l') (h' : Interleaved about m m') :
    Interleaved about (l ++ m) (l' ++ m') where
  perm := h.perm.append h'.perm
  same k := by rw [List.filter_append, List.filter_append, h.same, h'.same]

/-- Items of which no two are about the same thing may come in any order. -/
theorem of_nodup {key : α → String} (perm : l.Perm l') (once : (l.map key).Nodup) :
    Interleaved (fun k x => decide (key x = k)) l l' where
  perm := perm
  same k := by
    have hfilter := perm.filter fun x => decide (key x = k)
    have honce := once.sublist ((List.filter_sublist (p := fun x => decide (key x = k))).map key)
    have hkeys : ∀ x ∈ l.filter fun x => decide (key x = k), key x = k :=
      fun x hx => of_decide_eq_true (List.mem_filter.1 hx).2
    -- a list of at most one item has no other order
    rcases hl : l.filter fun x => decide (key x = k) with _ | ⟨x, _ | ⟨y, rest⟩⟩
    · rw [hl] at hfilter
      exact hfilter.nil_eq.symm
    · rw [hl] at hfilter
      exact List.perm_singleton.1 hfilter.symm
    · rw [hl] at honce hkeys
      obtain ⟨hx, hrest⟩ := List.forall_mem_cons.1 hkeys
      obtain ⟨hy, -⟩ := List.forall_mem_cons.1 hrest
      simp [hx, hy] at honce

/-- What each item leads to is about the same things as the item. -/
theorem flatMap (h : Interleaved about l l') {about' : κ → β → Bool} {f : α → List β}
    (same : ∀ x ∈ l, ∀ k, ∀ y ∈ f x, about' k y = about k x) :
    Interleaved about' (l.flatMap f) (l'.flatMap f) where
  perm := h.perm.flatMap_right f
  same k := by
    rw [filter_flatMap_of_same fun x hx => same x hx k,
      filter_flatMap_of_same fun x hx => same x (h.perm.mem_iff.2 hx) k, h.same]

/-- Items that are interleaved still are when each is told in another way. -/
theorem map (f : α → β) {about : κ → β → Bool}
    (h : Interleaved (fun k x => about k (f x)) l l') :
    Interleaved about (l.map f) (l'.map f) where
  perm := h.perm.map f
  same k := by
    rw [List.filter_map, List.filter_map]
    exact congrArg (List.map f) (h.same k)

/-- Lists are interleaved if each part of one is interleaved with a part of the other, in order. -/
theorem of_forall₂ {γ : Type} {R : β → γ → Prop} {f : β → List α} {f' : γ → List α}
    {parts : List β} {parts' : List γ} (h : List.Forall₂ R parts parts')
    (part : ∀ x y, R x y → Interleaved about (f x) (f' y)) :
    Interleaved about (parts.flatMap f) (parts'.flatMap f') := by
  induction h with
  | nil => exact .refl about []
  | cons hpart _ ih =>
    rw [List.flatMap_cons, List.flatMap_cons]
    exact (part _ _ hpart).append ih

/-- What observers notice of events is about what the events are about. -/
theorem callbacks {config : ChannelConfig} {events events' : List ChannelEvent}
    (h : Interleaved (fun key e => e.concerns config key) events events')
    (users : UserRef → User) (s : ChannelService) :
    Interleaved (fun key c => c.event.concerns config key) (s.callbacks config users events)
      (s.callbacks config users events') := by
  refine h.flatMap fun event _ key c hc => ?_
  obtain ⟨o, -, ho⟩ := List.mem_filterMap.1 hc
  cases o with
  | silent => cases ho
  | recording number =>
    cases ho
    rfl

end Interleaved

/-! ## Rosters -/

namespace Roster

variable {users : UserRef → User} {r r' : Roster}

/-- No two clients on a roster have the same name. -/
def Distinct (users : UserRef → User) (r : Roster) : Prop :=
  ∀ b m c n, r.get? b = some m → r.get? c = some n →
    (users ⟨b, m⟩).username = (users ⟨c, n⟩).username → b = c

/-- Rosters that list the same members have the same records, in some order. -/
theorem records_perm (h : r.Relists r') : (records users r).Perm (records users r') := h.map _

/-- The order of clients is transitive and total. -/
theorem le_val_trans (a b c : ClientId) (hab : decide (a.val ≤ b.val) = true)
    (hbc : decide (b.val ≤ c.val) = true) : decide (a.val ≤ c.val) = true :=
  decide_eq_true (UInt64.le_trans (of_decide_eq_true hab) (of_decide_eq_true hbc))

theorem le_val_total (a b : ClientId) :
    (decide (a.val ≤ b.val) || decide (b.val ≤ a.val)) = true := by
  simpa using UInt64.le_total a.val b.val

/-- Rosters that list the same members tell the same clients, since these are told in order. -/
theorem recipients_eq (h : r.Relists r') (excluded : Option ClientId) :
    recipients users r' excluded = recipients users r excluded := by
  refine mergeSort_eq_of_perm le_val_trans le_val_total (((records_perm h).filter _).map _) ?_
  intro a _ b _ hab hba
  exact congrArg ClientId.mk (UInt64.le_antisymm (of_decide_eq_true hab) (of_decide_eq_true hba))

/-- Who is told is listed in strictly ascending order. -/
theorem recipients_strict (users : UserRef → User) (r : Roster) (excluded : Option ClientId) :
    (recipients users r excluded).Pairwise fun a b => a.val < b.val := by
  have hsorted : (recipients users r excluded).Pairwise fun a b => a.val ≤ b.val :=
    (List.pairwise_mergeSort le_val_trans le_val_total _).imp of_decide_eq_true
  refine (hsorted.and (nodup_recipients r excluded)).imp fun hab => ?_
  rw [← UInt64.not_le]
  exact fun hba => hab.2 (congrArg ClientId.mk (UInt64.le_antisymm hab.1 hba))

/-- The order of names is transitive and total. -/
theorem le_name_trans (a b c : String) (hab : decide (a ≤ b) = true)
    (hbc : decide (b ≤ c) = true) : decide (a ≤ c) = true :=
  decide_eq_true (String.le_trans (of_decide_eq_true hab) (of_decide_eq_true hbc))

theorem le_name_total (a b : String) : (decide (a ≤ b) || decide (b ≤ a)) = true := by
  simpa using String.le_total a b

/-- Rosters that list the same members have the same names, since these are sorted. -/
theorem usernames_eq (h : r.Relists r') : usernames users r' = usernames users r := by
  refine mergeSort_eq_of_perm le_name_trans le_name_total ((records_perm h).map _) ?_
  intro a _ b _ hab hba
  exact String.le_antisymm (of_decide_eq_true hab) (of_decide_eq_true hba)

/-- The order of a listing is transitive and total. -/
theorem le_username_trans (a b c : RosterEntry) (hab : decide (a.username ≤ b.username) = true)
    (hbc : decide (b.username ≤ c.username) = true) : decide (a.username ≤ c.username) = true :=
  le_name_trans a.username b.username c.username hab hbc

theorem le_username_total (a b : RosterEntry) :
    (decide (a.username ≤ b.username) || decide (b.username ≤ a.username)) = true :=
  le_name_total a.username b.username

/-- Where no two clients have the same name, a listing leaves nothing open to the sort. -/
theorem listing_eq (h : r.Relists r') (distinct : r.Distinct users) :
    listing users r' = listing users r := by
  refine mergeSort_eq_of_perm le_username_trans le_username_total
    (((records_perm h).filter _).map _) fun a ha b hb hab hba => ?_
  obtain ⟨c, m, hm, -, rfl⟩ := mem_listing_iff.1 (List.mem_mergeSort.2 ha)
  obtain ⟨d, n, hn, -, rfl⟩ := mem_listing_iff.1 (List.mem_mergeSort.2 hb)
  have hcd : c = d := distinct c m d n hm hn
    (String.le_antisymm (of_decide_eq_true hab) (of_decide_eq_true hba))
  subst hcd
  rw [hm] at hn
  rw [Option.some.inj hn]

end Roster

/-! ## One channel -/

namespace Channel

variable {users : UserRef → User} {c c' : Channel}

/-- Two channels that differ at most in the order of their rosters. -/
structure Relists (c c' : Channel) : Prop where
  name : c'.name = c.name
  key : c'.key = c.key
  enabled : c'.enabled = c.enabled
  members : c.members.Relists c'.members
  operators : c.operators.Relists c'.operators

/-- No two clients on a roster of the channel have the same name. -/
structure Distinct (users : UserRef → User) (c : Channel) : Prop where
  members : c.members.Distinct users
  operators : c.operators.Distinct users

namespace Relists

theorem refl (c : Channel) : c.Relists c := ⟨rfl, rfl, rfl, .refl _, .refl _⟩

/-- The order in which the members of a channel are kept does not show in its snapshot, if their
names differ. -/
theorem snapshot_eq (h : c.Relists c') (distinct : c.Distinct users) :
    c'.snapshot users = c.snapshot users := by
  rw [snapshot, snapshot, Roster.listing_eq h.members distinct.members,
    Roster.listing_eq h.operators distinct.operators]

theorem info_eq (h : c.Relists c') : c'.info users = c.info users := by
  rw [info, info, h.name, memberCount, memberCount, h.members.size_eq,
    Roster.usernames_eq h.operators]

theorem isMember_eq (h : c.Relists c') (client : ClientId) :
    c'.isMember client = c.isMember client := h.members.contains_eq client

theorem holds_iff (h : c.Relists c') (client : ClientId) : c'.Holds client ↔ c.Holds client := by
  rw [Holds, Holds, h.enabled, h.isMember_eq]

/-- The order in which members are kept still makes the only difference when one is added. -/
theorem withMember (h : c.Relists c') (r : UserRef) :
    (c.withMember r).Relists (c'.withMember r) where
  name := h.name
  key := h.key
  enabled := h.enabled
  members := h.members.insert r.owner r.number
  operators := h.operators

theorem withoutMember (h : c.Relists c') (client : ClientId) :
    (c.withoutMember client).Relists (c'.withoutMember client) where
  name := h.name
  key := h.key
  enabled := congrArg (!·) (h.members.erase client).isEmpty_eq
  members := h.members.erase client
  operators := h.operators.erase client

end Relists

/-- The channel with the listings of its rosters turned round. -/
def reverse (c : Channel) : Channel :=
  { c with members := c.members.reverse, operators := c.operators.reverse }

/-- A channel can keep its members in the reverse order. -/
theorem relists_reverse (c : Channel) : c.Relists c.reverse :=
  ⟨rfl, rfl, rfl, c.members.relists_reverse, c.operators.relists_reverse⟩

end Channel

/-! ## All channels -/

theorem Archive.next_update {κ α : Type} [DecidableEq κ] (a : Archive κ α) (r : Ref κ) (f : α → α)
    (k : κ) : (a.update r f).next k = a.next k := by
  simp only [next, history_update]
  split <;> simp

namespace ChannelService

variable {config : ChannelConfig} {users : UserRef → User} {s s' : ChannelService}
  {r : ChannelRef} {q : UserRef} {name : String}

/-- To leave a channel gives out no number. -/
theorem next_part (s : ChannelService) (r : ChannelRef) (client : ClientId) (key : String) :
    (s.part r client).channels.next key = s.channels.next key := by
  unfold part
  dsimp only
  split
  · rw [channels_release]
    exact Archive.next_update _ _ _ _
  · exact Archive.next_update _ _ _ _

/-- To retire from channels gives out no number. -/
theorem next_retire (s : ChannelService) (client : ClientId) (refs : List ChannelRef)
    (key : String) : (s.retire client refs).channels.next key = s.channels.next key := by
  induction refs generalizing s with
  | nil => rfl
  | cons r refs ih =>
    have hfirst : (s.retireFrom client r).channels.next key = s.channels.next key := by
      unfold retireFrom
      split
      · exact s.next_part r client key
      · rfl
    exact (ih _).trans hfirst

/-- Two services that differ at most in the order of their tables. -/
structure Relists (s s' : ChannelService) : Prop where
  binding : s'.binding = s.binding
  observers : s'.observers = s.observers
  registry : s.registry.Relists s'.registry
  next : ∀ key, s'.channels.next key = s.channels.next key
  channel : ∀ r, (s.channel r).Relists (s'.channel r)

namespace Relists

/-! ### What is found -/

theorem isRegistered_iff (h : s.Relists s') : s'.IsRegistered r ↔ s.IsRegistered r := by
  rw [IsRegistered, IsRegistered, h.registry.get?_eq]

/-- Services that list the same find the same channels by their names. -/
theorem lookup?_eq (h : s.Relists s') (config : ChannelConfig) (name : String) :
    s'.lookup? config name = s.lookup? config name := by
  rw [lookup?, lookup?, registered?, registered?, h.registry.get?_eq]
  simp only [(h.channel _).enabled]

/-! ### What is changed -/

/-- The order still makes the only difference when channels that correspond are put in a place in
use. -/
theorem update (h : s.Relists s') (enabled : (s.channel r).enabled) {c c' : Channel}
    (hc : c.Relists c') : (s.update r c).Relists (s'.update r c') where
  binding := h.binding
  observers := h.observers
  registry := h.registry
  next key := by
    rw [ChannelService.update, ChannelService.update, Archive.next_update, Archive.next_update,
      h.next]
  channel p := by
    rw [channel_update enabled, channel_update ((h.channel r).enabled.trans enabled)]
    split
    · exact hc
    · exact h.channel p

theorem register (h : s.Relists s') (c : Channel) : (s.register c).Relists (s'.register c) where
  binding := h.binding
  observers := h.observers
  registry := by
    rw [ChannelService.register, ChannelService.register, h.next]
    exact h.registry.insert _ _
  next key := by
    have hlength : ∀ key, (s'.channels.history key).length = (s.channels.history key).length :=
      fun key => congrArg Ref.number (h.next key)
    simp only [ChannelService.register, Archive.next, Archive.history_add]
    split <;> simp [hlength]
  channel p := by
    rw [channel_register, channel_register, h.next]
    split
    · exact .refl c
    · exact h.channel p

theorem release (h : s.Relists s') (r : ChannelRef) : (s.release r).Relists (s'.release r) := by
  unfold ChannelService.release
  rw [h.registry.get?_eq]
  split
  · exact ⟨h.binding, h.observers, h.registry.erase r.owner, h.next, h.channel⟩
  · exact h

/-! ### Requests -/

/-- Services that differ in the order of their tables correspond in all channels. What they tell of
a channel is the same if no two of its members have the same name. -/
def correspondence (config : ChannelConfig) : Correspondence config where
  related := ChannelService.Relists
  about _ := True
  counterpart := id
  like := Channel.Relists
  alike effects effects' := effects' = effects
  plain users c := c.Distinct users
  enabled_eq h := h.enabled
  members_eq h := h.members.get?_eq
  info_eq h _ := h.info_eq
  withMember h := h.withMember
  withoutMember h := h.withoutMember
  lookup?_eq h name _ := by
    rw [h.lookup?_eq, Option.map_id]
    rfl
  channel h r _ := h.channel r
  update h _ _ _ _ enabled hc := h.update enabled hc
  register h c _ := h.register c
  release h r _ := h.release r
  refl _ := rfl
  joined h distinct r q := by
    rw [joinEffects, joinEffects, h.snapshot_eq distinct, h.info_eq,
      Roster.recipients_eq h.members]
    rfl
  left h r q departed name := by
    rw [leaveEffects, leaveEffects, Roster.recipients_eq h.members,
      (h.withoutMember q.owner).info_eq]
    rfl

/-- A request comes to the same if it leaves no two members of a channel with the same name. -/
theorem perform (h : s.Relists s') {request : ChannelRequest}
    (distinct : ∀ r, ((s.perform config users q request).1.channel r).Distinct users) :
    (s.perform config users q request).1.Relists (s'.perform config users q request).1 ∧
      (s'.perform config users q request).2 = (s.perform config users q request).2 :=
  (correspondence config).perform h trivial distinct

/-- Observers notice the same. -/
theorem callbacks_eq (h : s.Relists s') (events : List ChannelEvent) :
    s'.callbacks config users events = s.callbacks config users events := by
  have hcount : s'.count = s.count := h.registry.size_eq
  have hinfo : ∀ name, s'.info? config users name = s.info? config users name :=
    fun name => (correspondence config).info?_eq h trivial users
  rw [callbacks, callbacks, h.observers, hcount]
  simp only [hinfo]

/-! ### Clients that are gone -/

/-- Services that list the same go through the same channels, in some order. -/
theorem refs_perm (h : s.Relists s') : s.refs.Perm s'.refs := h.registry.map _

/-- The order still makes the only difference when a client has retired from all channels, each
service going through them in its own order. -/
theorem retire (h : s.Relists s') (client : ClientId) :
    (s.retire client s.refs).Relists (s'.retire client s'.refs) := by
  -- each service goes through a list of its own, but the same channels are in both
  have hchannel : ∀ r, ((s.retire client s.refs).channel r).Relists
      ((s'.retire client s'.refs).channel r) := by
    intro r
    rw [channel_retire s.nodup_refs, channel_retire s'.nodup_refs]
    simp only [← h.refs_perm.mem_iff, (h.channel r).holds_iff]
    split
    · exact (h.channel r).withoutMember client
    · exact h.channel r
  constructor
  case binding => rw [binding_retire, binding_retire, h.binding]
  case observers => rw [observers_retire, observers_retire, h.observers]
  case registry =>
    refine Table.relists_iff.2 fun key => Option.ext fun n => ?_
    have hregistered : (s'.retire client s'.refs).IsRegistered ⟨key, n⟩ ↔
        (s.retire client s.refs).IsRegistered ⟨key, n⟩ := by
      rw [isRegistered_retire s.nodup_refs, isRegistered_retire s'.nodup_refs, h.isRegistered_iff,
        ← h.refs_perm.mem_iff, (h.channel _).holds_iff,
        ((h.channel _).withoutMember client).members.isEmpty_eq]
    exact hregistered
  case next =>
    intro key
    rw [next_retire, next_retire, h.next]
  case channel => exact hchannel

/-- What a channel tells of a client that is gone does not depend on the order. -/
theorem departure_eq (h : s.Relists s') (bound : Bool) (users : UserRef → User)
    (client : ClientId) (r : ChannelRef) :
    departure bound users client s' r = departure bound users client s r := by
  rw [departure, departure, (h.channel r).members.get?_eq, (h.channel r).enabled,
    Roster.recipients_eq (h.channel r).members, ((h.channel r).withoutMember client).info_eq]

/-- What is told about all registered channels in turn comes in the order of the registry. -/
theorem interleaved (h : s.Relists s') {β : Type} {f : ChannelRef → List β}
    {about : String → β → Bool}
    (same : ∀ r ∈ s.refs, ∀ x ∈ f r, ∀ key, about key x = decide (r.owner = key)) :
    Interleaved about (s.refs.flatMap f) (s'.refs.flatMap f) :=
  (Interleaved.of_nodup h.refs_perm s.nodup_owner_refs).flatMap
    fun r hr key x hx => same r hr x hx key

/-- A disconnect comes to the same but for the order in which it goes through the channels. -/
theorem disconnect (h : s.Relists s') (sound : Sound config users s) (servers : Servers)
    (client : ClientId) :
    (s.disconnect servers users client).1.Relists (s'.disconnect servers users client).1 ∧
      Interleaved (fun key o => o.message.concerns key)
        (s.disconnect servers users client).2.messages
        (s'.disconnect servers users client).2.messages ∧
      Interleaved (fun key e => e.concerns config key)
        (s.disconnect servers users client).2.events
        (s'.disconnect servers users client).2.events := by
  rw [disconnect_eq, disconnect_eq, h.binding]
  simp only [h.departure_eq]
  refine ⟨h.retire client, h.interleaved fun r _ o ho key => ?_,
    h.interleaved fun r hr e he key => ?_⟩
  · obtain ⟨member, hmember⟩ := eq_memberLeft_of_mem_departure ho
    rw [hmember]
    rfl
  · refine SameUnder.concerns_of_mem_departure (fun _ => ?_) he
    exact (sound.intact r (mem_refs_iff.1 hr)).keyFor_name

/-- Events that are interleaved are heard of so: those about one channel in the same order. -/
theorem interleaved_callbacks (h : s.Relists s') {events events' : List ChannelEvent}
    (interleaved : Interleaved (fun key e => e.concerns config key) events events') :
    Interleaved (fun key c => c.event.concerns config key) (s.callbacks config users events)
      (s'.callbacks config users events') := by
  rw [h.callbacks_eq]
  exact interleaved.callbacks users s

end Relists

/-- The service with the listings of its registry and of all rosters turned round. -/
def reverse (s : ChannelService) : ChannelService :=
  { s with
    registry := s.registry.reverse
    channels := ⟨s.channels.records.mapValues fun _ history => history.map Channel.reverse⟩ }

/-- A service can keep its channels, and the members of each, in the reverse order. -/
theorem relists_reverse (s : ChannelService) : s.Relists s.reverse := by
  -- the channels of a key keep their order, since their numbers count; their rosters do not
  have hhistory : ∀ key, s.reverse.channels.history key =
      (s.channels.history key).map Channel.reverse := by
    intro key
    rw [reverse, Archive.history, Archive.history, Table.get?_mapValues]
    cases s.channels.records.get? key <;> rfl
  constructor
  case binding => rfl
  case observers => rfl
  case registry => exact s.registry.relists_reverse
  case next =>
    intro key
    rw [Archive.next, Archive.next, hhistory, List.length_map]
  case channel =>
    intro r
    rw [channel, channel, Archive.get?, Archive.get?, hhistory, List.getElem?_map]
    cases (s.channels.history r.owner)[r.number]? with
    | none => exact .refl _
    | some c => exact c.relists_reverse

end ChannelService

end ChatServer
