import ChatServer.Proofs.Channel.Restart

/-!
# Registered channels that are closed

A channel may be closed before it is released, and then its registration is stale: it is still
there, but nobody can find the channel by it. `sweep` erases stale registrations, and `Swept`
compares a service with one that lacks some of them. Every operation keeps them so related and comes
to the same in both, but for the order in which it goes through all channels. What that takes of the
registered channels, in use or closed, makes the service `Orderly`. A closed channel is `Defunct`:
it stays as it is, and once it is not registered it never is again.
-/

namespace ChatServer

/-! ## Channels -/

namespace Channel

variable {config : ChannelConfig} {key : String} {c : Channel}

/-- A channel in use has the key of its name, and its operators are members. In a closed one is
nobody. -/
structure Orderly (config : ChannelConfig) (key : String) (c : Channel) : Prop where
  named : c.enabled → config.keyFor c.name = key
  belong : c.enabled → c.OperatorsBelong
  vacant : c.enabled = false → c.IsVacant

/-- A new channel is orderly under the key of its name. -/
theorem Orderly.create (config : ChannelConfig) (name : String) (creator : UserRef) :
    (Channel.create name (config.keyFor name) creator).Orderly config (config.keyFor name) where
  named _ := rfl
  belong _ := operatorsBelong_create _ _ _
  vacant closed := by cases closed

/-- A channel in use is still orderly when a member is added. -/
theorem Orderly.withMember (enabled : c.enabled) (q : UserRef) (h : c.Orderly config key) :
    (c.withMember q).Orderly config key where
  named _ := h.named enabled
  belong _ := (h.belong enabled).withMember q
  vacant closed := by
    have closed : c.enabled = false := closed
    rw [enabled] at closed
    cases closed

/-- The last member that leaves closes the channel, and takes the operators along. -/
theorem Orderly.withoutMember (enabled : c.enabled) (client : ClientId)
    (h : c.Orderly config key) : (c.withoutMember client).Orderly config key where
  named _ := h.named enabled
  belong _ := (h.belong enabled).withoutMember client
  vacant := (h.belong enabled).isVacant_withoutMember

end Channel

namespace ChannelService

variable {config : ChannelConfig} {users : UserRef → User} {s s' : ChannelService}
  {r : ChannelRef} {q : UserRef} {name : String}

/-- The service without the registrations of closed channels. -/
def sweep (s : ChannelService) : ChannelService :=
  { s with registry := s.registry.filter fun key n => (s.channel ⟨key, n⟩).enabled }

/-- What is swept keeps the registrations of channels in use, and no others. -/
theorem isRegistered_sweep : s.sweep.IsRegistered r ↔ s.IsRegistered r ∧ (s.channel r).enabled := by
  show (s.registry.filter _).get? r.owner = some r.number ↔ _
  rw [Table.get?_filter, Option.filter_eq_some_iff]
  rfl

/-! ## What is registered -/

/-- Every registered channel was given its number, and is orderly. -/
structure Orderly (config : ChannelConfig) (s : ChannelService) : Prop where
  given : ∀ r, s.IsRegistered r → r.number < (s.channels.next r.owner).number
  channel : ∀ r, s.IsRegistered r → (s.channel r).Orderly config r.owner

theorem orderly_initial (config : ChannelConfig) : initial.Orderly config where
  given _ h := by cases h
  channel _ h := by cases h

namespace Orderly

/-- A service is still orderly when a channel in use is changed for an orderly one. -/
theorem update (h : s.Orderly config) (enabled : (s.channel r).enabled) {c : Channel}
    (orderly : (s.channel r).Orderly config r.owner → c.Orderly config r.owner) :
    (s.update r c).Orderly config where
  given p hp := by
    rw [ChannelService.update, Archive.next_update]
    exact h.given p hp
  channel p hp := by
    rw [channel_update enabled]
    split
    · next heq =>
      rw [heq] at hp ⊢
      exact orderly (h.channel r hp)
    · exact h.channel p hp

theorem release (h : s.Orderly config) (r : ChannelRef) : (s.release r).Orderly config where
  given p hp := by
    rw [channels_release]
    exact h.given p (isRegistered_release.1 hp).2
  channel p hp := by
    rw [channel_release]
    exact h.channel p (isRegistered_release.1 hp).2

theorem part (h : s.Orderly config) (enabled : (s.channel r).enabled) (client : ClientId) :
    (s.part r client).Orderly config := by
  have hremoved := h.update enabled (.withoutMember enabled client)
  unfold ChannelService.part
  dsimp only
  split
  · exact hremoved.release r
  · exact hremoved

/-- A service is still orderly when a channel is founded, also in place of a closed one. -/
theorem founded (h : s.Orderly config) (name : String) (creator : UserRef) :
    (s.register (.create name (config.keyFor name) creator)).Orderly config where
  given p hp := by
    rw [ChannelService.register, Archive.next_add]
    rcases isRegistered_register.1 hp with rfl | ⟨hne, hreg⟩
    · rw [Archive.next, if_pos rfl]
      exact Nat.lt_succ_self _
    · rw [if_neg hne]
      exact h.given p hreg
  channel p hp := by
    rw [channel_register]
    rcases isRegistered_register.1 hp with rfl | ⟨hne, hreg⟩
    · rw [if_pos rfl]
      exact .create config name creator
    · -- the new channel has another key
      rw [if_neg fun heq => hne (congrArg Ref.owner heq)]
      exact h.channel p hreg

theorem clear (config : ChannelConfig) (s : ChannelService) : s.clear.Orderly config where
  given r hr := absurd hr (s.not_isRegistered_clear r)
  channel r hr := absurd hr (s.not_isRegistered_clear r)

/-- Requests keep a service orderly. -/
theorem perform (h : s.Orderly config) (users : UserRef → User) (q : UserRef)
    (request : ChannelRequest) : (s.perform config users q request).1.Orderly config := by
  have hperformed := performed config users s q request
  generalize (s.perform config users q request).1 = s' at hperformed
  cases hperformed with
  | refused => exact h
  | founded allowed free => exact h.founded _ q
  | entered allowed found =>
    obtain ⟨-, -, henabled⟩ := lookup?_eq_some_iff.1 found
    exact h.update henabled (.withMember henabled q)
  | parted found =>
    obtain ⟨-, -, henabled⟩ := lookup?_eq_some_iff.1 found
    exact h.part henabled q.owner

/-- Clients that retire keep it orderly. -/
theorem retire (h : s.Orderly config) (client : ClientId) (refs : List ChannelRef) :
    (s.retire client refs).Orderly config := by
  induction refs generalizing s with
  | nil => exact h
  | cons r refs ih =>
    refine ih (s := s.retireFrom client r) ?_
    unfold retireFrom
    split
    · next hholds => exact h.part hholds.1 client
    · exact h

/-- Members that are added to a channel in hand keep it orderly. -/
theorem enlist (h : s.Orderly config) (users : UserRef → User) (r : ChannelRef) (q : UserRef)
    (audience : Audience) : (s.enlist users r q audience).1.Orderly config := by
  have hadd := Channel.addition users (s.channel r) q audience
  unfold ChannelService.enlist
  dsimp only
  generalize (s.channel r).add users q audience = result at hadd
  cases hadd with
  | disabled closed => rwa [update_channel]
  | alreadyMember enabled member => rwa [update_channel]
  | added enabled absent => exact h.update enabled (.withMember enabled q)

/-- A member that is removed directly may leave a channel closed and registered, which is orderly
too. -/
theorem dismiss (h : s.Orderly config) (users : UserRef → User) (r : ChannelRef)
    (client : ClientId) (audience : Audience) :
    (s.dismiss users r client audience).1.Orderly config := by
  have hremove := Channel.removal users (s.channel r) client audience
  unfold ChannelService.dismiss
  dsimp only
  generalize (s.channel r).remove users client audience = result at hremove
  cases hremove with
  | disabled closed => rwa [update_channel]
  | notMember enabled absent => rwa [update_channel]
  | removed enabled member => exact h.update enabled (.withoutMember enabled client)

end Orderly

/-! ## Closed channels stay closed -/

/-- The channel was closed, and if it is still registered nobody is in it. -/
structure Defunct (s : ChannelService) (r : ChannelRef) : Prop where
  given : r.number < (s.channels.next r.owner).number
  closed : (s.channel r).enabled = false
  vacant : s.IsRegistered r → (s.channel r).IsVacant

/-- A closed channel that is registered is defunct. -/
theorem Orderly.defunct (h : s.Orderly config) (registered : s.IsRegistered r)
    (closed : (s.channel r).enabled = false) : s.Defunct r :=
  ⟨h.given r registered, closed, fun _ => (h.channel r registered).vacant closed⟩

/-- A channel exists if its number was given to one of its key. -/
theorem get?_eq_some_iff {c : Channel} :
    s.channels.get? r = some c ↔
      r.number < (s.channels.next r.owner).number ∧ s.channel r = c := by
  have hgiven : r.number < (s.channels.next r.owner).number ↔ (s.channels.get? r).isSome := by
    rw [Option.isSome_iff_ne_none, Archive.get?, Ne, List.getElem?_eq_none_iff, Nat.not_le]
    rfl
  rw [hgiven, channel]
  cases s.channels.get? r <;> simp

/-- Any closed channel that there ever was is defunct. -/
theorem Orderly.defunct_of_get? (h : s.Orderly config) {c : Channel}
    (found : s.channels.get? r = some c) (closed : c.enabled = false) : s.Defunct r := by
  obtain ⟨hgiven, rfl⟩ := get?_eq_some_iff.1 found
  exact ⟨hgiven, closed, fun hr => (h.channel r hr).vacant closed⟩

/-- A channel that comes later is another one. -/
theorem Defunct.ne_next (h : s.Defunct r) (key : String) : r ≠ s.channels.next key := by
  intro heq
  have hgiven := h.given
  rw [show r.owner = key from congrArg Ref.owner heq, ← heq] at hgiven
  exact Nat.lt_irrefl _ hgiven

theorem Defunct.of_same (h : s.Defunct r) (channel : s'.channel r = s.channel r)
    (registered : s'.IsRegistered r → s.IsRegistered r)
    (next : (s.channels.next r.owner).number ≤ (s'.channels.next r.owner).number) :
    s'.Defunct r where
  given := h.given.trans_le next
  closed := by rw [channel, h.closed]
  vacant hr := by
    rw [channel]
    exact h.vacant (registered hr)

/-- Whatever is done to the channels, a closed one stays as it is and is not registered anew. -/
theorem Defunct.move (h : s.Defunct r) (hm : Move s s') :
    s'.Defunct r ∧ s'.channel r = s.channel r ∧ (s'.IsRegistered r → s.IsRegistered r) := by
  suffices hsame : s'.channel r = s.channel r ∧ (s'.IsRegistered r → s.IsRegistered r) ∧
      (s.channels.next r.owner).number ≤ (s'.channels.next r.owner).number from
    ⟨h.of_same hsame.1 hsame.2.1 hsame.2.2, hsame.1, hsame.2.1⟩
  -- only the stop changes channels that are not in use
  have hother : ∀ {p : ChannelRef}, (s.channel p).enabled → r ≠ p := by
    intro p enabled heq
    rw [← heq, h.closed] at enabled
    cases enabled
  cases hm with
  | @founded config name creator free =>
    have hne := h.ne_next (config.keyFor name)
    refine ⟨?_, fun hr => ?_, ?_⟩
    · rw [channel_register]
      exact if_neg hne
    · rcases isRegistered_register.1 hr with heq | ⟨-, hreg⟩
      · exact absurd heq hne
      · exact hreg
    · rw [register, Archive.next_add]
      split
      · next heq =>
        rw [heq]
        exact Nat.le_succ _
      · exact Nat.le_refl _
  | @entered p enabled user =>
    refine ⟨?_, id, (congrArg Ref.number (Archive.next_update _ _ _ _)).ge⟩
    rw [channel_update enabled, if_neg (hother enabled)]
  | @parted p enabled client =>
    refine ⟨?_, fun hr => (isRegistered_part.1 hr).1,
      (congrArg Ref.number (s.next_part p client r.owner)).ge⟩
    rw [channel_part enabled, if_neg (hother enabled)]
  | @removed p enabled client =>
    refine ⟨?_, id, (congrArg Ref.number (Archive.next_update _ _ _ _)).ge⟩
    rw [channel_update enabled, if_neg (hother enabled)]
  | cleared =>
    refine ⟨?_, fun hr => absurd hr (s.not_isRegistered_clear r),
      (congrArg Ref.number (s.next_clear r.owner)).ge⟩
    rw [channel_clear]
    split
    · -- it is closed once more, with nobody in it
      next hreg => exact (h.vacant hreg).close_eq_self h.closed
    · rfl
  | refitted binding observers => exact ⟨rfl, id, Nat.le_refl _⟩

/-- A defunct channel stays as it is, and is not registered again, whatever moves are made. -/
theorem Defunct.moves (h : s.Defunct r) (hm : Moves s s') :
    s'.Defunct r ∧ s'.channel r = s.channel r ∧ (s'.IsRegistered r → s.IsRegistered r) := by
  induction hm with
  | refl => exact ⟨h, rfl, id⟩
  | tail _ hm ih =>
    obtain ⟨hdefunct, hchannel, hregistered⟩ := ih
    obtain ⟨hnext, hsame, hstill⟩ := hdefunct.move hm
    exact ⟨hnext, hsame.trans hchannel, hregistered ∘ hstill⟩

/-- There is nothing to release about a channel that is not registered. -/
theorem release_eq_self (h : ¬s.IsRegistered r) : s.release r = s := if_neg h

/-- Who joins by the name of a stale registration founds a new channel in its place. -/
theorem join_of_stale (registered : s.IsRegistered r) (closed : (s.channel r).enabled = false)
    (key : r.owner = config.keyFor name) (identified : (users q).identified)
    (valid : isValidChannelName name) :
    s.join config users q name = s.found config users q name := by
  have hfree : s.lookup? config name = none := by
    refine lookup?_eq_none_iff.2 fun p hp hreg => ?_
    rw [hreg.eq registered (hp.trans key.symm)]
    exact closed
  have hallowed : joinRefusal? config users s q name = none := by
    refine joinRefusal?_eq_none_iff.2 ⟨identified, valid, fun channel hfound => ?_⟩
    rw [hfree] at hfound
    cases hfound
  rw [join_eq, hallowed, hfree]

/-! ## Services that differ in stale registrations -/

/-- The second service is in the state of the first one, but for stale registrations that it may
lack. -/
structure Swept (s s' : ChannelService) : Prop where
  binding : s'.binding = s.binding
  observers : s'.observers = s.observers
  next : ∀ key, s'.channels.next key = s.channels.next key
  channel : ∀ r, s'.channel r = s.channel r
  registered : ∀ r, s'.IsRegistered r → s.IsRegistered r
  kept : ∀ r, s.IsRegistered r → (s.channel r).enabled → s'.IsRegistered r

/-- What is swept lacks stale registrations and nothing else. -/
theorem swept_sweep (s : ChannelService) : s.Swept s.sweep where
  binding := rfl
  observers := rfl
  next _ := rfl
  channel _ := rfl
  registered _ hr := (isRegistered_sweep.1 hr).1
  kept _ hr enabled := isRegistered_sweep.2 ⟨hr, enabled⟩

theorem Swept.refl (s : ChannelService) : s.Swept s where
  binding := rfl
  observers := rfl
  next _ := rfl
  channel _ := rfl
  registered _ := id
  kept _ hr _ := hr

namespace Swept

/-! ### What is found -/

/-- The same channels in use are registered. -/
theorem isRegistered_iff (h : s.Swept s') (enabled : (s.channel r).enabled) :
    s'.IsRegistered r ↔ s.IsRegistered r :=
  ⟨h.registered r, fun hr => h.kept r hr enabled⟩

/-- A name finds the same channel, since it finds channels in use only. -/
theorem lookup?_eq (h : s.Swept s') (config : ChannelConfig) (name : String) :
    s'.lookup? config name = s.lookup? config name := by
  ext r
  rw [lookup?_eq_some_iff, lookup?_eq_some_iff, h.channel]
  constructor
  · rintro ⟨hkey, hr, enabled⟩
    exact ⟨hkey, h.registered r hr, enabled⟩
  · rintro ⟨hkey, hr, enabled⟩
    exact ⟨hkey, h.kept r hr enabled, enabled⟩

/-- The same clients are operators of what a name finds. -/
theorem isOperator_eq (h : s.Swept s') (config : ChannelConfig) (name : String)
    (client : ClientId) : s'.isOperator config name client = s.isOperator config name client := by
  rw [isOperator, isOperator, h.lookup?_eq]
  simp only [h.channel]

/-! ### What is changed -/

/-- Stale registrations still make the only difference when a channel in use is changed. -/
theorem update (h : s.Swept s') (enabled : (s.channel r).enabled) (c : Channel) :
    (s.update r c).Swept (s'.update r c) where
  binding := h.binding
  observers := h.observers
  next key := by
    rw [ChannelService.update, ChannelService.update, Archive.next_update, Archive.next_update,
      h.next]
  channel p := by
    rw [channel_update enabled, channel_update (by rw [h.channel]; exact enabled), h.channel]
  registered := h.registered
  kept p hp hopen := by
    rw [channel_update enabled] at hopen
    split at hopen
    · next heq => exact h.kept p hp (heq ▸ enabled)
    · exact h.kept p hp hopen

theorem register (h : s.Swept s') (c : Channel) : (s.register c).Swept (s'.register c) where
  binding := h.binding
  observers := h.observers
  next key := by
    rw [ChannelService.register, ChannelService.register, Archive.next_add, Archive.next_add,
      h.next, h.next]
  channel p := by rw [channel_register, channel_register, h.next, h.channel]
  registered p hp := by
    rw [isRegistered_register, h.next] at hp
    exact isRegistered_register.2 (hp.imp_right fun hp => ⟨hp.1, h.registered p hp.2⟩)
  kept p hp hopen := by
    rw [isRegistered_register, h.next]
    rcases isRegistered_register.1 hp with heq | ⟨hne, hreg⟩
    · exact .inl heq
    · -- the new channel has another key, so this one was in use before
      rw [channel_register, if_neg fun heq => hne (congrArg Ref.owner heq)] at hopen
      exact .inr ⟨hne, h.kept p hreg hopen⟩

theorem release (h : s.Swept s') (r : ChannelRef) : (s.release r).Swept (s'.release r) where
  binding := by rw [binding_release, binding_release, h.binding]
  observers := by rw [observers_release, observers_release, h.observers]
  next key := by rw [channels_release, channels_release, h.next]
  channel p := by rw [channel_release, channel_release, h.channel]
  registered p hp := by
    obtain ⟨hne, hreg⟩ := isRegistered_release.1 hp
    exact isRegistered_release.2 ⟨hne, h.registered p hreg⟩
  kept p hp hopen := by
    obtain ⟨hne, hreg⟩ := isRegistered_release.1 hp
    rw [channel_release] at hopen
    exact isRegistered_release.2 ⟨hne, h.kept p hreg hopen⟩

/-! ### Requests -/

/-- Services that differ in stale registrations correspond in all channels: what is stale cannot be
found. -/
def correspondence (config : ChannelConfig) : Correspondence config :=
  .ofEq Swept (fun _ => True) (fun h name _ => h.lookup?_eq config name) (fun h r _ => h.channel r)
    (fun h _ c _ enabled => h.update enabled c) (fun h c _ => h.register c)
    fun h r _ => h.release r

theorem info?_eq (h : s.Swept s') (config : ChannelConfig) (users : UserRef → User)
    (name : String) : s'.info? config users name = s.info? config users name :=
  (correspondence config).info?_eq h trivial users

theorem isMember_eq (h : s.Swept s') (config : ChannelConfig) (name : String)
    (client : ClientId) : s'.isMember config name client = s.isMember config name client :=
  (correspondence config).isMember_eq h trivial client

/-- Observers that ask about a channel find the same. How many channels there are differs. -/
theorem uncounted_eq (h : s.Swept s') (config : ChannelConfig) (users : UserRef → User)
    (events : List ChannelEvent) :
    (s'.callbacks config users events).map Callback.uncounted =
      (s.callbacks config users events).map Callback.uncounted := by
  rw [uncounted_callbacks, uncounted_callbacks, h.observers]
  simp only [h.info?_eq]

theorem perform (h : s.Swept s') (request : ChannelRequest) :
    (s.perform config users q request).1.Swept (s'.perform config users q request).1 ∧
      (s'.perform config users q request).2 = (s.perform config users q request).2 :=
  (correspondence config).perform h trivial fun _ => trivial

/-! ### Rosters that are changed directly -/

/-- To add a member to a channel in hand comes to the same. -/
theorem enlist (h : s.Swept s') (r : ChannelRef) (q : UserRef) (audience : Audience) :
    (s.enlist users r q audience).1.Swept (s'.enlist users r q audience).1 ∧
      (s'.enlist users r q audience).2 = (s.enlist users r q audience).2 := by
  have hadd := Channel.addition users (s.channel r) q audience
  refine ⟨?_, ?_⟩
  · show (s.update r ((s.channel r).add users q audience).1).Swept
      (s'.update r ((s'.channel r).add users q audience).1)
    rw [h.channel]
    generalize (s.channel r).add users q audience = result at hadd
    cases hadd with
    | disabled closed =>
      -- to put back what is in a place that is closed changes nothing
      dsimp only
      rw [update_channel, ← h.channel, update_channel]
      exact h
    | alreadyMember enabled member => exact h.update enabled _
    | added enabled absent => exact h.update enabled _
  · show ((s'.channel r).add users q audience).2 = _
    rw [h.channel]
    rfl

/-- To remove a member from a channel in hand comes to the same, also where that leaves a stale
registration in both. -/
theorem dismiss (h : s.Swept s') (r : ChannelRef) (client : ClientId) (audience : Audience) :
    (s.dismiss users r client audience).1.Swept (s'.dismiss users r client audience).1 ∧
      (s'.dismiss users r client audience).2 = (s.dismiss users r client audience).2 := by
  have hremove := Channel.removal users (s.channel r) client audience
  refine ⟨?_, ?_⟩
  · show (s.update r ((s.channel r).remove users client audience).1).Swept
      (s'.update r ((s'.channel r).remove users client audience).1)
    rw [h.channel]
    generalize (s.channel r).remove users client audience = result at hremove
    cases hremove with
    | disabled closed =>
      dsimp only
      rw [update_channel, ← h.channel, update_channel]
      exact h
    | notMember enabled absent => exact h.update enabled _
    | removed enabled member => exact h.update enabled _
  · show ((s'.channel r).remove users client audience).2 = _
    rw [h.channel]
    rfl

/-! ### Clients that are gone -/

/-- A client is taken off the channels in use, which both services have registered. -/
theorem retire (h : s.Swept s') (client : ClientId) :
    (s.retire client s.refs).Swept (s'.retire client s'.refs) := by
  -- a channel that holds the client is in use, so it is registered in both or in none
  have hholds : ∀ r, (s.channel r).Holds client → (r ∈ s'.refs ↔ r ∈ s.refs) := by
    intro r hr
    rw [mem_refs_iff, mem_refs_iff, h.isRegistered_iff hr.1]
  have hchannel : ∀ r, (s'.retire client s'.refs).channel r =
      (s.retire client s.refs).channel r := by
    intro r
    have hboth := and_congr_left (hholds r)
    rw [channel_retire s.nodup_refs, channel_retire s'.nodup_refs, h.channel]
    simp only [hboth]
  constructor
  case binding => rw [binding_retire, binding_retire, h.binding]
  case observers => rw [observers_retire, observers_retire, h.observers]
  case next =>
    intro key
    rw [next_retire, next_retire, h.next]
  case channel => exact hchannel
  case registered =>
    intro r hr
    rw [isRegistered_retire s'.nodup_refs, h.channel] at hr
    rw [isRegistered_retire s.nodup_refs]
    exact ⟨h.registered r hr.1, fun hmem hold => hr.2 ((hholds r hold).2 hmem) hold⟩
  case kept =>
    intro r hr hopen
    obtain ⟨hreg, hrest⟩ := (isRegistered_retire s.nodup_refs).1 hr
    rw [channel_retire s.nodup_refs] at hopen
    rw [isRegistered_retire s'.nodup_refs, h.channel]
    refine ⟨?_, fun hmem hold => hrest ((hholds r hold).1 hmem) hold⟩
    split at hopen
    · -- a channel that has the client was in use
      next hboth => exact h.kept r hreg hboth.2.1
    · exact h.kept r hreg hopen

theorem departure_eq (h : s.Swept s') (bound : Bool) (users : UserRef → User)
    (client : ClientId) (r : ChannelRef) :
    departure bound users client s' r = departure bound users client s r := by
  rw [departure, departure, h.channel]

/-- What is told about the registered channels in turn, if nothing is told about closed ones. -/
theorem interleaved (h : s.Swept s') {β : Type} {f : ChannelRef → List β}
    {about : String → β → Bool} (closed : ∀ r, (s.channel r).enabled = false → f r = [])
    (same : ∀ r ∈ s.refs, ∀ x ∈ f r, ∀ key, about key x = decide (r.owner = key)) :
    Interleaved about (s.refs.flatMap f) (s'.refs.flatMap f) := by
  -- what the second service lacks is closed, so nothing is told about it
  have hstale : ∀ r ∈ s.refs, decide (s'.IsRegistered r) = false → f r = [] := by
    intro r hr hnot
    apply closed
    rw [← Bool.not_eq_true]
    exact fun enabled => of_decide_eq_false hnot (h.kept r (mem_refs_iff.1 hr) enabled)
  have hperm : (s.refs.filter fun r => decide (s'.IsRegistered r)).Perm s'.refs := by
    rw [List.perm_ext_iff_of_nodup (s.nodup_refs.filter _) s'.nodup_refs]
    intro r
    rw [List.mem_filter, mem_refs_iff, mem_refs_iff, decide_eq_true_iff]
    exact ⟨And.right, fun hr => ⟨h.registered r hr, hr⟩⟩
  have honce := s.nodup_owner_refs.sublist
    ((List.filter_sublist (p := fun r => decide (s'.IsRegistered r))).map Ref.owner)
  rw [← flatMap_filter hstale]
  exact (Interleaved.of_nodup hperm honce).flatMap
    fun r hr key x hx => same r (List.mem_filter.1 hr).1 x hx key

/-- A disconnect comes to the same but for the order in which it goes through the channels. -/
theorem disconnect (h : s.Swept s') (orderly : s.Orderly config) (servers : Servers)
    (users : UserRef → User) (client : ClientId) :
    (s.disconnect servers users client).1.Swept (s'.disconnect servers users client).1 ∧
      Interleaved (fun key o => o.message.concerns key)
        (s.disconnect servers users client).2.messages
        (s'.disconnect servers users client).2.messages ∧
      Interleaved (fun key e => e.concerns config key)
        (s.disconnect servers users client).2.events
        (s'.disconnect servers users client).2.events := by
  -- a closed channel tells nobody anything, so it does not matter whether it is gone through
  have hclosed : ∀ bound r, (s.channel r).enabled = false →
      departure bound users client s r = .none := by
    intro bound r closed
    unfold departure
    split
    · rfl
    · exact if_neg (by rw [closed]; exact Bool.false_ne_true)
  rw [disconnect_eq, disconnect_eq, h.binding]
  simp only [h.departure_eq]
  refine ⟨h.retire client, h.interleaved ?_ fun r _ o ho key => ?_,
    h.interleaved ?_ fun r hr e he key => ?_⟩
  · exact fun r closed => congrArg Effects.messages (hclosed _ r closed)
  · obtain ⟨member, hmember⟩ := eq_memberLeft_of_mem_departure ho
    rw [hmember]
    rfl
  · exact fun r closed => congrArg Effects.events (hclosed _ r closed)
  · exact SameUnder.concerns_of_mem_departure (orderly.channel r (mem_refs_iff.1 hr)).named he

/-! ### Stops -/

/-- What is closed by a stop is what was in use; a stale registration has nothing left to close. -/
theorem clear (h : s.Swept s') (orderly : s.Orderly config) : s.clear.Swept s'.clear := by
  obtain ⟨channels, hclear⟩ := s.clear_eq
  obtain ⟨channels', hclear'⟩ := s'.clear_eq
  constructor
  case binding => rw [hclear, hclear', h.binding]
  case observers => rw [hclear, hclear', h.observers]
  case next =>
    intro key
    rw [next_clear, next_clear, h.next]
  case channel =>
    intro r
    rw [channel_clear, channel_clear, h.channel]
    cases henabled : (s.channel r).enabled with
    | true => simp only [h.isRegistered_iff henabled]
    | false =>
      -- to close a closed channel of an orderly service changes nothing
      have hsame : s.IsRegistered r → (s.channel r).close = s.channel r :=
        fun hr => ((orderly.channel r hr).vacant henabled).close_eq_self henabled
      split_ifs with hr' hr hr
      · rfl
      · exact hsame (h.registered r hr')
      · exact (hsame hr).symm
      · rfl
  case registered => exact fun r hr => absurd hr (s'.not_isRegistered_clear r)
  case kept => exact fun r hr => absurd hr (s.not_isRegistered_clear r)

end Swept

/-- The first service is orderly, and the second one lacks some of its stale registrations. -/
structure OrderlySwept (config : ChannelConfig) (s s' : ChannelService) : Prop where
  swept : s.Swept s'
  orderly : s.Orderly config

theorem Orderly.orderlySwept_sweep (h : s.Orderly config) : s.OrderlySwept config s.sweep :=
  ⟨ChannelService.swept_sweep s, h⟩

namespace OrderlySwept

/-- A request comes to the same, and the first service is orderly after it. -/
theorem perform (h : s.OrderlySwept config s') (request : ChannelRequest) :
    (s.perform config users q request).1.OrderlySwept config (s'.perform config users q request).1 ∧
      (s'.perform config users q request).2 = (s.perform config users q request).2 := by
  obtain ⟨hswept, heffects⟩ := h.swept.perform request
  exact ⟨⟨hswept, h.orderly.perform users q request⟩, heffects⟩

theorem enlist (h : s.OrderlySwept config s') (users : UserRef → User) (r : ChannelRef)
    (q : UserRef) (audience : Audience) :
    (s.enlist users r q audience).1.OrderlySwept config (s'.enlist users r q audience).1 ∧
      (s'.enlist users r q audience).2 = (s.enlist users r q audience).2 := by
  obtain ⟨hswept, houtcome⟩ := h.swept.enlist r q audience
  exact ⟨⟨hswept, h.orderly.enlist users r q audience⟩, houtcome⟩

theorem dismiss (h : s.OrderlySwept config s') (users : UserRef → User) (r : ChannelRef)
    (client : ClientId) (audience : Audience) :
    (s.dismiss users r client audience).1.OrderlySwept config
        (s'.dismiss users r client audience).1 ∧
      (s'.dismiss users r client audience).2 = (s.dismiss users r client audience).2 := by
  obtain ⟨hswept, houtcome⟩ := h.swept.dismiss r client audience
  exact ⟨⟨hswept, h.orderly.dismiss users r client audience⟩, houtcome⟩

/-- A disconnect comes to the same but for the order of channels, and the first service is orderly
after it. -/
theorem disconnect (h : s.OrderlySwept config s') (servers : Servers) (users : UserRef → User)
    (client : ClientId) :
    (s.disconnect servers users client).1.OrderlySwept config
        (s'.disconnect servers users client).1 ∧
      Interleaved (fun key o => o.message.concerns key)
        (s.disconnect servers users client).2.messages
        (s'.disconnect servers users client).2.messages ∧
      Interleaved (fun key e => e.concerns config key)
        (s.disconnect servers users client).2.events
        (s'.disconnect servers users client).2.events := by
  obtain ⟨hswept, htold⟩ := h.swept.disconnect h.orderly servers users client
  have horderly : (s.disconnect servers users client).1.Orderly config := by
    rw [disconnect_eq]
    exact h.orderly.retire client s.refs
  exact ⟨⟨hswept, horderly⟩, htold⟩

/-- When both services are cleared the first one is still orderly. -/
theorem clear (h : s.OrderlySwept config s') : s.clear.OrderlySwept config s'.clear :=
  ⟨h.swept.clear h.orderly, .clear config s⟩

theorem rebind (h : s.OrderlySwept config s') (binding : Binding) :
    { s with binding }.OrderlySwept config { s' with binding } where
  swept := { h.swept with binding := rfl }
  orderly := { h.orderly with }

theorem observe (h : s.OrderlySwept config s') (o : Observer) :
    (s.observe o).OrderlySwept config (s'.observe o) where
  swept := { h.swept with observers := congrArg (· ++ [o]) h.swept.observers }
  orderly := { h.orderly with }

end OrderlySwept

end ChannelService

end ChatServer
