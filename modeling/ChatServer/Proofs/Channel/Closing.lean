import ChatServer.Proofs.Channel.Departure
import Mathlib.Logic.Relation

/-!
# Channels that are closed for good

A channel in use is registered, and nobody is on the rosters of any other. That holds whether the
rosters are changed by the service or past it, by whoever has a channel in hand: `Move` lists all
that can be done to channels, `Tidy` is what no move disturbs. So a service that was cleared has
only closed channels. As long as nothing is registered it stays that way, and a closed channel
refuses everyone.
-/

namespace ChatServer

namespace Channel

variable {c : Channel}

theorem isVacant_close (c : Channel) : c.close.IsVacant := ⟨fun _ => rfl, fun _ => rfl⟩

/-- There is nothing left to close about a closed channel that nobody is in. -/
theorem IsVacant.close_eq_self (h : c.IsVacant) (closed : c.enabled = false) : c.close = c := by
  rcases c with ⟨name, key, enabled, members, operators⟩
  obtain rfl : enabled = false := closed
  obtain rfl : members = ∅ := Table.eq_empty h.members
  obtain rfl : operators = ∅ := Table.eq_empty h.operators
  rfl

/-- Nobody is added to a closed channel. -/
theorem add_of_closed (closed : c.enabled = false) (users : UserRef → User) (r : UserRef)
    (audience : Audience) : c.add users r audience = (c, .disabled) := by
  rw [add, closed]
  rfl

/-- Nobody is removed from a closed channel. -/
theorem remove_of_closed (closed : c.enabled = false) (users : UserRef → User)
    (client : ClientId) (audience : Audience) :
    c.remove users client audience = (c, .disabled) := by
  rw [remove, closed]
  rfl

end Channel

namespace ChannelService

variable {users : UserRef → User} {s s' : ChannelService} {r : ChannelRef}

/-! ## All that can be done to channels -/

/-- Something that is done to the channels, by the service or past it. -/
inductive Move (s : ChannelService) : ChannelService → Prop
  | founded {config : ChannelConfig} {name : String} (creator : UserRef)
    (free : s.lookup? config name = none) :
    Move s (s.register (.create name (config.keyFor name) creator))
  | entered {r : ChannelRef} (enabled : (s.channel r).enabled) (user : UserRef) :
    Move s (s.update r ((s.channel r).withMember user))
  | parted {r : ChannelRef} (enabled : (s.channel r).enabled) (client : ClientId) :
    Move s (s.part r client)
  /-- A client is taken off the roster of a channel, which stays registered. -/
  | removed {r : ChannelRef} (enabled : (s.channel r).enabled) (client : ClientId) :
    Move s (s.update r ((s.channel r).withoutMember client))
  | cleared : Move s s.clear
  | refitted (binding : Binding) (observers : List Observer) :
    Move s { s with binding, observers }

/-- A sequence of moves. -/
abbrev Moves : ChannelService → ChannelService → Prop := Relation.ReflTransGen Move

/-- A request makes one move at most. -/
theorem moves_perform (config : ChannelConfig) (users : UserRef → User) (s : ChannelService)
    (q : UserRef) (request : ChannelRequest) : Moves s (s.perform config users q request).1 := by
  have h := performed config users s q request
  generalize (s.perform config users q request).1 = s' at h
  cases h with
  | refused => exact .refl
  | founded allowed free => exact .single (.founded q free)
  | entered allowed found => exact .single (.entered (lookup?_eq_some_iff.1 found).2.2 q)
  | parted found => exact .single (.parted (lookup?_eq_some_iff.1 found).2.2 q.owner)

/-- Who disconnects is moved out of one channel after the other. -/
theorem moves_disconnect (servers : Servers) (users : UserRef → User) (s : ChannelService)
    (client : ClientId) : Moves s (s.disconnect servers users client).1 := by
  rw [disconnect_eq]
  generalize s.refs = refs
  show Moves s (s.retire client refs)
  induction refs generalizing s with
  | nil => exact .refl
  | cons r refs ih =>
    refine .trans ?_ (ih (s.retireFrom client r))
    unfold retireFrom
    split
    · next hholds => exact .single (.parted hholds.1 client)
    · exact .refl

theorem moves_enlist (users : UserRef → User) (s : ChannelService) (r : ChannelRef) (q : UserRef)
    (audience : Audience) : Moves s (s.enlist users r q audience).1 := by
  have h := Channel.addition users (s.channel r) q audience
  unfold enlist
  dsimp only
  generalize (s.channel r).add users q audience = result at h
  cases h with
  | disabled closed => rw [update_channel]
  | alreadyMember enabled member => rw [update_channel]
  | added enabled absent => exact .single (.entered enabled q)

theorem moves_dismiss (users : UserRef → User) (s : ChannelService) (r : ChannelRef)
    (client : ClientId) (audience : Audience) : Moves s (s.dismiss users r client audience).1 := by
  have h := Channel.removal users (s.channel r) client audience
  unfold dismiss
  dsimp only
  generalize (s.channel r).remove users client audience = result at h
  cases h with
  | disabled closed => rw [update_channel]
  | notMember enabled absent => rw [update_channel]
  | removed enabled member => exact .single (.removed enabled client)

/-! ## What no move disturbs -/

/-- Every channel in use is registered, and nobody is on the rosters of a closed one. -/
structure Tidy (s : ChannelService) : Prop where
  registered : ∀ r, (s.channel r).enabled → s.IsRegistered r
  vacant : ∀ r, (s.channel r).enabled = false → (s.channel r).IsVacant
  belong : ∀ r, (s.channel r).OperatorsBelong

theorem tidy_initial : initial.Tidy where
  registered _ h := by cases h
  vacant _ _ := ⟨fun _ => rfl, fun _ => rfl⟩
  belong _ _ _ h := by cases h

/-- A channel in use is changed; if that closes it, nobody is left. -/
theorem Tidy.update (h : s.Tidy) {c : Channel} (enabled : (s.channel r).enabled)
    (vacant : c.enabled = false → c.IsVacant) (belong : c.OperatorsBelong) :
    (s.update r c).Tidy := by
  constructor
  case registered =>
    intro q hq
    rw [channel_update enabled] at hq
    split at hq
    · next heq => exact heq ▸ h.registered r enabled
    · exact h.registered q hq
  case vacant =>
    intro q hq
    rw [channel_update enabled] at hq ⊢
    split at hq
    · next heq =>
      rw [if_pos heq]
      exact vacant hq
    · next hne =>
      rw [if_neg hne]
      exact h.vacant q hq
  case belong =>
    intro q
    rw [channel_update enabled]
    split
    · exact belong
    · exact h.belong q

/-- A service is still tidy when a member is gone: the last one closes the channel. -/
theorem Tidy.removed (h : s.Tidy) (enabled : (s.channel r).enabled) (client : ClientId) :
    (s.update r ((s.channel r).withoutMember client)).Tidy :=
  h.update enabled (h.belong r).isVacant_withoutMember ((h.belong r).withoutMember client)

theorem Tidy.parted (h : s.Tidy) (enabled : (s.channel r).enabled) (client : ClientId) :
    (s.part r client).Tidy := by
  have hremoved := h.removed enabled client
  unfold part
  dsimp only
  split
  · next hempty =>
    -- only a channel that is closed by now is released
    refine ⟨fun q hq => ?_, fun q => ?_, fun q => ?_⟩
    · rw [channel_release] at hq
      refine isRegistered_release.2 ⟨fun heq => ?_, hremoved.registered q hq⟩
      rw [heq, channel_update enabled, if_pos rfl] at hq
      have hopen : (!(((s.channel r).withoutMember client).members.isEmpty)) = true := hq
      rw [hempty] at hopen
      cases hopen
    · rw [channel_release]
      exact hremoved.vacant q
    · rw [channel_release]
      exact hremoved.belong q
  · exact hremoved

/-- A channel that is founded is in use, registered, and has its key for itself. -/
theorem Tidy.founded (h : s.Tidy) {config : ChannelConfig} {name : String}
    (free : s.lookup? config name = none) (creator : UserRef) :
    (s.register (.create name (config.keyFor name) creator)).Tidy := by
  constructor
  case registered =>
    intro q hq
    rw [channel_register] at hq
    rw [isRegistered_register]
    split at hq
    · next heq => exact .inl heq
    · -- what is registered under the key until now is closed
      refine .inr ⟨fun key => ?_, h.registered q hq⟩
      rw [lookup?_eq_none_iff.1 free q key (h.registered q hq)] at hq
      cases hq
  case vacant =>
    intro q hq
    rw [channel_register] at hq ⊢
    split at hq
    · cases hq
    · next hne =>
      rw [if_neg hne]
      exact h.vacant q hq
  case belong =>
    intro q
    rw [channel_register]
    split
    · exact Channel.operatorsBelong_create _ _ _
    · exact h.belong q

/-- Once everything is cleared no channel is in use, and nobody is in any. -/
theorem Tidy.closed_clear (h : s.Tidy) (r : ChannelRef) :
    (s.clear.channel r).enabled = false ∧ (s.clear.channel r).IsVacant := by
  rw [channel_clear]
  split
  · exact ⟨rfl, Channel.isVacant_close _⟩
  · next hnot =>
    have hclosed := Bool.eq_false_of_not_eq_true (mt (h.registered r) hnot)
    exact ⟨hclosed, h.vacant r hclosed⟩

/-- Every move keeps a service tidy. -/
theorem Tidy.move (h : s.Tidy) (hm : Move s s') : s'.Tidy := by
  cases hm with
  | founded creator free => exact h.founded free creator
  | @entered r enabled user =>
    refine h.update enabled (fun hclosed => ?_) ((h.belong r).withMember user)
    -- an arrival does not close a channel, and this one was in use
    have hclosed : (s.channel r).enabled = false := hclosed
    rw [enabled] at hclosed
    cases hclosed
  | parted enabled client => exact h.parted enabled client
  | removed enabled client => exact h.removed enabled client
  | cleared =>
    refine ⟨fun r hr => ?_, fun r _ => (h.closed_clear r).2, fun r client n hn => ?_⟩
    · rw [(h.closed_clear r).1] at hr
      cases hr
    · rw [(h.closed_clear r).2.operators client] at hn
      cases hn
  | refitted binding observers => exact ⟨h.registered, h.vacant, h.belong⟩

theorem Tidy.moves (h : s.Tidy) (hm : Moves s s') : s'.Tidy := by
  induction hm with
  | refl => exact h
  | tail _ hm ih => exact ih.move hm

/-! ## A service that was stopped -/

/-- The service is bound to no server and has no channels; those that there were are closed and
empty. -/
structure IsStopped (s : ChannelService) : Prop where
  unbound : s.binding = .none
  registry : s.registry = ∅
  closed : ∀ r, (s.channel r).enabled = false
  vacant : ∀ r, (s.channel r).IsVacant

/-- A tidy service that shuts down is stopped. -/
theorem Tidy.isStopped_shutdown (h : s.Tidy) : s.shutdown.IsStopped := by
  obtain ⟨channels, hclear⟩ := s.clear_eq
  refine ⟨rfl, ?_, fun r => (h.closed_clear r).1, fun r => (h.closed_clear r).2⟩
  rw [shutdown, hclear]

namespace IsStopped

variable (h : s.IsStopped)
include h

/-- There is nothing left to clear in a stopped service. -/
theorem clear_eq_self : s.clear = s := by
  rw [clear, h.registry]
  show { s with registry := ∅ } = s
  rw [← h.registry]

/-- A stopped service can be shut down again, and nothing happens. -/
theorem shutdown_eq_self : s.shutdown = s := by
  rw [shutdown, h.clear_eq_self, ← h.unbound]

theorem observe (o : Observer) : (s.observe o).IsStopped :=
  ⟨h.unbound, h.registry, h.closed, h.vacant⟩

theorem get?_binding (servers : Servers) : s.binding.get? servers = none := by
  rw [h.unbound]
  rfl

/-- Who disconnects is on no channel. -/
theorem disconnect_eq_self (servers : Servers) (users : UserRef → User) (client : ClientId) :
    s.disconnect servers users client = (s, .none) := by
  rw [disconnect_eq, refs, h.registry]
  rfl

/-- Whoever still has a channel in hand puts nobody on its roster. -/
theorem enlist_eq (users : UserRef → User) (r : ChannelRef) (user : UserRef)
    (audience : Audience) : s.enlist users r user audience = (s, .disabled) := by
  rw [enlist, Channel.add_of_closed (h.closed r), update_channel]

/-- Nobody is removed from a channel that a stopped service once had. -/
theorem dismiss_eq (users : UserRef → User) (r : ChannelRef) (client : ClientId)
    (audience : Audience) : s.dismiss users r client audience = (s, .disabled) := by
  rw [dismiss, Channel.remove_of_closed (h.closed r), update_channel]

end IsStopped

end ChannelService

end ChatServer
