import ChatServer.Proofs.Channel.Departure
import Mathlib.Logic.Relation

/-!
# The registry holds the channels in use

Everything that the channel service does to its channels is one of five changes: a channel is
founded, a user enters one, a client parts from one, all are closed, and the binding or the
observers change. `Sound` is the invariant of these changes: every registered channel is intact,
every enabled channel is registered, and nobody is on the rosters of a disabled one. So the registry
counts the channels in use. Rosters only ever take current records of users, `RostersCurrent`.
-/

namespace ChatServer

namespace ChannelService

/-- A change of the channel service while the user directory is `d`. -/
inductive Change (config : ChannelConfig) (d : UserDirectory) (s : ChannelService) :
    ChannelService → Prop
  | founded {r : UserRef} {name : String} (current : d.IsCurrent r)
    (identified : (d.user r).identified) (valid : isValidChannelName name)
    (free : s.lookup? config name = none) :
    Change config d s (s.register (.create name (config.keyFor name) r))
  | entered {channel : ChannelRef} {r : UserRef} (current : d.IsCurrent r)
    (identified : (d.user r).identified) (registered : s.IsRegistered channel)
    (absent : (s.channel channel).members.get? r.owner = none) :
    Change config d s (s.update channel ((s.channel channel).withMember r))
  | parted {channel : ChannelRef} (client : ClientId) (registered : s.IsRegistered channel) :
    Change config d s (s.part channel client)
  | cleared : Change config d s s.clear
  | refitted (binding : Binding) (observers : List Observer) :
    Change config d s { s with binding, observers }

/-- A sequence of changes while the user directory is `d`. -/
abbrev Changes (config : ChannelConfig) (d : UserDirectory) :
    ChannelService → ChannelService → Prop :=
  Relation.ReflTransGen (Change config d)

variable {config : ChannelConfig} {d : UserDirectory} {s s' : ChannelService}

/-! ## The operations as changes -/

/-- A request makes one change at most, if it is by the current record of a client. -/
theorem changes_perform {r : UserRef} (current : d.IsCurrent r) (request : ChannelRequest) :
    Changes config d s (s.perform config d.user r request).1 := by
  have h := performed config d.user s r request
  generalize (s.perform config d.user r request).1 = s' at h
  cases h with
  | refused => exact .refl
  | founded allowed free =>
    obtain ⟨hi, hv, -⟩ := joinRefusal?_eq_none_iff.1 allowed
    exact .single (.founded current hi hv free)
  | entered allowed found =>
    obtain ⟨hi, hv, habsent⟩ := joinRefusal?_eq_none_iff.1 allowed
    obtain ⟨-, hreg, -⟩ := lookup?_eq_some_iff.1 found
    exact .single (.entered current hi hreg (habsent _ found))
  | parted found =>
    obtain ⟨-, hreg, -⟩ := lookup?_eq_some_iff.1 found
    exact .single (.parted r.owner hreg)

theorem changes_retire (client : ClientId) {refs : List ChannelRef} (nodup : refs.Nodup)
    (registered : ∀ r ∈ refs, s.IsRegistered r) :
    Changes config d s (s.retire client refs) := by
  induction refs generalizing s with
  | nil => exact .refl
  | cons r refs ih =>
    obtain ⟨hr, nodup⟩ := List.nodup_cons.1 nodup
    -- the channels still to come are registered whether or not the first one is released
    have hrest : ∀ q ∈ refs, (s.retireFrom client r).IsRegistered q := by
      intro q hq
      have hne : q ≠ r := fun h => hr (h ▸ hq)
      rw [isRegistered_retireFrom]
      exact ⟨registered q (List.mem_cons_of_mem r hq), fun h => absurd h hne⟩
    have hfirst : Changes config d s (s.retireFrom client r) := by
      unfold retireFrom
      split
      · exact .single (.parted client (registered r List.mem_cons_self))
      · exact .refl
    exact hfirst.trans (ih nodup hrest)

theorem changes_disconnect (servers : Servers) (users : UserRef → User) (client : ClientId) :
    Changes config d s (s.disconnect servers users client).1 := by
  rw [disconnect_eq]
  exact changes_retire client s.nodup_refs fun r hr => mem_refs_iff.1 hr

theorem changes_shutdown : Changes config d s s.shutdown :=
  .tail (.single .cleared) (.refitted .none s.clear.observers)

/-! ## Soundness -/

/-- What holds of the channels at any time. -/
structure Sound (config : ChannelConfig) (users : UserRef → User) (s : ChannelService) : Prop where
  intact : ∀ r, s.IsRegistered r → (s.channel r).Intact config users r.owner
  registered : ∀ r, (s.channel r).enabled → s.IsRegistered r
  vacant : ∀ r, (s.channel r).enabled = false → (s.channel r).IsVacant

theorem sound_initial (config : ChannelConfig) (users : UserRef → User) :
    Sound config users initial where
  intact r h := by cases h
  registered r h := by cases h
  vacant r _ := ⟨fun _ => rfl, fun _ => rfl⟩

variable {users : UserRef → User}

/-- A text that names no channel has a free key: a registered channel under it would be enabled. -/
theorem Sound.free_of_lookup? (h : Sound config users s) {name : String}
    (free : s.lookup? config name = none) {q : ChannelRef} (key : q.owner = config.keyFor name) :
    ¬s.IsRegistered q := by
  intro hregistered
  have hclosed := lookup?_eq_none_iff.1 free q key hregistered
  rw [(h.intact q hregistered).enabled] at hclosed
  cases hclosed

/-- A service is still sound when a client with a name founds a channel whose key is free. -/
theorem Sound.founded (h : Sound config users s) {r : UserRef} {name : String}
    (client : (users r).client = r.owner) (identified : (users r).identified)
    (valid : isValidChannelName name) (free : s.lookup? config name = none) :
    Sound config users (s.register (.create name (config.keyFor name) r)) := by
  constructor
  case intact =>
    intro q hq
    rw [channel_register]
    rcases isRegistered_register.1 hq with hnew | ⟨hne, hreg⟩
    · rw [if_pos hnew, hnew]
      exact Channel.intact_create valid client identified
    · rw [if_neg fun heq => hne (congrArg Ref.owner heq)]
      exact h.intact q hreg
  case registered =>
    intro q hq
    rw [channel_register] at hq
    rw [isRegistered_register]
    split at hq
    · next heq => exact .inl heq
    · have hreg := h.registered q hq
      exact .inr ⟨fun key => h.free_of_lookup? free key hreg, hreg⟩
  case vacant =>
    -- a new channel is enabled
    intro q hq
    rw [channel_register] at hq ⊢
    split at hq
    · cases hq
    · next hne =>
      rw [if_neg hne]
      exact h.vacant q hq

/-- A service is still sound when a client with a name enters a channel that it is not in. -/
theorem Sound.entered (h : Sound config users s) {channel : ChannelRef} {r : UserRef}
    (client : (users r).client = r.owner) (identified : (users r).identified)
    (registered : s.IsRegistered channel)
    (absent : (s.channel channel).members.get? r.owner = none) :
    Sound config users (s.update channel ((s.channel channel).withMember r)) := by
  have hintact := h.intact channel registered
  constructor
  case intact =>
    intro q hq
    rw [channel_update hintact.enabled]
    split
    · next heq =>
      rw [heq]
      exact hintact.withMember absent client identified
    · exact h.intact q hq
  case registered =>
    intro q hq
    rw [channel_update hintact.enabled] at hq
    split at hq
    · next heq => exact heq ▸ registered
    · exact h.registered q hq
  case vacant =>
    intro q hq
    rw [channel_update hintact.enabled] at hq ⊢
    split at hq
    -- an arrival does not close a channel
    · have henabled : (s.channel channel).enabled = false := hq
      rw [hintact.enabled] at henabled
      cases henabled
    · next hne =>
      rw [if_neg hne]
      exact h.vacant q hq

/-- A service is still sound when a client leaves a channel: an empty one is released. -/
theorem Sound.parted (h : Sound config users s) {channel : ChannelRef}
    (registered : s.IsRegistered channel) (client : ClientId) :
    Sound config users (s.part channel client) := by
  have hintact := h.intact channel registered
  constructor
  case intact =>
    intro q hq
    obtain ⟨hreg, hrest⟩ := isRegistered_part.1 hq
    rw [channel_part hintact.enabled]
    split
    · next heq =>
      rw [heq]
      exact hintact.withoutMember (hrest heq)
    · exact h.intact q hreg
  case registered =>
    intro q hq
    rw [channel_part hintact.enabled] at hq
    rw [isRegistered_part]
    split at hq
    · next heq =>
      subst heq
      refine ⟨registered, fun _ => ?_⟩
      -- the channel without the client is enabled only if someone is left
      simpa [Channel.withoutMember] using hq
    · next hne => exact ⟨h.registered q hq, fun heq => absurd heq hne⟩
  case vacant =>
    intro q hq
    rw [channel_part hintact.enabled] at hq ⊢
    split at hq
    · next heq =>
      rw [if_pos heq]
      exact hintact.operatorsBelong.isVacant_withoutMember hq
    · next hne =>
      rw [if_neg hne]
      exact h.vacant q hq

theorem Sound.cleared (h : Sound config users s) : Sound config users s.clear where
  intact q hq := absurd hq (s.not_isRegistered_clear q)
  registered q hq := by
    rw [channel_clear] at hq
    split at hq
    · cases hq
    · next hreg => exact absurd (h.registered q hq) hreg
  vacant q hq := by
    rw [channel_clear] at hq ⊢
    split at hq
    · next hreg =>
      rw [if_pos hreg]
      exact ⟨fun _ => rfl, fun _ => rfl⟩
    · next hreg =>
      rw [if_neg hreg]
      exact h.vacant q hq

/-- Every change keeps a service sound. -/
theorem Sound.change (h : Sound config d.user s) (client : ∀ r, (d.user r).client = r.owner)
    (hc : Change config d s s') : Sound config d.user s' := by
  cases hc with
  | founded current identified valid free => exact h.founded (client _) identified valid free
  | entered current identified registered absent =>
    exact h.entered (client _) identified registered absent
  | parted client registered => exact h.parted registered client
  | cleared => exact h.cleared
  | refitted binding observers => exact ⟨h.intact, h.registered, h.vacant⟩

theorem Sound.changes (h : Sound config d.user s) (client : ∀ r, (d.user r).client = r.owner)
    (hc : Changes config d s s') : Sound config d.user s' := by
  induction hc with
  | refl => exact h
  | tail _ hc ih => exact ih.change client hc

/-- Channels stay sound when the records of users change as records can. -/
theorem Sound.of_evolves {d' : UserDirectory} (h : Sound config d.user s) (hd : d.Evolves d') :
    Sound config d'.user s where
  intact r hr := (h.intact r hr).of_becomes fun _ hi => hd.user hi
  registered := h.registered
  vacant := h.vacant

/-- Channels that are not registered have no members. -/
theorem Sound.registered_of_member (h : Sound config users s) {r : ChannelRef} {c : ClientId}
    {n : Nat} (member : (s.channel r).members.get? c = some n) : s.IsRegistered r := by
  apply h.registered
  rw [← Bool.not_eq_false]
  intro hclosed
  rw [(h.vacant r hclosed).members c] at member
  cases member

/-- The operators of a channel are members. -/
theorem Sound.member_of_operator (h : Sound config users s) {r : ChannelRef} {c : ClientId}
    {n : Nat} (operator : (s.channel r).operators.get? c = some n) :
    (s.channel r).members.get? c = some n := by
  cases he : (s.channel r).enabled with
  | true => exact (h.intact r (h.registered r he)).operator c n operator
  | false =>
    rw [(h.vacant r he).operators c] at operator
    cases operator

/-- A text names a registered channel exactly if its key is registered. -/
theorem Sound.lookup?_eq (h : Sound config users s) (name : String) :
    s.lookup? config name = s.registered? (config.keyFor name) := by
  rw [lookup?]
  cases hr : s.registered? (config.keyFor name) with
  | none => rfl
  | some r =>
    have hreg := (registered?_eq_some_iff.1 hr).2
    exact Option.filter_some_pos (h.intact r hreg).enabled

/-- There are as many registered channels as enabled ones among all that were ever created. -/
theorem Sound.count_eq (h : Sound config users s) :
    s.count = s.channels.all.countP fun c => c.enabled := by
  have hcount : s.count = s.refs.length := (List.length_map _).symm
  rw [hcount, Archive.countP_all s.nodup_refs]
  intro r
  rw [mem_refs_iff]
  constructor
  · intro hr
    have he := (h.intact r hr).enabled
    rw [channel] at he
    cases hc : s.channels.get? r with
    | none => simp [hc, Channel.absent] at he
    | some c => exact ⟨c, rfl, by simpa [hc] using he⟩
  · intro hr
    rcases hr with ⟨c, hc, he⟩
    exact h.registered r (by rw [channel, hc]; exact he)

/-! ## Rosters of current records -/

/-- The members of the registered channels are connected, under the records that the rosters
hold. -/
def RostersCurrent (s : ChannelService) (d : UserDirectory) : Prop :=
  ∀ r c n, s.IsRegistered r → (s.channel r).members.get? c = some n → d.IsCurrent ⟨c, n⟩

/-- Every change keeps rosters current: who is added has the current record of its client. -/
theorem RostersCurrent.change (h : s.RostersCurrent d) (hs : Sound config d.user s)
    (hc : Change config d s s') : s'.RostersCurrent d := by
  intro q c n hq hm
  cases hc with
  -- who comes in has its current record on the roster, and nobody else is added
  | @founded r name current identified valid free =>
    rw [channel_register] at hm
    rcases isRegistered_register.1 hq with hnew | ⟨hkey, hold⟩
    · rw [if_pos hnew] at hm
      rw [Channel.get?_create hm]
      exact current
    · rw [if_neg fun heq => hkey (congrArg Ref.owner heq)] at hm
      exact h q c n hold hm
  | @entered channel r current identified registered absent =>
    rw [channel_update (hs.intact channel registered).enabled] at hm
    split at hm
    · next heq =>
      rw [Channel.get?_withMember] at hm
      split at hm
      · next hc =>
        rw [hc, ← Option.some.inj hm]
        exact current
      · exact h channel c n registered hm
    · exact h q c n hq hm
  | @parted channel client registered =>
    obtain ⟨hreg, -⟩ := isRegistered_part.1 hq
    rw [channel_part (hs.intact channel registered).enabled] at hm
    split at hm
    · rw [Channel.get?_withoutMember] at hm
      split at hm
      · cases hm
      · exact h channel c n registered hm
    · exact h q c n hreg hm
  | cleared => exact absurd hq (s.not_isRegistered_clear q)
  | refitted binding observers => exact h q c n hq hm

theorem RostersCurrent.changes (h : s.RostersCurrent d) (hs : Sound config d.user s)
    (client : ∀ r, (d.user r).client = r.owner) (hc : Changes config d s s') :
    s'.RostersCurrent d := by
  induction hc with
  | refl => exact h
  | tail hcs hc ih => exact ih.change (hs.changes client hcs) hc

/-- Rosters are current in a directory that keeps the current records of all members. -/
theorem RostersCurrent.of_ref?_eq {d' : UserDirectory} (h : s.RostersCurrent d)
    (href : ∀ r c n, s.IsRegistered r → (s.channel r).members.get? c = some n →
      d'.ref? c = d.ref? c) : s.RostersCurrent d' := by
  intro r c n hr hm
  have hcurrent : d.ref? c = some ⟨c, n⟩ := h r c n hr hm
  exact (href r c n hr hm).trans hcurrent

/-- Who disconnected is a member of no registered channel. -/
theorem not_member_disconnect {users : UserRef → User} (hs : Sound config users s)
    {servers : Servers} {view : UserRef → User} {client : ClientId} {r : ChannelRef}
    (hr : (s.disconnect servers view client).1.IsRegistered r) :
    ((s.disconnect servers view client).1.channel r).members.get? client = none := by
  rw [disconnect_eq] at hr ⊢
  obtain ⟨hreg, -⟩ := (isRegistered_retire s.nodup_refs).1 hr
  rw [channel_retire s.nodup_refs]
  split
  · rw [Channel.get?_withoutMember, if_pos rfl]
  · next hnot =>
    -- a registered channel is enabled, so it can only be that the client is no member
    rw [Option.eq_none_iff_forall_ne_some]
    intro n hn
    apply hnot
    exact ⟨mem_refs_iff.2 hreg, Channel.holds_iff.2 ⟨(hs.intact r hreg).enabled, n, hn⟩⟩

end ChannelService

end ChatServer
