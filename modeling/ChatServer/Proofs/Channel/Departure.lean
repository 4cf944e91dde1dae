import ChatServer.Proofs.Channel.Operations

/-!
# Clients that are gone and services that stop

A disconnect takes the client off every registered channel, one after another. No two channels
disturb each other on the way, so the new state and the effects are those of each channel as it was
before: `disconnect_eq`, with `channel_retire` and `isRegistered_retire` for what becomes of a
channel. Clearing closes every registered channel and empties the registry.
-/

namespace ChatServer

/-- The client is a member, and the channel in use. -/
def Channel.Holds (c : Channel) (client : ClientId) : Prop := c.enabled ∧ c.isMember client

instance (c : Channel) (client : ClientId) : Decidable (c.Holds client) :=
  inferInstanceAs (Decidable (_ ∧ _))

theorem Channel.holds_iff {c : Channel} {client : ClientId} :
    c.Holds client ↔ c.enabled ∧ ∃ n, c.members.get? client = some n := by
  rw [Holds, isMember, Table.contains_iff]

theorem Channel.not_holds {c : Channel} {client : ClientId}
    (h : c.members.get? client = none) : ¬c.Holds client := by
  rw [holds_iff, h]
  simp

/-- What leads to nothing may be left out. -/
theorem flatMap_filter {α β : Type} {p : α → Bool} {f : α → List β} {l : List α}
    (h : ∀ x ∈ l, p x = false → f x = []) : (l.filter p).flatMap f = l.flatMap f := by
  induction l with
  | nil => rfl
  | cons x l ih =>
    obtain ⟨hx, hl⟩ := List.forall_mem_cons.1 h
    cases hp : p x with
    | true => rw [List.filter_cons_of_pos hp, List.flatMap_cons, List.flatMap_cons, ih hl]
    | false =>
      rw [List.filter_cons_of_neg (by rw [hp]; exact Bool.false_ne_true), List.flatMap_cons, hx hp,
        List.nil_append, ih hl]

/-- Where all that an item leads to is kept or dropped together, the item may be so. -/
theorem filter_flatMap_of_same {α β : Type} {p : β → Bool} {q : α → Bool} {f : α → List β}
    {l : List α} (same : ∀ x ∈ l, ∀ y ∈ f x, p y = q x) :
    (l.flatMap f).filter p = (l.filter q).flatMap f := by
  induction l with
  | nil => rfl
  | cons x l ih =>
    obtain ⟨hx, hl⟩ := List.forall_mem_cons.1 same
    rw [List.flatMap_cons, List.filter_append, ih hl]
    cases hq : q x with
    | true =>
      have hall : (f x).filter p = f x := List.filter_eq_self.2 fun y hy => (hx y hy).trans hq
      rw [hall, List.filter_cons_of_pos hq, List.flatMap_cons]
    | false =>
      have hnone : (f x).filter p = [] :=
        List.filter_eq_nil_iff.2 fun y hy => by rw [hx y hy, hq]; exact Bool.false_ne_true
      rw [hnone, List.filter_cons_of_neg (by rw [hq]; exact Bool.false_ne_true), List.nil_append]

namespace ChannelService

variable {users : UserRef → User} {s : ChannelService} {client : ClientId}

/-- The registered channels, in the order of the registry. -/
def refs (s : ChannelService) : List ChannelRef := s.registry.entries.map fun e => ⟨e.1, e.2⟩

/-- A disconnect goes through the registered channels. -/
theorem mem_refs_iff {r : ChannelRef} : r ∈ s.refs ↔ s.IsRegistered r := by
  rw [refs, List.mem_map, IsRegistered, Table.get?_eq_some_iff]
  constructor
  · intro h
    rcases h with ⟨e, he, rfl⟩
    exact he
  · intro h
    exact ⟨_, h, rfl⟩

/-- No two registered channels have the same key. -/
theorem nodup_owner_refs (s : ChannelService) : (s.refs.map Ref.owner).Nodup := by
  rw [refs, List.map_map]
  exact s.registry.nodup

/-- A disconnect goes through no channel twice. -/
theorem nodup_refs (s : ChannelService) : s.refs.Nodup := s.nodup_owner_refs.of_map _

/-- Takes a client off a channel if it is a member. -/
def retireFrom (client : ClientId) (s : ChannelService) (r : ChannelRef) : ChannelService :=
  if (s.channel r).Holds client then s.part r client else s

/-- What taking a client off a channel sends and tells, as long as a server is bound. -/
def departure (bound : Bool) (users : UserRef → User) (client : ClientId) (s : ChannelService)
    (r : ChannelRef) : Effects :=
  match (s.channel r).members.get? client with
  | none => .none
  | some n =>
    if (s.channel r).enabled then
      { messages :=
          if bound then
            announceLeave r (Roster.recipients users (s.channel r).members (some client))
              (users ⟨client, n⟩)
          else []
        events := [.left (((s.channel r).withoutMember client).info users) (users ⟨client, n⟩)] }
    else .none

/-- What is sent about a channel that a client left is a notice to another member. -/
theorem exists_of_mem_departure {bound : Bool} {r : ChannelRef} {o : Outgoing}
    (h : o ∈ (departure bound users client s r).messages) :
    ∃ n, (s.channel r).members.get? client = some n ∧
      o.client ∈ Roster.recipients users (s.channel r).members (some client) ∧
      o.message = .memberLeft r (users ⟨client, n⟩).entry := by
  unfold departure at h
  split at h
  · cases h
  · next n hn =>
    split at h
    · cases bound with
      | true =>
        obtain ⟨c, hc, rfl⟩ := List.mem_map.1 h
        exact ⟨n, hn, hc, rfl⟩
      | false => cases h
    · cases h

/-- All messages about a channel that a client left say so. -/
theorem eq_memberLeft_of_mem_departure {bound : Bool} {r : ChannelRef} {o : Outgoing}
    (h : o ∈ (departure bound users client s r).messages) :
    ∃ member, o.message = .memberLeft r member := by
  obtain ⟨n, -, -, hmessage⟩ := exists_of_mem_departure h
  exact ⟨_, hmessage⟩

/-- One step of a disconnect takes the client off one channel, and adds what that channel tells to
what was told before. -/
theorem withdraw_eq (bound : Bool) (users : UserRef → User) (client : ClientId)
    (state : ChannelService × Effects) (r : ChannelRef) :
    withdraw bound users client state r =
      (state.1.retireFrom client r,
        ⟨state.2.messages ++ (departure bound users client state.1 r).messages,
          state.2.events ++ (departure bound users client state.1 r).events⟩) := by
  rcases state with ⟨s, effects⟩
  have hremove := Channel.removal users (s.channel r) client .others
  unfold withdraw dismiss retireFrom departure
  dsimp only
  generalize (s.channel r).remove users client .others = result at hremove
  cases hremove with
  | disabled closed =>
    -- a closed channel holds nobody, whoever is still on its roster
    have hnot : ¬(s.channel r).Holds client := by
      intro h
      rw [Channel.Holds, closed] at h
      cases h.1
    rw [if_neg hnot, update_channel]
    cases (s.channel r).members.get? client <;> simp [closed, Effects.none]
  | notMember enabled absent =>
    rw [if_neg (Channel.not_holds absent), update_channel, absent]
    simp [Effects.none]
  | removed enabled member =>
    have hholds : (s.channel r).Holds client := Channel.holds_iff.2 ⟨enabled, _, member⟩
    rw [if_pos hholds, member]
    dsimp only
    rw [if_pos enabled]
    rfl

/-- Takes a client off several channels. -/
def retire (client : ClientId) (s : ChannelService) (refs : List ChannelRef) : ChannelService :=
  refs.foldl (retireFrom client) s

/-- Who retires from a channel leaves that one, and no other. -/
theorem channel_retireFrom (r q : ChannelRef) :
    (s.retireFrom client r).channel q =
      if q = r ∧ (s.channel r).Holds client then (s.channel r).withoutMember client
      else s.channel q := by
  unfold retireFrom
  split
  · next h =>
    rw [channel_part h.1]
    simp [h]
  · next h => rw [if_neg fun hq => h hq.2]

/-- Who retires from a channel takes along its registration if nobody else is left. -/
theorem isRegistered_retireFrom {r q : ChannelRef} :
    (s.retireFrom client r).IsRegistered q ↔
      s.IsRegistered q ∧
        (q = r → (s.channel r).Holds client →
          ((s.channel r).withoutMember client).members.isEmpty = false) := by
  unfold retireFrom
  split
  · next h =>
    rw [isRegistered_part]
    simp [h]
  · next h => simp [h]

/-- Who retires from several channels leaves each of them that holds it. -/
theorem channel_retire {refs : List ChannelRef} (nodup : refs.Nodup) (q : ChannelRef) :
    (s.retire client refs).channel q =
      if q ∈ refs ∧ (s.channel q).Holds client then (s.channel q).withoutMember client
      else s.channel q := by
  induction refs generalizing s with
  | nil => simp [retire]
  | cons r refs ih =>
    obtain ⟨hr, nodup⟩ := List.nodup_cons.1 nodup
    have hstep : s.retire client (r :: refs) = (s.retireFrom client r).retire client refs := rfl
    rw [hstep, ih nodup, channel_retireFrom]
    by_cases hq : q = r
    · subst hq
      simp [hr]
    · simp [hq]

/-- Who retires from several channels takes along the registrations of those where nobody else is
left. -/
theorem isRegistered_retire {refs : List ChannelRef} (nodup : refs.Nodup) {q : ChannelRef} :
    (s.retire client refs).IsRegistered q ↔
      s.IsRegistered q ∧
        (q ∈ refs → (s.channel q).Holds client →
          ((s.channel q).withoutMember client).members.isEmpty = false) := by
  induction refs generalizing s with
  | nil => simp [retire]
  | cons r refs ih =>
    obtain ⟨hr, nodup⟩ := List.nodup_cons.1 nodup
    have hstep : s.retire client (r :: refs) = (s.retireFrom client r).retire client refs := rfl
    rw [hstep, ih nodup, channel_retireFrom, isRegistered_retireFrom]
    by_cases hq : q = r
    · subst hq
      simp [hr]
    · simp [hq]

/-- Whoever is in none of the channels leaves them as they are. -/
theorem retire_eq_self {refs : List ChannelRef} (h : ∀ r ∈ refs, ¬(s.channel r).Holds client) :
    s.retire client refs = s := by
  induction refs with
  | nil => rfl
  | cons r refs ih =>
    obtain ⟨hr, hrest⟩ := List.forall_mem_cons.1 h
    have hfirst : s.retireFrom client r = s := if_neg hr
    rw [retire, List.foldl_cons, hfirst]
    exact ih hrest

/-- Who was taken off all channels is on none of them. -/
theorem retire_refs_idem (s : ChannelService) (client : ClientId) :
    (s.retire client s.refs).retire client (s.retire client s.refs).refs =
      s.retire client s.refs := by
  refine retire_eq_self fun r hr => ?_
  obtain ⟨hregistered, -⟩ := (isRegistered_retire s.nodup_refs).1 (mem_refs_iff.1 hr)
  rw [channel_retire s.nodup_refs]
  split
  · exact Channel.not_holds ((Table.get?_erase _ _ _).trans (if_pos rfl))
  · next hnot => exact fun hholds => hnot ⟨mem_refs_iff.2 hregistered, hholds⟩

@[simp]
theorem binding_retire (refs : List ChannelRef) :
    (s.retire client refs).binding = s.binding := by
  induction refs generalizing s with
  | nil => rfl
  | cons r refs ih =>
    have hfirst : (s.retireFrom client r).binding = s.binding := by
      unfold retireFrom
      split
      · exact binding_part s r client
      · rfl
    exact ih.trans hfirst

@[simp]
theorem observers_retire (refs : List ChannelRef) :
    (s.retire client refs).observers = s.observers := by
  induction refs generalizing s with
  | nil => rfl
  | cons r refs ih =>
    have hfirst : (s.retireFrom client r).observers = s.observers := by
      unfold retireFrom
      split
      · exact observers_part s r client
      · rfl
    exact ih.trans hfirst

/-- The channels that a disconnect goes through do not disturb each other. -/
theorem foldl_withdraw (bound : Bool) (users : UserRef → User) (client : ClientId)
    {refs : List ChannelRef} (nodup : refs.Nodup) (s : ChannelService) (effects : Effects) :
    refs.foldl (withdraw bound users client) (s, effects) =
      (s.retire client refs,
        ⟨effects.messages ++ refs.flatMap fun r => (departure bound users client s r).messages,
          effects.events ++ refs.flatMap fun r => (departure bound users client s r).events⟩) := by
  induction refs generalizing s effects with
  | nil => simp [retire]
  | cons r refs ih =>
    obtain ⟨hr, nodup⟩ := List.nodup_cons.1 nodup
    -- what becomes of the first channel makes no difference to the others
    have hdeparture : ∀ q ∈ refs,
        departure bound users client (s.retireFrom client r) q =
          departure bound users client s q := by
      intro q hq
      have hne : q ≠ r := fun h => hr (h ▸ hq)
      rw [departure, departure, channel_retireFrom, if_neg fun h => hne h.1]
    rw [List.foldl_cons, withdraw_eq, ih nodup]
    simp only [List.flatMap_cons, List.append_assoc, retire, List.foldl_cons]
    rw [List.flatMap_congr fun q hq => congrArg Effects.messages (hdeparture q hq),
      List.flatMap_congr fun q hq => congrArg Effects.events (hdeparture q hq)]

/-- What the disconnect of a client comes to. -/
theorem disconnect_eq (servers : Servers) (users : UserRef → User) (s : ChannelService)
    (client : ClientId) :
    s.disconnect servers users client =
      (s.retire client s.refs,
        ⟨s.refs.flatMap fun r =>
            (departure (s.binding.get? servers).isSome users client s r).messages,
          s.refs.flatMap fun r =>
            (departure (s.binding.get? servers).isSome users client s r).events⟩) := by
  have h := foldl_withdraw (s.binding.get? servers).isSome users client s.nodup_refs s .none
  exact h

/-! ## Clearing -/

/-- To close one channel leaves the others as they are. -/
theorem channel_update_close (s : ChannelService) (r q : ChannelRef) :
    (s.update r (s.channel r).close).channel q =
      if q = r then (s.channel q).close else s.channel q := by
  simp only [channel, update, Archive.get?_update]
  split
  · next hq =>
    subst hq
    cases s.channels.get? q <;> rfl
  · rfl

/-- To close the channels of all entries one after the other changes nothing but these channels. -/
theorem foldl_close (entries : List (String × Nat)) (s : ChannelService) :
    ∃ channels,
      entries.foldl (fun s e => s.update ⟨e.1, e.2⟩ (s.channel ⟨e.1, e.2⟩).close) s =
        { s with channels } ∧
      ∀ q : ChannelRef, ChannelService.channel { s with channels } q =
        if (q.owner, q.number) ∈ entries then (s.channel q).close else s.channel q := by
  induction entries generalizing s with
  | nil => exact ⟨s.channels, rfl, fun q => by simp⟩
  | cons e entries ih =>
    obtain ⟨channels, hfold, hchannel⟩ := ih (s.update ⟨e.1, e.2⟩ (s.channel ⟨e.1, e.2⟩).close)
    refine ⟨channels, hfold, fun q => ?_⟩
    rcases q with ⟨owner, number⟩
    have h := hchannel ⟨owner, number⟩
    rw [channel_update_close] at h
    refine h.trans ?_
    -- a channel that comes twice is closed twice, which is to close it
    by_cases hq : (owner, number) = e
    · subst hq
      simp [Channel.close]
    · have hne : (⟨owner, number⟩ : ChannelRef) ≠ ⟨e.1, e.2⟩ := by
        intro h
        cases h
        exact hq rfl
      simp [hq, hne]

/-- Clearing closes the registered channels and forgets them; nothing else changes. -/
theorem clear_eq (s : ChannelService) :
    ∃ channels, s.clear = { s with registry := ∅, channels } := by
  obtain ⟨channels, hfold, -⟩ := foldl_close s.registry.entries { s with registry := ∅ }
  exact ⟨channels, hfold⟩

/-- Clearing closes the registered channels and leaves the others as they are. -/
theorem channel_clear (s : ChannelService) (q : ChannelRef) :
    s.clear.channel q = if s.IsRegistered q then (s.channel q).close else s.channel q := by
  obtain ⟨channels, hfold, hchannel⟩ :=
    foldl_close s.registry.entries { s with registry := ∅ }
  have h := hchannel q
  rw [← hfold] at h
  refine h.trans ?_
  simp only [IsRegistered, Table.get?_eq_some_iff]
  rfl

/-- After clearing no channel is registered. -/
theorem not_isRegistered_clear (s : ChannelService) (q : ChannelRef) :
    ¬s.clear.IsRegistered q := by
  obtain ⟨channels, hclear⟩ := s.clear_eq
  rw [hclear]
  intro h
  cases h

end ChannelService

end ChatServer
