import ChatServer.Proofs.Channel.Closing
import ChatServer.Proofs.Channel.Listings

/-!
# A service with a past

A service that was stopped keeps the channels that it once had, closed, so that whoever has one in
hand finds it closed. When the service starts again, new channels take their numbers after these.
Apart from the numbers, which nobody is told, it does what a new service does: `Resumes` relates the
two, and every operation keeps it.
-/

namespace ChatServer

/-- The name of the record that comes as many places later as its owner has records of the past. -/
def Ref.later {κ : Type} (past : κ → Nat) (r : Ref κ) : Ref κ := ⟨r.owner, past r.owner + r.number⟩

/-- Moved past what there was, numbers still tell channels apart. -/
theorem Ref.later_inj {κ : Type} {past : κ → Nat} {r q : Ref κ} :
    r.later past = q.later past ↔ r = q := by
  rcases r with ⟨owner, number⟩
  rcases q with ⟨owner', number'⟩
  simp only [later, Ref.mk.injEq]
  constructor
  · intro h
    obtain ⟨rfl, hnumber⟩ := h
    exact ⟨rfl, Nat.add_left_cancel hnumber⟩
  · intro h
    obtain ⟨rfl, rfl⟩ := h
    exact ⟨rfl, rfl⟩

/-- Clients get the same frames, and observers are told the same. -/
structure Effects.Alike (a b : Effects) : Prop where
  messages : b.messages.map Outgoing.framed = a.messages.map Outgoing.framed
  events : b.events = a.events

theorem Effects.Alike.refl (a : Effects) : a.Alike a := ⟨rfl, rfl⟩

/-- The next name of an owner moves on by one when it is given to a record. -/
theorem Archive.next_add {κ α : Type} [DecidableEq κ] (a : Archive κ α) (k : κ) (x : α) (j : κ) :
    (a.add k x).next j = if j = k then ⟨k, (a.next k).number + 1⟩ else a.next j := by
  simp only [next, history_add]
  split
  · next h =>
    rw [List.length_append, h]
    rfl
  · rfl

namespace ChannelService

variable {config : ChannelConfig} {users : UserRef → User} {s s' : ChannelService}
  {r : ChannelRef} {q : UserRef} {name : String} {past : String → Nat}

/-- To clear everything gives no number back. -/
theorem next_clear (s : ChannelService) (key : String) :
    s.clear.channels.next key = s.channels.next key := by
  have hfold : ∀ (entries : List (String × Nat)) (s : ChannelService),
      (entries.foldl (fun s e => s.update ⟨e.1, e.2⟩ (s.channel ⟨e.1, e.2⟩).close) s).channels.next
        key = s.channels.next key := by
    intro entries
    induction entries with
    | nil => exact fun s => rfl
    | cons e entries ih => exact fun s => (ih _).trans (Archive.next_update _ _ _ _)
  exact hfold s.registry.entries { s with registry := ∅ }

/-- The second service is in the state of the first one, but for channels of the past. -/
structure Resumes (past : String → Nat) (s s' : ChannelService) : Prop where
  binding : s'.binding = s.binding
  observers : s'.observers = s.observers
  registry : s'.registry = s.registry.mapValues fun key n => past key + n
  next : ∀ key, s'.channels.next key = (s.channels.next key).later past
  channel : ∀ r : ChannelRef, s'.channel (r.later past) = s.channel r

/-- A service that was stopped is a new one with a past. -/
theorem IsStopped.resumes (h : s.IsStopped) :
    Resumes (fun key => (s.channels.history key).length)
      { initial with observers := s.observers } s where
  binding := h.unbound
  observers := rfl
  registry := h.registry
  next _ := rfl
  channel r := by
    have hnone : s.channels.get? (r.later fun key => (s.channels.history key).length) = none :=
      List.getElem?_eq_none (Nat.le_add_right _ _)
    rw [ChannelService.channel, hnone]
    rfl

namespace Resumes

/-! ## What is found -/

/-- The same channels are registered, under later numbers. -/
theorem isRegistered_later_iff (h : Resumes past s s') :
    s'.IsRegistered (r.later past) ↔ s.IsRegistered r := by
  rw [IsRegistered, IsRegistered, h.registry, Table.get?_mapValues, Option.map_eq_some_iff]
  constructor
  · intro hn
    obtain ⟨n, hn, heq⟩ := hn
    rw [Nat.add_left_cancel heq] at hn
    exact hn
  · exact fun hn => ⟨_, hn, rfl⟩

/-- A key finds the same channel under its later number. -/
theorem registered?_eq (h : Resumes past s s') (key : String) :
    s'.registered? key = (s.registered? key).map (Ref.later past) := by
  rw [registered?, registered?, h.registry, Table.get?_mapValues, Option.map_map, Option.map_map]
  rfl

theorem lookup?_eq (h : Resumes past s s') (config : ChannelConfig) (name : String) :
    s'.lookup? config name = (s.lookup? config name).map (Ref.later past) := by
  rw [lookup?, lookup?, h.registered?_eq]
  cases s.registered? (config.keyFor name) with
  | none => rfl
  | some r =>
    rw [Option.map_some, Option.filter_some, Option.filter_some, h.channel]
    split <;> rfl

theorem count_eq (h : Resumes past s s') : s'.count = s.count := by
  rw [count, count, h.registry, Table.size_mapValues]

/-- A disconnect goes through the same channels in the same order. -/
theorem refs_eq (h : Resumes past s s') : s'.refs = s.refs.map (Ref.later past) := by
  rw [refs, refs, h.registry, Table.mapValues, List.map_map, List.map_map]
  rfl

/-! ## What is changed -/

/-- A channel is changed in both services. -/
theorem update (h : Resumes past s s') (enabled : (s.channel r).enabled) (c : Channel) :
    Resumes past (s.update r c) (s'.update (r.later past) c) where
  binding := h.binding
  observers := h.observers
  registry := h.registry
  next key := by
    rw [ChannelService.update, ChannelService.update, Archive.next_update, Archive.next_update,
      h.next]
  channel p := by
    have enabled' : (s'.channel (r.later past)).enabled := by rw [h.channel]; exact enabled
    rw [channel_update enabled, channel_update enabled']
    simp only [Ref.later_inj, h.channel]

/-- A channel is registered in both services. -/
theorem register (h : Resumes past s s') (c : Channel) :
    Resumes past (s.register c) (s'.register c) where
  binding := h.binding
  observers := h.observers
  registry := by
    rw [ChannelService.register, ChannelService.register, h.next, h.registry,
      Table.mapValues_insert]
    rfl
  next key := by
    rw [ChannelService.register, ChannelService.register, Archive.next_add, Archive.next_add,
      h.next, h.next]
    split <;> rfl
  channel p := by
    rw [channel_register, channel_register, h.next]
    simp only [Ref.later_inj, h.channel]

/-- A channel is released in both services. -/
theorem release (h : Resumes past s s') (r : ChannelRef) :
    Resumes past (s.release r) (s'.release (r.later past)) := by
  have hiff := h.isRegistered_later_iff (r := r)
  unfold IsRegistered at hiff
  unfold ChannelService.release
  simp only [hiff]
  split
  · refine ⟨h.binding, h.observers, ?_, h.next, h.channel⟩
    show s'.registry.erase r.owner = _
    rw [h.registry, Table.mapValues_erase]
  · exact h

/-! ## Requests -/

/-- Who joins a channel that has another number is told and sent the same. -/
theorem alike_joinEffects (users : UserRef → User) (r : ChannelRef) (c : Channel) (q : UserRef) :
    (joinEffects config users r c q).Alike (joinEffects config users (r.later past) c q) := by
  refine ⟨?_, rfl⟩
  show (_ :: announceJoin _ _ _).map _ = (_ :: announceJoin _ _ _).map _
  rw [List.map_cons, List.map_cons, framed_announceJoin, framed_announceJoin]

/-- Who leaves a channel that has another number is told and sent the same. -/
theorem alike_leaveEffects (users : UserRef → User) (r : ChannelRef) (c : Channel) (q : UserRef)
    (departed : User) (name : String) :
    (leaveEffects users r c q departed name).Alike
      (leaveEffects users (r.later past) c q departed name) := by
  refine ⟨?_, rfl⟩
  rw [leaveEffects, leaveEffects, List.map_append, List.map_append, framed_announceLeave,
    framed_announceLeave]

/-- A service with a past corresponds to a new one in all channels that are not of the past. -/
def correspondence (config : ChannelConfig) (past : String → Nat) : Correspondence config :=
  .ofSame (Resumes past) (fun _ => True) (Ref.later past) Effects.Alike
    (fun h name _ => h.lookup?_eq config name) (fun h r _ => h.channel r)
    (fun h _ c _ enabled => h.update enabled c) (fun h c _ => h.register c)
    (fun h r _ => h.release r) Effects.Alike.refl alike_joinEffects alike_leaveEffects

/-- A request comes to the same in a service with a past and in a new one. -/
theorem perform (h : Resumes past s s') (request : ChannelRequest) :
    Resumes past (s.perform config users q request).1 (s'.perform config users q request).1 ∧
      (s.perform config users q request).2.Alike (s'.perform config users q request).2 :=
  (correspondence config past).perform h trivial fun _ => trivial

theorem info?_eq (h : Resumes past s s') (name : String) :
    s'.info? config users name = s.info? config users name :=
  (correspondence config past).info?_eq h trivial users

/-- Observers notice the same. -/
theorem callbacks_eq (h : Resumes past s s') (events : List ChannelEvent) :
    s'.callbacks config users events = s.callbacks config users events := by
  rw [callbacks, callbacks, h.observers, h.count_eq]
  simp only [h.info?_eq]

/-! ## Clients that are gone -/

/-- A client retires from the same channels in both services. -/
theorem retire (h : Resumes past s s') (client : ClientId) (refs : List ChannelRef) :
    Resumes past (s.retire client refs) (s'.retire client (refs.map (Ref.later past))) := by
  induction refs generalizing s s' with
  | nil => exact h
  | cons r refs ih => exact ih ((correspondence {} past).retireFrom h trivial client)

/-- What the others are told when a client leaves a channel is alike. -/
theorem departure (h : Resumes past s s') (bound : Bool) (client : ClientId) (r : ChannelRef) :
    (departure bound users client s r).Alike (departure bound users client s' (r.later past)) := by
  unfold ChannelService.departure
  rw [h.channel]
  split
  · exact .refl _
  · split
    · refine ⟨?_, rfl⟩
      dsimp only
      split
      · rw [framed_announceLeave, framed_announceLeave]
      · rfl
    · exact .refl _

/-- A disconnect comes to the same in a service with a past and in a new one. -/
theorem disconnect (h : Resumes past s s') (servers : Servers) (users : UserRef → User)
    (client : ClientId) :
    Resumes past (s.disconnect servers users client).1 (s'.disconnect servers users client).1 ∧
      (s.disconnect servers users client).2.Alike (s'.disconnect servers users client).2 := by
  rw [disconnect_eq, disconnect_eq, h.binding, h.refs_eq]
  refine ⟨h.retire client s.refs, ?_, ?_⟩
  · simp only [List.map_flatMap, List.flatMap_map]
    exact List.flatMap_congr fun r _ => (h.departure _ client r).messages
  · simp only [List.flatMap_map]
    exact List.flatMap_congr fun r _ => (h.departure _ client r).events

/-! ## Stops -/

/-- When both services are cleared, the one with a past has one still. -/
theorem clear (h : Resumes past s s') : Resumes past s.clear s'.clear := by
  obtain ⟨channels, hclear⟩ := s.clear_eq
  obtain ⟨channels', hclear'⟩ := s'.clear_eq
  refine ⟨?_, ?_, ?_, fun key => ?_, fun r => ?_⟩
  · rw [hclear, hclear']
    exact h.binding
  · rw [hclear, hclear']
    exact h.observers
  · rw [hclear, hclear']
    rfl
  · rw [next_clear, next_clear, h.next]
  · rw [channel_clear, channel_clear, h.channel]
    simp only [h.isRegistered_later_iff]

end Resumes

end ChannelService

end ChatServer
