import ChatServer.Proofs.Channel.Correspondence
import ChatServer.Proofs.Channel.Registry

/-!
# Channels of different keys do not disturb each other

`SameUnder key` relates two services that may differ in everything but the channels that ever had
the key. What is done to channels of other keys keeps services so related, and what is done to the
channel under the key has the same effects in both and leaves them related. A disconnect or the
clearing of all channels goes through both kinds of channels, so both facts together carry it.
-/

namespace ChatServer

/-- Whether a message is about the channel under a key, if it is about a channel that others are in
at all. -/
def ServerMessage.concerns (key : String) : ServerMessage → Bool
  | memberJoined channel _ => channel.owner = key
  | memberLeft channel _ => channel.owner = key
  | _ => true

/-- Whether an event is about the channel under a key, if it is about a channel at all. -/
def ChannelEvent.concerns (config : ChannelConfig) (key : String) (event : ChannelEvent) : Bool :=
  event.channel?.all fun info => config.keyFor info.name = key

/-- What observers notice that only care for the channel under a key: the events about it and, of
what they then find out, how many members it has. -/
def Callback.notices (config : ChannelConfig) (key : String) (callbacks : List Callback) :
    List (Nat × ChannelEvent × Option Nat) :=
  (callbacks.filter fun c => c.event.concerns config key).map fun c =>
    (c.observer, c.event, c.memberCount)

/-- What an observer notices, apart from how many channels there are. -/
def Callback.uncounted (c : Callback) : Nat × ChannelEvent × Option Nat :=
  (c.observer, c.event, c.memberCount)

theorem Callback.notices_eq (config : ChannelConfig) (key : String) (callbacks : List Callback) :
    notices config key callbacks =
      (callbacks.map uncounted).filter fun n => n.2.1.concerns config key := by
  rw [List.filter_map]
  rfl

theorem Callback.notices_flatMap {α : Type} (config : ChannelConfig) (key : String)
    (items : List α) (f : α → List Callback) :
    notices config key (items.flatMap f) = items.flatMap fun x => notices config key (f x) := by
  rw [notices, List.filter_flatMap, List.map_flatMap]
  rfl

namespace ChannelService

/-- Two services that differ at most in channels of other keys. -/
structure SameUnder (key : String) (s s' : ChannelService) : Prop where
  binding : s'.binding = s.binding
  observers : s'.observers = s.observers
  registered : s'.registry.get? key = s.registry.get? key
  history : s'.channels.history key = s.channels.history key

/-- Apart from the number of channels, observers find out about the channel of the event. -/
theorem uncounted_callbacks (config : ChannelConfig) (users : UserRef → User) (s : ChannelService)
    (events : List ChannelEvent) :
    (s.callbacks config users events).map Callback.uncounted =
      events.flatMap fun event =>
        s.observers.filterMap fun
          | .silent => none
          | .recording number =>
            some (number, event,
              event.channel?.bind fun c => (s.info? config users c.name).map (·.memberCount)) := by
  rw [callbacks, List.map_flatMap]
  refine List.flatMap_congr fun event _ => ?_
  rw [List.map_filterMap]
  refine List.filterMap_congr fun o _ => ?_
  cases o <;> rfl

namespace SameUnder

variable {config : ChannelConfig} {users : UserRef → User} {key : String}
  {s s' s'' : ChannelService} {r : ChannelRef} {name : String}

theorem refl (key : String) (s : ChannelService) : SameUnder key s s := ⟨rfl, rfl, rfl, rfl⟩

theorem symm (h : SameUnder key s s') : SameUnder key s' s :=
  ⟨h.binding.symm, h.observers.symm, h.registered.symm, h.history.symm⟩

theorem trans (h : SameUnder key s s') (h' : SameUnder key s' s'') : SameUnder key s s'' :=
  ⟨h'.binding.trans h.binding, h'.observers.trans h.observers, h'.registered.trans h.registered,
    h'.history.trans h.history⟩

/-! ## What is found under the key -/

/-- The same channels are found under the key. -/
theorem channel_eq (h : SameUnder key s s') (owner : r.owner = key) :
    s'.channel r = s.channel r := by
  rw [channel, channel, Archive.get?, Archive.get?, owner, h.history]

theorem registered?_eq (h : SameUnder key s s') : s'.registered? key = s.registered? key := by
  rw [registered?, registered?, h.registered]

/-- The same channel is found by the names that have the key. -/
theorem lookup?_eq (h : SameUnder key s s') (hkey : config.keyFor name = key) :
    s'.lookup? config name = s.lookup? config name := by
  rw [lookup?, lookup?, hkey, h.registered?_eq]
  cases hr : s.registered? key with
  | none => rfl
  | some r => simp only [Option.filter, h.channel_eq (registered?_eq_some_iff.1 hr).1]

/-! ## Changes of other channels -/

/-- A channel under another key can be changed in one service alone. -/
theorem of_update (ne : r.owner ≠ key) (c : Channel) : SameUnder key s (s.update r c) where
  binding := rfl
  observers := rfl
  registered := rfl
  history := (Archive.history_update _ _ _ _).trans (if_neg ne.symm)

/-- A channel with another key can be registered in one service alone. -/
theorem of_register {c : Channel} (ne : c.key ≠ key) : SameUnder key s (s.register c) where
  binding := rfl
  observers := rfl
  registered := (Table.get?_insert _ _ _ _).trans (if_neg ne.symm)
  history := (Archive.history_add _ _ _ _).trans (if_neg ne.symm)

/-- A channel under another key can be released in one service alone. -/
theorem of_release (ne : r.owner ≠ key) : SameUnder key s (s.release r) := by
  unfold release
  split
  · exact ⟨rfl, rfl, (Table.get?_erase _ _ _).trans (if_neg ne.symm), rfl⟩
  · exact .refl key s

/-- A client can leave a channel under another key in one service alone. -/
theorem of_part (ne : r.owner ≠ key) (client : ClientId) : SameUnder key s (s.part r client) := by
  unfold part
  dsimp only
  split
  · exact (of_update ne _).trans (of_release ne)
  · exact of_update ne _

/-- A request about another channel. -/
theorem of_perform (users : UserRef → User) (s : ChannelService) (r : UserRef)
    {request : ChannelRequest} (ne : config.keyFor request.name ≠ key) :
    SameUnder key s (s.perform config users r request).1 := by
  have h := performed config users s r request
  generalize (s.perform config users r request).1 = s' at h
  cases h with
  | refused => exact .refl key s
  | founded allowed free => exact of_register ne
  | entered allowed found =>
    refine of_update ?_ _
    rwa [(lookup?_eq_some_iff.1 found).1]
  | parted found =>
    refine of_part ?_ _
    rwa [(lookup?_eq_some_iff.1 found).1]

/-! ## Changes of the channel under the key -/

/-- Services are still the same under the key when a channel is changed in both. -/
theorem update (h : SameUnder key s s') (r : ChannelRef) (c : Channel) :
    SameUnder key (s.update r c) (s'.update r c) where
  binding := h.binding
  observers := h.observers
  registered := h.registered
  history := by
    simp only [ChannelService.update, Archive.history_update, h.history]

theorem register (h : SameUnder key s s') {c : Channel} (hkey : c.key = key) :
    SameUnder key (s.register c) (s'.register c) where
  binding := h.binding
  observers := h.observers
  registered := by
    simp only [ChannelService.register, Table.get?_insert, Archive.next, hkey, h.history, if_true]
  history := by
    simp only [ChannelService.register, Archive.history_add, hkey, h.history]

theorem release (h : SameUnder key s s') (owner : r.owner = key) :
    SameUnder key (s.release r) (s'.release r) := by
  unfold ChannelService.release
  rw [owner, h.registered]
  split
  · refine ⟨h.binding, h.observers, ?_, h.history⟩
    simp only [Table.get?_erase, if_pos]
  · exact h

/-- Services that are the same under a key correspond in the channels that have the key. -/
def correspondence (config : ChannelConfig) (key : String) : Correspondence config :=
  .ofEq (SameUnder key) (· = key) (fun h _ hkey => h.lookup?_eq hkey)
    (fun h _ hr => h.channel_eq hr)
    (fun h r c _ _ => h.update r c) (fun h _ hc => h.register hc) fun h _ hr => h.release hr

/-- A request about the channel under the key comes to the same. -/
theorem perform (h : SameUnder key s s') (users : UserRef → User) (r : UserRef)
    {request : ChannelRequest} (hkey : config.keyFor request.name = key) :
    SameUnder key (s.perform config users r request).1 (s'.perform config users r request).1 ∧
      (s'.perform config users r request).2 = (s.perform config users r request).2 :=
  (correspondence config key).perform h hkey fun _ => trivial

/-! ## Changes of all channels -/

/-- Of the registered channels at most one has the key. -/
theorem filter_refs (key : String) (s : ChannelService) :
    (s.refs.filter fun r => r.owner = key) = (s.registered? key).toList := by
  rw [refs, List.filter_map, registered?]
  have hentries := s.registry.filter_entries key
  rw [show ((fun r : ChannelRef => decide (r.owner = key)) ∘ fun e : String × Nat => ⟨e.1, e.2⟩) =
    fun e => decide (e.1 = key) from rfl, hentries]
  cases s.registry.get? key <;> rfl

/-- Only the channel under the key matters to what is done to several channels in turn. -/
theorem foldl_filter {f : ChannelService → ChannelRef → ChannelService}
    (other : ∀ s r, r.owner ≠ key → SameUnder key s (f s r))
    (same : ∀ s s' r, r.owner = key → SameUnder key s s' → SameUnder key (f s r) (f s' r))
    (h : SameUnder key s s') (refs : List ChannelRef) :
    SameUnder key (refs.foldl f s) ((refs.filter fun r => r.owner = key).foldl f s') := by
  induction refs generalizing s s' with
  | nil => exact h
  | cons r refs ih =>
    -- a channel of another key is gone through on the left only
    by_cases hr : r.owner = key
    · rw [List.filter_cons_of_pos (by simpa using hr)]
      exact ih (same s s' r hr h)
    · rw [List.filter_cons_of_neg (by simpa using hr)]
      exact ih ((other s r hr).symm.trans h)

/-- Services are still the same under the key when both go through their channels, if only those
under the key matter for it. -/
theorem foldl_refs {f : ChannelService → ChannelRef → ChannelService}
    (other : ∀ s r, r.owner ≠ key → SameUnder key s (f s r))
    (same : ∀ s s' r, r.owner = key → SameUnder key s s' → SameUnder key (f s r) (f s' r))
    (h : SameUnder key s s') {t t' : ChannelService} (ht : SameUnder key t t') :
    SameUnder key (s.refs.foldl f t) (s'.refs.foldl f t') := by
  -- the two services may list different channels, so each side is compared with the one channel
  -- that both have under the key
  have hleft := foldl_filter other same ht s.refs
  have hright := foldl_filter other same (refl key t') s'.refs
  rw [filter_refs, h.registered?_eq] at hright
  rw [filter_refs] at hleft
  exact hleft.trans hright.symm

/-- Services are still the same under the key when a client disconnects from both. -/
theorem disconnect (h : SameUnder key s s') (servers : Servers) (users : UserRef → User)
    (client : ClientId) :
    SameUnder key (s.disconnect servers users client).1
      (s'.disconnect servers users client).1 := by
  rw [disconnect_eq, disconnect_eq]
  refine foldl_refs (f := retireFrom client) (fun s r hr => ?_)
    (fun s s' r hr h => (correspondence {} key).retireFrom h hr client) h h
  unfold retireFrom
  split
  · exact of_part hr client
  · exact .refl key s

theorem clear (h : SameUnder key s s') : SameUnder key s.clear s'.clear := by
  -- clearing goes through the registered channels too, once the registry is empty
  have hclear : ∀ s : ChannelService, s.clear =
      s.refs.foldl (fun s r => s.update r (s.channel r).close) { s with registry := ∅ } := by
    intro s
    rw [refs, List.foldl_map]
    rfl
  rw [hclear, hclear]
  refine foldl_refs (fun s r hr => of_update hr _) (fun s s' r hr h => ?_) h
    ⟨h.binding, h.observers, rfl, h.history⟩
  rw [h.channel_eq hr]
  exact h.update r _

theorem observe (h : SameUnder key s s') (o : Observer) :
    SameUnder key (s.observe o) (s'.observe o) where
  binding := h.binding
  observers := congrArg (· ++ [o]) h.observers
  registered := h.registered
  history := h.history

/-! ## What is told about the channel under the key -/

theorem departure_eq (h : SameUnder key s s') (owner : r.owner = key) (bound : Bool)
    (users : UserRef → User) (client : ClientId) :
    departure bound users client s' r = departure bound users client s r := by
  rw [departure, departure, h.channel_eq owner]

/-- What is told about all registered channels in turn, as far as it is about the one under the
key. -/
theorem filter_flatMap_refs {β : Type} {f : ChannelRef → List β} {p : β → Bool}
    (hp : ∀ r ∈ s.refs, ∀ x ∈ f r, p x = decide (r.owner = key)) :
    (s.refs.flatMap f).filter p = (s.registered? key).toList.flatMap f := by
  rw [← filter_refs]
  exact filter_flatMap_of_same hp

/-- A disconnect tells the members of the channel under the key the same. -/
theorem messages_disconnect (h : SameUnder key s s') (servers : Servers)
    (users : UserRef → User) (client : ClientId) :
    ((s'.disconnect servers users client).2.messages.filter fun o => o.message.concerns key) =
      (s.disconnect servers users client).2.messages.filter fun o => o.message.concerns key := by
  have hfilter : ∀ s : ChannelService,
      ((s.disconnect servers users client).2.messages.filter fun o => o.message.concerns key) =
        (s.registered? key).toList.flatMap fun r =>
          (departure (s.binding.get? servers).isSome users client s r).messages := by
    intro s
    rw [disconnect_eq]
    refine filter_flatMap_refs fun r _ o ho => ?_
    obtain ⟨member, hmember⟩ := eq_memberLeft_of_mem_departure ho
    rw [hmember]
    rfl
  rw [hfilter, hfilter, h.registered?_eq, h.binding]
  refine List.flatMap_congr fun r hr => ?_
  have howner := (registered?_eq_some_iff.1 (Option.mem_toList.1 hr)).1
  rw [h.departure_eq howner]

/-- The events of a departure are about its channel. -/
theorem concerns_of_mem_departure {bound : Bool} {client : ClientId}
    (named : (s.channel r).enabled → config.keyFor (s.channel r).name = r.owner)
    {event : ChannelEvent} (he : event ∈ (departure bound users client s r).events) :
    event.concerns config key = decide (r.owner = key) := by
  unfold departure at he
  split at he
  · cases he
  · split at he
    · next henabled =>
      obtain rfl := List.mem_singleton.1 he
      show decide (config.keyFor (s.channel r).name = key) = _
      rw [named henabled]
    · cases he

/-- A disconnect tells the observers the same about the channel under the key. -/
theorem events_disconnect (h : SameUnder key s s') (hs : Sound config users s)
    (hs' : Sound config users s') (servers : Servers) (client : ClientId) :
    ((s'.disconnect servers users client).2.events.filter fun e => e.concerns config key) =
      (s.disconnect servers users client).2.events.filter fun e => e.concerns config key := by
  have hfilter : ∀ s : ChannelService, Sound config users s →
      ((s.disconnect servers users client).2.events.filter fun e => e.concerns config key) =
        (s.registered? key).toList.flatMap fun r =>
          (departure (s.binding.get? servers).isSome users client s r).events := by
    intro s hs
    rw [disconnect_eq]
    refine filter_flatMap_refs fun r hr e he => concerns_of_mem_departure (fun _ => ?_) he
    exact (hs.intact r (mem_refs_iff.1 hr)).keyFor_name
  rw [hfilter s hs, hfilter s' hs', h.registered?_eq, h.binding]
  refine List.flatMap_congr fun r hr => ?_
  have howner := (registered?_eq_some_iff.1 (Option.mem_toList.1 hr)).1
  rw [h.departure_eq howner]

/-- What observers notice is found out at the channel under the key alone. -/
theorem notices_callbacks (config : ChannelConfig) (users : UserRef → User) (key : String)
    (s : ChannelService) (events : List ChannelEvent) :
    Callback.notices config key (s.callbacks config users events) =
      (events.filter fun e => e.concerns config key).flatMap fun event =>
        s.observers.filterMap fun
          | .silent => none
          | .recording number =>
            some (number, event,
              event.channel?.bind fun c => (s.info? config users c.name).map (·.memberCount)) := by
  rw [Callback.notices_eq, uncounted_callbacks]
  -- all callbacks of one event stay or go together
  refine filter_flatMap_of_same fun event _ n hn => ?_
  obtain ⟨o, -, ho⟩ := List.mem_filterMap.1 hn
  cases o with
  | silent => cases ho
  | recording number =>
    cases ho
    rfl

/-- Observers notice the same if they are told the same about the channel under the key. -/
theorem notices_eq (h : SameUnder key s s') {events events' : List ChannelEvent}
    (hevents : (events'.filter fun e => e.concerns config key) =
      events.filter fun e => e.concerns config key) :
    Callback.notices config key (s'.callbacks config users events') =
      Callback.notices config key (s.callbacks config users events) := by
  rw [notices_callbacks, notices_callbacks, hevents, h.observers]
  refine List.flatMap_congr fun event he => ?_
  -- the channel of an event about the key is asked for under this key
  have hkey : ∀ info, event.channel? = some info → config.keyFor info.name = key := by
    intro info hinfo
    have hconcerns := (List.mem_filter.1 he).2
    rw [ChannelEvent.concerns, hinfo] at hconcerns
    exact of_decide_eq_true hconcerns
  have hcount :
      (event.channel?.bind fun c => (s'.info? config users c.name).map (·.memberCount)) =
        event.channel?.bind fun c => (s.info? config users c.name).map (·.memberCount) := by
    cases hinfo : event.channel? with
    | none => rfl
    | some info =>
      have hsame := (correspondence config key).info?_eq h (hkey info hinfo) users
      rw [Option.bind_some, Option.bind_some, hsame]
  rw [hcount]

end SameUnder

end ChannelService

end ChatServer
