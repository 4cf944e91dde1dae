import ChatServer.Proofs.Channel.Replay
import ChatServer.Proofs.World.Traces

/-!
# Observers know the members

An observer that is there from the start is told of everything that happens to the channels. As long
as the channel service is neither stopped nor shut down, the events that it gets, replayed one after
another, lead to exactly the members of the registered channels, and each event fits the state in
which it arrives. All observers get the same events in the same order.
-/

namespace ChatServer

/-- The observer that comes with a step. -/
def Step.observers : Step → List Observer
  | .observe o => [o]
  | _ => []

/-- Whether a step closes all channels at once, of which no event tells. -/
def Step.closesChannels : Step → Bool
  | .stop .channels => true
  | .shutdown .channels => true
  | _ => false

/-- The events that reach an observer, in order. -/
def Callback.heard (number : Nat) (callbacks : List Callback) : List ChannelEvent :=
  (callbacks.filter fun c => c.observer = number).map fun c => c.event

namespace Callback

variable {number : Nat}

theorem heard_append (before after : List Callback) :
    heard number (before ++ after) = heard number before ++ heard number after := by
  simp [heard]

theorem heard_flatMap {α : Type} (items : List α) (f : α → List Callback) :
    heard number (items.flatMap f) = items.flatMap fun x => heard number (f x) := by
  induction items with
  | nil => rfl
  | cons x items ih => rw [List.flatMap_cons, List.flatMap_cons, heard_append, ih]

end Callback

namespace ChannelService

open Callback (heard)

/-- An observer hears every event as many times as it was registered. -/
theorem heard_callbacks (config : ChannelConfig) (users : UserRef → User) (s : ChannelService)
    (number : Nat) (events : List ChannelEvent) :
    heard number (s.callbacks config users events) =
      events.flatMap fun event => List.replicate (s.observers.count (.recording number)) event := by
  rw [callbacks, Callback.heard_flatMap]
  refine List.flatMap_congr fun event _ => ?_
  induction s.observers with
  | nil => rfl
  | cons o observers ih =>
    cases o with
    | silent => simpa using ih
    | recording other =>
      by_cases h : other = number
      · subst h
        simpa [heard, List.replicate_succ] using ih
      · simpa [heard, h, List.count_cons] using ih

end ChannelService

namespace World

open Callback (heard)
open Occupancy (Replays)

variable {rules : Rules} {w : World} {number : Nat}

/-! ## Who observes -/

/-- Observers are added at the end, and none is ever taken away. -/
theorem observers_step (rules : Rules) (w : World) (st : Step) :
    (w.step rules st).1.channels.observers = w.channels.observers ++ st.observers := by
  suffices h : (∃ o, st = .observe o) ∨
      (w.step rules st).1.channels.observers = w.channels.observers ∧ st.observers = [] by
    rcases h with ⟨o, rfl⟩ | ⟨hsame, hnone⟩
    · rfl
    · rw [hsame, hnone, List.append_nil]
  -- only one step adds an observer, and the others are gone through to see that they do not
  cases st with
  | observe o => exact .inl ⟨o, rfl⟩
  | connect hooks client hostname suffix =>
    refine .inr ⟨?_, rfl⟩
    obtain ⟨users, hw⟩ := step_connect_frame rules w hooks client hostname suffix
    rw [hw]
  | disconnect hooks client =>
    refine .inr ⟨?_, rfl⟩
    rw [step_disconnect_eq_run]
    induction hooks generalizing w with
    | nil => rfl
    | cons c hooks ih =>
      refine (ih _).trans ?_
      cases c with
      | channels =>
        obtain ⟨record, hstep⟩ := step_disconnect_channels rules w client
        rw [hstep, ChannelService.disconnect_eq]
        exact ChannelService.observers_retire _
      | users => rfl
      | freshChannels => rfl
      | freshForeign => rfl
  | message c client code p =>
    refine .inr ⟨?_, rfl⟩
    have h := delivery rules w c client code p
    show (w.deliver rules c client code p).1.channels.observers = _
    generalize (w.deliver rules c client code p).1 = w' at h
    cases h with
    | refused c => rfl
    | claimed bound read current => rfl
    | requested bound read current => exact ChannelService.observers_perform _ _ _ _ _
  | stop c =>
    refine .inr ⟨?_, rfl⟩
    cases c with
    | channels =>
      obtain ⟨channels, hclear⟩ := w.channels.clear_eq
      show w.channels.clear.observers = _
      rw [hclear]
    | users => rfl
    | freshChannels => rfl
    | freshForeign => rfl
  | shutdown c =>
    refine .inr ⟨?_, rfl⟩
    cases c with
    | channels =>
      obtain ⟨channels, hclear⟩ := w.channels.clear_eq
      show w.channels.clear.observers = _
      rw [hclear]
    | users => rfl
    | freshChannels => rfl
    | freshForeign => rfl
  | register c i =>
    obtain ⟨binding, hc⟩ := (register_frame w c i).2
    refine .inr ⟨?_, rfl⟩
    show (w.register c i).1.channels.observers = _
    rw [hc]
  | attach c i =>
    obtain ⟨binding, hc⟩ := (attach_frame w c i).2
    refine .inr ⟨?_, rfl⟩
    show (w.attach c i).1.channels.observers = _
    rw [hc]
  | start c => exact .inr ⟨rfl, rfl⟩
  | createServer => exact .inr ⟨rfl, rfl⟩
  | dropServer i => exact .inr ⟨rfl, rfl⟩
  | enlist channel user audience => exact .inr ⟨rfl, rfl⟩
  | dismiss channel client audience => exact .inr ⟨rfl, rfl⟩

/-! ## What the observers hear of a step -/

/-- The callbacks tell every observer that is registered once the same events, and these lead from
the members that the one service has to those that the other has. -/
def Announces (config : ChannelConfig) (s s' : ChannelService) (noticed : List Callback) : Prop :=
  ∃ events, Replays config s.occupancy events s'.occupancy ∧
    ∀ number, s.observers.count (.recording number) = 1 → heard number noticed = events

variable {config : ChannelConfig} {s s' s'' : ChannelService}

/-- Where nobody comes or goes nothing is announced. -/
theorem announces_nothing (h : s'.occupancy = s.occupancy) : Announces config s s' [] := by
  refine ⟨[], ?_, fun _ _ => rfl⟩
  rw [h]
  exact .nil _

/-- Events that lead from one occupancy to the other are announced to every observer. -/
theorem announces_callbacks {users : UserRef → User} {events : List ChannelEvent}
    (observers : s'.observers = s.observers)
    (h : Replays config s.occupancy events s'.occupancy) :
    Announces config s s' (s'.callbacks config users events) := by
  refine ⟨events, h, fun number once => ?_⟩
  rw [ChannelService.heard_callbacks, observers, once]
  simp

theorem Announces.append {first rest : List Callback} (h : Announces config s s' first)
    (observers : s'.observers = s.observers) (h' : Announces config s' s'' rest) :
    Announces config s s'' (first ++ rest) := by
  obtain ⟨events, hreplays, hheard⟩ := h
  obtain ⟨more, hreplays', hheard'⟩ := h'
  refine ⟨events ++ more, hreplays.append hreplays', fun number once => ?_⟩
  rw [Callback.heard_append, hheard number once, hheard' number (by rw [observers, once])]

/-- What the observers hear of a disconnect of which one component learns. -/
theorem announces_disconnect (h : w.Sound rules) (c : ComponentId) (client : ClientId) :
    Announces rules.channel w.channels (w.step rules (.disconnect [c] client)).1.channels
      (w.occurrence rules (.disconnect [c] client)).callbacks := by
  cases c with
  | channels =>
    obtain ⟨record, hstep⟩ := step_disconnect_channels rules w client
    rw [occurrence_disconnect_channels, hstep]
    refine announces_callbacks ?_
      (ChannelService.replays_disconnect h.channels h.directory.client w.servers client)
    rw [ChannelService.disconnect_eq]
    exact ChannelService.observers_retire _
  | users => exact announces_nothing rfl
  | freshChannels => exact announces_nothing rfl
  | freshForeign => exact announces_nothing rfl

/-- What the observers hear of a message. -/
theorem announces_message (h : w.Sound rules) (c : ComponentId) (client : ClientId)
    (code : UInt16) (p : Payload) :
    Announces rules.channel w.channels (w.step rules (.message c client code p)).1.channels
      (w.occurrence rules (.message c client code p)).callbacks := by
  have hstep : ∀ c, w.step rules (.message c client code p) = w.deliver rules c client code p :=
    fun _ => rfl
  cases c with
  | channels =>
    rw [occurrence_channels, hstep, deliver_channels]
    rcases w.requestOf client code p with ⟨result, rest⟩
    cases result with
    | error e => exact announces_nothing rfl
    | ok request =>
      obtain ⟨i, r, request⟩ := request
      exact announces_callbacks (ChannelService.observers_perform _ _ _ _ _)
        (ChannelService.replays_perform h.channels h.directory.client r request)
  -- a claim is not about channels, and nobody who observes channels hears of it
  | users =>
    rw [occurrence_users, hstep, deliver_users]
    rcases w.claimOf client code p with ⟨result, rest⟩
    cases result with
    | error e => exact announces_nothing rfl
    | ok claim => exact announces_nothing rfl
  | freshChannels => exact announces_nothing rfl
  | freshForeign => exact announces_nothing rfl

/-- What the observers hear of a step leads to the members after it. -/
theorem announces_step (h : w.Sound rules) {st : Step} (direct : st.isDirect = false)
    (opened : st.closesChannels = false) :
    Announces rules.channel w.channels (w.step rules st).1.channels
      (w.occurrence rules st).callbacks := by
  cases st with
  | connect hooks client hostname suffix =>
    refine announces_nothing ?_
    obtain ⟨users, hw⟩ := step_connect_frame rules w hooks client hostname suffix
    rw [hw]
  | disconnect hooks client =>
    -- each component's callbacks continue from the members that the one before it left
    rw [occurrence, callbacks_disconnect, step_disconnect_eq_run]
    clear direct opened
    induction hooks generalizing w with
    | nil => exact announces_nothing rfl
    | cons c hooks ih =>
      refine (announces_disconnect h c client).append ?_ (ih (h.step rfl))
      exact (observers_step rules w _).trans (List.append_nil _)
  | message c client code p => exact announces_message h c client code p
  | stop c =>
    cases c with
    | channels => cases opened
    | users => exact announces_nothing rfl
    | freshChannels => exact announces_nothing rfl
    | freshForeign => exact announces_nothing rfl
  | shutdown c =>
    cases c with
    | channels => cases opened
    | users => exact announces_nothing rfl
    | freshChannels => exact announces_nothing rfl
    | freshForeign => exact announces_nothing rfl
  | register c i =>
    obtain ⟨binding, hc⟩ := (register_frame w c i).2
    refine announces_nothing ?_
    show (w.register c i).1.channels.occupancy = _
    rw [hc]
    rfl
  | attach c i =>
    obtain ⟨binding, hc⟩ := (attach_frame w c i).2
    refine announces_nothing ?_
    show (w.attach c i).1.channels.occupancy = _
    rw [hc]
    rfl
  | start c => exact announces_nothing rfl
  | createServer => exact announces_nothing rfl
  | dropServer i => exact announces_nothing rfl
  | observe o => exact announces_nothing rfl
  | enlist channel user audience => cases direct
  | dismiss channel client audience => cases direct

/-! ## What an observer hears of a run -/

/-- Everything that the observers notice in a run. -/
def noticed (rules : Rules) (w : World) (steps : List Step) : List Callback :=
  (w.trace rules steps).flatMap fun e => e.callbacks

/-- An observer is there from the start, and no step registers it again. -/
structure Attends (w : World) (steps : List Step) (number : Nat) : Prop where
  registered : .recording number ∈ w.channels.observers
  once : (w.channels.observers ++ steps.flatMap Step.observers).count (.recording number) = 1

/-- An observer that attends is there once. -/
theorem Attends.count_eq_one {steps : List Step} (h : w.Attends steps number) :
    w.channels.observers.count (.recording number) = 1 := by
  have hpos := List.count_pos_iff.2 h.registered
  have honce := h.once
  rw [List.count_append] at honce
  omega

/-- An observer that attends some steps attends those after the first. -/
theorem Attends.step {st : Step} {steps : List Step} (h : w.Attends (st :: steps) number)
    (rules : Rules) : (w.step rules st).1.Attends steps number where
  registered := by
    rw [observers_step]
    exact List.mem_append_left _ h.registered
  once := by
    rw [observers_step, List.append_assoc]
    exact h.once

/-- What the observers hear of a run leads to the members after it. -/
theorem announces_run (h : w.Sound rules) {steps : List Step}
    (hsteps : ∀ st ∈ steps, st.isDirect = false ∧ st.closesChannels = false) :
    ∃ events,
      Replays rules.channel w.channels.occupancy events (w.run rules steps).channels.occupancy ∧
        ∀ number, w.Attends steps number → heard number (w.noticed rules steps) = events := by
  induction steps generalizing w with
  | nil => exact ⟨[], .nil _, fun _ _ => rfl⟩
  | cons st steps ih =>
    obtain ⟨⟨hdirect, hopen⟩, hsteps⟩ := List.forall_mem_cons.1 hsteps
    obtain ⟨events, hreplays, hheard⟩ := announces_step h hdirect hopen
    obtain ⟨more, hreplays', hheard'⟩ := ih (h.step hdirect) hsteps
    refine ⟨events ++ more, hreplays.append hreplays', fun number hnumber => ?_⟩
    show heard number ((w.occurrence rules st).callbacks ++ _) = _
    rw [Callback.heard_append, hheard number hnumber.count_eq_one]
    exact congrArg _ (hheard' number (hnumber.step rules))

/-- The world in which some observers were registered before anything else happened. -/
def observed (rules : Rules) (observers : List Observer) : World :=
  initial.run rules (observers.map .observe)

/-- A world that only has observers is sound. -/
theorem sound_observed (rules : Rules) (observers : List Observer) :
    (observed rules observers).Sound rules := by
  refine (sound_initial rules).run fun st hst => ?_
  obtain ⟨o, -, rfl⟩ := List.mem_map.1 hst
  rfl

/-- Nobody is in any channel of it. -/
theorem occupancy_observed (rules : Rules) (observers : List Observer) :
    (observed rules observers).channels.occupancy = Occupancy.closed := by
  rw [observed]
  generalize hw : initial = w
  have hclosed : w.channels.occupancy = Occupancy.closed := by
    rw [← hw]
    rfl
  clear hw
  induction observers generalizing w with
  | nil => exact hclosed
  | cons o observers ih => exact ih _ hclosed

/-- After every run in which the channels were not closed all at once, the events that an observer
heard since the start, replayed in order, lead to exactly the registered channels and their members.
Each of them fits the state that the events before it led to, and all observers heard the same. -/
theorem events_replay_to_registry (rules : Rules) {observers : List Observer} {steps : List Step}
    {number : Nat} (attends : (observed rules observers).Attends steps number)
    (hsteps : ∀ st ∈ steps, st.isDirect = false ∧ st.closesChannels = false) :
    let events := heard number ((observed rules observers).noticed rules steps)
    Occupancy.closed.replay rules.channel events =
      ((observed rules observers).run rules steps).channels.occupancy ∧
    (∀ before event beyond, events = before ++ event :: beyond →
      (Occupancy.closed.replay rules.channel before).Fits rules.channel event) ∧
    ∀ other, (observed rules observers).Attends steps other →
      heard other ((observed rules observers).noticed rules steps) = events := by
  intro events
  -- one list of events serves every observer, so what holds of it holds of what each heard
  obtain ⟨all, hreplays, hheard⟩ := announces_run (sound_observed rules observers) hsteps
  rw [occupancy_observed] at hreplays
  have hevents : events = all := hheard number attends
  refine ⟨?_, fun before event beyond hsplit => ?_, fun other hother => ?_⟩
  · rw [hevents]
    exact hreplays.replay_eq
  · exact hreplays.fits (hevents.symm.trans hsplit)
  · rw [hevents]
    exact hheard other hother

set_option maxRecDepth 100000 in
/-- The founder of two channels disconnects, which closes one of them and leaves a member in the
other. -/
theorem events_replay_after_disconnect :
    let rules : Rules := ⟨default, { caseSensitive := false }⟩
    let ann : ClientId := ⟨1⟩
    let bob : ClientId := ⟨2⟩
    let both := [ComponentId.users, .channels]
    let claim := fun c name => Step.message .users c (Coded.code UserMessage.identify)
      (Payload.ofValues [⟨.string, name⟩, ⟨.string, "secret"⟩])
    let join := fun c name => Step.message .channels c (Coded.code ChannelMessage.join)
      (Payload.ofValues [⟨.string, name⟩])
    let observers := [.recording 1, .silent, .recording 2]
    let steps := [.register .users 0, .register .channels 0, .connect both ann "host" "a",
      .connect both bob "host" "b", claim ann "Ann", claim bob "Bob", join ann "#One",
      join bob "#ONE", join ann "#Two", .observe (.recording 3), .disconnect both ann]
    let noticed := (observed rules observers).noticed rules steps
    (heard 1 noticed).length = 10 ∧ heard 2 noticed = heard 1 noticed ∧
      Occupancy.closed.replay rules.channel (heard 1 noticed) "#one" = some {bob} ∧
      Occupancy.closed.replay rules.channel (heard 1 noticed) "#two" = none := by
  intro rules ann bob both claim join observers steps noticed
  have hfirst : (observed rules observers).Attends steps 1 :=
    ⟨by decide +kernel, by decide +kernel⟩
  have hsecond : (observed rules observers).Attends steps 2 :=
    ⟨by decide +kernel, by decide +kernel⟩
  have hsteps : ∀ st ∈ steps, st.isDirect = false ∧ st.closesChannels = false := by decide +kernel
  obtain ⟨hreplay, -, hall⟩ := events_replay_to_registry rules hfirst hsteps
  refine ⟨by decide +kernel, hall 2 hsecond, ?_, ?_⟩
  · rw [hreplay]
    decide +kernel
  · rw [hreplay]
    decide +kernel

end World

end ChatServer
