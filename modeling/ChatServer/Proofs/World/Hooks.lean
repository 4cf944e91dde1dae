import ChatServer.Proofs.World.ReadingBack

/-!
# The order in which components learn that a client is gone

The user service disables the record of a client that is gone, and the channel service takes the
client off its channels. On the way it reads the records that the rosters hold: whom to tell, and
whom to name. The client itself is not told, so it does not matter whether its record is disabled by
then. So the services may learn of it in any order, and in every state, whatever records the rosters
hold.
-/

namespace ChatServer

/-- The event with its user as it is when the connection has ended. -/
def ChannelEvent.ended : ChannelEvent → ChannelEvent
  | created channel => created channel
  | joined channel user => joined channel user.disable
  | left channel user => left channel user.disable
  | joinCompleted result user => joinCompleted result user.disable
  | leaveCompleted result user => leaveCompleted result user.disable

/-- The callback with the user of its event as it is when the connection has ended. -/
def Callback.ended (c : Callback) : Callback := { c with event := c.event.ended }

/-- The records differ at most in whether the connection of one client has ended. -/
structure RecordsEnd (client : ClientId) (users users' : UserRef → User) : Prop where
  others : RecordsAgreeOff client users users'
  ended : ∀ r, (users' r).disable = (users r).disable

namespace RecordsEnd

variable {client : ClientId} {users users' : UserRef → User}

theorem username_eq (h : RecordsEnd client users users') (r : UserRef) :
    (users' r).username = (users r).username := by
  show (users' r).disable.username = _
  rw [h.ended]
  rfl

theorem entry_eq (h : RecordsEnd client users users') (r : UserRef) :
    (users' r).entry = (users r).entry := by
  show (users' r).disable.entry = _
  rw [h.ended]
  rfl

/-- The records in which the user service leaves a client that is gone. -/
theorem disconnect (s : UserService) (client : ClientId) :
    RecordsEnd client s.directory.user (s.disconnect client).directory.user := by
  unfold UserService.disconnect
  cases hr : s.directory.ref? client with
  | none => exact ⟨fun _ _ => rfl, fun _ => rfl⟩
  | some q =>
    obtain ⟨-, rfl⟩ := UserDirectory.isCurrent_of_ref? hr
    -- the current record of the client is the only one that is touched
    have hget : ∀ r, (s.directory.records.update q User.disable).get? r =
        if r = q then (s.directory.records.get? r).map User.disable
        else s.directory.records.get? r := Archive.get?_update _ _ _
    constructor
    · intro r hne
      have hrq : r ≠ q := fun heq => hne (congrArg Ref.owner heq)
      show ((s.directory.records.update q User.disable).get? r).getD _ = _
      rw [hget, if_neg hrq]
      rfl
    · intro r
      show (((s.directory.records.update q User.disable).get? r).getD _).disable = _
      rw [hget, UserDirectory.user]
      split
      · cases s.directory.records.get? r <;> rfl
      · rfl

/-- The client itself is left out when its channels tell their members. -/
theorem recipients_eq (h : RecordsEnd client users users') (r : Roster) :
    Roster.recipients users' r (some client) = Roster.recipients users r (some client) := by
  have hfilter : ∀ users : UserRef → User,
      ((Roster.records users r).filter fun e => some e.1 ≠ some client && e.2.enabled).map
          Prod.fst =
        (r.entries.filter fun e =>
          some e.1 ≠ some client && (users ⟨e.1, e.2⟩).enabled).map Prod.fst := by
    intro users
    rw [Roster.records, List.filter_map, List.map_map]
    rfl
  -- the client itself is left out, and everybody else has the same record
  have hsame : ∀ e : ClientId × Nat,
      (some e.1 ≠ some client && (users' ⟨e.1, e.2⟩).enabled) =
        (some e.1 ≠ some client && (users ⟨e.1, e.2⟩).enabled) := by
    intro e
    by_cases he : e.1 = client
    · simp [he]
    · rw [h.others ⟨e.1, e.2⟩ he]
  rw [Roster.recipients, Roster.recipients, hfilter, hfilter]
  simp only [hsame]

end RecordsEnd

namespace ChannelService

variable {config : ChannelConfig} {client : ClientId} {users users' : UserRef → User}
  {s : ChannelService}

/-- What a channel tells of a departure does not depend on whether the record of the client has
ended, except that events show it. -/
theorem departure_of_recordsEnd (h : RecordsEnd client users users') (bound : Bool)
    (r : ChannelRef) :
    (departure bound users' client s r).messages = (departure bound users client s r).messages ∧
      (departure bound users' client s r).events.map ChannelEvent.ended =
        (departure bound users client s r).events.map ChannelEvent.ended := by
  have hnotice : ∀ n recipients, announceLeave r recipients (users' ⟨client, n⟩) =
      announceLeave r recipients (users ⟨client, n⟩) := by
    intro n recipients
    rw [announceLeave, announceLeave, h.entry_eq]
  unfold departure
  rw [h.recipients_eq, Channel.info_congr h.username_eq]
  split
  · exact ⟨rfl, rfl⟩
  · next n _ =>
    split
    · rw [hnotice]
      refine ⟨rfl, ?_⟩
      simp only [List.map_cons, List.map_nil, ChannelEvent.ended, h.ended]
    · exact ⟨rfl, rfl⟩

/-- The channel service withdraws a client alike whether or not its record is disabled. -/
theorem disconnect_of_recordsEnd (h : RecordsEnd client users users') (servers : Servers)
    (s : ChannelService) :
    (s.disconnect servers users' client).1 = (s.disconnect servers users client).1 ∧
      (s.disconnect servers users' client).2.messages =
        (s.disconnect servers users client).2.messages ∧
      (s.disconnect servers users' client).2.events.map ChannelEvent.ended =
        (s.disconnect servers users client).2.events.map ChannelEvent.ended := by
  rw [disconnect_eq, disconnect_eq]
  refine ⟨rfl, ?_, ?_⟩
  · exact List.flatMap_congr fun r _ => (departure_of_recordsEnd h _ r).1
  · dsimp only
    rw [List.map_flatMap, List.map_flatMap]
    exact List.flatMap_congr fun r _ => (departure_of_recordsEnd h _ r).2

/-- Observers are called alike for events with records that have ended. -/
theorem map_ended_callbacks (config : ChannelConfig) (users : UserRef → User) (s : ChannelService)
    (events : List ChannelEvent) :
    (s.callbacks config users events).map Callback.ended =
      s.callbacks config users (events.map ChannelEvent.ended) := by
  have hchannel : ∀ event : ChannelEvent, event.ended.channel? = event.channel? := by
    intro event
    cases event <;> rfl
  rw [callbacks, callbacks, List.map_flatMap, List.flatMap_map]
  refine List.flatMap_congr fun event _ => ?_
  rw [List.map_filterMap, hchannel]
  refine List.filterMap_congr fun o _ => ?_
  cases o <;> rfl

end ChannelService

namespace World

variable {rules : Rules} {w : World} {client : ClientId}

/-- Two lists of steps come to the same, up to whether the users of events are enabled. -/
structure SameEnd (rules : Rules) (w : World) (steps steps' : List Step) : Prop where
  run : w.run rules steps' = w.run rules steps
  sent : (w.trace rules steps').flatMap (fun e => e.sent) =
    (w.trace rules steps).flatMap fun e => e.sent
  callbacks : ((w.trace rules steps').flatMap fun e => e.callbacks).map Callback.ended =
    ((w.trace rules steps).flatMap fun e => e.callbacks).map Callback.ended

namespace SameEnd

variable {steps steps' steps'' : List Step}

theorem refl (rules : Rules) (w : World) (steps : List Step) : SameEnd rules w steps steps :=
  ⟨rfl, rfl, rfl⟩

theorem symm (h : SameEnd rules w steps steps') : SameEnd rules w steps' steps :=
  ⟨h.run.symm, h.sent.symm, h.callbacks.symm⟩

theorem trans (h : SameEnd rules w steps steps') (h' : SameEnd rules w steps' steps'') :
    SameEnd rules w steps steps'' :=
  ⟨h'.run.trans h.run, h'.sent.trans h.sent, h'.callbacks.trans h.callbacks⟩

/-- Steps that end alike still do after the same first step. -/
theorem cons (st : Step) (h : SameEnd rules (w.step rules st).1 steps steps') :
    SameEnd rules w (st :: steps) (st :: steps') where
  run := h.run
  sent := by
    rw [trace, trace, List.flatMap_cons, List.flatMap_cons, h.sent]
  callbacks := by
    rw [trace, trace, List.flatMap_cons, List.flatMap_cons, List.map_append, List.map_append,
      h.callbacks]

/-- What comes to the same leads to worlds in which all that follows comes to the same. -/
theorem append (h : SameEnd rules w steps steps') (rest : List Step) :
    SameEnd rules w (steps ++ rest) (steps' ++ rest) where
  run := by rw [run_append, run_append, h.run]
  sent := by
    rw [trace_append, trace_append, List.flatMap_append, List.flatMap_append, h.run, h.sent]
  callbacks := by
    rw [trace_append, trace_append, List.flatMap_append, List.flatMap_append, List.map_append,
      List.map_append, h.run, h.callbacks]

end SameEnd

/-- The channel service does not depend on whether the record of the client is disabled. -/
theorem withdrawal_of_recordsEnd {users : UserService}
    (h : RecordsEnd client w.user users.directory.user) (rules : Rules) :
    let st := Step.disconnect [.channels] client
    (({ w with users } : World).step rules st).1 = { (w.step rules st).1 with users } ∧
      (({ w with users } : World).occurrence rules st).sent = (w.occurrence rules st).sent ∧
      (({ w with users } : World).occurrence rules st).callbacks.map Callback.ended =
        (w.occurrence rules st).callbacks.map Callback.ended := by
  intro st
  obtain ⟨hstate, hmessages, hevents⟩ :=
    ChannelService.disconnect_of_recordsEnd h w.servers w.channels
  rw [occurrence_disconnect_channels, occurrence_disconnect_channels]
  -- what is put on the record goes by the messages alone, so it is the same
  refine ⟨?_, hmessages, ?_⟩
  · show World.send { w with
      users, channels := (w.channels.disconnect w.servers users.directory.user client).1 } _
        (w.channels.disconnect w.servers users.directory.user client).2.messages = _
    rw [hstate, hmessages]
    show _ = { World.send { w with
      channels := (w.channels.disconnect w.servers w.user client).1 } _ _ with users }
    unfold send
    dsimp only
    split <;> rfl
  · show (ChannelService.callbacks _ users.directory.user
      (w.channels.disconnect w.servers users.directory.user client).1 _).map _ = _
    rw [ChannelService.callbacks_congr _ w.user, ChannelService.map_ended_callbacks,
      ChannelService.map_ended_callbacks, hstate]
    exact congrArg _ hevents

/-- A component that was just made has nothing to do. -/
theorem sameEnd_swap_idle {c : ComponentId} (idle : c = .freshChannels ∨ c = .freshForeign)
    (rules : Rules) (w : World) (client : ClientId) (c' : ComponentId) :
    SameEnd rules w [.disconnect [c] client, .disconnect [c'] client]
      [.disconnect [c'] client, .disconnect [c] client] := by
  have hstep : ∀ w : World, (w.step rules (.disconnect [c] client)).1 = w := by
    intro w
    rcases idle with rfl | rfl <;> rfl
  have hquiet : ∀ w : World, w.occurrence rules (.disconnect [c] client) =
      ⟨.disconnect [c] client, .done, [], []⟩ := by
    intro w
    apply occurrence_disconnect_of_ne
    rcases idle with rfl | rfl <;> decide
  constructor <;> simp [run, trace, hstep, hquiet]

/-- The hooks of the two services can be called in either order. -/
theorem sameEnd_swap_services (rules : Rules) (w : World) (client : ClientId) :
    SameEnd rules w [.disconnect [.users] client, .disconnect [.channels] client]
      [.disconnect [.channels] client, .disconnect [.users] client] := by
  obtain ⟨hstate, hsent, hcallbacks⟩ :=
    withdrawal_of_recordsEnd (RecordsEnd.disconnect w.users client) rules
  have hquiet : ∀ w : World, w.occurrence rules (.disconnect [.users] client) =
      ⟨.disconnect [.users] client, .done, [], []⟩ :=
    fun w => occurrence_disconnect_of_ne (by decide) client
  have husers : ∀ w : World, (w.step rules (.disconnect [.users] client)).1 =
      { w with users := w.users.disconnect client } := fun w => rfl
  -- the channel service leaves users alone, so the other hook finds the same
  have hkept : (w.step rules (.disconnect [.channels] client)).1.users = w.users := by
    obtain ⟨record, hstep⟩ := step_disconnect_channels rules w client
    rw [hstep]
  constructor
  case run =>
    show ((w.step rules (.disconnect [.channels] client)).1.step rules
      (.disconnect [.users] client)).1 = ((w.step rules (.disconnect [.users] client)).1.step rules
        (.disconnect [.channels] client)).1
    rw [husers, husers, hkept, hstate]
  case sent =>
    simp only [trace, List.flatMap_cons, List.flatMap_nil, hquiet, husers, hsent, List.append_nil,
      List.nil_append]
  case callbacks =>
    simp only [trace, List.flatMap_cons, List.flatMap_nil, hquiet, husers, hcallbacks,
      List.append_nil, List.nil_append]

/-- Two components may learn that a client is gone in either order. -/
theorem sameEnd_swap (rules : Rules) (w : World) (client : ClientId) (c c' : ComponentId) :
    SameEnd rules w [.disconnect [c] client, .disconnect [c'] client]
      [.disconnect [c'] client, .disconnect [c] client] := by
  -- components without state of their own have hooks that do nothing
  by_cases hc : c = .freshChannels ∨ c = .freshForeign
  · exact sameEnd_swap_idle hc rules w client c'
  by_cases hc' : c' = .freshChannels ∨ c' = .freshForeign
  · exact (sameEnd_swap_idle hc' rules w client c).symm
  cases c with
  | freshChannels => exact absurd (.inl rfl) hc
  | freshForeign => exact absurd (.inr rfl) hc
  | users =>
    cases c' with
    | freshChannels => exact absurd (.inl rfl) hc'
    | freshForeign => exact absurd (.inr rfl) hc'
    | users => exact .refl rules w _
    | channels => exact sameEnd_swap_services rules w client
  | channels =>
    cases c' with
    | freshChannels => exact absurd (.inl rfl) hc'
    | freshForeign => exact absurd (.inr rfl) hc'
    | users => exact (sameEnd_swap_services rules w client).symm
    | channels => exact .refl rules w _

/-- Hooks can be called in any order. -/
theorem sameEnd_of_perm {hooks hooks' : List ComponentId} (perm : hooks.Perm hooks')
    (rules : Rules) (w : World) (client : ClientId) :
    SameEnd rules w (hooks.map fun c => .disconnect [c] client)
      (hooks'.map fun c => .disconnect [c] client) := by
  induction perm generalizing w with
  | nil => exact .refl rules w []
  | cons c _ ih => exact .cons _ (ih _)
  | swap c c' hooks => exact (sameEnd_swap rules w client c' c).append _
  | trans _ _ ih ih' => exact (ih w).trans (ih' w)

/-- The components may learn that a client is gone in any order. In every state, whatever records
the rosters hold, it leads to the same world, with the same users and channels, to the same messages
in the same order, and to the same events: about the same channels, with the same infos, and about
the same users. Only whether the user of an event is enabled depends on whether the user service has
learned of it by then. -/
theorem disconnect_hooks_commute (rules : Rules) (w : World) (client : ClientId)
    {hooks hooks' : List ComponentId} (perm : hooks.Perm hooks') :
    let st := Step.disconnect hooks client
    let st' := Step.disconnect hooks' client
    (w.step rules st').1 = (w.step rules st).1 ∧ w.sent rules st' = w.sent rules st ∧
      (w.step rules st').2.callbacks.map Callback.ended =
        (w.step rules st).2.callbacks.map Callback.ended := by
  intro st st'
  have hsame := sameEnd_of_perm perm rules w client
  rw [step_disconnect_eq_run, step_disconnect_eq_run, sent_disconnect, sent_disconnect,
    callbacks_disconnect, callbacks_disconnect]
  exact ⟨hsame.run, hsame.sent, hsame.callbacks⟩

set_option maxRecDepth 100000 in
/-- A client connected again without having disconnected, so one of its channels has its old record
and the other one its current record. Only the latter is disabled when the user service learns of
the disconnect first, and nobody but the observers can tell. -/
theorem disconnect_hooks_commute_after_reconnect :
    let ann : ClientId := ⟨1⟩
    let bob : ClientId := ⟨2⟩
    let both := [ComponentId.users, .channels]
    let claim := fun c name => Step.message .users c (Coded.code UserMessage.identify)
      (Payload.ofValues [⟨.string, name⟩, ⟨.string, "secret"⟩])
    let join := fun c name => Step.message .channels c (Coded.code ChannelMessage.join)
      (Payload.ofValues [⟨.string, name⟩])
    let steps := [.register .users 0, .register .channels 0, .observe (.recording 0),
      .connect both ann "host" "a", .connect both bob "host" "b", claim ann "Ann",
      claim bob "Bob", join bob "#one", join bob "#two", join ann "#one",
      .connect both ann "home" "c", claim ann "Anna", join ann "#two"]
    let w := initial.run default steps
    let departed := fun (noticed : List Callback) => noticed.filterMap fun cb =>
      match cb.event with
      | .left _ user => some (user.username, user.enabled)
      | _ => none
    w.sent default (.disconnect [.channels, .users] ann) =
        [⟨bob, .memberLeft ⟨"#one", 0⟩ ⟨"Ann", "host"⟩⟩,
          ⟨bob, .memberLeft ⟨"#two", 0⟩ ⟨"Anna", "home"⟩⟩] ∧
      departed (w.step default (.disconnect [.users, .channels] ann)).2.callbacks =
        [("Ann", true), ("Anna", false)] ∧
      departed (w.step default (.disconnect [.channels, .users] ann)).2.callbacks =
        [("Ann", true), ("Anna", true)] ∧
      [ComponentId.users, .channels].Perm [.channels, .users] ∧
      (w.step default (.disconnect [.channels, .users] ann)).1 =
        (w.step default (.disconnect [.users, .channels] ann)).1 ∧
      (w.step default (.disconnect [.channels, .users] ann)).2.callbacks.map Callback.ended =
        (w.step default (.disconnect [.users, .channels] ann)).2.callbacks.map
          Callback.ended := by
  intro ann bob both claim join steps w departed
  have hperm : [ComponentId.users, .channels].Perm [.channels, .users] := .swap _ _ _
  obtain ⟨hworld, -, hcallbacks⟩ := disconnect_hooks_commute default w ann hperm
  exact ⟨by decide +kernel, by decide +kernel, by decide +kernel, hperm, hworld, hcallbacks⟩

end World

end ChatServer
