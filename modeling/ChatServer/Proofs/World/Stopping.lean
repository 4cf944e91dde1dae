import ChatServer.Proofs.Channel.Restart
import ChatServer.Proofs.World.Beside

/-!
# Services that stop, and start again

Once both services are taken from their servers nothing comes of anything: messages are refused,
nobody is told of a disconnect, and the channels that there were stay closed. Binding the channel
service again makes a new start: `Resumes` compares it step by step with a channel service that was
just made.
-/

namespace ChatServer

/-- Whether a step gives a component a server. -/
def Step.rebinds : Step → Bool
  | .register _ _ => true
  | .attach _ _ => true
  | _ => false

/-- Whether a step stops a component or takes it from its server. -/
def Step.isStopping : Step → Bool
  | .stop _ => true
  | .shutdown _ => true
  | _ => false

/-- What can be seen of an occurrence: notices do not say which record of a channel they are
about. -/
def Occurrence.seen (e : Occurrence) : Step × Answer × List (ClientId × Frame) × List Callback :=
  (e.step, e.answer, e.sent.map Outgoing.framed, e.callbacks)

namespace World

variable {rules : Rules} {w w' : World} {st : Step}

/-- What is seen of a disconnect is what is seen of its parts. -/
theorem seen_disconnect (hooks : List ComponentId) (client : ClientId) :
    (w.occurrence rules (.disconnect hooks client)).seen =
      let views := (w.trace rules (hooks.map fun c => .disconnect [c] client)).map Occurrence.seen
      (.disconnect hooks client, .done, views.flatMap fun view => view.2.2.1,
        views.flatMap fun view => view.2.2.2) := by
  dsimp only
  rw [occurrence_disconnect, Occurrence.seen, List.map_flatMap, List.flatMap_map,
    List.flatMap_map]
  rfl

/-! ## Channels are tidy in every run -/

/-- A hook for the end of a connection makes moves in channels. -/
theorem moves_disconnectFrom (client : ClientId) (w : World) (c : ComponentId) :
    ChannelService.Moves w.channels (w.disconnectFrom rules client c).1.channels := by
  cases c with
  | channels =>
    simp only [disconnectFrom, channels_send]
    exact ChannelService.moves_disconnect w.servers w.user w.channels client
  | _ => exact .refl

/-- Every step, also one past the channel service, makes moves of the channels. -/
theorem moves_step (rules : Rules) (w : World) (st : Step) :
    ChannelService.Moves w.channels (w.step rules st).1.channels := by
  cases st with
  | connect hooks client hostname suffix =>
    obtain ⟨users, hw⟩ := step_connect_frame rules w hooks client hostname suffix
    rw [hw]
  | disconnect hooks client =>
    rw [step_disconnect_fst]
    induction hooks generalizing w with
    | nil => exact .refl
    | cons c hooks ih => exact (moves_disconnectFrom client w c).trans (ih _)
  | message c client code p =>
    have h := delivery rules w c client code p
    show ChannelService.Moves _ (w.deliver rules c client code p).1.channels
    generalize (w.deliver rules c client code p).1 = w' at h
    cases h with
    | refused c => exact .refl
    | claimed bound read current => exact .refl
    | requested bound read current => exact ChannelService.moves_perform _ _ _ _ _
  | start c => exact .refl
  | stop c =>
    cases c with
    | channels => exact .single .cleared
    | _ => exact .refl
  | shutdown c =>
    cases c with
    | channels => exact .tail (.single .cleared) (.refitted .none w.channels.clear.observers)
    | _ => exact .refl
  | createServer => exact .refl
  | dropServer i => exact .refl
  | register c i =>
    obtain ⟨binding, hc⟩ := (register_frame w c i).2
    show ChannelService.Moves _ (w.register c i).1.channels
    rw [hc]
    exact .single (.refitted binding w.channels.observers)
  | attach c i =>
    obtain ⟨binding, hc⟩ := (attach_frame w c i).2
    show ChannelService.Moves _ (w.attach c i).1.channels
    rw [hc]
    exact .single (.refitted binding w.channels.observers)
  | observe o => exact .single (.refitted w.channels.binding (w.channels.observers ++ [o]))
  | enlist channel user audience => exact ChannelService.moves_enlist _ _ _ _ _
  | dismiss channel client audience => exact ChannelService.moves_dismiss _ _ _ _ _

/-- Every run makes moves in channels. -/
theorem moves_run (rules : Rules) (w : World) (steps : List Step) :
    ChannelService.Moves w.channels (w.run rules steps).channels := by
  induction steps generalizing w with
  | nil => exact .refl
  | cons st steps ih => exact (moves_step rules w st).trans (ih _)

/-- Channels stay tidy through every run. -/
theorem tidy_run (h : w.channels.Tidy) (steps : List Step) :
    (w.run rules steps).channels.Tidy :=
  h.moves (moves_run rules w steps)

/-- Channels are tidy in every run from the beginning. -/
theorem tidy_initial_run (rules : Rules) (steps : List Step) :
    (initial.run rules steps).channels.Tidy := tidy_run ChannelService.tidy_initial steps

/-! ## Services without a server -/

/-- Neither service is bound to a server, and all channels are closed. -/
structure IsStopped (w : World) : Prop where
  users : w.users.binding = .none
  channels : w.channels.IsStopped

theorem binding_users_connect (hooks : List ComponentId) (client : ClientId)
    (hostname suffix : String) :
    (w.step rules (.connect hooks client hostname suffix)).1.users.binding = w.users.binding := by
  rw [step_connect_fst]
  induction hooks generalizing w with
  | nil => rfl
  | cons c hooks ih =>
    refine ih.trans ?_
    cases c <;> rfl

namespace IsStopped

/-- A message to a service that has no server is refused. -/
theorem message (h : w.IsStopped) {c : ComponentId} (service : c = .users ∨ c = .channels)
    (client : ClientId) (code : UInt16) (p : Payload) :
    w.deliver rules c client code p = (w, ⟨.handled (.error .notInitialized) p.remaining, []⟩) := by
  rcases service with rfl | rfl
  · have hclaim : w.claimOf client code p = (.error .notInitialized, p) := by
      rw [claimOf, h.users]
      rfl
    rw [deliver_users, hclaim]
  · have hrequest : w.requestOf client code p = (.error .notInitialized, p) := by
      rw [requestOf, h.channels.unbound]
      rfl
    rw [deliver_channels, hrequest]

/-- A stopped world stays so when a hook for the end of a connection is called. -/
theorem disconnectFrom (rules : Rules) (h : w.IsStopped) (client : ClientId) (c : ComponentId) :
    (w.disconnectFrom rules client c).1.IsStopped := by
  cases c with
  | users => exact ⟨(UserService.binding_disconnect _ _).trans h.users, h.channels⟩
  | channels =>
    have hsame : w.disconnectFrom rules client .channels = (w, []) := by
      simp only [World.disconnectFrom, h.channels.disconnect_eq_self, send,
        h.channels.get?_binding]
      rfl
    rw [hsame]
    exact h
  | freshChannels => exact h
  | freshForeign => exact h

/-- Nobody hears of a disconnect from a stopped world. -/
theorem occurrence_disconnect (rules : Rules) (h : w.IsStopped) (c : ComponentId)
    (client : ClientId) :
    w.occurrence rules (.disconnect [c] client) = ⟨.disconnect [c] client, .done, [], []⟩ := by
  by_cases hc : c = .channels
  · rw [hc, occurrence_disconnect_channels, h.channels.disconnect_eq_self]
    rfl
  · exact occurrence_disconnect_of_ne hc client

/-- Whichever hooks are called, nobody hears of it. -/
theorem disconnect (h : w.IsStopped) (hooks : List ComponentId) (client : ClientId) :
    (w.step rules (.disconnect hooks client)).1.IsStopped ∧
      w.sent rules (.disconnect hooks client) = [] ∧
      (w.step rules (.disconnect hooks client)).2.callbacks = [] := by
  rw [sent_disconnect, callbacks_disconnect, step_disconnect_eq_run]
  induction hooks generalizing w with
  | nil => exact ⟨h, rfl, rfl⟩
  | cons c hooks ih =>
    obtain ⟨hrest, hsent, hcallbacks⟩ := ih (h.disconnectFrom rules client c)
    have hfirst := h.occurrence_disconnect rules c client
    rw [List.map_cons, trace, List.flatMap_cons, List.flatMap_cons, hfirst]
    exact ⟨hrest, hsent, hcallbacks⟩

/-- Nothing comes of what happens as long as no service is bound again. -/
theorem step (rules : Rules) (h : w.IsStopped) (unbound : st.rebinds = false) :
    (w.step rules st).1.IsStopped ∧ w.sent rules st = [] ∧ (w.step rules st).2.callbacks = [] := by
  have hquiet (quiet : st.isQuiet) :
      w.sent rules st = [] ∧ (w.step rules st).2.callbacks = [] := by
    have hoccurrence : w.occurrence rules st = _ := occurrence_of_isQuiet quiet
    exact ⟨congrArg Occurrence.sent hoccurrence, congrArg Occurrence.callbacks hoccurrence⟩
  -- without a server no message is handled, and no disconnect is told of
  cases st with
  | disconnect hooks client => exact h.disconnect hooks client
  | message c client code p =>
    have hstep : w.step rules (.message c client code p) = w.deliver rules c client code p := rfl
    cases c with
    | users =>
      rw [sent, hstep, h.message (.inl rfl), List.drop_length]
      exact ⟨h, rfl, rfl⟩
    | channels =>
      rw [sent, hstep, h.message (.inr rfl), List.drop_length]
      exact ⟨h, rfl, rfl⟩
    | freshChannels => exact ⟨h, hquiet rfl⟩
    | freshForeign => exact ⟨h, hquiet rfl⟩
  | connect hooks client hostname suffix =>
    refine ⟨⟨(binding_users_connect hooks client hostname suffix).trans h.users, ?_⟩, hquiet rfl⟩
    obtain ⟨users, hw⟩ := step_connect_frame rules w hooks client hostname suffix
    rw [hw]
    exact h.channels
  | stop c =>
    refine ⟨?_, hquiet rfl⟩
    cases c with
    | channels => exact ⟨h.users, (congrArg _ h.channels.clear_eq_self).mpr h.channels⟩
    | _ => exact h
  | shutdown c =>
    refine ⟨?_, hquiet rfl⟩
    cases c with
    | users => exact ⟨rfl, h.channels⟩
    | channels => exact ⟨h.users, (congrArg _ h.channels.shutdown_eq_self).mpr h.channels⟩
    | _ => exact h
  | enlist channel user audience =>
    refine ⟨⟨h.users, ?_⟩, hquiet rfl⟩
    show (w.channels.enlist w.user channel user audience).1.IsStopped
    rw [h.channels.enlist_eq]
    exact h.channels
  | dismiss channel client audience =>
    refine ⟨⟨h.users, ?_⟩, hquiet rfl⟩
    show (w.channels.dismiss w.user channel client audience).1.IsStopped
    rw [h.channels.dismiss_eq]
    exact h.channels
  | observe o => exact ⟨⟨h.users, h.channels.observe o⟩, hquiet rfl⟩
  | start c => exact ⟨h, hquiet rfl⟩
  | createServer => exact ⟨⟨h.users, h.channels⟩, hquiet rfl⟩
  | dropServer i => exact ⟨⟨h.users, h.channels⟩, hquiet rfl⟩
  | register c i => cases unbound
  | attach c i => cases unbound

/-- A world stays stopped until something is bound again. -/
theorem run (h : w.IsStopped) {steps : List Step} (unbound : ∀ st ∈ steps, st.rebinds = false) :
    (w.run rules steps).IsStopped :=
  run_keeps (fun st hst _ h => (h.step rules (unbound st hst)).1) h

/-- No step sends or tells anything as long as no service is bound again, and messages to a service
are refused. -/
theorem of_mem_trace (h : w.IsStopped) {steps : List Step}
    (unbound : ∀ st ∈ steps, st.rebinds = false) {e : Occurrence} (he : e ∈ w.trace rules steps) :
    e.sent = [] ∧ e.callbacks = [] ∧
      ∀ c client code p, e.step = .message c client code p → c = .users ∨ c = .channels →
        e.answer = .handled (.error .notInitialized) p.remaining := by
  obtain ⟨earlier, st, rest, rfl, rfl⟩ := exists_of_mem_trace he
  obtain ⟨hearlier, hrest⟩ := List.forall_mem_append.1 unbound
  have hnow : (w.run rules earlier).IsStopped := h.run hearlier
  obtain ⟨-, hsent, hcallbacks⟩ := hnow.step rules (List.forall_mem_cons.1 hrest).1
  refine ⟨hsent, hcallbacks, fun c client code p hst service => ?_⟩
  obtain rfl : st = .message c client code p := hst
  show ((w.run rules earlier).deliver rules c client code p).2.answer = _
  rw [hnow.message service]

end IsStopped

/-! ## Stopping -/

/-- To stop a service tells nobody anything. -/
theorem isStopping_isQuiet (h : st.isStopping) : st.isQuiet := by
  cases st with
  | stop c => rfl
  | shutdown c => rfl
  | _ => cases h

/-- To stop something sends nothing and is told nobody, in whatever state. -/
theorem silent_of_stopping {closing : List Step} (stopping : ∀ st ∈ closing, st.isStopping)
    {e : Occurrence} (he : e ∈ w.trace rules closing) : e.sent = [] ∧ e.callbacks = [] := by
  obtain ⟨earlier, st, rest, rfl, rfl⟩ := exists_of_mem_trace he
  have hst := stopping st (List.mem_append_right _ List.mem_cons_self)
  rw [occurrence_of_isQuiet (isStopping_isQuiet hst)]
  exact ⟨rfl, rfl⟩

/-- Both services are stopped, and the user service knows nobody. -/
structure IsClosed (w : World) : Prop extends w.IsStopped where
  nobody : w.users.directory.registered = ∅

/-- To stop what is stopped changes nothing. -/
theorem IsClosed.step_eq_self (h : w.IsClosed) (stopping : st.isStopping) :
    (w.step rules st).1 = w := by
  cases st with
  | stop c =>
    cases c with
    | channels => exact congrArg (fun s => { w with channels := s }) h.channels.clear_eq_self
    | _ => rfl
  | shutdown c =>
    cases c with
    | users =>
      have hsame : w.users.shutdown = w.users := by
        rw [UserService.shutdown, UserDirectory.clear, ← h.nobody, ← h.users]
      exact congrArg (fun s => { w with users := s }) hsame
    | channels => exact congrArg (fun s => { w with channels := s }) h.channels.shutdown_eq_self
    | _ => rfl
  | _ => cases stopping

/-- A closed world can be stopped again, and nothing happens. -/
theorem IsClosed.run_eq_self (h : w.IsClosed) {steps : List Step}
    (stopping : ∀ st ∈ steps, st.isStopping) : w.run rules steps = w := by
  refine run_keeps (p := fun w' => w' = w) (fun st hst w' heq => ?_) rfl
  rw [heq]
  exact h.step_eq_self (stopping st hst)

/-- The user service is down once it was taken from its server while things are stopped. -/
theorem users_run_of_stopping (rules : Rules) (w : World) {closing : List Step}
    (stopping : ∀ st ∈ closing, st.isStopping) (down : .shutdown .users ∈ closing) :
    (w.run rules closing).users.binding = .none ∧
      (w.run rules closing).users.directory.registered = ∅ := by
  obtain ⟨before, after, rfl⟩ := List.append_of_mem down
  obtain ⟨-, hafter⟩ := List.forall_mem_append.1 stopping
  rw [run_append, World.run]
  refine run_keeps (p := fun w => w.users.binding = .none ∧ w.users.directory.registered = ∅)
    (fun st hst w h => ?_) ⟨rfl, rfl⟩
  cases st with
  | stop c => cases c <;> exact h
  | shutdown c =>
    cases c with
    | users => exact ⟨rfl, rfl⟩
    | _ => exact h
  | _ => cases hafter _ (List.mem_cons_of_mem _ hst)

/-- The channel service is stopped once it was taken from its server while things are stopped. -/
theorem channels_run_of_stopping (tidy : w.channels.Tidy) {closing : List Step}
    (stopping : ∀ st ∈ closing, st.isStopping) (down : .shutdown .channels ∈ closing) :
    (w.run rules closing).channels.IsStopped := by
  obtain ⟨before, after, rfl⟩ := List.append_of_mem down
  obtain ⟨-, hafter⟩ := List.forall_mem_append.1 stopping
  rw [run_append, World.run]
  -- after the shutdown there is nothing left that another stop could change
  refine run_keeps (p := fun w => w.channels.IsStopped) (fun st hst w h => ?_)
    (tidy_run tidy before).isStopped_shutdown
  cases st with
  | stop c =>
    cases c with
    | channels => exact (congrArg _ h.clear_eq_self).mpr h
    | _ => exact h
  | shutdown c =>
    cases c with
    | channels => exact (congrArg _ h.shutdown_eq_self).mpr h
    | _ => exact h
  | _ => cases hafter _ (List.mem_cons_of_mem _ hst)

/-- A world whose services are both shut down is closed. -/
theorem isClosed_run (tidy : w.channels.Tidy) {closing : List Step}
    (stopping : ∀ st ∈ closing, st.isStopping) (users : .shutdown .users ∈ closing)
    (channels : .shutdown .channels ∈ closing) : (w.run rules closing).IsClosed := by
  obtain ⟨hunbound, hnobody⟩ := users_run_of_stopping rules w stopping users
  exact ⟨⟨hunbound, channels_run_of_stopping tidy stopping channels⟩, hnobody⟩

/-! ## Starting again -/

/-- The second world is in the state of the first one, but for channels of the past and for what
was sent. -/
structure Resumes (past : String → Nat) (w w' : World) : Prop where
  servers : w'.servers = w.servers
  users : w'.users = w.users
  channels : w.channels.Resumes past w'.channels

namespace Resumes

variable {past : String → Nat}

theorem user_eq (h : w.Resumes past w') : w'.user = w.user := congrArg (·.directory.user) h.users

theorem beside (h : w.Resumes past w') : Beside (ChannelService.Resumes past) w w' :=
  ⟨h.servers, h.users, h.channels⟩

theorem of_beside (h : Beside (ChannelService.Resumes past) w w') : w.Resumes past w' :=
  ⟨h.servers, h.users, h.channels⟩

theorem upkeep (past : String → Nat) :
    ChannelService.Upkeep (ChannelService.Resumes past) where
  binding h := h.binding
  rebind _ h := { h with binding := rfl }
  clear h := h.clear
  observe o h := { h with observers := congrArg (· ++ [o]) h.observers }

/-- A request comes to the same as in a new world. -/
theorem request (h : w.Resumes past w') (client : ClientId) (code : UInt16) (p : Payload) :
    (w.step rules (.message .channels client code p)).1.Resumes past
        (w'.step rules (.message .channels client code p)).1 ∧
      (w.occurrence rules (.message .channels client code p)).seen =
        (w'.occurrence rules (.message .channels client code p)).seen := by
  refine (h.beside.request (upkeep past) (fun e e' => e.seen = e'.seen) (fun _ => rfl)
    fun q request rest _ => ?_).imp_left of_beside
  obtain ⟨hperform, halike⟩ := h.channels.perform request
  refine ⟨hperform, ?_⟩
  dsimp only [Occurrence.seen]
  rw [halike.messages, halike.events, hperform.callbacks_eq]

theorem hook (h : w.Resumes past w') (c : ComponentId) (client : ClientId) :
    (w.step rules (.disconnect [c] client)).1.Resumes past
        (w'.step rules (.disconnect [c] client)).1 ∧
      (w.occurrence rules (.disconnect [c] client)).seen =
        (w'.occurrence rules (.disconnect [c] client)).seen := by
  obtain ⟨hchannels, halike⟩ := h.channels.disconnect w.servers w.user client
  refine (h.beside.hook (fun e e' => e.seen = e'.seen) (fun _ => rfl) ⟨hchannels, ?_⟩
    c).imp_left of_beside
  dsimp only [Occurrence.seen]
  rw [halike.messages, halike.events, hchannels.callbacks_eq]

/-- A disconnect comes to the same in a world with a past and in a new one. -/
theorem disconnect (h : w.Resumes past w') (hooks : List ComponentId) (client : ClientId) :
    (w.step rules (.disconnect hooks client)).1.Resumes past
        (w'.step rules (.disconnect hooks client)).1 ∧
      (w.occurrence rules (.disconnect hooks client)).seen =
        (w'.occurrence rules (.disconnect hooks client)).seen := by
  obtain ⟨hresumes, hseen⟩ := disconnect_congr Occurrence.seen
    (fun c w w' (h : w.Resumes past w') => h.hook c client) h hooks
  rw [seen_disconnect, seen_disconnect, hseen]
  exact ⟨hresumes, rfl⟩

/-- A step that is not made past the channel service keeps the worlds related, and looks the same
in both. -/
theorem step (h : w.Resumes past w') (direct : st.isDirect = false) :
    (w.step rules st).1.Resumes past (w'.step rules st).1 ∧
      (w.occurrence rules st).seen = (w'.occurrence rules st).seen := by
  by_cases hgeneral : st.isGeneral
  · exact (h.beside.general (upkeep past) hgeneral).imp of_beside (congrArg _)
  cases st with
  | disconnect hooks client => exact h.disconnect hooks client
  | message c client code p =>
    cases c with
    | channels => exact h.request client code p
    | _ => exact absurd rfl hgeneral
  | enlist channel user audience => cases direct
  | dismiss channel client audience => cases direct
  | _ => exact absurd rfl hgeneral

end Resumes

/-! ## The whole course -/

/-- The world with a channel service that was just made for the same observers. -/
def withFreshChannels (w : World) : World :=
  { w with channels := { ChannelService.initial with observers := w.channels.observers } }

/-- What is stopped resumes what is new, with some past. -/
theorem IsStopped.resumes (h : w.IsStopped) : ∃ past, w.withFreshChannels.Resumes past w :=
  ⟨_, rfl, rfl, h.channels.resumes⟩

/-- A new server takes a component that is bound to none. -/
theorem register_channels_on_new_server (h : w.IsStopped) :
    ((w.step rules .createServer).1.step rules (.register .channels w.servers.length)).2.answer =
      .attached (.ok ()) := by
  have hnone : w.servers.create.component? w.servers.length .channel = none := by
    rw [Servers.component?, Servers.create, List.getElem?_concat_length]
    rfl
  show Answer.attached (({ w with servers := w.servers.create } : World).register .channels
    w.servers.length).2 = _
  simp only [register, ComponentId.type, hnone, World.attach, ChannelService.attach, Binding.bind,
    h.channels.get?_binding]
  rfl

/-- At any time both services are stopped and taken from their servers. That sends nothing and is
told nobody, and to do it again changes nothing. From then on, as long as no service is bound again,
every message to a service is refused because it has no server, nothing is sent and no observer
notices anything; no channel is registered, and whoever has one in hand finds it closed, with nobody
on its rosters, and can neither put anyone there nor take anyone off. A new server takes the channel
service again, which does from then on what a channel service does that was just made: the answers,
the frames and what observers notice are the same. -/
theorem stop_is_final (rules : Rules) (past closing traffic : List Step)
    (stopping : ∀ st ∈ closing, st.isStopping)
    (users : .shutdown .users ∈ closing) (channels : .shutdown .channels ∈ closing)
    (unbound : ∀ st ∈ traffic, st.rebinds = false) :
    let before := initial.run rules past
    let stopped := before.run rules closing
    let w := stopped.run rules traffic
    (∀ e ∈ before.trace rules closing, e.sent = [] ∧ e.callbacks = []) ∧
    (∀ again, (∀ st ∈ again, st.isStopping) → stopped.run rules again = stopped) ∧
    (∀ e ∈ stopped.trace rules traffic, e.sent = [] ∧ e.callbacks = [] ∧
      ∀ c client code p, e.step = .message c client code p → c = .users ∨ c = .channels →
        e.answer = .handled (.error .notInitialized) p.remaining) ∧
    w.channels.count = 0 ∧
    (∀ c, (w.step rules (.stop c)).1 = w) ∧ (w.step rules (.shutdown .channels)).1 = w ∧
    (∀ r, (w.channels.channel r).enabled = false ∧ (w.channels.channel r).IsVacant ∧
      (∀ user audience,
        w.step rules (.enlist r user audience) = (w, ⟨.enlisted .disabled, []⟩)) ∧
      ∀ client audience,
        w.step rules (.dismiss r client audience) = (w, ⟨.dismissed .disabled, []⟩)) ∧
    ((w.step rules .createServer).1.step rules (.register .channels w.servers.length)).2.answer =
      .attached (.ok ()) ∧
    ∀ later, (∀ st ∈ later, st.isDirect = false) →
      let after := w.run rules later
      let after' := w.withFreshChannels.run rules later
      (w.trace rules later).map Occurrence.seen =
        (w.withFreshChannels.trace rules later).map Occurrence.seen ∧
      after.channels.count = after'.channels.count ∧
      ∀ name, after.channels.info? rules.channel after.user name =
        after'.channels.info? rules.channel after'.user name := by
  intro before stopped w
  have htidy : before.channels.Tidy := tidy_run ChannelService.tidy_initial past
  have hclosed : stopped.IsClosed := isClosed_run htidy stopping users channels
  have hstopped : w.IsStopped := hclosed.toIsStopped.run unbound
  refine ⟨fun e he => ?_, fun again hagain => hclosed.run_eq_self hagain, fun e he => ?_, ?_,
    fun c => ?_, ?_, fun r => ⟨hstopped.channels.closed r, hstopped.channels.vacant r,
      fun user audience => ?_, fun client audience => ?_⟩,
    register_channels_on_new_server hstopped, fun later hlater => ?_⟩
  · exact silent_of_stopping stopping he
  · exact hclosed.toIsStopped.of_mem_trace unbound he
  · rw [ChannelService.count, hstopped.channels.registry]
    rfl
  · cases c with
    | channels =>
      exact congrArg (fun s => { w with channels := s }) hstopped.channels.clear_eq_self
    | _ => rfl
  · exact congrArg (fun s => { w with channels := s }) hstopped.channels.shutdown_eq_self
  · simp only [World.step, hstopped.channels.enlist_eq]
  · simp only [World.step, hstopped.channels.dismiss_eq]
  · -- what was just made differs from what was stopped in channels that nobody finds
    obtain ⟨past, hresumes⟩ := hstopped.resumes
    obtain ⟨hafter, htrace⟩ := trace_congr Occurrence.seen
      (fun st hst w w' (h : w.Resumes past w') => h.step (hlater st hst)) hresumes
    refine ⟨htrace.symm, hafter.channels.count_eq, fun name => ?_⟩
    rw [hafter.user_eq]
    exact hafter.channels.info?_eq name

set_option maxRecDepth 100000 in
theorem stop_is_final_with_channel_in_use :
    let ann : ClientId := ⟨1⟩
    let bob : ClientId := ⟨2⟩
    let both := [ComponentId.users, .channels]
    let claim := fun c name => Step.message .users c (Coded.code UserMessage.identify)
      (Payload.ofValues [⟨.string, name⟩, ⟨.string, "secret"⟩])
    let join := fun c name => Step.message .channels c (Coded.code ChannelMessage.join)
      (Payload.ofValues [⟨.string, name⟩])
    let past := [.register .users 0, .register .channels 0, .connect both ann "host" "a",
      claim ann "Ann", join ann "#one"]
    let closing := [Step.stop .users, .stop .channels, .shutdown .users, .shutdown .channels]
    let traffic := [join ann "#one", .connect both bob "host" "b", .disconnect both ann]
    let later := [.createServer, .register .users 1, .register .channels 1, claim bob "Bob",
      join bob "#one"]
    let stopped := (initial.run default past).run default closing
    let w := stopped.run default traffic
    ((initial.run default past).channels.count = 1 ∧ w.channels.count = 0) ∧
      (w.run default later).channels.count = 1 ∧
      (w.trace default later).map Occurrence.seen =
        (w.withFreshChannels.trace default later).map Occurrence.seen := by
  intro ann bob both claim join past closing traffic later stopped w
  have hfinal := stop_is_final default past closing traffic (by decide) (by simp [closing])
    (by simp [closing]) (by decide)
  have hcount := hfinal.2.2.2.1
  have hlater := hfinal.2.2.2.2.2.2.2.2 later (by decide)
  exact ⟨⟨by decide +kernel, hcount⟩, by decide +kernel, hlater.1⟩

end World

end ChatServer
