import ChatServer.Proofs.Channel.ReadingBack
import ChatServer.Proofs.World.Stopping

/-!
# Observers see the finished operation

What an observer finds out from inside a callback is the state of the world after the whole
operation: how many channels there are by then, and each channel that it is told of as the event
says. When a client is gone, this is so for each of its channels, though some of them may be gone
too.
-/

namespace ChatServer

namespace ChannelService

variable {config : ChannelConfig} {users users' : UserRef → User} {s : ChannelService}
  {events : List ChannelEvent} {cb : Callback}

/-- A callback reports one of the events, and what the observer finds out by asking. -/
theorem eq_of_mem_callbacks (h : cb ∈ s.callbacks config users events) :
    cb.event ∈ events ∧ cb.channelCount = s.count ∧
      cb.memberCount = cb.event.channel?.bind fun c =>
        (s.info? config users c.name).map (·.memberCount) := by
  obtain ⟨event, hevent, hcb⟩ := List.mem_flatMap.1 h
  obtain ⟨observer, -, hobserver⟩ := List.mem_filterMap.1 hcb
  cases observer with
  | silent => cases hobserver
  | recording number =>
    cases hobserver
    exact ⟨hevent, rfl, rfl⟩

/-- What is found out about channels depends on users only by their names. -/
theorem info?_congr (names : ∀ r, (users' r).username = (users r).username) (name : String) :
    s.info? config users' name = s.info? config users name := by
  simp only [info?, Channel.info_congr names]

/-- An event still reads back when records change but keep their names. -/
theorem ReadsBack.congr (names : ∀ r, (users' r).username = (users r).username)
    {event : ChannelEvent} (h : s.ReadsBack config users event) :
    s.ReadsBack config users' event := by
  cases event with
  | created info => exact (info?_congr names _).trans h
  | joined info user => exact (info?_congr names _).trans h
  | left info user => exact (info?_congr names _).trans h
  | joinCompleted result user => trivial
  | leaveCompleted result user => trivial

end ChannelService

/-- A record keeps its name when its client is gone. -/
theorem UserService.username_disconnect (s : UserService) (client : ClientId) (r : UserRef) :
    ((s.disconnect client).directory.user r).username = (s.directory.user r).username := by
  unfold disconnect
  cases s.directory.ref? client with
  | none => rfl
  | some q =>
    dsimp only
    rw [UserDirectory.user_remove, UserDirectory.user, UserDirectory.user, UserDirectory.update,
      Archive.get?_update]
    split
    · cases s.directory.records.get? r <;> rfl
    · rfl

namespace World

variable {rules : Rules} {w : World} {client : ClientId} {cb : Callback}

/-- An observer finds out what is so in a world. -/
structure Sees (rules : Rules) (w : World) (cb : Callback) : Prop where
  channelCount : cb.channelCount = w.channels.count
  memberCount : cb.memberCount = cb.event.channel?.bind fun c =>
    (w.channels.info? rules.channel w.user c.name).map (·.memberCount)
  channel : w.channels.ReadsBack rules.channel w.user cb.event

/-- A callback for an event that reads back sees it. -/
theorem sees_notice {events : List ChannelEvent}
    (reads : ∀ event ∈ events, w.channels.ReadsBack rules.channel w.user event)
    (h : cb ∈ w.notice rules events) : Sees rules w cb := by
  obtain ⟨hevent, hcount, hmembers⟩ := ChannelService.eq_of_mem_callbacks h
  exact ⟨hcount, hmembers, reads cb.event hevent⟩

/-- A callback sees the same in worlds with the same channels and names. -/
theorem Sees.congr {w' : World} (h : Sees rules w cb) (channels : w'.channels = w.channels)
    (names : ∀ r, (w'.user r).username = (w.user r).username) : Sees rules w' cb where
  channelCount := by rw [channels]; exact h.channelCount
  memberCount := by
    rw [channels, h.memberCount]
    simp only [ChannelService.info?_congr names]
  channel := by rw [channels]; exact h.channel.congr names

/-! ## Keys in every run -/

/-- Every step relates new channels to their keys by their names. -/
theorem named_step {p : String → String → Prop}
    (founds : ∀ name, isValidChannelName name → p name (rules.channel.keyFor name))
    (h : w.channels.Named p) (st : Step) : (w.step rules st).1.channels.Named p := by
  cases hdirect : st.isDirect with
  | false => exact h.changes founds (step_channels rules w hdirect)
  | true =>
    cases st with
    | enlist channel user audience => exact h.enlist w.user channel user audience
    | dismiss channel client audience => exact h.dismiss w.user channel client audience
    | _ => cases hdirect

/-- In every run a channel is related to its key by its name. -/
theorem named_run {p : String → String → Prop}
    (founds : ∀ name, isValidChannelName name → p name (rules.channel.keyFor name))
    (steps : List Step) : (initial.run rules steps).channels.Named p :=
  run_keeps (p := fun w => w.channels.Named p) (fun st _ _ h => named_step founds h st)
    (ChannelService.named_initial p)

theorem keyed_step (h : w.channels.Keyed rules.channel) (st : Step) :
    (w.step rules st).1.channels.Keyed rules.channel :=
  named_step (fun _ _ => rfl) h st

/-- In every run channels are under the keys of their names. -/
theorem keyed_run (rules : Rules) (steps : List Step) :
    (initial.run rules steps).channels.Keyed rules.channel :=
  named_run (fun _ _ => rfl) steps

/-! ## Steps -/

/-- The observers notice a message when its request is performed. -/
theorem sees_message (keyed : w.channels.Keyed rules.channel) {c : ComponentId} {code : UInt16}
    {p : Payload} (tidy' : (w.step rules (.message c client code p)).1.channels.Tidy)
    (h : cb ∈ (w.step rules (.message c client code p)).2.callbacks) :
    Sees rules (w.step rules (.message c client code p)).1 cb := by
  have keyed' := keyed_step keyed (.message c client code p)
  have hstep : w.step rules (.message c client code p) = w.deliver rules c client code p := rfl
  cases c with
  | freshChannels => cases h
  | freshForeign => cases h
  -- observers hear nothing of claims
  | users =>
    rw [hstep, deliver_users] at h
    rcases hclaim : w.claimOf client code p with ⟨result, rest⟩
    rw [hclaim] at h
    cases result with
    | error e => cases h
    | ok claim => cases h
  | channels =>
    rw [hstep, deliver_channels] at h tidy' keyed' ⊢
    rcases hrequest : w.requestOf client code p with ⟨result, rest⟩
    rw [hrequest] at h tidy' keyed'
    cases result with
    | error e => cases h
    | ok request =>
      obtain ⟨i, q, request⟩ := request
      exact sees_notice (w := w.afterRequest rules i q request)
        (ChannelService.readsBack_perform keyed keyed' tidy') h

/-- The observers notice that a client is gone when it was taken off all channels. -/
theorem sees_withdrawal (keyed : w.channels.Keyed rules.channel) (tidy : w.channels.Tidy)
    (tidy' : (w.step rules (.disconnect [.channels] client)).1.channels.Tidy)
    (h : cb ∈ (w.occurrence rules (.disconnect [.channels] client)).callbacks) :
    Sees rules (w.step rules (.disconnect [.channels] client)).1 cb := by
  have keyed' := keyed_step keyed (.disconnect [.channels] client)
  obtain ⟨record, hstep⟩ := step_disconnect_channels rules w client
  rw [occurrence_disconnect_channels] at h
  rw [hstep] at tidy' keyed' ⊢
  exact sees_notice (ChannelService.readsBack_disconnect keyed tidy keyed' tidy') h

/-- Once a client is on no channel, it makes no difference who else learns that it is gone. -/
theorem Sees.disconnect (h : Sees rules w cb) (lacks : ∀ q, (w.channels.channel q).Lacks client)
    (hooks : List ComponentId) : Sees rules (w.step rules (.disconnect hooks client)).1 cb := by
  refine h.congr ?_ ?_
  -- the client is in no channel any more, so other hooks find nothing to do
  · rw [channels_step_disconnect]
    split
    · exact ChannelService.retire_eq_self fun q _ => Channel.not_holds (lacks q).members
    · rfl
  · intro r
    rw [step_disconnect_fst]
    clear h lacks
    induction hooks generalizing w with
    | nil => rfl
    | cons c hooks ih =>
      refine ih.trans ?_
      cases c with
      | users => exact w.users.username_disconnect client r
      | channels => simp only [disconnectFrom, user, users_send]
      | freshChannels => rfl
      | freshForeign => rfl

/-- After a disconnect every observer sees what it is called for. -/
theorem sees_disconnect (rules : Rules) (steps : List Step) (hooks : List ComponentId)
    (client : ClientId)
    (h : cb ∈ ((initial.run rules steps).step rules (.disconnect hooks client)).2.callbacks) :
    Sees rules ((initial.run rules steps).step rules (.disconnect hooks client)).1 cb := by
  rw [callbacks_disconnect] at h
  induction hooks generalizing steps with
  | nil => cases h
  | cons c hooks ih =>
    -- the components after the first one learn of it in the world that the first one left
    have hrest : ((initial.run rules steps).step rules (.disconnect (c :: hooks) client)).1 =
        ((initial.run rules (steps ++ [.disconnect [c] client])).step rules
          (.disconnect hooks client)).1 := by
      rw [run_snoc, step_disconnect_eq_run, step_disconnect_eq_run]
      rfl
    rw [hrest]
    rcases List.mem_append.1 h with h | h
    · by_cases hc : c = .channels
      · subst hc
        have htidy := tidy_initial_run rules steps
        have htidy' := tidy_initial_run rules (steps ++ [.disconnect [.channels] client])
        have hlacks : ∀ q, ((initial.run rules
            (steps ++ [.disconnect [.channels] client])).channels.channel q).Lacks client := by
          intro q
          rw [run_snoc, channels_step_disconnect, if_pos List.mem_cons_self]
          exact htidy.lacks_retire client q
        rw [run_snoc] at htidy' hlacks ⊢
        exact (sees_withdrawal (keyed_run rules steps) htidy htidy' h).disconnect hlacks
          hooks
      · rw [occurrence_disconnect_of_ne hc] at h
        cases h
    · refine ih _ ?_
      rw [run_snoc]
      exact h

/-- Whatever an observer finds out from inside a callback, in every state that can be reached and
whatever happens in it, is so after the whole step. -/
theorem observers_see_finished_operation (rules : Rules) (steps : List Step) (st : Step)
    (h : cb ∈ ((initial.run rules steps).step rules st).2.callbacks) :
    Sees rules ((initial.run rules steps).step rules st).1 cb := by
  cases hquiet : st.isQuiet with
  | true =>
    have h : cb ∈ ((initial.run rules steps).occurrence rules st).callbacks := h
    rw [occurrence_of_isQuiet hquiet] at h
    cases h
  | false =>
    cases st with
    | message c client code p =>
      have htidy' := tidy_initial_run rules (steps ++ [.message c client code p])
      rw [run_snoc] at htidy'
      exact sees_message (keyed_run rules steps) htidy' h
    | disconnect hooks client => exact sees_disconnect rules steps hooks client h
    | _ => cases hquiet

set_option maxRecDepth 100000 in
/-- The founder of two channels is gone. Nobody is left in one of them, and the other one is found
under its name, which others spell in another way. -/
theorem observers_see_finished_operation_after_disconnect :
    let rules : Rules := ⟨default, { caseSensitive := false }⟩
    let ann : ClientId := ⟨1⟩
    let bob : ClientId := ⟨2⟩
    let both := [ComponentId.users, .channels]
    let claim := fun c name => Step.message .users c (Coded.code UserMessage.identify)
      (Payload.ofValues [⟨.string, name⟩, ⟨.string, "secret"⟩])
    let join := fun c name => Step.message .channels c (Coded.code ChannelMessage.join)
      (Payload.ofValues [⟨.string, name⟩])
    let steps := [.register .users 0, .register .channels 0, .connect both ann "host" "a",
      .connect both bob "host" "b", claim ann "Ann", claim bob "Bob", join ann "#One",
      join bob "#ONE", join ann "#Two", .observe (.recording 3)]
    let noticed := ((initial.run rules steps).step rules (.disconnect both ann)).2.callbacks
    let w := ((initial.run rules steps).step rules (.disconnect both ann)).1
    ∃ first second, noticed = [first, second] ∧ w.channels.count = 1 ∧
      first.memberCount = some 1 ∧ second.memberCount = none ∧
      Sees rules w first ∧ Sees rules w second := by
  intro rules ann bob both claim join steps noticed w
  have hlength : noticed.length = 2 := by decide +kernel
  obtain ⟨first, second, hnoticed⟩ := List.length_eq_two.1 hlength
  have hmembers : noticed.map (fun cb => cb.memberCount) = [some 1, none] := by decide +kernel
  have hcount : w.channels.count = 1 := by decide +kernel
  have hfirst : first ∈ noticed := by rw [hnoticed]; exact List.mem_cons_self
  have hsecond : second ∈ noticed := by
    rw [hnoticed]
    exact List.mem_cons_of_mem _ List.mem_cons_self
  rw [hnoticed] at hmembers
  obtain ⟨hone, htail⟩ := List.cons.inj hmembers
  obtain ⟨hnone, -⟩ := List.cons.inj htail
  exact ⟨first, second, hnoticed, hcount, hone, hnone,
    observers_see_finished_operation rules steps _ hfirst,
    observers_see_finished_operation rules steps _ hsecond⟩

end World

end ChatServer
