import ChatServer.Proofs.Channel.Stale
import ChatServer.Proofs.World.Joining
import ChatServer.Proofs.World.Stopping

/-!
# Registered channels that are closed are as good as none

A channel that is closed past the channel service stays registered. Whatever happens from then on is
compared with what happens without such registrations: every step comes to the same, as `Agrees`
says, and whatever is asked about a channel by its name is answered alike. Only the number of
channels tells the difference. Whoever joins by the name founds a new channel, and nothing that is
done about the old one disturbs it.
-/

namespace ChatServer

/-- What comes of a step here and there is the same, apart from the number of channels that
observers may find. A disconnect may go through the channels in another order. -/
structure Occurrence.Agrees (config : ChannelConfig) (e e' : Occurrence) : Prop where
  step : e'.step = e.step
  answer : e'.answer = e.answer
  sent : Interleaved (fun key o => o.message.concerns key) e.sent e'.sent
  callbacks : Interleaved (fun key n => n.2.1.concerns config key)
    (e.callbacks.map Callback.uncounted) (e'.callbacks.map Callback.uncounted)
  ordered : (∀ hooks client, e.step ≠ .disconnect hooks client) →
    e'.sent = e.sent ∧ e'.callbacks.map Callback.uncounted = e.callbacks.map Callback.uncounted

namespace Occurrence

variable {config : ChannelConfig} {e e' : Occurrence}

/-- It is enough that nothing comes in another order. -/
theorem Agrees.of_ordered (step : e'.step = e.step) (answer : e'.answer = e.answer)
    (sent : e'.sent = e.sent)
    (callbacks : e'.callbacks.map Callback.uncounted = e.callbacks.map Callback.uncounted) :
    e.Agrees config e' where
  step := step
  answer := answer
  sent := by
    rw [sent]
    exact .refl _ _
  callbacks := by
    rw [callbacks]
    exact .refl _ _
  ordered _ := ⟨sent, callbacks⟩

theorem Agrees.refl (config : ChannelConfig) (e : Occurrence) : e.Agrees config e :=
  .of_ordered rfl rfl rfl rfl

end Occurrence

namespace World

open ChannelService (OrderlySwept)

variable {rules : Rules} {w w' : World} {st : Step} {client : ClientId} {code : UInt16}
  {p rest : Payload} {name : String} {q : UserRef} {r : ChannelRef}

/-! ## Steps -/

theorem orderlySwept_upkeep (config : ChannelConfig) :
    ChannelService.Upkeep (OrderlySwept config) where
  binding h := h.swept.binding
  rebind binding h := h.rebind binding
  clear h := h.clear
  observe o h := h.observe o

namespace Beside

/-- A request comes to the same with stale registrations and without. -/
theorem agrees_request (h : Beside (OrderlySwept rules.channel) w w') (client : ClientId)
    (code : UInt16) (p : Payload) :
    let st := Step.message .channels client code p
    Beside (OrderlySwept rules.channel) (w.step rules st).1 (w'.step rules st).1 ∧
      (w.occurrence rules st).Agrees rules.channel (w'.occurrence rules st) := by
  refine h.request (orderlySwept_upkeep _) (Occurrence.Agrees rules.channel) (.refl _)
    fun q request rest _ => ?_
  obtain ⟨hperform, heffects⟩ := h.channels.perform request
  dsimp only
  rw [heffects]
  exact ⟨hperform, .of_ordered rfl rfl rfl (hperform.swept.uncounted_eq _ _ _)⟩

theorem agrees_hook (h : Beside (OrderlySwept rules.channel) w w') (client : ClientId)
    (c : ComponentId) :
    let st := Step.disconnect [c] client
    Beside (OrderlySwept rules.channel) (w.step rules st).1 (w'.step rules st).1 ∧
      (w.occurrence rules st).Agrees rules.channel (w'.occurrence rules st) := by
  obtain ⟨hchannels, hmessages, hevents⟩ := h.channels.disconnect w.servers w.user client
  refine h.hook (Occurrence.Agrees rules.channel) (.refl _) ⟨hchannels, ?_⟩ c
  refine ⟨rfl, rfl, hmessages, ?_, fun never => absurd rfl (never [.channels] client)⟩
  dsimp only
  rw [hchannels.swept.uncounted_eq]
  have hcallbacks := hevents.callbacks w.user (w.channels.disconnect w.servers w.user client).1
  exact Interleaved.map Callback.uncounted hcallbacks

/-- A disconnect comes to the same with stale registrations and without, but for the order of
channels. -/
theorem agrees_disconnect (h : Beside (OrderlySwept rules.channel) w w') (hooks : List ComponentId)
    (client : ClientId) :
    let st := Step.disconnect hooks client
    Beside (OrderlySwept rules.channel) (w.step rules st).1 (w'.step rules st).1 ∧
      (w.occurrence rules st).Agrees rules.channel (w'.occurrence rules st) := by
  obtain ⟨hafter, hparts⟩ := disconnect_forall₂ (Occurrence.Agrees rules.channel)
    (fun c w w' (h : Beside (OrderlySwept rules.channel) w w') => h.agrees_hook client c) h hooks
  refine ⟨hafter, ?_⟩
  rw [occurrence_disconnect, occurrence_disconnect]
  refine ⟨rfl, rfl, .of_forall₂ hparts fun _ _ h => h.sent, ?_,
    fun never => absurd rfl (never hooks client)⟩
  dsimp only
  rw [List.map_flatMap, List.map_flatMap]
  exact .of_forall₂ hparts fun _ _ h => h.callbacks

/-- Every step, also one past the channel service, comes to the same. -/
theorem agrees (h : Beside (OrderlySwept rules.channel) w w') (st : Step) :
    Beside (OrderlySwept rules.channel) (w.step rules st).1 (w'.step rules st).1 ∧
      (w.occurrence rules st).Agrees rules.channel (w'.occurrence rules st) := by
  by_cases hgeneral : st.isGeneral
  · obtain ⟨hafter, hoccurrence⟩ := h.general (orderlySwept_upkeep _) hgeneral
    rw [hoccurrence]
    exact ⟨hafter, .refl _ _⟩
  -- a direct change of a roster is told to nobody, so only its answer matters
  have hquiet (quiet : st.isQuiet)
      (answer : (w'.step rules st).2.answer = (w.step rules st).2.answer) :
      (w.occurrence rules st).Agrees rules.channel (w'.occurrence rules st) := by
    rw [occurrence_congr_of_isQuiet quiet answer]
    exact .refl _ _
  cases st with
  | disconnect hooks client => exact h.agrees_disconnect hooks client
  | message c client code p =>
    cases c with
    | channels => exact h.agrees_request client code p
    | _ => exact absurd rfl hgeneral
  | enlist channel user audience =>
    obtain ⟨henlist, houtcome⟩ := h.channels.enlist w.user channel user audience
    refine ⟨⟨h.servers, h.users, ?_⟩, hquiet rfl ?_⟩
    · show OrderlySwept _ _ (w'.channels.enlist w'.user channel user audience).1
      rwa [h.user_eq]
    · show Answer.enlisted (w'.channels.enlist w'.user channel user audience).2 = _
      rw [h.user_eq, houtcome]
      rfl
  | dismiss channel client audience =>
    obtain ⟨hdismiss, houtcome⟩ := h.channels.dismiss w.user channel client audience
    refine ⟨⟨h.servers, h.users, ?_⟩, hquiet rfl ?_⟩
    · show OrderlySwept _ _ (w'.channels.dismiss w'.user channel client audience).1
      rwa [h.user_eq]
    · show Answer.dismissed (w'.channels.dismiss w'.user channel client audience).2 = _
      rw [h.user_eq, houtcome]
      rfl
  | _ => exact absurd rfl hgeneral

end Beside

/-! ## Runs -/

/-- Whatever is done, also to rosters directly, registered channels stay orderly. -/
theorem orderly_run (h : w.channels.Orderly rules.channel) (steps : List Step) :
    (w.run rules steps).channels.Orderly rules.channel := by
  -- the world is compared with itself
  have hsame : Beside (OrderlySwept rules.channel) w w := ⟨rfl, rfl, .refl _, h⟩
  have hafter : Beside (OrderlySwept rules.channel) (w.run rules steps) (w.run rules steps) :=
    (trace_forall₂ (Occurrence.Agrees rules.channel) (fun st _ _ _ h => h.agrees st) hsame).1
  exact hafter.channels.orderly

/-- A closed channel stays as it is. -/
theorem closed_run (h : w.channels.Orderly rules.channel) {c : Channel}
    (found : w.channels.channels.get? r = some c) (closed : c.enabled = false)
    (steps : List Step) : (w.run rules steps).channels.channels.get? r = some c := by
  obtain ⟨hdefunct, hchannel, -⟩ := (h.defunct_of_get? found closed).moves (moves_run rules w steps)
  refine ChannelService.get?_eq_some_iff.2 ⟨hdefunct.given, hchannel.trans ?_⟩
  exact (ChannelService.get?_eq_some_iff.1 found).2

/-- Whoever joins by the name of a stale registration founds a channel that takes its place. From
then on the old channel is not registered, so to release it changes nothing. -/
theorem successor_of_stale (h : w.channels.Orderly rules.channel)
    (registered : w.channels.IsRegistered r) (closed : (w.channels.channel r).enabled = false)
    (request : w.IsRequest .join client code p name rest q)
    (key : rules.channel.keyFor name = r.owner) (identified : (w.user q).identified)
    (valid : isValidChannelName name) :
    let st := Step.message .channels client code p
    let joined := (w.step rules st).1
    ∃ fresh, fresh ≠ r ∧ JoinFounded rules w joined (w.occurrence rules st) q name fresh ∧
      ∀ later, ¬(joined.run rules later).channels.IsRegistered r ∧
        (joined.run rules later).channels.release r = (joined.run rules later).channels := by
  intro st joined
  obtain ⟨-, -, husers, hchannels, hsent, hcallbacks⟩ := request.join rules
  rw [ChannelService.join_of_stale registered closed key.symm identified valid]
    at hchannels hsent hcallbacks
  have hjoins : JoinsBy rules w joined (w.occurrence rules st)
      (w.channels.found rules.channel w.user q name) := ⟨husers, hchannels, hsent, hcallbacks⟩
  have hfounded := hjoins.founded
  have hdefunct := h.defunct registered closed
  have hne := hdefunct.ne_next (rules.channel.keyFor name)
  refine ⟨_, hne.symm, hfounded, fun later => ?_⟩
  -- a key has one registration, and now it is that of the new channel
  have hreplaced : ¬joined.channels.IsRegistered r := by
    intro hr
    have hfresh : joined.channels.IsRegistered
        (w.channels.channels.next (rules.channel.keyFor name)) :=
      (hfounded.registry _).trans (if_pos rfl)
    exact hne (hr.eq hfresh key.symm)
  obtain ⟨hdefunct', -, -⟩ := hdefunct.moves (moves_step rules w st)
  obtain ⟨-, -, hstill⟩ := hdefunct'.moves (moves_run rules joined later)
  have hgone : ¬(joined.run rules later).channels.IsRegistered r := fun hr => hreplaced (hstill hr)
  exact ⟨hgone, ChannelService.release_eq_self hgone⟩

/-- Registered channels that are closed are as good as none. Let a world have whatever channels
under its keys, those in use as they should be and the closed ones empty, and compare it with the
same world without the closed ones. Whatever is done, the results, the messages and what observers
notice are the same, but for the order in which a disconnect goes through the channels and for how
many channels there are. Afterwards the same channels are in use, with the same rosters, and what is
asked about a channel is answered alike. A closed channel stays closed and empty. Whoever joins by
its name founds a new channel in its place, and to release the old one then does nothing. -/
theorem stale_entries_are_as_good_as_none (rules : Rules) (w : World)
    (orderly : w.channels.Orderly rules.channel) (steps : List Step) :
    let w' : World := { w with channels := w.channels.sweep }
    let after := w.run rules steps
    let after' := w'.run rules steps
    List.Forall₂ (Occurrence.Agrees rules.channel) (w.trace rules steps)
      (w'.trace rules steps) ∧
    after'.servers = after.servers ∧ after'.users = after.users ∧
    (∀ r, after'.channels.channel r = after.channels.channel r ∧
      ((after.channels.channel r).enabled →
        (after'.channels.IsRegistered r ↔ after.channels.IsRegistered r))) ∧
    (∀ name,
      after'.channels.lookup? rules.channel name = after.channels.lookup? rules.channel name ∧
      after'.channels.info? rules.channel after'.user name =
        after.channels.info? rules.channel after.user name ∧
      ∀ client,
        after'.channels.isMember rules.channel name client =
          after.channels.isMember rules.channel name client ∧
        after'.channels.isOperator rules.channel name client =
          after.channels.isOperator rules.channel name client) ∧
    (∀ r c later, after.channels.channels.get? r = some c → c.enabled = false →
      (after.run rules later).channels.channels.get? r = some c) ∧
    ∀ r, after.channels.IsRegistered r → (after.channels.channel r).enabled = false →
      ∀ client code p name rest q, after.IsRequest .join client code p name rest q →
        rules.channel.keyFor name = r.owner → (after.user q).identified →
        isValidChannelName name →
        let st := Step.message .channels client code p
        let joined := (after.step rules st).1
        ∃ fresh, fresh ≠ r ∧
          JoinFounded rules after joined (after.occurrence rules st) q name fresh ∧
          ∀ later, ¬(joined.run rules later).channels.IsRegistered r ∧
            (joined.run rules later).channels.release r = (joined.run rules later).channels := by
  intro w' after after'
  -- the world and the one that was swept go side by side
  have hbefore : Beside (OrderlySwept rules.channel) w w' := ⟨rfl, rfl, orderly.orderlySwept_sweep⟩
  obtain ⟨hafter, htrace⟩ : Beside (OrderlySwept rules.channel) after after' ∧ _ :=
    trace_forall₂ (Occurrence.Agrees rules.channel) (fun st _ _ _ h => h.agrees st) hbefore
  have hswept := hafter.channels.swept
  have horderly := hafter.channels.orderly
  refine ⟨htrace, hafter.servers, hafter.users,
    fun r => ⟨hswept.channel r, hswept.isRegistered_iff⟩,
    fun name => ⟨hswept.lookup?_eq _ name, ?_, fun client =>
      ⟨hswept.isMember_eq _ name client, hswept.isOperator_eq _ name client⟩⟩,
    fun r c later found closed => closed_run horderly found closed later,
    fun r registered closed client code p name rest q request key identified valid =>
      successor_of_stale horderly registered closed request key identified valid⟩
  rw [hafter.user_eq]
  exact hswept.info?_eq rules.channel after.user name

set_option maxRecDepth 100000 in
/-- The last member is taken off a channel past the channel service, which leaves the channel closed
and registered. Who joins by its name takes the place of the closed channel in the registry, or
comes last without it, so in the end a disconnect goes through the channels in another order. -/
theorem stale_entries_are_as_good_as_none_after_dismissal :
    let ann : ClientId := ⟨1⟩
    let bob : ClientId := ⟨2⟩
    let both := [ComponentId.users, .channels]
    let claim := fun c name => Step.message .users c (Coded.code UserMessage.identify)
      (Payload.ofValues [⟨.string, name⟩, ⟨.string, "secret"⟩])
    let ask := fun m c name => Step.message .channels c (Coded.code (m : ChannelMessage))
      (Payload.ofValues [⟨.string, name⟩])
    let before := [.register .users 0, .register .channels 0, .connect both ann "host" "a",
      .connect both bob "host" "b", claim ann "Ann", claim bob "Bob", ask .join ann "#one",
      ask .join ann "#two", .dismiss ⟨"#one", 0⟩ ann .everyone]
    let steps := [ask .leave bob "#one", ask .join bob "#one", ask .join bob "#two",
      ask .join ann "#one"]
    let gone := Step.disconnect both ann
    let left := fun r => Outgoing.mk bob (.memberLeft r ⟨"Ann", "host"⟩)
    let w := initial.run default before
    let w' : World := { w with channels := w.channels.sweep }
    (w.channels.count = 2 ∧ w'.channels.count = 1) ∧
      (w.run default steps).sent default gone = [left ⟨"#one", 1⟩, left ⟨"#two", 0⟩] ∧
      (w'.run default steps).sent default gone = [left ⟨"#two", 0⟩, left ⟨"#one", 1⟩] ∧
      w.channels.Orderly (default : Rules).channel ∧
      List.Forall₂ (Occurrence.Agrees (default : Rules).channel)
        (w.trace default (steps ++ [gone])) (w'.trace default (steps ++ [gone])) := by
  intro ann bob both claim ask before steps gone left w w'
  have horderly : w.channels.Orderly (default : Rules).channel :=
    orderly_run (ChannelService.orderly_initial _) before
  have hagrees := (stale_entries_are_as_good_as_none default w horderly (steps ++ [gone])).1
  exact ⟨by decide +kernel, by decide +kernel, by decide +kernel, horderly, hagrees⟩

end World

end ChatServer
