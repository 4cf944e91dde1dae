import ChatServer.Proofs.Channel.Separation
import ChatServer.Proofs.World.Beside

/-!
# Channels do not interfere

What is requested of other channels makes no difference to a channel: if all requests about channels
of other keys are left out of a run, then the channel under the key is the same in the end, and all
other steps have the same results and tell the members of the channel and its observers the same.
The two runs are compared step by step; `SameUnder` is what they have in common on the way.
-/

namespace ChatServer

/-- Whether a step is anything but a request about a channel of another key. -/
def Step.concerns (config : ChannelConfig) (key : String) : Step → Bool
  | .message .channels _ code p =>
    match (ChannelRequest.ofMessage code p).1 with
    | .ok request => config.keyFor request.name = key
    | .error _ => true
  | _ => true

/-- What came of a step, as far as it is about the channel under a key: the answer, the messages and
what observers notice. -/
def Occurrence.under (config : ChannelConfig) (key : String) (e : Occurrence) :
    Answer × List Outgoing × List (Nat × ChannelEvent × Option Nat) :=
  (e.answer, e.sent.filter fun o => o.message.concerns key,
    Callback.notices config key e.callbacks)

/-- The channel registered under a key. -/
def ChannelService.channelAt? (s : ChannelService) (key : String) : Option Channel :=
  (s.registered? key).map s.channel

/-- The same channel is there under the key. -/
theorem ChannelService.SameUnder.channelAt?_eq {key : String} {s s' : ChannelService}
    (h : SameUnder key s s') : s'.channelAt? key = s.channelAt? key := by
  rw [channelAt?, channelAt?, h.registered?_eq]
  cases hr : s.registered? key with
  | none => rfl
  | some r =>
    rw [Option.map_some, Option.map_some, h.channel_eq (registered?_eq_some_iff.1 hr).1]

namespace World

variable {rules : Rules} {key : String} {w w' : World}

/-- What is seen of a disconnect under a key is what is seen of its hooks, one after the other. -/
theorem under_disconnect (config : ChannelConfig) (hooks : List ComponentId) (client : ClientId) :
    (w.occurrence rules (.disconnect hooks client)).under config key =
      let views := (w.trace rules (hooks.map fun c => .disconnect [c] client)).map
        (Occurrence.under config key)
      (.done, views.flatMap fun view => view.2.1, views.flatMap fun view => view.2.2) := by
  dsimp only
  rw [occurrence_disconnect, Occurrence.under, List.filter_flatMap, Callback.notices_flatMap,
    List.flatMap_map, List.flatMap_map]
  rfl

/-- Two worlds that differ at most in channels of other keys and in what was sent. -/
structure SameUnder (key : String) (w w' : World) : Prop where
  servers : w'.servers = w.servers
  users : w'.users = w.users
  channels : w.channels.SameUnder key w'.channels

namespace SameUnder

theorem refl (key : String) (w : World) : SameUnder key w w := ⟨rfl, rfl, .refl key _⟩

theorem beside (h : SameUnder key w w') : Beside (ChannelService.SameUnder key) w w' :=
  ⟨h.servers, h.users, h.channels⟩

theorem of_beside (h : Beside (ChannelService.SameUnder key) w w') : SameUnder key w w' :=
  ⟨h.servers, h.users, h.channels⟩

theorem upkeep (key : String) : ChannelService.Upkeep (ChannelService.SameUnder key) where
  binding h := h.binding
  rebind _ h := ⟨rfl, h.observers, h.registered, h.history⟩
  clear h := h.clear
  observe o h := h.observe o

/-! ## Steps that are left out -/

/-- A request about a channel of another key is as good as none. -/
theorem skip (h : SameUnder key w w') {st : Step}
    (other : st.concerns rules.channel key = false) :
    SameUnder key (w.step rules st).1 w' := by
  cases st with
  | message c client code p =>
    cases c with
    | channels =>
      have hstep : w.step rules (.message .channels client code p) =
        w.deliver rules .channels client code p := rfl
      rw [hstep, deliver_channels]
      rcases hrequest : w.requestOf client code p with ⟨result, rest⟩
      cases result with
      | error e => exact h
      | ok request =>
        obtain ⟨i, r, request⟩ := request
        obtain ⟨-, hread, -⟩ := requestOf_eq_ok hrequest
        have hname : rules.channel.keyFor request.name ≠ key := by
          rw [Step.concerns, hread] at other
          exact of_decide_eq_false other
        -- only the first world performs it, on a channel that the relation does not look at
        have hperform := ChannelService.SameUnder.of_perform w.user w.channels r hname
        exact ⟨h.servers, h.users, hperform.symm.trans h.channels⟩
    | _ => cases other
  | _ => cases other

/-! ## Steps that are kept -/

/-- A request about the channel comes to the same. -/
theorem keep_request (h : SameUnder key w w') (client : ClientId) (code : UInt16) (p : Payload)
    (same : (Step.message .channels client code p).concerns rules.channel key) :
    SameUnder key (w.step rules (.message .channels client code p)).1
        (w'.step rules (.message .channels client code p)).1 ∧
      (w.occurrence rules (.message .channels client code p)).under rules.channel key =
        (w'.occurrence rules (.message .channels client code p)).under rules.channel key := by
  refine (h.beside.request (upkeep key)
    (fun e e' => e.under rules.channel key = e'.under rules.channel key) (fun _ => rfl)
    fun q request rest hread => ?_).imp_left of_beside
  have hname : rules.channel.keyFor request.name = key := by
    rw [Step.concerns, hread] at same
    exact of_decide_eq_true same
  obtain ⟨hperform, heffects⟩ := h.channels.perform w.user q hname
  refine ⟨hperform, ?_⟩
  -- observers that look the channel up find the same in both worlds
  rw [Occurrence.under, Occurrence.under]
  dsimp only
  rw [heffects, hperform.notices_eq rfl]

/-- What one component learns of a disconnect comes to the same. -/
theorem keep_hook (h : SameUnder key w w') (sound : w.Sound rules) (sound' : w'.Sound rules)
    (c : ComponentId) (client : ClientId) :
    SameUnder key (w.step rules (.disconnect [c] client)).1
        (w'.step rules (.disconnect [c] client)).1 ∧
      (w.occurrence rules (.disconnect [c] client)).under rules.channel key =
        (w'.occurrence rules (.disconnect [c] client)).under rules.channel key := by
  -- in a sound world an event about a channel carries a name that has the channel's key
  have hevents := h.channels.events_disconnect sound.channels
    (h.beside.user_eq ▸ sound'.channels) w.servers client
  have hchannels := h.channels.disconnect w.servers w.user client
  refine (h.beside.hook
    (fun e e' => e.under rules.channel key = e'.under rules.channel key) (fun _ => rfl)
    ⟨hchannels, ?_⟩ c).imp_left of_beside
  rw [Occurrence.under, Occurrence.under]
  dsimp only
  rw [h.channels.messages_disconnect, hchannels.notices_eq hevents]

end SameUnder

/-! ## Runs -/

/-- Two sound worlds that differ at most in channels of other keys and in what was sent. -/
structure Alike (rules : Rules) (key : String) (w w' : World) : Prop where
  sound : w.Sound rules
  sound' : w'.Sound rules
  same : SameUnder key w w'

theorem Alike.initial (rules : Rules) (key : String) : Alike rules key initial initial :=
  ⟨sound_initial rules, sound_initial rules, .refl key _⟩

/-- Runs are still alike when one of them leaves out a step that is not about the key. -/
theorem Alike.skip (h : Alike rules key w w') {st : Step} (direct : st.isDirect = false)
    (other : st.concerns rules.channel key = false) : Alike rules key (w.step rules st).1 w' :=
  ⟨h.sound.step direct, h.sound', h.same.skip other⟩

/-- A disconnect comes to the same, whichever components learn of it. -/
theorem Alike.keep_disconnect (h : Alike rules key w w') (hooks : List ComponentId)
    (client : ClientId) :
    SameUnder key (w.step rules (.disconnect hooks client)).1
        (w'.step rules (.disconnect hooks client)).1 ∧
      (w.occurrence rules (.disconnect hooks client)).under rules.channel key =
        (w'.occurrence rules (.disconnect hooks client)).under rules.channel key := by
  obtain ⟨halike, hunder⟩ := disconnect_congr (Occurrence.under rules.channel key)
    (fun c w w' (h : Alike rules key w w') => by
      obtain ⟨hsame, hunder⟩ := h.same.keep_hook h.sound h.sound' c client
      exact ⟨⟨h.sound.step rfl, h.sound'.step rfl, hsame⟩, hunder⟩) h hooks
  rw [under_disconnect, under_disconnect, hunder]
  exact ⟨halike.same, rfl⟩

/-- Every step but a request about another channel comes to the same. -/
theorem Alike.keep (h : Alike rules key w w') {st : Step} (direct : st.isDirect = false)
    (same : st.concerns rules.channel key) :
    Alike rules key (w.step rules st).1 (w'.step rules st).1 ∧
      (w.occurrence rules st).under rules.channel key =
        (w'.occurrence rules st).under rules.channel key := by
  suffices hsame : SameUnder key (w.step rules st).1 (w'.step rules st).1 ∧
      (w.occurrence rules st).under rules.channel key =
        (w'.occurrence rules st).under rules.channel key from
    ⟨⟨h.sound.step direct, h.sound'.step direct, hsame.1⟩, hsame.2⟩
  have hsame := h.same
  by_cases hgeneral : st.isGeneral
  · exact (hsame.beside.general (SameUnder.upkeep key) hgeneral).imp .of_beside (congrArg _)
  -- what is left are disconnects and requests, which are about channels
  cases st with
  | disconnect hooks client => exact h.keep_disconnect hooks client
  | message c client code p =>
    cases c with
    | channels => exact hsame.keep_request client code p same
    | _ => exact absurd rfl hgeneral
  | enlist channel user audience => cases direct
  | dismiss channel client audience => cases direct
  | _ => exact absurd rfl hgeneral

/-- Leaving out of a run all requests about channels of other keys changes neither the channel that
is registered under the key, with its name, members and operators, nor any user, nor what comes of
the other steps for this channel: the answers, the messages with their recipients, in order, and
what observers notice. -/
theorem channels_do_not_interfere (rules : Rules) (key : String) {steps : List Step}
    (hsteps : ∀ st ∈ steps, st.isDirect = false) :
    let kept := steps.filter (Step.concerns rules.channel key)
    (initial.run rules kept).channels.channelAt? key =
      (initial.run rules steps).channels.channelAt? key ∧
    (initial.run rules kept).users = (initial.run rules steps).users ∧
    (initial.trace rules kept).map (Occurrence.under rules.channel key) =
      ((initial.trace rules steps).filter fun e => e.step.concerns rules.channel key).map
        (Occurrence.under rules.channel key) := by
  have hindirect : ∀ e ∈ initial.trace rules steps, e.step.isDirect = false := fun e he =>
    hsteps e.step (step_mem_of_mem_trace he)
  obtain ⟨halike, -, hunder⟩ := unwinding (Alike rules key) (fun e => e.step.isDirect = false)
    (fun _ => True) (Step.concerns rules.channel key) (Occurrence.under rules.channel key)
    (fun _ _ _ h direct other => ⟨h.skip direct other, trivial⟩)
    (fun _ _ _ h direct same => h.keep direct same) (Alike.initial rules key) hindirect
  exact ⟨halike.same.channels.channelAt?_eq, halike.same.users, hunder.symm⟩

set_option maxRecDepth 100000 in
/-- Two users share a channel and another one, on which the first does not depend. -/
theorem channels_do_not_interfere_two_channels :
    let rules : Rules := ⟨default, { caseSensitive := false }⟩
    let ann : ClientId := ⟨1⟩
    let bob : ClientId := ⟨2⟩
    let both := [ComponentId.users, .channels]
    let claim := fun c name => Step.message .users c (Coded.code UserMessage.identify)
      (Payload.ofValues [⟨.string, name⟩, ⟨.string, "secret"⟩])
    let join := fun c name => Step.message .channels c (Coded.code ChannelMessage.join)
      (Payload.ofValues [⟨.string, name⟩])
    let steps := [.register .users 0, .register .channels 0, .connect both ann "host" "a",
      .connect both bob "host" "b", claim ann "Ann", claim bob "Bob", join bob "#Two",
      join ann "#One", join bob "#ONE", join ann "#two", .disconnect both bob]
    let kept := steps.filter (Step.concerns rules.channel "#one")
    kept.length = 9 ∧
      ((initial.run rules steps).channels.channelAt? "#two").isSome ∧
      ((initial.run rules kept).channels.channelAt? "#two").isSome = false ∧
      ((initial.run rules steps).channels.channelAt? "#one").isSome ∧
      (initial.run rules kept).channels.channelAt? "#one" =
        (initial.run rules steps).channels.channelAt? "#one" := by
  intro rules ann bob both claim join steps kept
  have hsteps : ∀ st ∈ steps, st.isDirect = false := by decide +kernel
  exact ⟨by decide +kernel, by decide +kernel, by decide +kernel, by decide +kernel,
    (channels_do_not_interfere rules "#one" hsteps).1⟩

end World

end ChatServer
