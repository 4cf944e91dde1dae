import ChatServer.Proofs.World.Runs
import Mathlib.Data.Finset.Basic

/-!
# Sessions of a server with both services

A server keeps to an order. It connects a client only while it is not connected, tells both services
of every connection and of its end, and takes the user service down only after the channels were
closed. In such a session the rosters and the user directory agree: a channel holds of each member
the record that is the member's current one. `Taken` lists what a step can come to; the invariant
`Agreement` is kept by each of its cases.
-/

namespace ChatServer

/-! ## The order that a server keeps to -/

/-- How far the channel service was taken down. -/
inductive Phase where
  /-- Channels may be in use. -/
  | running
  /-- All channels were closed and nobody asked for one since. -/
  | stopped
  /-- The service is bound to no server any more. -/
  | down
deriving DecidableEq, Repr

/-- What a server has done so far: who is connected, and how far it took the channels down. -/
structure Session where
  online : Finset ClientId
  phase : Phase

namespace Session

/-- A session in which nobody has connected yet. -/
def start : Session := ⟨∅, .running⟩

/-- Whether a list of components is both services, in some order. -/
def bothServices (hooks : List ComponentId) : Bool :=
  hooks = [.users, .channels] || hooks = [.channels, .users]

/-- Whether a server takes a step. -/
def admits (s : Session) : Step → Bool
  | .connect hooks client _ _ => bothServices hooks && client ∉ s.online
  | .disconnect hooks _ => bothServices hooks
  | .message c _ _ _ => c = .users || c = .channels
  | .start c => c = .users || c = .channels
  | .stop c => c = .users || c = .channels
  | .shutdown c => c = .channels || c = .users && s.phase ≠ .running
  | .observe _ => true
  | _ => false

/-- The session after a step. -/
def after (s : Session) : Step → Session
  | .connect _ client _ _ => { s with online := insert client s.online }
  | .disconnect _ client => { s with online := s.online.erase client }
  | .message .channels _ _ _ => if s.phase = .stopped then { s with phase := .running } else s
  | .stop .channels => if s.phase = .running then { s with phase := .stopped } else s
  | .shutdown .channels => { s with phase := .down }
  | _ => s

/-- Whether a server takes some steps one after another. -/
def orderly (s : Session) : List Step → Bool
  | [] => true
  | st :: steps => s.admits st && (s.after st).orderly steps

/-- The session after some steps. -/
def run (s : Session) (steps : List Step) : Session := steps.foldl after s

/-- Unless the channel service is down, a message to it may open channels again. -/
theorem after_message_channels {s : Session} (h : s.phase ≠ .down) (client : ClientId)
    (code : UInt16) (p : Payload) :
    s.after (.message .channels client code p) = { s with phase := .running } := by
  rcases s with ⟨online, phase⟩
  cases phase with
  | running => rfl
  | stopped => rfl
  | down => exact absurd rfl h

/-- A session goes on without channels when their service is stopped. -/
theorem after_stop_channels {s : Session} (h : s.phase ≠ .down) :
    s.after (.stop .channels) = { s with phase := .stopped } := by
  rcases s with ⟨online, phase⟩
  cases phase with
  | running => rfl
  | stopped => rfl
  | down => exact absurd rfl h

/-- What comes after a shutdown does not change how far a session is. -/
theorem after_message_of_down {s : Session} (h : s.phase = .down) (client : ClientId)
    (code : UInt16) (p : Payload) : s.after (.message .channels client code p) = s := by
  rcases s with ⟨online, phase⟩
  cases h
  rfl

theorem after_stop_of_down {s : Session} (h : s.phase = .down) :
    s.after (.stop .channels) = s := by
  rcases s with ⟨online, phase⟩
  cases h
  rfl

/-- A session has no steps that change rosters directly. -/
theorem isDirect_of_admits {s : Session} {st : Step} (h : s.admits st) : st.isDirect = false := by
  cases st with
  | enlist channel user audience => cases h
  | dismiss channel client audience => cases h
  | _ => rfl

end Session

namespace World

variable {rules : Rules} {w : World} {session : Session}

/-- The world of one server that hosts the user service and the channel service. -/
def hosted (rules : Rules) : World :=
  initial.run rules [.register .users 0, .register .channels 0]

/-- The world after both services learned that a client is gone. The channel service looks at the
records of users as they are before or after that: `view`. -/
def bothDisconnect (w : World) (client : ClientId) (view : UserRef → User) : World :=
  { w with
    users := w.users.disconnect client
    channels := (w.channels.disconnect w.servers view client).1 }.send w.channels.binding
      (w.channels.disconnect w.servers view client).2.messages

/-- What becomes of a world when its server takes a step. -/
inductive Taken (rules : Rules) (w : World) (session : Session) : Step → World → Prop
  | connected {hooks : List ComponentId} {client : ClientId} {hostname suffix : String}
    (fresh : client ∉ session.online) :
    Taken rules w session (.connect hooks client hostname suffix)
      { w with users := w.users.connect rules.user client hostname suffix }
  | disconnected {hooks : List ComponentId} {client : ClientId} {view : UserRef → User}
    (known : view = w.user ∨ view = (w.users.disconnect client).directory.user) :
    Taken rules w session (.disconnect hooks client) (w.bothDisconnect client view)
  | handled {c : ComponentId} {client : ClientId} {code : UInt16} {p : Payload} {w' : World}
    (delivery : Delivery rules w client code p c w') :
    Taken rules w session (.message c client code p) w'
  | started (c : ComponentId) : Taken rules w session (.start c) w
  | usersStopped : Taken rules w session (.stop .users) w
  | channelsStopped :
    Taken rules w session (.stop .channels) { w with channels := w.channels.clear }
  | usersDown (phase : session.phase ≠ .running) :
    Taken rules w session (.shutdown .users) { w with users := w.users.shutdown }
  | channelsDown :
    Taken rules w session (.shutdown .channels) { w with channels := w.channels.shutdown }
  | observed (o : Observer) :
    Taken rules w session (.observe o) { w with channels := w.channels.observe o }

/-- It makes no difference whether users change before something is sent or after. -/
theorem send_users (w : World) (users : UserService) (b : Binding) (messages : List Outgoing) :
    { w.send b messages with users } = { w with users }.send b messages := by
  unfold send
  dsimp only
  cases b.get? w.servers <;> rfl

/-- A disconnect that both services learn of is one of both, whichever is called first; only what
the channel service sees of records depends on it. -/
theorem step_bothDisconnect (rules : Rules) (w : World) {hooks : List ComponentId}
    (h : Session.bothServices hooks) (client : ClientId) :
    ∃ view, (view = w.user ∨ view = (w.users.disconnect client).directory.user) ∧
      (w.step rules (.disconnect hooks client)).1 = w.bothDisconnect client view := by
  rw [step_disconnect_fst]
  simp only [Session.bothServices, Bool.or_eq_true, decide_eq_true_eq] at h
  rcases h with h | h
  · -- the user service goes first, so the channel service finds the record disabled
    exact ⟨_, .inr rfl, by rw [h]; rfl⟩
  · refine ⟨w.user, .inl rfl, ?_⟩
    rw [h]
    simp only [List.foldl_cons, List.foldl_nil, disconnectFrom, users_send]
    exact send_users _ _ _ _

/-- A connection that both services learn of only enrols the client. -/
theorem step_bothConnect (rules : Rules) (w : World) {hooks : List ComponentId}
    (h : Session.bothServices hooks) (client : ClientId) (hostname suffix : String) :
    (w.step rules (.connect hooks client hostname suffix)).1 =
      { w with users := w.users.connect rules.user client hostname suffix } := by
  rw [step_connect_fst]
  simp only [Session.bothServices, Bool.or_eq_true, decide_eq_true_eq] at h
  rcases h with rfl | rfl <;> rfl

/-- A step of a session is taken in one of these ways. -/
theorem taken (rules : Rules) (w : World) {st : Step} (h : session.admits st) :
    Taken rules w session st (w.step rules st).1 := by
  cases st with
  | connect hooks client hostname suffix =>
    simp only [Session.admits, Bool.and_eq_true, decide_eq_true_eq] at h
    rw [step_bothConnect rules w h.1]
    exact .connected h.2
  | disconnect hooks client =>
    obtain ⟨view, hview, hw⟩ := step_bothDisconnect rules w h client
    rw [hw]
    exact .disconnected hview
  | message c client code p => exact .handled (delivery rules w c client code p)
  | start c => exact .started c
  | stop c =>
    cases c with
    | users => exact .usersStopped
    | channels => exact .channelsStopped
    | freshChannels => cases h
    | freshForeign => cases h
  | shutdown c =>
    cases c with
    | users => exact .usersDown (by simpa [Session.admits] using h)
    | channels => exact .channelsDown
    | freshChannels => cases h
    | freshForeign => cases h
  | observe o => exact .observed o
  | createServer => cases h
  | dropServer i => cases h
  | register c i => cases h
  | attach c i => cases h
  | enlist channel user audience => cases h
  | dismiss channel client audience => cases h

/-! ## Rosters of current records -/

/-- Who is not registered is on no roster, so its new record is held by none. -/
theorem rostersCurrent_connect (h : w.channels.RostersCurrent w.users.directory)
    {client : ClientId} (absent : w.users.directory.ref? client = none)
    (hostname suffix : String) :
    w.channels.RostersCurrent (w.users.connect rules.user client hostname suffix).directory := by
  refine h.of_ref?_eq fun r c n hr hm => ?_
  have hne : c ≠ client := by
    rintro rfl
    have hcurrent : w.users.directory.ref? c = some ⟨c, n⟩ := h r c n hr hm
    rw [absent] at hcurrent
    cases hcurrent
  show (w.users.directory.enrol _).ref? c = _
  rw [UserDirectory.ref?_enrol]
  exact if_neg hne

/-- Who disconnects is no longer found; others are. -/
theorem ref?_bothDisconnect (w : World) (client c : ClientId) (view : UserRef → User) :
    (w.bothDisconnect client view).users.directory.ref? c =
      if c = client then none else w.users.directory.ref? c := by
  rw [bothDisconnect, users_send]
  exact UserService.ref?_disconnect w.users client c

/-- Who is gone lost its record, but is on no roster any more. -/
theorem rostersCurrent_bothDisconnect (h : w.channels.RostersCurrent w.users.directory)
    (hs : w.Sound rules) (client : ClientId) (view : UserRef → User) :
    (w.bothDisconnect client view).channels.RostersCurrent
      (w.bothDisconnect client view).users.directory := by
  have hcurrent : (w.channels.disconnect w.servers view client).1.RostersCurrent
      w.users.directory :=
    h.changes hs.channels hs.directory.client
      (ChannelService.changes_disconnect w.servers view client)
  have hchannels : (w.bothDisconnect client view).channels =
      (w.channels.disconnect w.servers view client).1 := by
    rw [bothDisconnect, channels_send]
  rw [hchannels]
  refine hcurrent.of_ref?_eq fun r c n hr hm => ?_
  have hne : c ≠ client := by
    rintro rfl
    rw [ChannelService.not_member_disconnect hs.channels hr] at hm
    cases hm
  rw [ref?_bothDisconnect, if_neg hne]

/-! ## Agreement -/

/-- What holds at any time in a session. -/
structure Agreement (w : World) (session : Session) : Prop where
  current : w.channels.RostersCurrent w.users.directory
  online : ∀ c r, w.users.directory.ref? c = some r → c ∈ session.online
  stopped : session.phase = .stopped → ∀ r, ¬w.channels.IsRegistered r
  bound : ∀ r, w.channels.IsRegistered r → (w.channels.binding.get? w.servers).isSome
  unbound : session.phase = .down → w.channels.binding.get? w.servers = none

/-- When a session starts nobody is connected or in a channel. -/
theorem agreement_hosted (rules : Rules) : (hosted rules).Agreement .start where
  current r c n h := by cases h
  online c r h := by cases h
  stopped h := by cases h
  bound r h := by cases h
  unbound h := by cases h

/-- Once the service was stopped or taken down there is no channel. -/
theorem Agreement.not_registered (h : w.Agreement session) (hphase : session.phase ≠ .running)
    (r : ChannelRef) : ¬w.channels.IsRegistered r := by
  intro hr
  have hbound := h.bound r hr
  cases hp : session.phase with
  | running => exact hphase hp
  | stopped => exact h.stopped hp r hr
  | down =>
    rw [h.unbound hp] at hbound
    cases hbound

/-- World and session still agree when a client connects that was not connected. -/
theorem Agreement.connected (h : w.Agreement session) {client : ClientId}
    (fresh : client ∉ session.online) (hostname suffix : String) (hooks : List ComponentId) :
    ({ w with users := w.users.connect rules.user client hostname suffix } : World).Agreement
      (session.after (.connect hooks client hostname suffix)) where
  current := by
    -- all who are registered are online, so the client that connects is not
    refine rostersCurrent_connect h.current ?_ hostname suffix
    exact Option.eq_none_iff_forall_ne_some.2 fun r hr => fresh (h.online client r hr)
  online c r hc := by
    have hc : (w.users.directory.enrol
      (.guest client (rules.user.config.guestName suffix) hostname)).ref? c = some r := hc
    rw [UserDirectory.ref?_enrol] at hc
    show c ∈ insert client session.online
    rw [Finset.mem_insert]
    split at hc
    · next heq => exact .inl heq
    · exact .inr (h.online c r hc)
  stopped := h.stopped
  bound := h.bound
  unbound := h.unbound

/-- World and session agree when a client disconnects. -/
theorem Agreement.disconnected (h : w.Agreement session) (hs : w.Sound rules)
    {client : ClientId} (view : UserRef → User) (hooks : List ComponentId) :
    (w.bothDisconnect client view).Agreement (session.after (.disconnect hooks client)) := by
  -- a disconnect registers no channel and binds the service to no other server
  have hregistered : ∀ r,
      (w.channels.disconnect w.servers view client).1.IsRegistered r →
        w.channels.IsRegistered r := by
    intro r hr
    rw [ChannelService.disconnect_eq] at hr
    exact ((ChannelService.isRegistered_retire w.channels.nodup_refs).1 hr).1
  have hbinding : (w.channels.disconnect w.servers view client).1.binding =
      w.channels.binding := by
    rw [ChannelService.disconnect_eq]
    exact ChannelService.binding_retire _
  constructor
  case current => exact rostersCurrent_bothDisconnect h.current hs client view
  case online =>
    intro c r hc
    rw [ref?_bothDisconnect] at hc
    show c ∈ session.online.erase client
    rw [Finset.mem_erase]
    split at hc
    · cases hc
    · next hne => exact ⟨hne, h.online c r hc⟩
  case stopped =>
    intro hphase r hr
    rw [bothDisconnect, channels_send] at hr
    exact h.stopped hphase r (hregistered r hr)
  case bound =>
    intro r hr
    rw [bothDisconnect, channels_send] at hr
    rw [bothDisconnect, channels_send, servers_send]
    show (Binding.get? (w.channels.disconnect w.servers view client).1.binding _).isSome
    rw [hbinding]
    exact h.bound r (hregistered r hr)
  case unbound =>
    intro hphase
    rw [bothDisconnect, channels_send, servers_send]
    show Binding.get? (w.channels.disconnect w.servers view client).1.binding _ = none
    rw [hbinding]
    exact h.unbound hphase

/-- A message that changes nothing. -/
theorem Agreement.refused (h : w.Agreement session) (c : ComponentId) (client : ClientId)
    (code : UInt16) (p : Payload) : w.Agreement (session.after (.message c client code p)) := by
  cases c with
  | channels =>
    by_cases hdown : session.phase = .down
    · rw [Session.after_message_of_down hdown]
      exact h
    · rw [Session.after_message_channels hdown]
      exact ⟨h.current, h.online, nofun, h.bound, nofun⟩
  | _ => exact h

theorem Agreement.handled (h : w.Agreement session) (hs : w.Sound rules) {c : ComponentId}
    {client : ClientId} {code : UInt16} {p : Payload} {w' : World}
    (delivery : Delivery rules w client code p c w') :
    w'.Agreement (session.after (.message c client code p)) := by
  cases delivery with
  | refused c => exact h.refused c client code p
  | @claimed i r request rest bound read current =>
    constructor
    case current =>
      exact h.current.of_ref?_eq fun _ c _ _ _ =>
        UserService.ref?_claim rules.user w.users r request c
    case online =>
      intro c q hc
      have hc : (w.users.claim rules.user r request).1.directory.ref? c = some q := hc
      rw [UserService.ref?_claim] at hc
      exact h.online c q hc
    case stopped => exact h.stopped
    case bound => exact h.bound
    case unbound => exact h.unbound
  | @requested i r request rest bound read current =>
    -- a service that is down has no server, so it would have refused the message
    have hup : session.phase ≠ .down := by
      intro hdown
      rw [h.unbound hdown] at bound
      cases bound
    have hchanges : ChannelService.Changes rules.channel w.users.directory w.channels
        (w.channels.perform rules.channel w.user r request).1 :=
      ChannelService.changes_perform (UserDirectory.isCurrent_of_ref? current).1 request
    rw [Session.after_message_channels hup]
    constructor
    case current => exact h.current.changes hs.channels hs.directory.client hchanges
    case online => exact h.online
    case stopped => exact nofun
    case bound =>
      intro q _
      show (Binding.get? (w.channels.perform rules.channel w.user r request).1.binding
        w.servers).isSome
      rw [ChannelService.binding_perform, bound]
      rfl
    case unbound => exact nofun

theorem Agreement.channelsStopped (h : w.Agreement session) :
    ({ w with channels := w.channels.clear } : World).Agreement
      (session.after (.stop .channels)) := by
  have hnone := w.channels.not_isRegistered_clear
  have hbinding : w.channels.clear.binding = w.channels.binding := by
    obtain ⟨channels, hclear⟩ := w.channels.clear_eq
    rw [hclear]
  -- whatever the phase was, a service without channels agrees with the session as it was
  have hstopped : ({ w with channels := w.channels.clear } : World).Agreement session := by
    constructor
    case current => exact fun r c n hr => absurd hr (hnone r)
    case online => exact h.online
    case stopped => exact fun _ => hnone
    case bound => exact fun r hr => absurd hr (hnone r)
    case unbound =>
      intro hphase
      show w.channels.clear.binding.get? w.servers = none
      rw [hbinding]
      exact h.unbound hphase
  by_cases hdown : session.phase = .down
  · rw [Session.after_stop_of_down hdown]
    exact hstopped
  · rw [Session.after_stop_channels hdown]
    exact ⟨hstopped.current, h.online, fun _ => hnone, hstopped.bound, nofun⟩

theorem Agreement.channelsDown (h : w.Agreement session) :
    ({ w with channels := w.channels.shutdown } : World).Agreement
      (session.after (.shutdown .channels)) where
  current r c n hr := absurd hr (w.channels.not_isRegistered_clear r)
  online := h.online
  stopped hphase := by cases hphase
  bound r hr := absurd hr (w.channels.not_isRegistered_clear r)
  unbound _ := rfl

/-- World and session agree when the user service is shut down, once channels are closed. -/
theorem Agreement.usersDown (h : w.Agreement session) (phase : session.phase ≠ .running) :
    ({ w with users := w.users.shutdown } : World).Agreement
      (session.after (.shutdown .users)) where
  current r c n hr := absurd hr (h.not_registered phase r)
  online c r hc := by cases hc
  stopped := h.stopped
  bound := h.bound
  unbound := h.unbound

/-- World and session agree after every step that the session admits. -/
theorem Agreement.step (h : w.Agreement session) (hs : w.Sound rules) {st : Step}
    (hst : session.admits st) : (w.step rules st).1.Agreement (session.after st) := by
  have ht := taken rules w hst
  generalize (w.step rules st).1 = w' at ht
  cases ht with
  | connected fresh => exact h.connected fresh _ _ _
  | disconnected known => exact h.disconnected hs _ _
  | handled delivery => exact h.handled hs delivery
  | started c => exact h
  | usersStopped => exact h
  | channelsStopped => exact h.channelsStopped
  | usersDown phase => exact h.usersDown phase
  | channelsDown => exact h.channelsDown
  | observed o => exact ⟨h.current, h.online, h.stopped, h.bound, h.unbound⟩

/-! ## Whole sessions -/

theorem sound_hosted (rules : Rules) : (hosted rules).Sound rules :=
  (sound_initial rules).run (by decide)

/-- World and session agree all through an orderly session. -/
theorem Agreement.run (h : w.Agreement session) (hs : w.Sound rules) {steps : List Step}
    (ho : session.orderly steps) :
    (w.run rules steps).Agreement (session.run steps) ∧ (w.run rules steps).Sound rules := by
  induction steps generalizing w session with
  | nil => exact ⟨h, hs⟩
  | cons st steps ih =>
    rw [Session.orderly, Bool.and_eq_true] at ho
    rcases ho with ⟨hst, ho⟩
    exact ih (h.step hs hst) (hs.step (Session.isDirect_of_admits hst)) ho

/-- In every session of a server with both services, each channel in use holds of each member the
record that is the member's current one, and this record is enabled and identified. Who is not
connected is on no roster. -/
theorem rosters_agree (rules : Rules) {steps : List Step} (h : Session.start.orderly steps) :
    let w := (hosted rules).run rules steps
    (∀ r, w.channels.IsRegistered r → ∀ m n, (w.channels.channel r).members.get? m = some n →
      w.users.directory.ref? m = some ⟨m, n⟩ ∧ (w.user ⟨m, n⟩).enabled ∧
        (w.user ⟨m, n⟩).identified) ∧
    ∀ m, m ∉ (Session.start.run steps).online → ∀ r,
      (w.channels.channel r).isMember m = false ∧ (w.channels.channel r).isOperator m = false := by
  intro w
  obtain ⟨hagreement, hsound⟩ := (agreement_hosted rules).run (sound_hosted rules) h
  have hcurrent := hagreement.current
  constructor
  · intro r hr m n hm
    have href := hcurrent r m n hr hm
    obtain ⟨-, hidentified⟩ := (hsound.channels.intact r hr).record m n hm
    exact ⟨href, hsound.directory.enabled ⟨m, n⟩ href, hidentified⟩
  · intro m hm r
    -- who is on a roster has a record, and only clients that are connected have one
    have hmember : ∀ n, (w.channels.channel r).members.get? m ≠ some n := by
      intro n hn
      have hr := hsound.channels.registered_of_member hn
      exact hm (hagreement.online m ⟨m, n⟩ (hcurrent r m n hr hn))
    constructor
    · exact Table.contains_eq_false_iff.2 (Option.eq_none_iff_forall_ne_some.2 hmember)
    · refine Table.contains_eq_false_iff.2 (Option.eq_none_iff_forall_ne_some.2 fun n hn => ?_)
      exact hmember n (hsound.channels.member_of_operator hn)

set_option maxRecDepth 100000 in
/-- A user whose record was replaced after a disconnect is on no roster until it joins again. -/
theorem rosters_agree_after_reconnect :
    let ann : ClientId := ⟨1⟩
    let bob : ClientId := ⟨2⟩
    let both := [ComponentId.users, .channels]
    let claim := fun c name => Step.message .users c (Coded.code UserMessage.identify)
      (Payload.ofValues [⟨.string, name⟩, ⟨.string, "secret"⟩])
    let join := fun c name => Step.message .channels c (Coded.code ChannelMessage.join)
      (Payload.ofValues [⟨.string, name⟩])
    let steps := [.connect both ann "host" "a", .connect both bob "host" "b", claim ann "Ann",
      claim bob "Bob", join ann "#", join bob "#", .disconnect both ann,
      .connect both ann "host" "c", claim ann "Ann", join ann "#", .disconnect both bob]
    ((hosted default).run default steps).channels.IsRegistered ⟨"#", 0⟩ ∧
      (((hosted default).run default steps).channels.channel ⟨"#", 0⟩).members.get? ann = some 1 ∧
      ((hosted default).run default steps).users.directory.ref? ann = some ⟨ann, 1⟩ ∧
      (((hosted default).run default steps).channels.channel ⟨"#", 0⟩).isMember bob = false := by
  intro ann bob both claim join steps
  have horderly : Session.start.orderly steps := by decide +kernel
  have hregistered : ((hosted default).run default steps).channels.IsRegistered ⟨"#", 0⟩ := by
    decide +kernel
  have hmember : (((hosted default).run default steps).channels.channel ⟨"#", 0⟩).members.get?
      ann = some 1 := by decide +kernel
  have hoffline : bob ∉ (Session.start.run steps).online := by decide +kernel
  have hagree := rosters_agree default horderly
  exact ⟨hregistered, hmember, (hagree.1 _ hregistered ann 1 hmember).1,
    (hagree.2 bob hoffline ⟨"#", 0⟩).1⟩

end World

end ChatServer
