import ChatServer.Proofs.Channel.Guests
import ChatServer.Proofs.User.Guests
import ChatServer.Proofs.World.Traces

/-!
# Guests are invisible to everyone else

A client that never gets a name can do nothing that anyone else notices: if all its steps are left
out of a run, then the channels, the records of all other clients and everything that comes of their
steps are the same. The two runs are compared step by step; `AgreeOff` is what they have in common
on the way.
-/

namespace ChatServer

namespace World

variable {rules : Rules} {g client : ClientId} {w w' : World}

/-- Two worlds that differ at most in the records of a guest and in what was sent. -/
structure AgreeOff (g : ClientId) (w w' : World) : Prop where
  servers : w'.servers = w.servers
  channels : w'.channels = w.channels
  binding : w'.users.binding = w.users.binding
  directory : UserDirectory.AgreeOff g w.users.directory w'.users.directory

namespace AgreeOff

theorem initial (g : ClientId) : AgreeOff g initial initial where
  servers := rfl
  channels := rfl
  binding := rfl
  directory := .empty g

theorem users (h : AgreeOff g w w') : RecordsAgreeOff g w.user w'.user :=
  fun _ ne => h.directory.user_eq ne

/-- No channel has the guest on its rosters. -/
theorem lacks (h : AgreeOff g w w') (sound : w.Sound rules) (channel : ChannelRef) :
    (w.channels.channel channel).Lacks g :=
  sound.channels.lacks h.directory.guest channel

theorem claimOf_eq (h : AgreeOff g w w') (ne : client ≠ g) (code : UInt16) (p : Payload) :
    w'.claimOf client code p = w.claimOf client code p := by
  rw [claimOf, claimOf, h.servers, h.binding, h.directory.ref?_eq ne]

theorem requestOf_eq (h : AgreeOff g w w') (ne : client ≠ g) (code : UInt16) (p : Payload) :
    w'.requestOf client code p = w.requestOf client code p := by
  unfold requestOf ChannelService.resolve
  rw [h.servers, h.channels, h.directory.ref?_eq ne]

/-! ## Steps of the guest -/

/-- The guest connects in one of the worlds only. -/
theorem skip_connect (h : AgreeOff g w w') (hooks : List ComponentId) (hostname suffix : String) :
    AgreeOff g (w.step rules (.connect hooks g hostname suffix)).1 w' := by
  rw [step_connect_eq_run]
  induction hooks generalizing w with
  | nil => exact h
  | cons c hooks ih =>
    refine ih ?_
    cases c with
    | users => exact ⟨h.servers, h.channels, h.binding, h.directory.enrol_guest rfl rfl⟩
    | channels => exact h
    | freshChannels => exact h
    | freshForeign => exact h

/-- No component has anything to tell when a guest is gone. -/
theorem skip_hook (h : AgreeOff g w w') (sound : w.Sound rules) (c : ComponentId) :
    AgreeOff g (w.step rules (.disconnect [c] g)).1 w' ∧
      (w.occurrence rules (.disconnect [c] g)).sent = [] := by
  -- the guest is in no channel, so the channel service has nothing to do and nobody to tell
  by_cases hc : c = .channels
  · subst hc
    have hdisconnect := ChannelService.disconnect_of_lacks (h.lacks sound) w.servers w.user
    obtain ⟨record, hstep⟩ := step_disconnect_channels rules w g
    rw [hstep, occurrence_disconnect_channels, hdisconnect]
    exact ⟨⟨h.servers, h.channels, h.binding, h.directory⟩, rfl⟩
  · rw [occurrence_disconnect_of_ne hc]
    refine ⟨?_, rfl⟩
    cases c with
    | channels => exact absurd rfl hc
    | users =>
      refine ⟨h.servers, h.channels, ?_, UserService.agreeOff_disconnect_guest h.directory⟩
      show w'.users.binding = (w.users.disconnect g).binding
      rw [UserService.binding_disconnect, h.binding]
    | freshChannels => exact h
    | freshForeign => exact h

/-- The guest disconnects in one of them only, and nobody hears of it. -/
theorem skip_disconnect (h : AgreeOff g w w') (sound : w.Sound rules) (hooks : List ComponentId) :
    AgreeOff g (w.step rules (.disconnect hooks g)).1 w' ∧
      (w.occurrence rules (.disconnect hooks g)).sent = [] := by
  rw [occurrence_disconnect, step_disconnect_eq_run]
  induction hooks generalizing w with
  | nil => exact ⟨h, rfl⟩
  | cons c hooks ih =>
    obtain ⟨hfirst, hsent⟩ := h.skip_hook sound c
    obtain ⟨hrest, hrests⟩ := ih hfirst (sound.step rfl)
    refine ⟨hrest, ?_⟩
    show (w.occurrence rules (.disconnect [c] g)).sent ++ _ = []
    rw [hsent]
    exact hrests

/-- A message of the guest is at most answered to the guest, as long as it gets no name. -/
theorem skip_message (h : AgreeOff g w w') (c : ComponentId) (code : UInt16) (p : Payload)
    (never : ∀ name, ⟨g, .nameGranted name⟩ ∉ (w.occurrence rules (.message c g code p)).sent) :
    AgreeOff g (w.deliver rules c g code p).1 w' ∧
      ∀ o ∈ (w.occurrence rules (.message c g code p)).sent, o.client = g := by
  cases c with
  | users =>
    rw [occurrence_users] at never ⊢
    rw [deliver_users]
    rcases hclaim : w.claimOf g code p with ⟨result, rest⟩
    rw [hclaim] at never
    cases result with
    | error e => exact ⟨h, fun o ho => absurd ho List.not_mem_nil⟩
    | ok claim =>
      obtain ⟨i, r, claim⟩ := claim
      obtain ⟨-, -, href⟩ := claimOf_eq_ok hclaim
      obtain ⟨-, howner⟩ := UserDirectory.isCurrent_of_ref? href
      by_cases hok : UserService.judge rules.user w.users.directory r claim = .ok
      · -- the grant would be sent to the guest, which never happens
        have hgrant := UserService.claim_of_granted hok
        dsimp only at never
        rw [hgrant, howner] at never
        exact absurd (List.mem_singleton_self _) (never claim.username)
      · have hrefuse := UserService.claim_of_refused hok
        dsimp only
        rw [afterClaim, hrefuse]
        refine ⟨⟨h.servers, h.channels, h.binding, h.directory⟩, fun o ho => ?_⟩
        rw [List.mem_singleton.1 ho]
        exact howner
  | channels =>
    rw [occurrence_channels, deliver_channels]
    rcases hrequest : w.requestOf g code p with ⟨result, rest⟩
    cases result with
    | error e => exact ⟨h, fun o ho => absurd ho List.not_mem_nil⟩
    | ok request =>
      obtain ⟨i, r, request⟩ := request
      obtain ⟨-, -, href⟩ := requestOf_eq_ok hrequest
      obtain ⟨-, rfl⟩ := UserDirectory.isCurrent_of_ref? href
      -- the record has no claimed name, so the request is refused before any channel is looked at
      have hguest : (w.user r).identified = false := h.directory.guest r.number
      obtain ⟨hsame, hclient⟩ := ChannelService.perform_of_unidentified
        rules.channel w.channels hguest request
      exact ⟨⟨h.servers, h.channels.trans hsame.symm, h.binding, h.directory⟩, hclient⟩
  | freshChannels =>
    rw [occurrence_of_isQuiet rfl]
    exact ⟨h, fun o ho => absurd ho List.not_mem_nil⟩
  | freshForeign =>
    rw [occurrence_of_isQuiet rfl]
    exact ⟨h, fun o ho => absurd ho List.not_mem_nil⟩

/-- A step of the guest is as good as none, as long as it gets no name. -/
theorem skip (h : AgreeOff g w w') (sound : w.Sound rules) {st : Step} (mine : st.client? = some g)
    (never : ∀ name, ⟨g, .nameGranted name⟩ ∉ (w.occurrence rules st).sent) :
    AgreeOff g (w.step rules st).1 w' ∧ ∀ o ∈ (w.occurrence rules st).sent, o.client = g := by
  cases st with
  | connect hooks client hostname suffix =>
    cases mine
    rw [occurrence_of_isQuiet rfl]
    exact ⟨h.skip_connect hooks hostname suffix, fun o ho => absurd ho List.not_mem_nil⟩
  | disconnect hooks client =>
    cases mine
    obtain ⟨hskip, hsent⟩ := h.skip_disconnect sound hooks
    rw [hsent]
    exact ⟨hskip, fun o ho => absurd ho List.not_mem_nil⟩
  | message c client code p =>
    cases mine
    exact h.skip_message c code p never
  | _ => cases mine

/-! ## Steps of others -/

/-- A message of another client comes to the same. -/
theorem keep_message (h : AgreeOff g w w') (sound : w.Sound rules) (ne : client ≠ g)
    (c : ComponentId) (code : UInt16) (p : Payload) :
    AgreeOff g (w.deliver rules c client code p).1 (w'.deliver rules c client code p).1 ∧
      w.occurrence rules (.message c client code p) =
        w'.occurrence rules (.message c client code p) := by
  cases c with
  | users =>
    rw [occurrence_users, occurrence_users, deliver_users, deliver_users, h.claimOf_eq ne]
    rcases hclaim : w.claimOf client code p with ⟨result, rest⟩
    cases result with
    | error e => exact ⟨h, rfl⟩
    | ok claim =>
      obtain ⟨i, r, claim⟩ := claim
      obtain ⟨-, -, href⟩ := claimOf_eq_ok hclaim
      obtain ⟨-, rfl⟩ := UserDirectory.isCurrent_of_ref? href
      -- the guest's records take no name, so the claim is judged alike
      obtain ⟨hdirectory, hanswer⟩ := UserService.agreeOff_claim h.directory rules.user ne claim
      dsimp only
      rw [hanswer]
      refine ⟨⟨h.servers, h.channels, ?_, hdirectory⟩, rfl⟩
      show (w'.users.claim rules.user r claim).1.binding =
        (w.users.claim rules.user r claim).1.binding
      rw [UserService.binding_claim, UserService.binding_claim, h.binding]
  | channels =>
    rw [occurrence_channels, occurrence_channels, deliver_channels, deliver_channels,
      h.requestOf_eq ne, h.channels]
    rcases hrequest : w.requestOf client code p with ⟨result, rest⟩
    cases result with
    | error e => exact ⟨h, rfl⟩
    | ok request =>
      obtain ⟨i, r, request⟩ := request
      obtain ⟨-, -, href⟩ := requestOf_eq_ok hrequest
      obtain ⟨-, rfl⟩ := UserDirectory.isCurrent_of_ref? href
      -- records differ only where no roster leads to, so both worlds perform the same
      have hperform := ChannelService.perform_congr rules.channel h.users
        (h.lacks sound) ne request
      have hchannels : (w'.afterRequest rules i r request).channels =
          (w.afterRequest rules i r request).channels := by
        show (w'.channels.perform rules.channel w'.user r request).1 = _
        rw [h.channels, hperform]
        rfl
      have hnotice : ∀ events, (w'.afterRequest rules i r request).notice rules events =
          (w.afterRequest rules i r request).notice rules events := by
        intro events
        rw [notice, notice, hchannels]
        exact ChannelService.callbacks_congr _ _ _ _ _
      dsimp only
      rw [hperform, hnotice]
      exact ⟨⟨h.servers, hchannels, h.binding, h.directory⟩, rfl⟩
  | freshChannels => exact ⟨h, occurrence_congr_of_isQuiet rfl rfl⟩
  | freshForeign => exact ⟨h, occurrence_congr_of_isQuiet rfl rfl⟩

/-- Another client connects in both. -/
theorem keep_connect (h : AgreeOff g w w') (ne : client ≠ g) (hooks : List ComponentId)
    (hostname suffix : String) :
    AgreeOff g (w.step rules (.connect hooks client hostname suffix)).1
      (w'.step rules (.connect hooks client hostname suffix)).1 := by
  rw [step_connect_eq_run, step_connect_eq_run]
  induction hooks generalizing w w' with
  | nil => exact h
  | cons c hooks ih =>
    refine ih ?_
    cases c with
    | users => exact ⟨h.servers, h.channels, h.binding, h.directory.enrol ne⟩
    | channels => exact h
    | freshChannels => exact h
    | freshForeign => exact h

/-- What one component learns of a disconnect comes to the same. -/
theorem keep_hook (h : AgreeOff g w w') (sound : w.Sound rules) (ne : client ≠ g)
    (c : ComponentId) :
    AgreeOff g (w.step rules (.disconnect [c] client)).1
        (w'.step rules (.disconnect [c] client)).1 ∧
      w.occurrence rules (.disconnect [c] client) =
        w'.occurrence rules (.disconnect [c] client) := by
  -- only the hook of the channel service looks at records, and the guest's are not among them
  by_cases hc : c = .channels
  · subst hc
    have hdisconnect := ChannelService.disconnect_congr h.users (h.lacks sound) w.servers client
    obtain ⟨record, hstep⟩ := step_disconnect_channels rules w client
    obtain ⟨record', hstep'⟩ := step_disconnect_channels rules w' client
    rw [hstep, hstep', occurrence_disconnect_channels, occurrence_disconnect_channels, h.servers,
      h.channels, hdisconnect, ChannelService.callbacks_congr]
    exact ⟨⟨rfl, rfl, h.binding, h.directory⟩, rfl⟩
  · rw [occurrence_disconnect_of_ne hc, occurrence_disconnect_of_ne hc]
    refine ⟨?_, rfl⟩
    cases c with
    | channels => exact absurd rfl hc
    | users =>
      refine ⟨h.servers, h.channels, ?_, UserService.agreeOff_disconnect h.directory ne⟩
      show (w'.users.disconnect client).binding = (w.users.disconnect client).binding
      rw [UserService.binding_disconnect, UserService.binding_disconnect, h.binding]
    | freshChannels => exact h
    | freshForeign => exact h

/-- Another client disconnects in both, and the same comes of it. -/
theorem keep_disconnect (h : AgreeOff g w w') (sound : w.Sound rules) (ne : client ≠ g)
    (hooks : List ComponentId) :
    AgreeOff g (w.step rules (.disconnect hooks client)).1
        (w'.step rules (.disconnect hooks client)).1 ∧
      w.occurrence rules (.disconnect hooks client) =
        w'.occurrence rules (.disconnect hooks client) := by
  obtain ⟨⟨-, hagree⟩, htrace⟩ := disconnect_congr id
    (fun c w w' (h : w.Sound rules ∧ AgreeOff g w w') => by
      obtain ⟨hagree, hsame⟩ := h.2.keep_hook h.1 ne c
      exact ⟨⟨h.1.step rfl, hagree⟩, hsame⟩) ⟨sound, h⟩ hooks
  rw [List.map_id, List.map_id] at htrace
  rw [occurrence_disconnect, occurrence_disconnect, htrace]
  exact ⟨hagree, rfl⟩

/-- A component is placed in a server in both, which answers alike. -/
theorem keep_attach (h : AgreeOff g w w') (c : ComponentId) (i : ServerId) :
    AgreeOff g (w.attach c i).1 (w'.attach c i).1 ∧ (w'.attach c i).2 = (w.attach c i).2 := by
  rw [attach_eq, attach_eq, h.servers, h.binding, h.channels]
  cases rebound w.servers w.users.binding w.channels.binding c i with
  | error e => exact ⟨h, rfl⟩
  | ok b => exact ⟨⟨rfl, rfl, rfl, h.directory⟩, rfl⟩

/-- A component is registered in both, with the same answer. -/
theorem keep_register (h : AgreeOff g w w') (c : ComponentId) (i : ServerId) :
    AgreeOff g (w.register c i).1 (w'.register c i).1 ∧
      (w'.register c i).2 = (w.register c i).2 :=
  register_congr c i h.servers h (fun _ => ⟨rfl, h.channels, h.binding, h.directory⟩)
    fun _ _ h => h.keep_attach c i

/-- Every step that is not the guest's comes to the same. -/
theorem keep (h : AgreeOff g w w') (sound : w.Sound rules) {st : Step}
    (direct : st.isDirect = false) (other : st.client? ≠ some g) :
    AgreeOff g (w.step rules st).1 (w'.step rules st).1 ∧
      w.occurrence rules st = w'.occurrence rules st := by
  -- what is said to a client is for its sender, so it is enough that this is not the guest
  cases st with
  | connect hooks client hostname suffix =>
    have hne : client ≠ g := fun heq => other (congrArg some heq)
    exact ⟨h.keep_connect hne hooks hostname suffix, occurrence_congr_of_isQuiet rfl rfl⟩
  | disconnect hooks client =>
    have hne : client ≠ g := fun heq => other (congrArg some heq)
    exact h.keep_disconnect sound hne hooks
  | message c client code p =>
    have hne : client ≠ g := fun heq => other (congrArg some heq)
    exact h.keep_message sound hne c code p
  | stop c =>
    refine ⟨?_, occurrence_congr_of_isQuiet rfl rfl⟩
    cases c with
    | channels =>
      exact ⟨h.servers, congrArg ChannelService.clear h.channels, h.binding, h.directory⟩
    | _ => exact h
  | shutdown c =>
    refine ⟨?_, occurrence_congr_of_isQuiet rfl rfl⟩
    cases c with
    | users => exact ⟨h.servers, h.channels, rfl, h.directory.clear⟩
    | channels =>
      exact ⟨h.servers, congrArg ChannelService.shutdown h.channels, h.binding, h.directory⟩
    | freshChannels => exact h
    | freshForeign => exact h
  | register c i =>
    obtain ⟨hregister, houtcome⟩ := h.keep_register c i
    exact ⟨hregister, occurrence_congr_of_isQuiet rfl (congrArg Answer.attached houtcome)⟩
  | attach c i =>
    obtain ⟨hattach, houtcome⟩ := h.keep_attach c i
    exact ⟨hattach, occurrence_congr_of_isQuiet rfl (congrArg Answer.attached houtcome)⟩
  | observe o =>
    have hchannels := congrArg (fun s : ChannelService => s.observe o) h.channels
    exact ⟨⟨h.servers, hchannels, h.binding, h.directory⟩, occurrence_congr_of_isQuiet rfl rfl⟩
  | createServer =>
    exact ⟨⟨congrArg Servers.create h.servers, h.channels, h.binding, h.directory⟩,
      occurrence_congr_of_isQuiet rfl rfl⟩
  | dropServer i =>
    have hservers := congrArg (fun s : Servers => s.drop i) h.servers
    exact ⟨⟨hservers, h.channels, h.binding, h.directory⟩, occurrence_congr_of_isQuiet rfl rfl⟩
  | start c => exact ⟨h, occurrence_congr_of_isQuiet rfl rfl⟩
  | enlist channel user audience => cases direct
  | dismiss channel client audience => cases direct

end AgreeOff

/-- A client that never gets a name in a run is invisible: leaving out all its steps, whatever they
are, changes neither the channels nor the records of other clients nor anything that comes of the
other steps, and its own steps send nothing to anyone else. -/
theorem guest_is_invisible (rules : Rules) {g : ClientId} {steps : List Step}
    (hsteps : ∀ st ∈ steps, st.isDirect = false)
    (never : ∀ e ∈ initial.trace rules steps, ∀ name, ⟨g, .nameGranted name⟩ ∉ e.sent) :
    let others := steps.filter fun st => st.client? ≠ some g
    (initial.run rules others).channels = (initial.run rules steps).channels ∧
    (∀ c, c ≠ g → (initial.run rules others).users.directory.ref? c =
      (initial.run rules steps).users.directory.ref? c) ∧
    (∀ r : UserRef, r.owner ≠ g →
      (initial.run rules others).user r = (initial.run rules steps).user r) ∧
    initial.trace rules others =
      ((initial.trace rules steps).filter fun e => e.step.client? ≠ some g) ∧
    ∀ e ∈ initial.trace rules steps, e.step.client? = some g → ∀ o ∈ e.sent, o.client = g := by
  intro others
  have hallowed : ∀ e ∈ initial.trace rules steps,
      e.step.isDirect = false ∧ ∀ name, ⟨g, .nameGranted name⟩ ∉ e.sent :=
    fun e he => ⟨hsteps e.step (step_mem_of_mem_trace he), never e he⟩
  -- soundness of the full run is carried along: it is what keeps the guest off every roster
  obtain ⟨⟨-, hagree⟩, hhidden, htrace⟩ := unwinding
    (fun w w' => w.Sound rules ∧ AgreeOff g w w')
    (fun e => e.step.isDirect = false ∧ ∀ name, ⟨g, .nameGranted name⟩ ∉ e.sent)
    (fun e => ∀ o ∈ e.sent, o.client = g) (fun st => st.client? ≠ some g) id
    (fun w w' st h allowed mine => by
      obtain ⟨hskip, hmine⟩ := h.2.skip h.1 (by simpa using mine) allowed.2
      exact ⟨⟨h.1.step allowed.1, hskip⟩, hmine⟩)
    (fun w w' st h allowed other => by
      obtain ⟨hkeep, hsame⟩ := h.2.keep h.1 allowed.1 (of_decide_eq_true other)
      exact ⟨⟨h.1.step allowed.1, hkeep⟩, hsame⟩)
    ⟨sound_initial rules, AgreeOff.initial g⟩ hallowed
  rw [List.map_id, List.map_id] at htrace
  refine ⟨hagree.channels, fun c ne => hagree.directory.ref?_eq ne,
    fun r ne => hagree.directory.user_eq ne, htrace.symm, fun e he mine => ?_⟩
  exact hhidden e he (by simpa using mine)

set_option maxRecDepth 100000 in
/-- A guest claims a name that is taken, tries to join a channel and leaves. -/
theorem guest_is_invisible_after_refusals :
    let rules : Rules := default
    let ann : ClientId := ⟨1⟩
    let guest : ClientId := ⟨2⟩
    let both := [ComponentId.users, .channels]
    let claim := fun c name => Step.message .users c (Coded.code UserMessage.identify)
      (Payload.ofValues [⟨.string, name⟩, ⟨.string, "secret"⟩])
    let join := fun c name => Step.message .channels c (Coded.code ChannelMessage.join)
      (Payload.ofValues [⟨.string, name⟩])
    let steps := [.register .users 0, .register .channels 0, .connect both guest "host" "g",
      .connect both ann "host" "a", claim ann "Ann", claim guest "ANN", join ann "#one",
      join guest "#one", join guest "#two", .disconnect both guest, join ann "#two"]
    let others := steps.filter fun st => st.client? ≠ some guest
    others.length = 6 ∧
      (initial.run rules steps).channels.count = 2 ∧
      (initial.run rules others).channels = (initial.run rules steps).channels := by
  intro rules ann guest both claim join steps others
  have hsteps : ∀ st ∈ steps, st.isDirect = false := by decide +kernel
  have hrefused : ∀ e ∈ initial.trace rules steps, ∀ o ∈ e.sent, o.client = guest →
      (match o.message with | .nameGranted _ => false | _ => true) = true := by
    decide +kernel
  have hnever : ∀ e ∈ initial.trace rules steps, ∀ name, ⟨guest, .nameGranted name⟩ ∉ e.sent := by
    intro e he name hgranted
    cases hrefused e he _ hgranted rfl
  exact ⟨by decide +kernel, by decide +kernel, (guest_is_invisible rules hsteps hnever).1⟩

end World

end ChatServer
