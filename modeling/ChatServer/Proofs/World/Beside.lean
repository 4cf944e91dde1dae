import ChatServer.Proofs.World.Traces

/-!
# Worlds that differ in their channel services

`Beside` compares two worlds that have the same servers and the same users, and channel services in
some relation. Most steps have nothing to do with the channels, or do the same to the channel
service as a whole. What is the same for all relations is proved here once, so that a relation has
to be looked at only where single channels are: at requests, disconnects and direct changes of
rosters.
-/

namespace ChatServer

/-- Whether a step is about no channel in particular and about no client that may be in one. -/
def Step.isGeneral : Step → Bool
  | .disconnect _ _ => false
  | .message .channels _ _ _ => false
  | .enlist _ _ _ => false
  | .dismiss _ _ _ => false
  | _ => true

/-- Related services are bound alike, and they stay related when the same is done to both as a
whole. -/
structure ChannelService.Upkeep (R : ChannelService → ChannelService → Prop) : Prop where
  binding : ∀ {s s'}, R s s' → s'.binding = s.binding
  rebind : ∀ {s s'} (binding : Binding), R s s' → R { s with binding } { s' with binding }
  clear : ∀ {s s'}, R s s' → R s.clear s'.clear
  observe : ∀ {s s'} (o : Observer), R s s' → R (s.observe o) (s'.observe o)

namespace World

open ChannelService (Upkeep)

variable {R : ChannelService → ChannelService → Prop} {rules : Rules} {w w' : World} {st : Step}

/-- Two worlds with the same servers and users, and with related channel services. -/
structure Beside (R : ChannelService → ChannelService → Prop) (w w' : World) : Prop where
  servers : w'.servers = w.servers
  users : w'.users = w.users
  channels : R w.channels w'.channels

namespace Beside

theorem user_eq (h : Beside R w w') : w'.user = w.user := congrArg (·.directory.user) h.users

theorem claimOf_eq (h : Beside R w w') (client : ClientId) (code : UInt16) (p : Payload) :
    w'.claimOf client code p = w.claimOf client code p := by
  rw [claimOf, claimOf, h.servers, h.users]

theorem requestOf_eq (h : Beside R w w') (upkeep : Upkeep R) (client : ClientId)
    (code : UInt16) (p : Payload) : w'.requestOf client code p = w.requestOf client code p := by
  rw [requestOf, requestOf, h.servers, upkeep.binding h.channels, h.users]

/-! ## General steps -/

/-- Worlds are still beside each other when a client connects. -/
theorem connect (h : Beside R w w') (hooks : List ComponentId) (client : ClientId)
    (hostname suffix : String) :
    Beside R (w.step rules (.connect hooks client hostname suffix)).1
      (w'.step rules (.connect hooks client hostname suffix)).1 := by
  rw [step_connect_fst, step_connect_fst]
  induction hooks generalizing w w' with
  | nil => exact h
  | cons c hooks ih =>
    refine ih ?_
    cases c with
    | users =>
      have husers := congrArg (UserService.connect rules.user · client hostname suffix) h.users
      exact ⟨h.servers, husers, h.channels⟩
    | _ => exact h

theorem attach (h : Beside R w w') (upkeep : Upkeep R) (c : ComponentId) (i : ServerId) :
    Beside R (w.attach c i).1 (w'.attach c i).1 ∧ (w'.attach c i).2 = (w.attach c i).2 := by
  rw [attach_eq, attach_eq, h.servers, h.users, upkeep.binding h.channels]
  cases rebound w.servers w.users.binding w.channels.binding c i with
  | error e => exact ⟨h, rfl⟩
  | ok b => exact ⟨⟨rfl, rfl, upkeep.rebind b.2 h.channels⟩, rfl⟩

theorem register (h : Beside R w w') (upkeep : Upkeep R) (c : ComponentId) (i : ServerId) :
    Beside R (w.register c i).1 (w'.register c i).1 ∧ (w'.register c i).2 = (w.register c i).2 :=
  register_congr c i h.servers h (fun _ => ⟨rfl, h.users, h.channels⟩)
    fun _ _ h => h.attach upkeep c i

/-- Whether a name is granted does not depend on any channel. -/
theorem claim (h : Beside R w w') (client : ClientId) (code : UInt16) (p : Payload) :
    Beside R (w.step rules (.message .users client code p)).1
        (w'.step rules (.message .users client code p)).1 ∧
      w.occurrence rules (.message .users client code p) =
        w'.occurrence rules (.message .users client code p) := by
  show Beside R (w.deliver rules .users client code p).1
    (w'.deliver rules .users client code p).1 ∧ _
  rw [occurrence_users, occurrence_users, deliver_users, deliver_users, h.claimOf_eq, h.users]
  rcases w.claimOf client code p with ⟨result, rest⟩
  cases result with
  | error e => exact ⟨h, rfl⟩
  | ok claim =>
    obtain ⟨i, r, claim⟩ := claim
    have husers := congrArg (fun s => (s.claim rules.user r claim).1) h.users
    exact ⟨⟨h.servers, husers, h.channels⟩, rfl⟩

/-- A step that is about no channel in particular comes to the same. -/
theorem general (h : Beside R w w') (upkeep : Upkeep R) (general : st.isGeneral) :
    Beside R (w.step rules st).1 (w'.step rules st).1 ∧
      w.occurrence rules st = w'.occurrence rules st := by
  -- of the general steps only those about the channel service itself need the upkeep
  cases st with
  | connect hooks client hostname suffix =>
    exact ⟨h.connect hooks client hostname suffix, occurrence_congr_of_isQuiet rfl rfl⟩
  | message c client code p =>
    cases c with
    | users => exact h.claim client code p
    | channels => cases general
    | freshChannels => exact ⟨h, occurrence_congr_of_isQuiet rfl rfl⟩
    | freshForeign => exact ⟨h, occurrence_congr_of_isQuiet rfl rfl⟩
  | start c => exact ⟨h, occurrence_congr_of_isQuiet rfl rfl⟩
  | stop c =>
    refine ⟨?_, occurrence_congr_of_isQuiet rfl rfl⟩
    cases c with
    | channels => exact ⟨h.servers, h.users, upkeep.clear h.channels⟩
    | _ => exact h
  | shutdown c =>
    refine ⟨?_, occurrence_congr_of_isQuiet rfl rfl⟩
    cases c with
    | users => exact ⟨h.servers, congrArg UserService.shutdown h.users, h.channels⟩
    | channels => exact ⟨h.servers, h.users, upkeep.rebind .none (upkeep.clear h.channels)⟩
    | _ => exact h
  | createServer =>
    have hservers := congrArg Servers.create h.servers
    exact ⟨⟨hservers, h.users, h.channels⟩, occurrence_congr_of_isQuiet rfl rfl⟩
  | dropServer i =>
    have hservers := congrArg (fun s : Servers => s.drop i) h.servers
    exact ⟨⟨hservers, h.users, h.channels⟩, occurrence_congr_of_isQuiet rfl rfl⟩
  | register c i =>
    obtain ⟨hregister, hanswer⟩ := h.register upkeep c i
    exact ⟨hregister, occurrence_congr_of_isQuiet rfl (congrArg Answer.attached hanswer)⟩
  | attach c i =>
    obtain ⟨hattach, hanswer⟩ := h.attach upkeep c i
    exact ⟨hattach, occurrence_congr_of_isQuiet rfl (congrArg Answer.attached hanswer)⟩
  | observe o =>
    exact ⟨⟨h.servers, h.users, upkeep.observe o h.channels⟩, occurrence_congr_of_isQuiet rfl rfl⟩
  | disconnect hooks client => cases general
  | enlist channel user audience => cases general
  | dismiss channel client audience => cases general

/-! ## Requests and disconnects -/

/-- Messages to the channel service come to alike if the requests in them do. -/
theorem request (h : Beside R w w') (upkeep : Upkeep R)
    (alike : Occurrence → Occurrence → Prop) (refl : ∀ e, alike e e)
    {client : ClientId} {code : UInt16} {p : Payload}
    (perform : ∀ (q : UserRef) (request : ChannelRequest) (rest : Payload),
      ChannelRequest.ofMessage code p = (.ok request, rest) →
      let st := Step.message .channels client code p
      let result := w.channels.perform rules.channel w.user q request
      let result' := w'.channels.perform rules.channel w.user q request
      R result.1 result'.1 ∧
        alike
          ⟨st, .handled (.ok ()) rest.remaining, result.2.messages,
            result.1.callbacks rules.channel w.user result.2.events⟩
          ⟨st, .handled (.ok ()) rest.remaining, result'.2.messages,
            result'.1.callbacks rules.channel w.user result'.2.events⟩) :
    Beside R (w.step rules (.message .channels client code p)).1
        (w'.step rules (.message .channels client code p)).1 ∧
      alike (w.occurrence rules (.message .channels client code p))
        (w'.occurrence rules (.message .channels client code p)) := by
  show Beside R (w.deliver rules .channels client code p).1
    (w'.deliver rules .channels client code p).1 ∧ _
  rw [occurrence_channels, occurrence_channels, deliver_channels, deliver_channels,
    h.requestOf_eq upkeep, h.user_eq]
  rcases hrequest : w.requestOf client code p with ⟨result, rest⟩
  cases result with
  | error e => exact ⟨h, refl _⟩
  | ok request =>
    obtain ⟨i, q, request⟩ := request
    obtain ⟨-, hread, -⟩ := requestOf_eq_ok hrequest
    obtain ⟨hperform, halike⟩ := perform q request rest hread
    -- the observers of the second world look at the same users
    have huser := h.user_eq
    refine ⟨⟨h.servers, h.users, ?_⟩, ?_⟩
    · show R _ (w'.channels.perform rules.channel w'.user q request).1
      rw [huser]
      exact hperform
    · show alike _ ⟨_, _, _,
        (w'.channels.perform rules.channel w'.user q request).1.callbacks _ w'.user _⟩
      rw [huser]
      exact halike

/-- What one component learns of a disconnect comes to alike if it does for the channel service. -/
theorem hook (h : Beside R w w') (alike : Occurrence → Occurrence → Prop)
    (refl : ∀ e, alike e e) {client : ClientId}
    (disconnect :
      let result := w.channels.disconnect w.servers w.user client
      let result' := w'.channels.disconnect w.servers w.user client
      R result.1 result'.1 ∧
        alike
          ⟨.disconnect [.channels] client, .done, result.2.messages,
            result.1.callbacks rules.channel w.user result.2.events⟩
          ⟨.disconnect [.channels] client, .done, result'.2.messages,
            result'.1.callbacks rules.channel w.user result'.2.events⟩)
    (c : ComponentId) :
    Beside R (w.step rules (.disconnect [c] client)).1 (w'.step rules (.disconnect [c] client)).1 ∧
      alike (w.occurrence rules (.disconnect [c] client))
        (w'.occurrence rules (.disconnect [c] client)) := by
  -- only the hook of the channel service is not alike for every relation
  by_cases hc : c = .channels
  · subst hc
    obtain ⟨record, hstep⟩ := step_disconnect_channels rules w client
    obtain ⟨record', hstep'⟩ := step_disconnect_channels rules w' client
    rw [hstep, hstep', occurrence_disconnect_channels, occurrence_disconnect_channels, h.servers,
      h.user_eq]
    exact ⟨⟨rfl, h.users, disconnect.1⟩, disconnect.2⟩
  · rw [occurrence_disconnect_of_ne hc, occurrence_disconnect_of_ne hc]
    refine ⟨?_, refl _⟩
    cases c with
    | channels => exact absurd rfl hc
    | users =>
      exact ⟨h.servers, congrArg (fun s => s.disconnect client) h.users, h.channels⟩
    | freshChannels => exact h
    | freshForeign => exact h

end Beside

end World

end ChatServer
