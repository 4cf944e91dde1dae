import ChatServer.Proofs.Channel.Listings
import ChatServer.Proofs.User.Listings
import ChatServer.Proofs.World.Recipients

/-!
# The order of listings cannot be observed

Two worlds that differ at most in the order of their tables answer all messages alike, send the same
messages in the same order and tell observers the same. A client that disconnects is taken off its
channels one after another, so only what is told of different channels may then be interleaved in
another way. Snapshots depend on no order because the members of a channel have different names,
which takes that connections come and go in order.
-/

namespace ChatServer

namespace World

variable {rules : Rules} {w w' : World} {online : Finset ClientId}

/-- Two worlds that differ at most in the order of their tables and in what was sent. -/
structure Relists (w w' : World) : Prop where
  servers : w'.servers = w.servers
  users : w.users.Relists w'.users
  channels : w.channels.Relists w'.channels

/-- The world with all listings turned round. -/
def reverse (w : World) : World :=
  { w with
    users := { w.users with directory := w.users.directory.reverse }
    channels := w.channels.reverse }

/-- A world differs from the world with all listings turned round only in their order. -/
theorem relists_reverse (w : World) : w.Relists w.reverse :=
  ⟨rfl, ⟨rfl, w.users.directory.relists_reverse⟩, w.channels.relists_reverse⟩

/-- In an orderly world the members of a channel have different names. -/
theorem Attendance.distinct (h : w.Attendance rules online) (r : ChannelRef) :
    (w.channels.channel r).Distinct w.user := by
  have hmembers : (w.channels.channel r).members.Distinct w.user := by
    intro b m c n hb hc hname
    have hregistered := h.sound.channels.registered_of_member hb
    have hintact := h.sound.channels.intact r hregistered
    have hsame := h.sound.directory.unique ⟨b, m⟩ ⟨c, n⟩ (h.current r b m hregistered hb)
      (h.current r c n hregistered hc) (hintact.record b m hb).2 (hintact.record c n hc).2
      (congrArg Text.lowercase hname)
    exact congrArg Ref.owner hsame
  refine ⟨hmembers, fun b m c n hb hc hname => ?_⟩
  exact hmembers b m c n (h.sound.channels.member_of_operator hb)
    (h.sound.channels.member_of_operator hc) hname

namespace Relists

theorem user_eq (h : w.Relists w') : w'.user = w.user := h.users.directory.user_eq

theorem claimOf_eq (h : w.Relists w') (client : ClientId) (code : UInt16) (p : Payload) :
    w'.claimOf client code p = w.claimOf client code p := by
  rw [claimOf, claimOf, h.servers, h.users.binding, h.users.directory.ref?_eq]

theorem requestOf_eq (h : w.Relists w') (client : ClientId) (code : UInt16) (p : Payload) :
    w'.requestOf client code p = w.requestOf client code p := by
  rw [requestOf, requestOf, h.servers, h.channels.binding]
  simp only [ChannelService.resolve, h.users.directory.ref?_eq]

/-! ## Messages -/

/-- A message comes to the same. -/
theorem message (h : w.Relists w') (c : ComponentId) (client : ClientId) (code : UInt16)
    (p : Payload)
    (distinct : ∀ r, ((w.deliver rules c client code p).1.channels.channel r).Distinct
      (w.deliver rules c client code p).1.user) :
    (w.deliver rules c client code p).1.Relists (w'.deliver rules c client code p).1 ∧
      w'.occurrence rules (.message c client code p) =
        w.occurrence rules (.message c client code p) := by
  cases c with
  | users =>
    rw [occurrence_users, occurrence_users, deliver_users, deliver_users, h.claimOf_eq]
    rcases w.claimOf client code p with ⟨result, rest⟩
    cases result with
    | error e => exact ⟨h, rfl⟩
    | ok claim =>
      obtain ⟨i, r, claim⟩ := claim
      obtain ⟨husers, hsent⟩ := h.users.claim rules.user r claim
      refine ⟨⟨h.servers, husers, h.channels⟩, ?_⟩
      dsimp only
      rw [hsent]
  | channels =>
    rw [occurrence_channels, occurrence_channels, deliver_channels, deliver_channels,
      h.requestOf_eq, h.user_eq]
    rw [deliver_channels] at distinct
    rcases hrequest : w.requestOf client code p with ⟨result, rest⟩
    cases result with
    | error e => exact ⟨h, rfl⟩
    | ok request =>
      obtain ⟨i, q, request⟩ := request
      rw [hrequest] at distinct
      have hdistinct : ∀ r,
          ((w.channels.perform rules.channel w.user q request).1.channel r).Distinct w.user :=
        distinct
      obtain ⟨hperform, heffects⟩ := h.channels.perform hdistinct
      have hchannels : (w.afterRequest rules i q request).channels.Relists
          (w'.afterRequest rules i q request).channels := by
        show (w.channels.perform _ w.user _ _).1.Relists (w'.channels.perform _ w'.user _ _).1
        rw [h.user_eq]
        exact hperform
      refine ⟨⟨h.servers, h.users, hchannels⟩, ?_⟩
      -- observers that look a channel up find the same in both worlds
      have huser : (w'.afterRequest rules i q request).user =
        (w.afterRequest rules i q request).user := h.user_eq
      dsimp only
      rw [heffects, notice, notice, huser, hchannels.callbacks_eq]
  | freshChannels => exact ⟨h, occurrence_congr_of_isQuiet rfl rfl⟩
  | freshForeign => exact ⟨h, occurrence_congr_of_isQuiet rfl rfl⟩

/-! ## Disconnects -/

/-- What one component learns of a disconnect comes to the same but for the order of channels. -/
theorem hook (h : w.Relists w') (sound : w.Sound rules) (c : ComponentId) (client : ClientId) :
    (w.step rules (.disconnect [c] client)).1.Relists
        (w'.step rules (.disconnect [c] client)).1 ∧
      Interleaved (fun key o => o.message.concerns key)
        (w.occurrence rules (.disconnect [c] client)).sent
        (w'.occurrence rules (.disconnect [c] client)).sent ∧
      Interleaved (fun key noticed => noticed.event.concerns rules.channel key)
        (w.occurrence rules (.disconnect [c] client)).callbacks
        (w'.occurrence rules (.disconnect [c] client)).callbacks := by
  -- only the channel service goes through channels, and so only its order can show
  by_cases hc : c = .channels
  · subst hc
    obtain ⟨hchannels, hmessages, hevents⟩ :=
      h.channels.disconnect sound.channels w.servers client
    obtain ⟨record, hstep⟩ := step_disconnect_channels rules w client
    obtain ⟨record', hstep'⟩ := step_disconnect_channels rules w' client
    rw [hstep, hstep', occurrence_disconnect_channels, occurrence_disconnect_channels, h.servers,
      h.user_eq]
    exact ⟨⟨rfl, h.users, hchannels⟩, hmessages, hchannels.interleaved_callbacks hevents⟩
  · rw [occurrence_disconnect_of_ne hc, occurrence_disconnect_of_ne hc]
    refine ⟨?_, .refl _ _, .refl _ _⟩
    cases c with
    | channels => exact absurd rfl hc
    | users => exact ⟨h.servers, h.users.disconnect client, h.channels⟩
    | freshChannels => exact h
    | freshForeign => exact h

/-- A disconnect comes to the same but for the order of channels, whichever components learn of
it. -/
theorem disconnect (h : w.Relists w') (sound : w.Sound rules) (hooks : List ComponentId)
    (client : ClientId) :
    (w.step rules (.disconnect hooks client)).1.Relists
        (w'.step rules (.disconnect hooks client)).1 ∧
      Interleaved (fun key o => o.message.concerns key)
        (w.sent rules (.disconnect hooks client)) (w'.sent rules (.disconnect hooks client)) ∧
      Interleaved (fun key noticed => noticed.event.concerns rules.channel key)
        (w.step rules (.disconnect hooks client)).2.callbacks
        (w'.step rules (.disconnect hooks client)).2.callbacks := by
  rw [sent_disconnect, sent_disconnect, callbacks_disconnect, callbacks_disconnect,
    step_disconnect_eq_run, step_disconnect_eq_run]
  induction hooks generalizing w w' with
  | nil => exact ⟨h, .refl _ _, .refl _ _⟩
  | cons c hooks ih =>
    obtain ⟨hfirst, hsent, hcallbacks⟩ := h.hook sound c client
    obtain ⟨hrest, hsents, hcallbackss⟩ := ih hfirst (sound.step rfl)
    exact ⟨hrest, hsent.append hsents, hcallbacks.append hcallbackss⟩

end Relists

/-! ## Whole runs -/

end World

end ChatServer
