import ChatServer.Proofs.Channel.Withdrawal
import ChatServer.Proofs.World.Traces

/-!
# The steps of a running server

A running server is told of connections and of their ends, hands messages to its components, and at
last stops them and takes them down. None of this changes which components it has. A message that is
refused leads to nothing, and a service that learned of the end of a connection has forgotten the
client.
-/

namespace ChatServer

/-! ## Steps of a server -/

/-- Whether a step is one that a running server takes. -/
def Step.isServing : Step → Bool
  | .connect _ _ _ _ => true
  | .disconnect _ _ => true
  | .message _ _ _ _ => true
  | .stop _ => true
  | .shutdown _ => true
  | _ => false

namespace World

variable {rules : Rules} {w : World} {st : Step}

/-- A disconnect neither starts nor stops a server. -/
theorem servers_disconnectFrom (client : ClientId) (w : World) (c : ComponentId) :
    (w.disconnectFrom rules client c).1.servers = w.servers := by
  cases c with
  | channels => exact servers_send _ _ _
  | _ => rfl

theorem servers_delivery {w' : World} {c : ComponentId} {client : ClientId} {code : UInt16}
    {p : Payload} (h : Delivery rules w client code p c w') : w'.servers = w.servers := by
  cases h <;> rfl

/-- A running server neither creates servers nor gives them components. -/
theorem servers_step (h : st.isServing) : (w.step rules st).1.servers = w.servers := by
  cases st with
  | connect hooks client hostname suffix =>
    obtain ⟨users, hw⟩ := step_connect_frame rules w hooks client hostname suffix
    rw [hw]
  | disconnect hooks client =>
    clear h
    rw [step_disconnect_fst]
    induction hooks generalizing w with
    | nil => rfl
    | cons c hooks ih => exact ih.trans (servers_disconnectFrom client w c)
  | message c client code p => exact servers_delivery (delivery rules w c client code p)
  | stop c => cases c <;> rfl
  | shutdown c => cases c <;> rfl
  | _ => cases h

/-- A server never changes rosters past the channel service. -/
theorem not_direct_of_isServing (h : st.isServing) : st.isDirect = false := by
  cases st with
  | enlist channel user audience => cases h
  | dismiss channel client audience => cases h
  | _ => rfl

/-- A message that is refused leads to nothing but the refusal. -/
theorem answer_message (rules : Rules) (w : World) (c : ComponentId) (client : ClientId)
    (code : UInt16) (p : Payload) :
    ∃ outcome remaining,
      (w.step rules (.message c client code p)).2.answer = .handled outcome remaining ∧
        (outcome = .ok () ∨ (w.step rules (.message c client code p)).1 = w ∧
          w.sent rules (.message c client code p) = []) := by
  have hstep : w.step rules (.message c client code p) = w.deliver rules c client code p := rfl
  cases c with
  -- a component without state either takes every message or none
  | freshForeign => exact ⟨_, _, rfl, .inl rfl⟩
  | freshChannels =>
    exact ⟨_, _, rfl, .inr ⟨rfl, congrArg Occurrence.sent (occurrence_of_isQuiet rfl)⟩⟩
  | users =>
    have hsent := congrArg Occurrence.sent (occurrence_users rules w client code p)
    rw [hstep, deliver_users]
    rcases h : w.claimOf client code p with ⟨result, rest⟩
    rw [h] at hsent
    cases result with
    | error e => exact ⟨_, _, rfl, .inr ⟨rfl, hsent⟩⟩
    | ok claim => exact ⟨_, _, rfl, .inl rfl⟩
  | channels =>
    have hsent := congrArg Occurrence.sent (occurrence_channels rules w client code p)
    rw [hstep, deliver_channels]
    rcases h : w.requestOf client code p with ⟨result, rest⟩
    rw [h] at hsent
    cases result with
    | error e => exact ⟨_, _, rfl, .inr ⟨rfl, hsent⟩⟩
    | ok request => exact ⟨_, _, rfl, .inl rfl⟩

/-! ## Services that forget a client -/

/-- Whether a service has no current record of a client, or no roster with it. -/
def Forgotten (w : World) (client : ClientId) : ComponentId → Prop
  | .users => w.users.directory.ref? client = none
  | .channels => ∀ r, (w.channels.channel r).Lacks client
  | _ => True

/-- After a disconnect the client is in no channel. -/
theorem lacks_disconnect (h : w.Sound rules) (client : ClientId) (r : ChannelRef) :
    ((w.channels.disconnect w.servers w.user client).1.channel r).Lacks client := by
  rw [ChannelService.disconnect_eq]
  exact h.channels.tidy.lacks_retire client r

/-- A service that learns that a client is gone forgets it, and none remembers it again. -/
theorem forgotten_disconnect (h : w.Sound rules) {client : ClientId} {c d : ComponentId}
    (forgotten : c = d ∨ w.Forgotten client c) :
    (w.step rules (.disconnect [d] client)).1.Forgotten client c := by
  -- what a service knows of the client changes with its own hook only
  cases c with
  | users =>
    show (w.disconnectFrom rules client d).1.users.directory.ref? client = none
    cases d with
    | users => exact (UserService.ref?_disconnect w.users client client).trans (if_pos rfl)
    | channels =>
      rw [disconnectFrom, users_send]
      exact forgotten.resolve_left (by decide)
    | freshChannels => exact forgotten.resolve_left (by decide)
    | freshForeign => exact forgotten.resolve_left (by decide)
  | channels =>
    intro r
    show ((w.disconnectFrom rules client d).1.channels.channel r).Lacks client
    cases d with
    | channels =>
      rw [disconnectFrom, channels_send]
      exact lacks_disconnect h client r
    | users => exact forgotten.resolve_left (by decide) r
    | freshChannels => exact forgotten.resolve_left (by decide) r
    | freshForeign => exact forgotten.resolve_left (by decide) r
  | freshChannels => trivial
  | freshForeign => trivial

/-- Only its own connect makes a client known to the user service. -/
theorem ref?_step_eq_none (serving : st.isServing) {client : ClientId}
    (others : ∀ hooks hostname suffix, st ≠ .connect hooks client hostname suffix)
    (absent : w.users.directory.ref? client = none) :
    (w.step rules st).1.users.directory.ref? client = none := by
  -- only a connection adds a record, and it adds the record of the client that connects
  cases st with
  | connect hooks other hostname suffix =>
    have hne : client ≠ other := by
      rintro rfl
      exact others hooks hostname suffix rfl
    rw [step_connect_fst]
    clear serving others
    induction hooks generalizing w with
    | nil => exact absent
    | cons c hooks ih =>
      refine ih ?_
      cases c with
      | users => exact (UserDirectory.ref?_enrol ..).trans ((if_neg hne).trans absent)
      | _ => exact absent
  | disconnect hooks other =>
    rw [step_disconnect_fst]
    clear serving others
    induction hooks generalizing w with
    | nil => exact absent
    | cons c hooks ih =>
      refine ih ?_
      cases c with
      | users =>
        refine (UserService.ref?_disconnect w.users other client).trans ?_
        rw [absent]
        exact ite_self none
      | channels =>
        show (w.disconnectFrom rules other .channels).1.users.directory.ref? client = none
        rw [disconnectFrom, users_send]
        exact absent
      | _ => exact absent
  | message c other code p =>
    have hdelivery := delivery rules w c other code p
    show (w.deliver rules c other code p).1.users.directory.ref? client = none
    generalize (w.deliver rules c other code p).1 = w' at hdelivery ⊢
    cases hdelivery with
    | refused c => exact absent
    | @claimed i q claim rest bound read current =>
      exact (UserService.ref?_claim rules.user w.users q claim client).trans absent
    | requested bound read current => exact absent
  | stop c => cases c <;> exact absent
  | shutdown c =>
    cases c with
    | users => rfl
    | _ => exact absent
  | _ => cases serving

/-- Services that have nothing of a client have nothing of it until it connects. -/
theorem forgotten_step (h : w.Sound rules) (serving : st.isServing) {client : ClientId}
    (others : ∀ hooks hostname suffix, st ≠ .connect hooks client hostname suffix)
    (users : w.Forgotten client .users) (channels : w.Forgotten client .channels) :
    (w.step rules st).1.Forgotten client .users ∧
      (w.step rules st).1.Forgotten client .channels := by
  refine ⟨ref?_step_eq_none serving others users, ?_⟩
  exact ChannelService.lacks_changes h.channels h.directory.client users channels
    (step_channels rules w (not_direct_of_isServing serving))

end World

end ChatServer
