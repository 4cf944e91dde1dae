import ChatServer.Proofs.Channel.Registry
import ChatServer.Proofs.World.Requests

/-!
# What a step does to the services

Every step of a world changes the user directory and the channel service only by the changes that
`UserDirectory.Change` and `ChannelService.Change` list. So an invariant of these changes holds
after every run. The steps that put users on rosters directly, past the channel service, are left
out where channels are concerned.
-/

namespace ChatServer

/-- Whether a step changes a roster past the channel service. -/
def Step.isDirect : Step → Bool
  | .enlist _ _ _ => true
  | .dismiss _ _ _ => true
  | _ => false

namespace UserDirectory

/-- A sequence of changes. -/
abbrev Changes (rules : UserRules) : UserDirectory → UserDirectory → Prop :=
  Relation.ReflTransGen (Change rules)

/-- A sequence of changes that give nobody a name. -/
abbrev Turnovers (config : UserConfig) : UserDirectory → UserDirectory → Prop :=
  Relation.ReflTransGen (Turnover config)

variable {rules : UserRules} {d d' : UserDirectory}

/-- A directory stays sound through any number of changes. -/
theorem Sound.changes (h : Sound rules.config d) (hc : Changes rules d d') :
    Sound rules.config d' := by
  induction hc with
  | refl => exact h
  | tail _ hc ih => exact ih.change hc

theorem Changes.evolves (h : Changes rules d d') : d.Evolves d' := by
  induction h with
  | refl => exact .refl d
  | tail _ hc ih => exact ih.trans hc.evolves

theorem Turnovers.changes (h : Turnovers rules.config d d') : Changes rules d d' :=
  h.lift id fun _ _ ht => .turnover ht

theorem Sound.turnovers (h : Sound rules.config d) (ht : Turnovers rules.config d d') :
    Sound rules.config d' :=
  h.changes ht.changes

/-- Who is identified after a sequence of turnovers was so before, under the same name. -/
theorem Turnovers.current (h : Turnovers rules.config d d') (hd : Sound rules.config d)
    {r : UserRef} (hr : d'.IsCurrent r) (hi : (d'.user r).identified) :
    d.IsCurrent r ∧ d'.user r = d.user r := by
  induction h with
  | refl => exact ⟨hr, rfl⟩
  | tail hts ht ih =>
    rcases ht.current (hd.turnovers hts) hr with ⟨hn, -⟩ | ⟨hr, hu⟩
    · rw [hn] at hi
      cases hi
    · rw [hu] at hi ⊢
      exact ih hr hi

end UserDirectory

namespace World

variable {rules : Rules} {w : World}

/-! ## Hooks -/

/-- A hook for a new connection enrols a client at most. -/
theorem users_connectTo (client : ClientId) (hostname suffix : String) (w : World)
    (c : ComponentId) :
    UserDirectory.Turnovers rules.user.config w.users.directory
      (w.connectTo rules client hostname suffix c).users.directory := by
  cases c with
  | users => exact .single (.connected client hostname suffix)
  | channels => exact .refl
  | freshChannels => exact .refl
  | freshForeign => exact .refl

/-- The world after some components learned that a client connected. -/
theorem step_connect_fst (hooks : List ComponentId) (client : ClientId)
    (hostname suffix : String) :
    (w.step rules (.connect hooks client hostname suffix)).1 =
      hooks.foldl (connectTo rules client hostname suffix) w := rfl

/-- Only the user service takes note of a new connection. -/
theorem step_connect_frame (rules : Rules) (w : World) (hooks : List ComponentId)
    (client : ClientId) (hostname suffix : String) :
    ∃ users, (w.step rules (.connect hooks client hostname suffix)).1 = { w with users } := by
  rw [step_connect_fst]
  induction hooks generalizing w with
  | nil => exact ⟨w.users, rfl⟩
  | cons c hooks ih =>
    obtain ⟨users, hrest⟩ := ih (w.connectTo rules client hostname suffix c)
    refine ⟨users, hrest.trans ?_⟩
    cases c <;> rfl

/-- The world after some components learned that a client is gone. -/
theorem step_disconnect_fst (hooks : List ComponentId) (client : ClientId) :
    (w.step rules (.disconnect hooks client)).1 =
      hooks.foldl (fun w c => (w.disconnectFrom rules client c).1) w := by
  -- what the observers notice on the way has no influence on the world
  have hfold : ∀ (hooks : List ComponentId) (state : World × List Callback),
      (hooks.foldl
        (fun state c =>
          ((state.1.disconnectFrom rules client c).1,
            state.2 ++ (state.1.disconnectFrom rules client c).2)) state).1 =
        hooks.foldl (fun w c => (w.disconnectFrom rules client c).1) state.1 := by
    intro hooks
    induction hooks with
    | nil => exact fun state => rfl
    | cons c hooks ih => exact fun state => ih _
  exact hfold hooks (w, [])

/-- When a client disconnects its record ends and it is no longer registered. -/
theorem users_disconnect (s : UserService) (client : ClientId) (config : UserConfig) :
    UserDirectory.Turnovers config s.directory (s.disconnect client).directory := by
  unfold UserService.disconnect
  cases hr : s.directory.ref? client with
  | none => exact .refl
  | some r =>
    obtain ⟨current, rfl⟩ := UserDirectory.isCurrent_of_ref? hr
    exact .single (.gone current)

/-- A hook for the end of a connection does so at most. -/
theorem users_disconnectFrom (client : ClientId) (w : World) (c : ComponentId) :
    UserDirectory.Turnovers rules.user.config w.users.directory
      (w.disconnectFrom rules client c).1.users.directory := by
  cases c with
  | users => exact users_disconnect w.users client rules.user.config
  | channels =>
    simp only [disconnectFrom, users_send]
    exact .refl
  | freshChannels => exact .refl
  | freshForeign => exact .refl

theorem channels_disconnectFrom (d : UserDirectory) (client : ClientId) (w : World)
    (c : ComponentId) :
    ChannelService.Changes rules.channel d w.channels
      (w.disconnectFrom rules client c).1.channels := by
  cases c with
  | users => exact .refl
  | channels =>
    simp only [disconnectFrom, channels_send]
    exact ChannelService.changes_disconnect w.servers w.user client
  | freshChannels => exact .refl
  | freshForeign => exact .refl

/-! ## Steps -/

/-- The bindings of the user service and of the channel service after a component was to be bound to
a server, or why it was not. -/
def rebound (servers : Servers) (users channels : Binding) (c : ComponentId) (i : ServerId) :
    Except ComponentError (Binding × Binding) :=
  match c with
  | .users => (users.bind servers .user i).map fun b => (b, channels)
  | .channels => (channels.bind servers .channel i).map fun b => (users, b)
  | _ => .ok (users, channels)

/-- Binding a component looks at the servers and at the bindings, and changes only the bindings. -/
theorem attach_eq (w : World) (c : ComponentId) (i : ServerId) :
    w.attach c i =
      match rebound w.servers w.users.binding w.channels.binding c i with
      | .error e => (w, .error e)
      | .ok b =>
        ({ w with
            users := { w.users with binding := b.1 }
            channels := { w.channels with binding := b.2 } }, .ok ()) := by
  cases c with
  | users =>
    unfold attach UserService.attach rebound
    dsimp only
    cases w.users.binding.bind w.servers .user i <;> rfl
  | channels =>
    unfold attach ChannelService.attach rebound
    dsimp only
    cases w.channels.binding.bind w.servers .channel i <;> rfl
  | freshChannels => rfl
  | freshForeign => rfl

/-- To place a component in a server neither starts nor stops one. -/
theorem servers_attach (w : World) (c : ComponentId) (i : ServerId) :
    (w.attach c i).1.servers = w.servers := by
  rw [attach_eq]
  cases rebound w.servers w.users.binding w.channels.binding c i <;> rfl

/-- A component that is attached changes no user, and of the channel service only what it is bound
to. -/
theorem attach_frame (w : World) (c : ComponentId) (i : ServerId) :
    (w.attach c i).1.users.directory = w.users.directory ∧
      ∃ binding, (w.attach c i).1.channels = { w.channels with binding } := by
  rw [attach_eq]
  cases rebound w.servers w.users.binding w.channels.binding c i with
  | error e => exact ⟨rfl, w.channels.binding, rfl⟩
  | ok b => exact ⟨rfl, b.2, rfl⟩

theorem register_frame (w : World) (c : ComponentId) (i : ServerId) :
    (w.register c i).1.users.directory = w.users.directory ∧
      ∃ binding, (w.register c i).1.channels = { w.channels with binding } := by
  unfold register
  split
  · exact ⟨rfl, w.channels.binding, rfl⟩
  · exact attach_frame { w with servers := w.servers.place i c } c i

/-- Whether a server takes a component depends on the servers, and then on how it is bound. -/
theorem register_congr {related : World → World → Prop} {w' : World} (c : ComponentId)
    (i : ServerId) (servers : w'.servers = w.servers) (h : related w w')
    (placed : ∀ servers, related { w with servers } { w' with servers })
    (attach : ∀ w w', related w w' →
      related (w.attach c i).1 (w'.attach c i).1 ∧ (w'.attach c i).2 = (w.attach c i).2) :
    related (w.register c i).1 (w'.register c i).1 ∧
      (w'.register c i).2 = (w.register c i).2 := by
  unfold register
  rw [servers]
  split
  · exact ⟨h, rfl⟩
  · exact attach _ _ (placed (w.servers.place i c))

/-- The messages that a step sends. -/
def sent (rules : Rules) (w : World) (st : Step) : List Outgoing :=
  ((w.step rules st).1.record.drop w.record.length).map Prod.snd

/-- What a step sends is what it adds to the record. -/
theorem sent_of_record {st : Step} {i : ServerId} {messages : List Outgoing}
    (h : (w.step rules st).1.record = w.record ++ messages.map fun m => (i, m)) :
    w.sent rules st = messages := by
  rw [sent, h, List.drop_left, List.map_map]
  exact List.map_id _

/-- A step by which a client gets the name that it claims. -/
structure Grants (rules : Rules) (w : World) (st : Step) (r : UserRef) (claim : NameClaim) :
    Prop where
  message : ∃ code p rest, st = .message .users r.owner code p ∧
    NameClaim.ofMessage code p = (.ok claim, rest)
  current : w.users.directory.IsCurrent r
  granted : UserService.judge rules.user w.users.directory r claim = .ok
  directory : (w.step rules st).1.users.directory =
    w.users.directory.update r fun u => u.identify claim.username
  sent : w.sent rules st = [⟨r.owner, .nameGranted claim.username⟩]

/-- Every step grants a claim or gives nobody a name. -/
theorem step_users (rules : Rules) (w : World) (st : Step) :
    UserDirectory.Turnovers rules.user.config w.users.directory
        (w.step rules st).1.users.directory ∨
      ∃ r claim, w.Grants rules st r claim := by
  cases st with
  | connect hooks client hostname suffix =>
    left
    rw [step_connect_fst]
    induction hooks generalizing w with
    | nil => exact .refl
    | cons c hooks ih => exact (users_connectTo client hostname suffix w c).trans (ih _)
  | disconnect hooks client =>
    left
    rw [step_disconnect_fst]
    induction hooks generalizing w with
    | nil => exact .refl
    | cons c hooks ih => exact (users_disconnectFrom client w c).trans (ih _)
  | message c client code p =>
    have h := delivery rules w c client code p
    have hstep : (w.step rules (.message c client code p)).1 =
      (w.deliver rules c client code p).1 := rfl
    generalize hw : (w.deliver rules c client code p).1 = w' at h
    cases h with
    | refused c =>
      rw [hstep, hw]
      exact .inl .refl
    | requested bound read current =>
      rw [hstep, hw]
      exact .inl .refl
    | @claimed i r request rest bound read current =>
      obtain ⟨hcurrent, rfl⟩ := UserDirectory.isCurrent_of_ref? current
      -- a claim that is not granted is answered, but changes no record
      by_cases hok : UserService.judge rules.user w.users.directory r request = .ok
      · have hclaim := UserService.claim_of_granted hok
        refine .inr ⟨r, request, ⟨⟨code, p, rest, rfl, read⟩, hcurrent, hok, ?_, ?_⟩⟩
        · rw [hstep, hw, afterClaim, hclaim]
        · refine sent_of_record (i := i) ?_
          rw [hstep, hw, afterClaim, hclaim]
      · left
        rw [hstep, hw, afterClaim, UserService.claim_of_refused hok]
  | start c => exact .inl .refl
  | stop c => cases c <;> exact .inl .refl
  | shutdown c =>
    left
    cases c with
    | users => exact .single .cleared
    | channels => exact .refl
    | freshChannels => exact .refl
    | freshForeign => exact .refl
  | createServer => exact .inl .refl
  | dropServer i => exact .inl .refl
  | register c i =>
    left
    show UserDirectory.Turnovers _ _ (w.register c i).1.users.directory
    rw [(register_frame w c i).1]
  | attach c i =>
    left
    show UserDirectory.Turnovers _ _ (w.attach c i).1.users.directory
    rw [(attach_frame w c i).1]
  | observe o => exact .inl .refl
  | enlist channel user audience => exact .inl .refl
  | dismiss channel client audience => exact .inl .refl

/-- Every step changes the directory of users in the ways that there are. -/
theorem step_changes (rules : Rules) (w : World) (st : Step) :
    UserDirectory.Changes rules.user w.users.directory (w.step rules st).1.users.directory := by
  rcases step_users rules w st with h | h
  · exact h.changes
  · rcases h with ⟨r, claim, hg⟩
    rw [hg.directory]
    exact .single (.named hg.current hg.granted)

/-- Every step that does not change rosters directly changes channels in the ways that there are. -/
theorem step_channels (rules : Rules) (w : World) {st : Step} (h : st.isDirect = false) :
    ChannelService.Changes rules.channel w.users.directory w.channels
      (w.step rules st).1.channels := by
  -- a message is a change at most, and a disconnect one change for each channel
  cases st with
  | connect hooks client hostname suffix =>
    obtain ⟨users, hw⟩ := step_connect_frame rules w hooks client hostname suffix
    rw [hw]
  | disconnect hooks client =>
    clear h
    rw [step_disconnect_fst]
    generalize w.users.directory = d
    induction hooks generalizing w with
    | nil => exact .refl
    | cons c hooks ih => exact (channels_disconnectFrom d client w c).trans (ih _)
  | message c client code p =>
    have h := delivery rules w c client code p
    show ChannelService.Changes _ _ _ (w.deliver rules c client code p).1.channels
    generalize (w.deliver rules c client code p).1 = w' at h
    cases h with
    | refused c => exact .refl
    | claimed bound read current => exact .refl
    | requested bound read current =>
      exact ChannelService.changes_perform (UserDirectory.isCurrent_of_ref? current).1 _
  | start c => exact .refl
  | stop c =>
    cases c with
    | channels => exact .single .cleared
    | users => exact .refl
    | freshChannels => exact .refl
    | freshForeign => exact .refl
  | shutdown c =>
    cases c with
    | channels => exact ChannelService.changes_shutdown
    | users => exact .refl
    | freshChannels => exact .refl
    | freshForeign => exact .refl
  | createServer => exact .refl
  | dropServer i => exact .refl
  | register c i =>
    obtain ⟨binding, hc⟩ := (register_frame w c i).2
    show ChannelService.Changes _ _ _ (w.register c i).1.channels
    rw [hc]
    exact .single (.refitted binding w.channels.observers)
  | attach c i =>
    obtain ⟨binding, hc⟩ := (attach_frame w c i).2
    show ChannelService.Changes _ _ _ (w.attach c i).1.channels
    rw [hc]
    exact .single (.refitted binding w.channels.observers)
  | observe o => exact .single (.refitted w.channels.binding (w.channels.observers ++ [o]))
  | enlist channel user audience => cases h
  | dismiss channel client audience => cases h

end World

end ChatServer
