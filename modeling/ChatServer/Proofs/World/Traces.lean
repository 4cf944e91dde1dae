import ChatServer.Proofs.World.Runs
import Mathlib.Data.List.Forall2

/-!
# Runs as they are seen from outside

A trace lists the steps of a run with what came of each: its answer, the messages that it sent and
what the observers of the channels noticed. A step of which several components learn is as good as
several steps of which one component learns. `unwinding` compares two runs, of which the second one
leaves out some steps of the first: if each step that is left out keeps the worlds related, and each
other step looks the same in both and keeps them related, then the traces look the same.
-/

namespace ChatServer

/-- The client that takes a step. -/
def Step.client? : Step → Option ClientId
  | .connect _ client _ _ => some client
  | .disconnect _ client => some client
  | .message _ client _ _ => some client
  | _ => none

/-- Whether a step is neither a message to a service nor the end of a connection. -/
def Step.isQuiet : Step → Bool
  | .message .users _ _ _ => false
  | .message .channels _ _ _ => false
  | .disconnect _ _ => false
  | _ => true

/-- A step of a run with what came of it. -/
structure Occurrence where
  step : Step
  answer : Answer
  sent : List Outgoing
  callbacks : List Callback

namespace World

variable {rules : Rules} {w w' : World}

/-- What comes of a step. -/
def occurrence (rules : Rules) (w : World) (st : Step) : Occurrence where
  step := st
  answer := (w.step rules st).2.answer
  sent := w.sent rules st
  callbacks := (w.step rules st).2.callbacks

/-- The steps of a run with what came of each. -/
def trace (rules : Rules) : World → List Step → List Occurrence
  | _, [] => []
  | w, st :: steps => w.occurrence rules st :: trace rules (w.step rules st).1 steps

theorem trace_append (rules : Rules) (w : World) (before after : List Step) :
    w.trace rules (before ++ after) =
      w.trace rules before ++ (w.run rules before).trace rules after := by
  induction before generalizing w with
  | nil => rfl
  | cons st before ih => exact congrArg (_ :: ·) (ih (w.step rules st).1)

/-- What happens in a run happens in a step, in the world that the steps before it made. -/
theorem exists_of_mem_trace {steps : List Step} {e : Occurrence} (h : e ∈ w.trace rules steps) :
    ∃ before st after, steps = before ++ st :: after ∧
      e = (w.run rules before).occurrence rules st := by
  induction steps generalizing w with
  | nil => cases h
  | cons st steps ih =>
    rcases List.mem_cons.1 h with h | h
    · exact ⟨[], st, steps, rfl, h⟩
    · obtain ⟨before, st', after, hsteps, he⟩ := ih h
      exact ⟨st :: before, st', after, by rw [hsteps, List.cons_append], he⟩

/-- A trace tells of the steps that were done. -/
theorem step_mem_of_mem_trace {steps : List Step} {e : Occurrence}
    (h : e ∈ w.trace rules steps) : e.step ∈ steps := by
  obtain ⟨before, st, after, rfl, rfl⟩ := exists_of_mem_trace h
  exact List.mem_append_right before List.mem_cons_self

/-! ## Steps that nobody is told of -/

/-- To attach a component sends nothing. -/
theorem record_attach (c : ComponentId) (i : ServerId) : (w.attach c i).1.record = w.record := by
  rw [attach_eq]
  cases rebound w.servers w.users.binding w.channels.binding c i <;> rfl

/-- To register a component sends nothing. -/
theorem record_register (c : ComponentId) (i : ServerId) :
    (w.register c i).1.record = w.record := by
  unfold register
  split
  · rfl
  · exact record_attach c i

/-- Only messages and the ends of connections lead to messages and are noticed. -/
theorem occurrence_of_isQuiet {st : Step} (h : st.isQuiet) :
    w.occurrence rules st = ⟨st, (w.step rules st).2.answer, [], []⟩ := by
  suffices hrecord : (w.step rules st).1.record.length ≤ w.record.length ∧
      (w.step rules st).2.callbacks = [] by
    rw [occurrence, sent, List.drop_eq_nil_of_le hrecord.1, hrecord.2]
    rfl
  -- a server that is dropped takes its record along, so the record may get shorter
  cases st with
  | message c client code p =>
    cases c with
    | users => cases h
    | channels => cases h
    | freshChannels => exact ⟨le_rfl, rfl⟩
    | freshForeign => exact ⟨le_rfl, rfl⟩
  | disconnect hooks client => cases h
  | connect hooks client hostname suffix =>
    obtain ⟨users, hw⟩ := step_connect_frame rules w hooks client hostname suffix
    rw [hw]
    exact ⟨le_rfl, rfl⟩
  | stop c => cases c <;> exact ⟨le_rfl, rfl⟩
  | shutdown c => cases c <;> exact ⟨le_rfl, rfl⟩
  | dropServer i => exact ⟨List.length_filter_le _ _, rfl⟩
  | register c i => exact ⟨(congrArg List.length (record_register c i)).le, rfl⟩
  | attach c i => exact ⟨(congrArg List.length (record_attach c i)).le, rfl⟩
  | start c => exact ⟨le_rfl, rfl⟩
  | createServer => exact ⟨le_rfl, rfl⟩
  | observe o => exact ⟨le_rfl, rfl⟩
  | enlist channel user audience => exact ⟨le_rfl, rfl⟩
  | dismiss channel client audience => exact ⟨le_rfl, rfl⟩

/-- Without messages and disconnects the channels are left as they are, or all are closed. -/
theorem channels_of_isQuiet {st : Step} (h : st.isQuiet) (direct : st.isDirect = false) :
    (∀ r, ¬(w.step rules st).1.channels.IsRegistered r) ∨
      ∃ binding observers,
        (w.step rules st).1.channels = { w.channels with binding, observers } := by
  -- of the quiet steps only those that stop the service touch channels
  cases st with
  | message c client code p =>
    cases c with
    | users => cases h
    | channels => cases h
    | freshChannels => exact .inr ⟨_, _, rfl⟩
    | freshForeign => exact .inr ⟨_, _, rfl⟩
  | disconnect hooks client => cases h
  | connect hooks client hostname suffix =>
    obtain ⟨users, hw⟩ := step_connect_frame rules w hooks client hostname suffix
    rw [hw]
    exact .inr ⟨_, _, rfl⟩
  | stop c =>
    cases c with
    | channels => exact .inl w.channels.not_isRegistered_clear
    | _ => exact .inr ⟨_, _, rfl⟩
  | shutdown c =>
    cases c with
    | channels => exact .inl w.channels.not_isRegistered_clear
    | _ => exact .inr ⟨_, _, rfl⟩
  | register c i =>
    obtain ⟨binding, hc⟩ := (register_frame w c i).2
    exact .inr ⟨binding, _, hc⟩
  | attach c i =>
    obtain ⟨binding, hc⟩ := (attach_frame w c i).2
    exact .inr ⟨binding, _, hc⟩
  | observe o => exact .inr ⟨_, _, rfl⟩
  | start c => exact .inr ⟨_, _, rfl⟩
  | createServer => exact .inr ⟨_, _, rfl⟩
  | dropServer i => exact .inr ⟨_, _, rfl⟩
  | enlist channel user audience => cases direct
  | dismiss channel client audience => cases direct

/-- What comes of a quiet step is its answer. -/
theorem occurrence_congr_of_isQuiet {st : Step} (h : st.isQuiet)
    (answer : (w'.step rules st).2.answer = (w.step rules st).2.answer) :
    w.occurrence rules st = w'.occurrence rules st := by
  rw [occurrence_of_isQuiet h, occurrence_of_isQuiet h, answer]

/-! ## Messages -/

/-- What comes of a message to the user service. -/
theorem occurrence_users (rules : Rules) (w : World) (client : ClientId) (code : UInt16)
    (p : Payload) :
    w.occurrence rules (.message .users client code p) =
      match w.claimOf client code p with
      | (.error e, rest) =>
        ⟨.message .users client code p, .handled (.error e) rest.remaining, [], []⟩
      | (.ok (_, r, claim), rest) =>
        ⟨.message .users client code p, .handled (.ok ()) rest.remaining,
          (w.users.claim rules.user r claim).2, []⟩ := by
  have hstep : w.step rules (.message .users client code p) =
    w.deliver rules .users client code p := rfl
  rw [occurrence, sent, hstep, deliver_users]
  obtain ⟨result, rest⟩ := w.claimOf client code p
  cases result with
  | error e => simp
  | ok claim =>
    obtain ⟨i, r, claim⟩ := claim
    simp [afterClaim, Function.comp_def]

/-- What comes of a message to the channel service. -/
theorem occurrence_channels (rules : Rules) (w : World) (client : ClientId) (code : UInt16)
    (p : Payload) :
    w.occurrence rules (.message .channels client code p) =
      match w.requestOf client code p with
      | (.error e, rest) =>
        ⟨.message .channels client code p, .handled (.error e) rest.remaining, [], []⟩
      | (.ok (i, r, request), rest) =>
        ⟨.message .channels client code p, .handled (.ok ()) rest.remaining,
          (w.channels.perform rules.channel w.user r request).2.messages,
          (w.afterRequest rules i r request).notice rules
            (w.channels.perform rules.channel w.user r request).2.events⟩ := by
  have hstep : w.step rules (.message .channels client code p) =
    w.deliver rules .channels client code p := rfl
  rw [occurrence, sent, hstep, deliver_channels]
  obtain ⟨result, rest⟩ := w.requestOf client code p
  cases result with
  | error e => simp
  | ok request =>
    obtain ⟨i, r, request⟩ := request
    simp [afterRequest, Function.comp_def]

/-- A request is performed by the channel service, and only there. -/
theorem IsRequest.performed (rules : Rules) {message : ChannelMessage} {client : ClientId}
    {code : UInt16} {p rest : Payload} {name : String} {r : UserRef} {request : ChannelRequest}
    (h : w.IsRequest message client code p name rest r)
    (read : ChannelRequest.ofMessage code p = (.ok request, rest)) :
    let st := Step.message .channels client code p
    let w' := (w.step rules st).1
    let result := w.channels.perform rules.channel w.user r request
    (w.step rules st).2.answer = .handled (.ok ()) rest.remaining ∧
      w'.servers = w.servers ∧ w'.users = w.users ∧ w'.channels = result.1 ∧
      w.sent rules st = result.2.messages ∧
      (w.step rules st).2.callbacks = w'.notice rules result.2.events := by
  intro st w' result
  obtain ⟨i, hrequest⟩ := h.requestOf read
  have hstep : w.step rules st = (w.afterRequest rules i r request,
      ⟨.handled (.ok ()) rest.remaining,
        (w.afterRequest rules i r request).notice rules result.2.events⟩) := by
    show w.deliver rules .channels client code p = _
    rw [deliver_channels, hrequest]
  have hsent : w.sent rules st = result.2.messages := by
    have hoccurrence := congrArg Occurrence.sent (occurrence_channels rules w client code p)
    rw [hrequest] at hoccurrence
    exact hoccurrence
  have hw' : w' = w.afterRequest rules i r request := congrArg Prod.fst hstep
  rw [hw', hstep]
  exact ⟨rfl, rfl, rfl, rfl, hsent, rfl⟩

/-- A claim is decided by the user service, and only there. Observers of the channels do not notice
it. -/
theorem IsClaim.performed (rules : Rules) {client : ClientId} {code : UInt16} {p rest : Payload}
    {claim : NameClaim} {r : UserRef} (h : w.IsClaim client code p claim rest r) :
    let st := Step.message .users client code p
    let w' := (w.step rules st).1
    let result := w.users.claim rules.user r claim
    (w.step rules st).2 = ⟨.handled (.ok ()) rest.remaining, []⟩ ∧
      w'.servers = w.servers ∧ w'.channels = w.channels ∧ w'.users = result.1 ∧
      w.sent rules st = result.2 := by
  intro st w' result
  obtain ⟨i, hclaim⟩ := h.claimOf
  have hstep : w.step rules st = (w.afterClaim rules i r claim,
      ⟨.handled (.ok ()) rest.remaining, []⟩) := by
    show w.deliver rules .users client code p = _
    rw [deliver_users, hclaim]
  have hsent : w.sent rules st = result.2 := by
    have hoccurrence := congrArg Occurrence.sent (occurrence_users rules w client code p)
    rw [hclaim] at hoccurrence
    exact hoccurrence
  have hw' : w' = w.afterClaim rules i r claim := congrArg Prod.fst hstep
  rw [hw', hstep]
  exact ⟨rfl, rfl, rfl, rfl, hsent⟩

/-- What a message leads to: nothing at all, or a claim or a request of a client that has a current
record, of which nothing is lost and to which nothing is added. -/
inductive Reaction (rules : Rules) (w : World) : Step → Prop
  | none {st : Step} (unchanged : (w.step rules st).1 = w) (silent : w.sent rules st = []) :
    Reaction rules w st
  | claimed {q : UserRef} {claim : NameClaim} {code : UInt16} {p rest : Payload}
    (read : NameClaim.ofMessage code p = (.ok claim, rest))
    (current : w.users.directory.ref? q.owner = some q)
    (users : (w.step rules (.message .users q.owner code p)).1.users =
      (w.users.claim rules.user q claim).1)
    (channels : (w.step rules (.message .users q.owner code p)).1.channels = w.channels)
    (sent : w.sent rules (.message .users q.owner code p) =
      (w.users.claim rules.user q claim).2) :
    Reaction rules w (.message .users q.owner code p)
  | requested {q : UserRef} {request : ChannelRequest} {code : UInt16} {p rest : Payload}
    (read : ChannelRequest.ofMessage code p = (.ok request, rest))
    (current : w.users.directory.ref? q.owner = some q)
    (users : (w.step rules (.message .channels q.owner code p)).1.users = w.users)
    (channels : (w.step rules (.message .channels q.owner code p)).1.channels =
      (w.channels.perform rules.channel w.user q request).1)
    (sent : w.sent rules (.message .channels q.owner code p) =
      (w.channels.perform rules.channel w.user q request).2.messages) :
    Reaction rules w (.message .channels q.owner code p)

/-- A message is refused, or it is a claim or a request and has the outcome of that. -/
theorem reaction (rules : Rules) (w : World) (c : ComponentId) (client : ClientId)
    (code : UInt16) (p : Payload) : Reaction rules w (.message c client code p) := by
  have hstep : (w.step rules (.message c client code p)).1 =
    (w.deliver rules c client code p).1 := rfl
  cases c with
  | freshChannels => exact .none rfl (congrArg Occurrence.sent (occurrence_of_isQuiet rfl))
  | freshForeign => exact .none rfl (congrArg Occurrence.sent (occurrence_of_isQuiet rfl))
  | users =>
    have hsent := congrArg Occurrence.sent (occurrence_users rules w client code p)
    rw [deliver_users] at hstep
    rcases h : w.claimOf client code p with ⟨result, rest⟩
    rw [h] at hstep hsent
    cases result with
    | error e => exact .none hstep hsent
    | ok claim =>
      obtain ⟨i, q, claim⟩ := claim
      obtain ⟨-, hread, hcurrent⟩ := claimOf_eq_ok h
      obtain ⟨-, rfl⟩ := UserDirectory.isCurrent_of_ref? hcurrent
      exact .claimed hread hcurrent (by rw [hstep]; rfl) (by rw [hstep]; rfl) hsent
  | channels =>
    have hsent := congrArg Occurrence.sent (occurrence_channels rules w client code p)
    rw [deliver_channels] at hstep
    rcases h : w.requestOf client code p with ⟨result, rest⟩
    rw [h] at hstep hsent
    cases result with
    | error e => exact .none hstep hsent
    | ok request =>
      obtain ⟨i, q, request⟩ := request
      obtain ⟨-, hread, hcurrent⟩ := requestOf_eq_ok h
      obtain ⟨-, rfl⟩ := UserDirectory.isCurrent_of_ref? hcurrent
      exact .requested hread hcurrent (by rw [hstep]; rfl) (by rw [hstep]; rfl) hsent

/-! ## Steps of which several components learn -/

/-- A connection that several components learn of comes to each of them in order. -/
theorem step_connect_eq_run (hooks : List ComponentId) (client : ClientId)
    (hostname suffix : String) :
    (w.step rules (.connect hooks client hostname suffix)).1 =
      w.run rules (hooks.map fun c => .connect [c] client hostname suffix) := by
  rw [step_connect_fst]
  induction hooks generalizing w with
  | nil => rfl
  | cons c hooks ih => exact ih

/-- The end of a connection that several components learn of comes to each of them in order. -/
theorem step_disconnect_eq_run (hooks : List ComponentId) (client : ClientId) :
    (w.step rules (.disconnect hooks client)).1 =
      w.run rules (hooks.map fun c => .disconnect [c] client) := by
  rw [step_disconnect_fst]
  induction hooks generalizing w with
  | nil => rfl
  | cons c hooks ih => exact ih

/-- What observers hear of a disconnect they hear hook by hook. -/
theorem callbacks_disconnect (hooks : List ComponentId) (client : ClientId) :
    (w.step rules (.disconnect hooks client)).2.callbacks =
      (w.trace rules (hooks.map fun c => .disconnect [c] client)).flatMap
        (fun e => e.callbacks) := by
  -- what the observers noticed so far is kept in front
  have hfold : ∀ (hooks : List ComponentId) (w : World) (noticed : List Callback),
      (hooks.foldl
        (fun (state : World × List Callback) c =>
          ((state.1.disconnectFrom rules client c).1,
            state.2 ++ (state.1.disconnectFrom rules client c).2)) (w, noticed)).2 =
        noticed ++ (w.trace rules (hooks.map fun c => .disconnect [c] client)).flatMap
          (fun e => e.callbacks) := by
    intro hooks
    induction hooks with
    | nil => exact fun w noticed => (List.append_nil noticed).symm
    | cons c hooks ih =>
      intro w noticed
      rw [List.foldl_cons, ih, List.append_assoc]
      rfl
  exact hfold hooks w []

/-- Messages that go through a binding are recorded after those there are. -/
theorem prefix_record_send (w : World) (b : Binding) (messages : List Outgoing) :
    w.record <+: (w.send b messages).record := by
  unfold send
  split
  · exact List.prefix_append _ _
  · exact List.prefix_rfl

/-- A disconnect sends something or nothing; it takes back nothing. -/
theorem prefix_record_disconnect (c : ComponentId) (client : ClientId) :
    w.record <+: (w.step rules (.disconnect [c] client)).1.record := by
  cases c with
  | channels =>
    exact prefix_record_send
      { w with channels := (w.channels.disconnect w.servers w.user client).1 } _ _
  | users => exact List.prefix_rfl
  | freshChannels => exact List.prefix_rfl
  | freshForeign => exact List.prefix_rfl

/-- What is recorded in a run that does not drop records is what its steps sent. -/
theorem record_run {steps : List Step}
    (h : ∀ st ∈ steps, ∀ w : World, w.record <+: (w.step rules st).1.record) :
    w.record <+: (w.run rules steps).record ∧
      ((w.run rules steps).record.drop w.record.length).map Prod.snd =
        (w.trace rules steps).flatMap (fun e => e.sent) := by
  induction steps generalizing w with
  | nil => exact ⟨List.prefix_rfl, by simp [run, trace]⟩
  | cons st steps ih =>
    obtain ⟨hst, h⟩ := List.forall_mem_cons.1 h
    obtain ⟨first, hfirst⟩ := hst w
    obtain ⟨⟨rest, hrest⟩, hsent⟩ := @ih (w.step rules st).1 h
    -- the record grew by what the first step sent, and then by what the others sent
    have hrun : (w.run rules (st :: steps)).record = w.record ++ (first ++ rest) := by
      rw [← List.append_assoc, hfirst, hrest]
      rfl
    have hfirstSent : w.sent rules st = first.map Prod.snd := by
      rw [sent, ← hfirst, List.drop_left]
    have hrestSent : rest.map Prod.snd =
        (trace rules (w.step rules st).1 steps).flatMap (fun e => e.sent) := by
      rw [← hsent, ← hrest, List.drop_left]
    refine ⟨⟨first ++ rest, hrun.symm⟩, ?_⟩
    rw [hrun, List.drop_left, List.map_append, hrestSent, ← hfirstSent]
    rfl

/-- What a disconnect sends is sent hook by hook. -/
theorem sent_disconnect (hooks : List ComponentId) (client : ClientId) :
    w.sent rules (.disconnect hooks client) =
      (w.trace rules (hooks.map fun c => .disconnect [c] client)).flatMap (fun e => e.sent) := by
  rw [sent, step_disconnect_eq_run]
  refine (record_run fun st hst w => ?_).2
  obtain ⟨c, -, rfl⟩ := List.mem_map.1 hst
  exact prefix_record_disconnect c client

/-- What comes of a disconnect comes of what the components learn one after another. -/
theorem occurrence_disconnect (hooks : List ComponentId) (client : ClientId) :
    w.occurrence rules (.disconnect hooks client) =
      let parts := w.trace rules (hooks.map fun c => .disconnect [c] client)
      ⟨.disconnect hooks client, .done, parts.flatMap fun e => e.sent,
        parts.flatMap fun e => e.callbacks⟩ := by
  rw [occurrence, sent_disconnect, callbacks_disconnect]
  rfl

/-- However often the channel service learns that a client is gone, it takes it off once. -/
theorem channels_step_disconnect (hooks : List ComponentId) (client : ClientId) :
    (w.step rules (.disconnect hooks client)).1.channels =
      if .channels ∈ hooks then w.channels.retire client w.channels.refs else w.channels := by
  rw [step_disconnect_fst]
  induction hooks generalizing w with
  | nil => rfl
  | cons c hooks ih =>
    rw [List.foldl_cons, ih]
    -- the service may be called more than once, and only the first call does anything
    by_cases hc : c = .channels
    · subst hc
      rw [if_pos List.mem_cons_self]
      simp only [disconnectFrom, channels_send]
      rw [ChannelService.disconnect_eq]
      dsimp only
      split
      · exact ChannelService.retire_refs_idem w.channels client
      · rfl
    · have hsame : (w.disconnectFrom rules client c).1.channels = w.channels := by
        cases c with
        | channels => exact absurd rfl hc
        | _ => rfl
      simp only [hsame, List.mem_cons, Ne.symm hc, false_or]

/-! ## Disconnects of which one service learns -/

/-- A service that is bound to no server makes no messages of a disconnect. -/
theorem messages_disconnect_of_unbound {s : ChannelService} {servers : Servers}
    (h : s.binding.get? servers = none) (users : UserRef → User) (client : ClientId) :
    (s.disconnect servers users client).2.messages = [] := by
  rw [ChannelService.disconnect_eq, h]
  refine List.flatMap_eq_nil_iff.2 fun r _ => ?_
  unfold ChannelService.departure
  split
  · rfl
  · split <;> rfl

/-- A disconnect that the channel service learns of changes channels and sends messages, and nothing
else. -/
theorem step_disconnect_channels (rules : Rules) (w : World) (client : ClientId) :
    ∃ record, (w.step rules (.disconnect [.channels] client)).1 =
      { w with channels := (w.channels.disconnect w.servers w.user client).1, record } := by
  show ∃ record, ({ w with channels := (w.channels.disconnect w.servers w.user client).1 } :
    World).send w.channels.binding _ = _
  unfold send
  dsimp only
  split
  · exact ⟨_, rfl⟩
  · exact ⟨_, rfl⟩

/-- Only the channel service tells anyone of a disconnect. -/
theorem occurrence_disconnect_of_ne {c : ComponentId} (h : c ≠ .channels) (client : ClientId) :
    w.occurrence rules (.disconnect [c] client) = ⟨.disconnect [c] client, .done, [], []⟩ := by
  have hrecord : (w.step rules (.disconnect [c] client)).1.record = w.record := by
    cases c with
    | channels => exact absurd rfl h
    | _ => rfl
  have hcallbacks : (w.step rules (.disconnect [c] client)).2.callbacks = [] := by
    cases c with
    | channels => exact absurd rfl h
    | _ => rfl
  rw [occurrence, sent, hrecord, hcallbacks, List.drop_length]
  rfl

/-- What comes of a disconnect of which the channel service learns. -/
theorem occurrence_disconnect_channels (client : ClientId) :
    w.occurrence rules (.disconnect [.channels] client) =
      ⟨.disconnect [.channels] client, .done,
        (w.channels.disconnect w.servers w.user client).2.messages,
        (w.channels.disconnect w.servers w.user client).1.callbacks rules.channel w.user
          (w.channels.disconnect w.servers w.user client).2.events⟩ := by
  have hsent : w.sent rules (.disconnect [.channels] client) =
      (w.channels.disconnect w.servers w.user client).2.messages := by
    have hstep : (w.step rules (.disconnect [.channels] client)).1 =
        ({ w with channels := (w.channels.disconnect w.servers w.user client).1 } : World).send
          w.channels.binding (w.channels.disconnect w.servers w.user client).2.messages := rfl
    cases hb : w.channels.binding.get? w.servers with
    | some i =>
      refine sent_of_record (i := i) ?_
      rw [hstep, send]
      dsimp only
      rw [hb]
    | none =>
      rw [messages_disconnect_of_unbound hb, sent, hstep, send]
      dsimp only
      rw [hb]
      simp
  have hcallbacks : (w.step rules (.disconnect [.channels] client)).2.callbacks =
      (w.channels.disconnect w.servers w.user client).1.callbacks rules.channel w.user
        (w.channels.disconnect w.servers w.user client).2.events := by
    show World.notice rules (({ w with
      channels := (w.channels.disconnect w.servers w.user client).1 } : World).send _ _) _ = _
    rw [notice, channels_send, user, users_send]
    rfl
  rw [occurrence, hsent, hcallbacks]
  rfl

/-! ## Two runs -/

variable {α : Type}

/-- What comes of two runs of the same steps is related if what comes of each step is. -/
theorem trace_forall₂ {related : World → World → Prop}
    (alike : Occurrence → Occurrence → Prop) {steps : List Step}
    (keep : ∀ st ∈ steps, ∀ w w', related w w' →
      related (w.step rules st).1 (w'.step rules st).1 ∧
        alike (w.occurrence rules st) (w'.occurrence rules st))
    (h : related w w') :
    related (w.run rules steps) (w'.run rules steps) ∧
      List.Forall₂ alike (w.trace rules steps) (w'.trace rules steps) := by
  induction steps generalizing w w' with
  | nil => exact ⟨h, .nil⟩
  | cons st steps ih =>
    obtain ⟨hst, hsteps⟩ := List.forall_mem_cons.1 keep
    obtain ⟨hfirst, halike⟩ := hst w w' h
    obtain ⟨hrest, halikes⟩ := ih hsteps hfirst
    exact ⟨hrest, .cons halike halikes⟩

/-- What comes of a disconnect is related if what comes of it for each component that learns of it
is. -/
theorem disconnect_forall₂ {related : World → World → Prop}
    (alike : Occurrence → Occurrence → Prop) {client : ClientId}
    (hook : ∀ c w w', related w w' →
      related (w.step rules (.disconnect [c] client)).1
          (w'.step rules (.disconnect [c] client)).1 ∧
        alike (w.occurrence rules (.disconnect [c] client))
          (w'.occurrence rules (.disconnect [c] client)))
    (h : related w w') (hooks : List ComponentId) :
    let parts := hooks.map fun c => Step.disconnect [c] client
    related (w.step rules (.disconnect hooks client)).1
        (w'.step rules (.disconnect hooks client)).1 ∧
      List.Forall₂ alike (w.trace rules parts) (w'.trace rules parts) := by
  rw [step_disconnect_eq_run, step_disconnect_eq_run]
  refine trace_forall₂ alike (fun st hst w w' h => ?_) h
  obtain ⟨c, -, rfl⟩ := List.mem_map.1 hst
  exact hook c w w' h

/-- Lists whose items look the same look the same. -/
theorem map_eq_of_forall₂ {β : Type} {view : β → α} {l l' : List β}
    (h : List.Forall₂ (fun x y => view x = view y) l l') : l.map view = l'.map view := by
  rwa [← List.forall₂_eq_eq_eq, List.forall₂_map_left_iff, List.forall₂_map_right_iff]

/-- Two runs of the same steps look the same if each step does. -/
theorem trace_congr {related : World → World → Prop} (view : Occurrence → α) {steps : List Step}
    (keep : ∀ st ∈ steps, ∀ w w', related w w' →
      related (w.step rules st).1 (w'.step rules st).1 ∧
        view (w.occurrence rules st) = view (w'.occurrence rules st))
    (h : related w w') :
    related (w.run rules steps) (w'.run rules steps) ∧
      (w.trace rules steps).map view = (w'.trace rules steps).map view :=
  (trace_forall₂ _ keep h).imp_right map_eq_of_forall₂

/-- A disconnect looks the same in both if it does so for each component that learns of it. -/
theorem disconnect_congr {related : World → World → Prop} (view : Occurrence → α)
    {client : ClientId}
    (hook : ∀ c w w', related w w' →
      related (w.step rules (.disconnect [c] client)).1
          (w'.step rules (.disconnect [c] client)).1 ∧
        view (w.occurrence rules (.disconnect [c] client)) =
          view (w'.occurrence rules (.disconnect [c] client)))
    (h : related w w') (hooks : List ComponentId) :
    let parts := hooks.map fun c => Step.disconnect [c] client
    related (w.step rules (.disconnect hooks client)).1
        (w'.step rules (.disconnect hooks client)).1 ∧
      (w.trace rules parts).map view = (w'.trace rules parts).map view :=
  (disconnect_forall₂ _ hook h hooks).imp_right map_eq_of_forall₂

/-- Two runs look the same if the second one leaves out steps that do not matter and that nobody
can see. -/
theorem unwinding (related : World → World → Prop) (allowed hidden : Occurrence → Prop)
    (kept : Step → Bool) (view : Occurrence → α)
    (skip : ∀ w w' st, related w w' → allowed (w.occurrence rules st) → kept st = false →
      related (w.step rules st).1 w' ∧ hidden (w.occurrence rules st))
    (keep : ∀ w w' st, related w w' → allowed (w.occurrence rules st) → kept st = true →
      related (w.step rules st).1 (w'.step rules st).1 ∧
        view (w.occurrence rules st) = view (w'.occurrence rules st))
    (h : related w w') {steps : List Step} (hsteps : ∀ e ∈ w.trace rules steps, allowed e) :
    related (w.run rules steps) (w'.run rules (steps.filter kept)) ∧
      (∀ e ∈ w.trace rules steps, kept e.step = false → hidden e) ∧
      ((w.trace rules steps).filter fun e => kept e.step).map view =
        (w'.trace rules (steps.filter kept)).map view := by
  -- by the first step, which is left out of the second run or kept in both
  induction steps generalizing w w' with
  | nil => exact ⟨h, fun _ he => absurd he List.not_mem_nil, rfl⟩
  | cons st steps ih =>
    obtain ⟨hst, hsteps⟩ := List.forall_mem_cons.1 hsteps
    cases hkept : kept st with
    | false =>
      obtain ⟨hnext, hhidden⟩ := skip w w' st h hst hkept
      obtain ⟨hrelated, hrest, hview⟩ := ih hnext hsteps
      have hdrop : (w.occurrence rules st :: trace rules (w.step rules st).1 steps).filter
          (fun e => kept e.step) =
            (trace rules (w.step rules st).1 steps).filter fun e => kept e.step :=
        List.filter_cons_of_neg (by simpa [occurrence] using hkept)
      rw [List.filter_cons_of_neg (by simp [hkept]), trace, hdrop]
      exact ⟨hrelated, List.forall_mem_cons.2 ⟨fun _ => hhidden, hrest⟩, hview⟩
    | true =>
      obtain ⟨hnext, hview⟩ := keep w w' st h hst hkept
      obtain ⟨hrelated, hrest, hviews⟩ := ih hnext hsteps
      have htake : (w.occurrence rules st :: trace rules (w.step rules st).1 steps).filter
          (fun e => kept e.step) =
            w.occurrence rules st ::
              (trace rules (w.step rules st).1 steps).filter fun e => kept e.step :=
        List.filter_cons_of_pos (by simpa [occurrence] using hkept)
      have hvisible : kept (w.occurrence rules st).step = false →
          hidden (w.occurrence rules st) := by
        intro hnot
        have hstep : (w.occurrence rules st).step = st := rfl
        rw [hstep, hkept] at hnot
        cases hnot
      rw [List.filter_cons_of_pos hkept, trace, trace, htake, List.map_cons, List.map_cons, hview,
        hviews]
      exact ⟨hrelated, List.forall_mem_cons.2 ⟨hvisible, hrest⟩, rfl⟩

end World

end ChatServer
