import ChatServer.Proofs.Live.Building

/-!
# What goes on at a running server

Whatever a server does about a connection is a list of calls, with some activity of others around
them. A call is carried out on the hub and noted in its journal, and so the journal tells of each
client what was done for it. What is done keeps the server sound, and after its farewell a client is
forgotten.
-/

namespace ChatServer

namespace Live

/-- The client that a call is about. -/
def Call.client : Call → ClientId
  | registered client => client
  | connected _ client => client
  | handled _ client _ => client
  | unregistered client => client
  | disconnected _ client => client

namespace Outboxes

/-! ## Which clients are registered -/

variable {o : Outboxes}

@[simp]
theorem current_send (o : Outboxes) (client : ClientId) (frame : Frame) :
    (o.send client frame).current = o.current := by
  unfold send
  split <;> rfl

end Outboxes

namespace Hub

variable {makes : Nat → Bool} {hub : Hub} {components : List ComponentId} {client : ClientId}
  {hostname suffix : String}

/-! ## Calls -/

/-- Carries out a call and notes it. -/
def carry (hostname suffix : String) (h : Hub) (call : Call) : Hub :=
  match call with
  | .registered client => { h with outboxes := h.outboxes.register client }.note call
  | .connected c client => ((h.note call).act (.connect [c] client hostname suffix)).1
  | .handled c client frame => ((h.note call).act (.message c client frame.message frame.payload)).1
  | .unregistered client => { h with outboxes := h.outboxes.unregister client }.note call
  | .disconnected c client => ((h.note call).act (.disconnect [c] client)).1

/-- The calls by which a server of some components takes a new connection. -/
def greeting (components : List ComponentId) (client : ClientId) : List Call :=
  .registered client :: components.map fun c => .connected c client

/-- The calls by which a server of some components gives up a connection. -/
def farewell (components : List ComponentId) (client : ClientId) : List Call :=
  .unregistered client :: components.map fun c => .disconnected c client

/-- A new connection is greeted, if a queue can be made for it. -/
theorem connect_eq (makes : Nat → Bool) (h : Hub) (client : ClientId) (hostname suffix : String) :
    h.connect makes client hostname suffix =
      if makes h.outboxes.capacity then
        some ((greeting h.components client).foldl (carry hostname suffix) h)
      else none := by
  rw [greeting, List.foldl_cons, List.foldl_map]
  rfl

/-- If a queue can be made for it, a client is greeted. -/
theorem connect_of_makes {h : Hub} (hmakes : makes h.outboxes.capacity) (client : ClientId)
    (hostname suffix : String) :
    h.connect makes client hostname suffix =
      some ((greeting h.components client).foldl (carry hostname suffix) h) :=
  (connect_eq ..).trans (if_pos hmakes)

/-- A connection that ends is said farewell, whatever it was that ended it. -/
theorem disconnect_eq (h : Hub) (client : ClientId) (hostname suffix : String) :
    h.disconnect client = (farewell h.components client).foldl (carry hostname suffix) h := by
  rw [farewell, List.foldl_cons, List.foldl_map]
  rfl

/-- The calls about a client that the journal lists. -/
def callsOf (h : Hub) (client : ClientId) : List Call :=
  h.journal.filter fun call => call.client = client

/-- Every call is noted as it is carried out. -/
theorem journal_carry (h : Hub) (call : Call) :
    (h.carry hostname suffix call).journal = h.journal ++ [call] := by
  cases call <;> rfl

/-- Calls are noted in the order in which they are carried out. -/
theorem journal_foldl_carry (h : Hub) (calls : List Call) :
    (calls.foldl (carry hostname suffix) h).journal = h.journal ++ calls := by
  induction calls generalizing h with
  | nil => exact (List.append_nil _).symm
  | cons call calls ih => rw [List.foldl_cons, ih, journal_carry, List.append_assoc]; rfl

/-- Calls about a client are listed after those that there were about it. -/
theorem callsOf_foldl_carry {calls : List Call} (own : ∀ call ∈ calls, call.client = client) :
    (calls.foldl (carry hostname suffix) hub).callsOf client = hub.callsOf client ++ calls := by
  have hown : calls.filter (fun call => call.client = client) = calls :=
    List.filter_eq_self.2 fun call hcall => decide_eq_true (own call hcall)
  rw [callsOf, journal_foldl_carry, List.filter_append, hown]
  rfl

/-- Calls about one client are not listed for another one. -/
theorem callsOf_foldl_carry_of_ne {calls : List Call} {other : ClientId} (ne : other ≠ client)
    (own : ∀ call ∈ calls, call.client = other) :
    (calls.foldl (carry hostname suffix) hub).callsOf client = hub.callsOf client := by
  have hnone : calls.filter (fun call => call.client = client) = [] := by
    refine List.filter_eq_nil_iff.2 fun call hcall => ?_
    rw [own call hcall, decide_eq_true_eq]
    exact ne
  rw [callsOf, journal_foldl_carry, List.filter_append, hnone, List.append_nil]
  rfl

/-- A greeting is about the new client only. -/
theorem client_of_mem_greeting :
    ∀ call ∈ greeting components client, call.client = client :=
  List.forall_mem_cons.2 ⟨rfl, List.forall_mem_map.2 fun _ _ => rfl⟩

/-- A farewell is about the client that leaves only. -/
theorem client_of_mem_farewell :
    ∀ call ∈ farewell components client, call.client = client :=
  List.forall_mem_cons.2 ⟨rfl, List.forall_mem_map.2 fun _ _ => rfl⟩

/-! ## What goes on -/

/-- A step that a running server makes leaves it sound: it still finds all its components. -/
theorem Sound.act (h : hub.Sound components) {st : Step} (serving : st.isServing) :
    (hub.act st).1.Sound components := by
  have hworld := h.world.step (World.not_direct_of_isServing serving)
  refine ⟨h.hosts, fun type c => ?_, ⟨hworld.directory, hworld.channels⟩⟩
  show (hub.world.step hub.rules st).1.servers.component? 0 type = some c ↔ _
  rw [World.servers_step serving]
  exact h.routed type c

/-- Every call leaves a server sound. -/
theorem Sound.carry (h : hub.Sound components) (hostname suffix : String) (call : Call) :
    (hub.carry hostname suffix call).Sound components := by
  have hnoted : (hub.note call).Sound components := ⟨h.hosts, h.routed, h.world⟩
  cases call with
  | registered client => exact ⟨h.hosts, h.routed, h.world⟩
  | connected c client => exact hnoted.act rfl
  | handled c client frame => exact hnoted.act rfl
  | unregistered client => exact ⟨h.hosts, h.routed, h.world⟩
  | disconnected c client => exact hnoted.act rfl

/-- Any number of calls keep a server sound. -/
theorem Sound.foldl_carry (h : hub.Sound components) (hostname suffix : String)
    (calls : List Call) : (calls.foldl (Hub.carry hostname suffix) hub).Sound components := by
  induction calls generalizing hub with
  | nil => exact h
  | cons call calls ih => exact ih (h.carry hostname suffix call)

/-- What becomes of a message of a client: which calls it leads to, and whether its connection goes
on or with what error it ends. -/
inductive Reception (hub : Hub) (client : ClientId) (bytes : List UInt8) :
    List Call → Except ServerError Unit → Prop
  /-- The bytes are no frame. -/
  | undecodable {e : WireError} (decode : Frame.decode bytes = .error e) :
    Reception hub client bytes [] (.error (.protocol e))
  /-- The frame is for a component that the server does not have. -/
  | unserved {frame : Frame} (decode : Frame.decode bytes = .ok frame)
    (lacking : ∀ c ∈ hub.components, c.type ≠ frame.component) :
    Reception hub client bytes [] (.error (.handle (.componentUnavailable frame.component)))
  /-- The component refuses to handle the frame. Nothing changes then, and nobody is answered. -/
  | refused {frame : Frame} {c : ComponentId} {e : HandleError} {remaining : Nat}
    (decode : Frame.decode bytes = .ok frame)
    (addressed : c ∈ hub.components ∧ c.type = frame.component)
    (answer : (hub.world.step hub.rules
      (.message c client frame.message frame.payload)).2.answer = .handled (.error e) remaining)
    (untouched :
      (hub.world.step hub.rules (.message c client frame.message frame.payload)).1 = hub.world ∧
        hub.world.sent hub.rules (.message c client frame.message frame.payload) = []) :
    Reception hub client bytes [.handled c client frame] (.error (.handle e))
  /-- The component handles the frame, be it that it grants what is asked for or not. -/
  | accepted {frame : Frame} {c : ComponentId} {remaining : Nat}
    (decode : Frame.decode bytes = .ok frame)
    (addressed : c ∈ hub.components ∧ c.type = frame.component)
    (answer : (hub.world.step hub.rules
      (.message c client frame.message frame.payload)).2.answer = .handled (.ok ()) remaining) :
    Reception hub client bytes [.handled c client frame] (.ok ())

/-- A frame that is handed to a component leads to one call, and the answer of the component decides
whether the connection goes on. -/
theorem receive_of_answer {bytes : List UInt8} {frame : Frame} {c : ComponentId}
    {outcome : Except HandleError Unit} {remaining : Nat} (decode : Frame.decode bytes = .ok frame)
    (found : hub.world.servers.component? 0 frame.component = some c)
    (answer : (hub.world.step hub.rules
      (.message c client frame.message frame.payload)).2.answer = .handled outcome remaining)
    (hostname suffix : String) :
    hub.receive client bytes =
      (hub.carry hostname suffix (.handled c client frame), outcome.mapError .handle) := by
  have hanswer : ((hub.note (.handled c client frame)).act
      (.message c client frame.message frame.payload)).2.answer = .handled outcome remaining :=
    answer
  unfold receive carry
  rw [decode]
  dsimp only
  rw [found]
  dsimp only
  rcases hact : (hub.note (.handled c client frame)).act
    (.message c client frame.message frame.payload) with ⟨after, ⟨reply, callbacks⟩⟩
  rw [hact] at hanswer
  -- only the answer of the component counts, not what observers noticed
  obtain rfl : reply = .handled outcome remaining := hanswer
  cases outcome <;> rfl

/-- The calls that a message leads to are all that is done about it. -/
theorem Sound.receive_eq (h : hub.Sound components) {bytes : List UInt8} {calls : List Call}
    {outcome : Except ServerError Unit} (reception : hub.Reception client bytes calls outcome)
    (hostname suffix : String) :
    hub.receive client bytes = (calls.foldl (Hub.carry hostname suffix) hub, outcome) := by
  have hrouted := h.routed
  rw [← h.hosts] at hrouted
  cases reception with
  | undecodable decode =>
    rw [receive, decode]
    rfl
  | unserved decode lacking =>
    -- no component of the frame's type is among those the hub has
    have hnone : ∀ c, hub.world.servers.component? 0 _ ≠ some c :=
      fun c hc => lacking c ((hrouted _ c).1 hc).1 ((hrouted _ c).1 hc).2
    simp only [receive, decode, Option.eq_none_iff_forall_ne_some.2 hnone]
    rfl
  | refused decode addressed answer untouched =>
    exact receive_of_answer decode ((hrouted _ _).2 addressed) answer hostname suffix
  | accepted decode addressed answer =>
    exact receive_of_answer decode ((hrouted _ _).2 addressed) answer hostname suffix

/-- A message leads to at most one call, and its outcome is clear. -/
theorem Sound.exists_reception (h : hub.Sound components) (client : ClientId)
    (bytes : List UInt8) : ∃ calls outcome, hub.Reception client bytes calls outcome := by
  have hrouted := h.routed
  rw [← h.hosts] at hrouted
  cases hframe : Frame.decode bytes with
  | error e => exact ⟨[], _, .undecodable hframe⟩
  | ok frame =>
    cases hc : hub.world.servers.component? 0 frame.component with
    | none =>
      refine ⟨[], _, .unserved hframe fun c hmem htype => ?_⟩
      rw [(hrouted _ c).2 ⟨hmem, htype⟩] at hc
      cases hc
    | some c =>
      have haddressed := (hrouted _ c).1 hc
      obtain ⟨outcome, remaining, hanswer, hrefused⟩ :=
        World.answer_message hub.rules hub.world c client frame.message frame.payload
      refine ⟨[.handled c client frame], outcome.mapError .handle, ?_⟩
      cases outcome with
      | ok value => exact .accepted hframe haddressed hanswer
      | error e => exact .refused hframe haddressed hanswer (hrefused.resolve_left nofun)

/-- All that a message leads to is that it is handed to a component. -/
theorem Reception.handles {bytes : List UInt8} {calls : List Call}
    {outcome : Except ServerError Unit} (h : hub.Reception client bytes calls outcome) :
    ∀ call ∈ calls, ∃ c frame, call = .handled c client frame := by
  cases h with
  | undecodable decode => exact nofun
  | unserved decode lacking => exact nofun
  | refused decode addressed answer untouched =>
    exact fun call hcall => ⟨_, _, List.mem_singleton.1 hcall⟩
  | accepted decode addressed answer =>
    exact fun call hcall => ⟨_, _, List.mem_singleton.1 hcall⟩

/-- What is handed to the components for a client is about that client. -/
theorem client_of_handles {calls : List Call}
    (h : ∀ call ∈ calls, ∃ c frame, call = .handled c client frame) :
    ∀ call ∈ calls, call.client = client := by
  intro call hcall
  obtain ⟨c, frame, rfl⟩ := h call hcall
  rfl

/-! ## Activity of others -/

/-- Something that goes on at a server. -/
inductive Activity where
  | connect (client : ClientId) (hostname suffix : String)
  | receive (client : ClientId) (bytes : List UInt8)
  | disconnect (client : ClientId)
  /-- The frames that wait in an outbox are taken. -/
  | drain (outbox : Nat)
  /-- Nobody takes frames from an outbox any more. -/
  | close (outbox : Nat)
  | stop

/-- The client whose connection an activity is about. -/
def Activity.client? : Activity → Option ClientId
  | connect client _ _ => some client
  | receive client _ => some client
  | disconnect client => some client
  | _ => none

/-- The server after some activity. A connection for which no queue can be made changes nothing. -/
def undergo (makes : Nat → Bool) (h : Hub) : Activity → Hub
  | .connect client hostname suffix => (h.connect makes client hostname suffix).getD h
  | .receive client bytes => (h.receive client bytes).1
  | .disconnect client => h.disconnect client
  | .drain n => { h with outboxes := (h.outboxes.drain n).2 }
  | .close n => { h with outboxes := h.outboxes.close n }
  | .stop => h.stop

/-- What a connection is to others: a greeting, if a queue can be made for it. -/
theorem undergo_connect (makes : Nat → Bool) (h : Hub) (client : ClientId)
    (hostname suffix : String) :
    h.undergo makes (.connect client hostname suffix) =
      if makes h.outboxes.capacity then
        (greeting h.components client).foldl (carry hostname suffix) h
      else h := by
  show (h.connect makes client hostname suffix).getD h = _
  rw [connect_eq]
  split <;> rfl

/-- Steps that are made without a call are listed nowhere. -/
theorem Sound.foldl_act (h : hub.Sound components) {cs : List ComponentId}
    {st : ComponentId → Step} (serving : ∀ c, (st c).isServing) :
    (cs.foldl (fun hub c => (hub.act (st c)).1) hub).Sound components ∧
      (cs.foldl (fun hub c => (hub.act (st c)).1) hub).journal = hub.journal := by
  induction cs generalizing hub with
  | nil => exact ⟨h, rfl⟩
  | cons c cs ih => exact ih (h.act (serving c))

/-- What is done about a client is calls about it; what else is done is listed nowhere. -/
theorem Sound.undergone (h : hub.Sound components) (makes : Nat → Bool) (a : Activity) :
    (∃ (other : ClientId) (hostname suffix : String) (calls : List Call),
      a.client? = some other ∧ (∀ call ∈ calls, call.client = other) ∧
        hub.undergo makes a = calls.foldl (Hub.carry hostname suffix) hub) ∨
    (hub.undergo makes a).Sound components ∧ (hub.undergo makes a).journal = hub.journal := by
  -- what is done about one client is a list of calls for it, and nothing else is about a client
  cases a with
  | connect client hostname suffix =>
    rw [undergo_connect]
    split
    · exact .inl ⟨client, hostname, suffix, _, rfl, client_of_mem_greeting, rfl⟩
    · exact .inr ⟨h, rfl⟩
  | receive client bytes =>
    obtain ⟨calls, outcome, hreception⟩ := h.exists_reception client bytes
    exact .inl ⟨client, "", "", calls, rfl, client_of_handles hreception.handles,
      congrArg Prod.fst (h.receive_eq hreception "" "")⟩
  | disconnect client =>
    exact .inl ⟨client, "", "", _, rfl, client_of_mem_farewell, disconnect_eq _ _ _ _⟩
  | drain n => exact .inr ⟨⟨h.hosts, h.routed, h.world⟩, rfl⟩
  | close n => exact .inr ⟨⟨h.hosts, h.routed, h.world⟩, rfl⟩
  | stop =>
    have hstop : ∀ c, (Step.stop c).isServing := fun _ => rfl
    have hshutdown : ∀ c, (Step.shutdown c).isServing := fun _ => rfl
    obtain ⟨hstopped, hjournal⟩ := h.foldl_act hstop
    obtain ⟨hdown, hsame⟩ := hstopped.foldl_act hshutdown
    exact .inr ⟨hdown, hsame.trans hjournal⟩

/-- Whatever goes on at a server leaves it sound. -/
theorem Sound.undergo (h : hub.Sound components) (makes : Nat → Bool) (a : Activity) :
    (hub.undergo makes a).Sound components := by
  rcases h.undergone makes a with ⟨other, hostname, suffix, calls, -, -, hcalls⟩ | hother
  · rw [hcalls]
    exact h.foldl_carry hostname suffix calls
  · exact hother.1

/-- Whatever goes on keeps a server sound. -/
theorem Sound.foldl_undergo (h : hub.Sound components) (makes : Nat → Bool)
    (activity : List Activity) : (activity.foldl (Hub.undergo makes) hub).Sound components := by
  induction activity generalizing hub with
  | nil => exact h
  | cons a activity ih => exact ih (h.undergo makes a)

/-- What is done about other clients is not listed for a client. -/
theorem Sound.callsOf_undergo (h : hub.Sound components) {a : Activity}
    (others : a.client? ≠ some client) :
    (hub.undergo makes a).callsOf client = hub.callsOf client := by
  rcases h.undergone makes a with
    ⟨other, hostname, suffix, calls, hother, hown, hcalls⟩ | ⟨-, hsame⟩
  · have hne : other ≠ client := fun heq => others (hother.trans (congrArg some heq))
    rw [hcalls]
    exact callsOf_foldl_carry_of_ne hne hown
  · rw [callsOf, hsame]
    rfl

/-! ## After the end of a connection -/

/-- A server has nothing of a client: no outbox, no current record and no place on any roster. -/
structure Forgets (hub : Hub) (client : ClientId) : Prop where
  outbox : hub.outboxes.current.get? client = none
  record : hub.world.users.directory.ref? client = none
  rosters : ∀ r, (hub.world.channels.channel r).Lacks client

/-- What the components send registers nobody. -/
@[simp]
theorem current_act (hub : Hub) (st : Step) :
    (hub.act st).1.outboxes.current = hub.outboxes.current := by
  have hfold : ∀ (sent : List (ServerId × Outgoing)) (o : Outboxes),
      (sent.foldl (fun o m => o.send m.2.client m.2.message.frame) o).current = o.current := by
    intro sent
    induction sent with
    | nil => exact fun _ => rfl
    | cons m sent ih => exact fun o => (ih _).trans (Outboxes.current_send o _ _)
  exact hfold _ _

/-- The components that learned that a client is gone have forgotten it. -/
theorem Sound.forgotten (h : hub.Sound components) {cs : List ComponentId} :
    ∀ c ∈ cs, ((cs.map fun c => .disconnected c client).foldl
      (Hub.carry hostname suffix) hub).world.Forgotten client c := by
  induction cs using List.reverseRecOn with
  | nil => exact nofun
  | append_singleton cs d ih =>
    intro c hc
    have hforgotten : c = d ∨ ((cs.map fun c => .disconnected c client).foldl
        (Hub.carry hostname suffix) hub).world.Forgotten client c :=
      (List.mem_append.1 hc).symm.imp List.mem_singleton.1 (ih c)
    rw [List.map_append, List.foldl_append]
    generalize hprior : (cs.map fun c => Call.disconnected c client).foldl
      (Hub.carry hostname suffix) hub = prior at hforgotten
    have hsound : prior.Sound components := hprior ▸ h.foldl_carry hostname suffix _
    have hnext : (prior.world.step prior.rules (.disconnect [d] client)).1.Forgotten client c :=
      World.forgotten_disconnect hsound.world hforgotten
    -- that the messages on the way are queued changes neither service
    cases c <;> exact hnext

/-- After its farewell a client is forgotten. -/
theorem Sound.forgets (h : hub.Sound components) (users : .users ∈ components)
    (channels : .channels ∈ components) :
    ((farewell components client).foldl (Hub.carry hostname suffix) hub).Forgets client := by
  -- the outbox goes first; the components are asked after it, in any order
  have hunregistered : (hub.carry hostname suffix (.unregistered client)).Sound components :=
    h.carry hostname suffix _
  constructor
  case outbox =>
    have hcurrent : ∀ (cs : List ComponentId) (hub : Hub),
        ((cs.map fun c => Call.disconnected c client).foldl (Hub.carry hostname suffix)
          hub).outboxes.current = hub.outboxes.current := by
      intro cs
      induction cs with
      | nil => exact fun _ => rfl
      | cons c cs ih => exact fun hub => (ih _).trans (current_act _ _)
    rw [farewell, List.foldl_cons, hcurrent]
    exact (Table.get?_erase _ _ _).trans (if_pos rfl)
  case record => exact hunregistered.forgotten .users users
  case rosters => exact hunregistered.forgotten .channels channels

/-- A client that is forgotten stays so in any step but one that connects it. -/
theorem Forgets.act (h : hub.Forgets client) (sound : hub.Sound components) {st : Step}
    (serving : st.isServing)
    (others : ∀ hooks hostname suffix, st ≠ .connect hooks client hostname suffix) :
    (hub.act st).1.Forgets client := by
  obtain ⟨hrecord, hrosters⟩ := World.forgotten_step sound.world serving others h.record h.rosters
  exact ⟨(congrArg (Table.get? · client) (current_act hub st)).trans h.outbox, hrecord, hrosters⟩

/-- A call about another client leaves a client forgotten. -/
theorem Forgets.carry (h : hub.Forgets client) (sound : hub.Sound components) {call : Call}
    (others : call.client ≠ client) : (hub.carry hostname suffix call).Forgets client := by
  have hnoted : (hub.note call).Forgets client := ⟨h.outbox, h.record, h.rosters⟩
  have hsound : (hub.note call).Sound components := ⟨sound.hosts, sound.routed, sound.world⟩
  cases call with
  | registered other =>
    have houtbox : (hub.outboxes.register other).current.get? client = none :=
      (Table.get?_insert ..).trans ((if_neg others.symm).trans h.outbox)
    exact ⟨houtbox, h.record, h.rosters⟩
  | connected c other =>
    refine hnoted.act hsound rfl fun hooks hostname suffix heq => others ?_
    injection heq
  | handled c other frame => exact hnoted.act hsound rfl nofun
  | unregistered other =>
    have houtbox : (hub.outboxes.unregister other).current.get? client = none :=
      (Table.get?_erase ..).trans ((if_neg others.symm).trans h.outbox)
    exact ⟨houtbox, h.record, h.rosters⟩
  | disconnected c other => exact hnoted.act hsound rfl nofun

theorem Forgets.foldl_carry (h : hub.Forgets client) (sound : hub.Sound components)
    {calls : List Call} (others : ∀ call ∈ calls, call.client ≠ client) :
    (calls.foldl (Hub.carry hostname suffix) hub).Forgets client := by
  induction calls generalizing hub with
  | nil => exact h
  | cons call calls ih =>
    exact ih (h.carry sound (others call List.mem_cons_self)) (sound.carry hostname suffix call)
      fun other hother => others other (List.mem_cons_of_mem _ hother)

theorem Forgets.foldl_act (h : hub.Forgets client) (sound : hub.Sound components)
    {cs : List ComponentId} {st : ComponentId → Step} (serving : ∀ c, (st c).isServing)
    (others : ∀ c hooks hostname suffix, st c ≠ .connect hooks client hostname suffix) :
    (cs.foldl (fun hub c => (hub.act (st c)).1) hub).Forgets client := by
  induction cs generalizing hub with
  | nil => exact h
  | cons c cs ih => exact ih (h.act sound (serving c) (others c)) (sound.act (serving c))

/-- A client that is forgotten stays so until it connects again, whatever others do. -/
theorem Forgets.undergo (h : hub.Forgets client) (sound : hub.Sound components) {a : Activity}
    (others : a.client? ≠ some client) : (hub.undergo makes a).Forgets client := by
  -- calls for another client cannot bring the forgotten one back
  have hcalls : ∀ {other : ClientId} {calls : List Call} (hostname suffix : String),
      a.client? = some other → (∀ call ∈ calls, call.client = other) →
        (calls.foldl (Hub.carry hostname suffix) hub).Forgets client := by
    intro other calls hostname suffix ha hown
    refine h.foldl_carry sound fun call hcall heq => others ?_
    rw [ha, ← hown call hcall, heq]
  cases a with
  | connect other hostname suffix =>
    rw [undergo_connect]
    split
    · exact hcalls hostname suffix rfl client_of_mem_greeting
    · exact h
  | receive other bytes =>
    obtain ⟨calls, outcome, hreception⟩ := sound.exists_reception other bytes
    show (hub.receive other bytes).1.Forgets client
    rw [sound.receive_eq hreception "" ""]
    exact hcalls "" "" rfl (client_of_handles hreception.handles)
  | disconnect other =>
    show (hub.disconnect other).Forgets client
    rw [disconnect_eq hub other "" ""]
    exact hcalls "" "" rfl client_of_mem_farewell
  | drain n =>
    refine ⟨?_, h.record, h.rosters⟩
    show (hub.outboxes.drain n).2.current.get? client = none
    unfold Outboxes.drain
    split <;> exact h.outbox
  | close n => exact ⟨h.outbox, h.record, h.rosters⟩
  | stop =>
    have hstop : ∀ c, (Step.stop c).isServing := fun _ => rfl
    have hshutdown : ∀ c, (Step.shutdown c).isServing := fun _ => rfl
    refine (h.foldl_act sound hstop ?_).foldl_act (sound.foldl_act hstop).1 hshutdown ?_
    · intro _ _ _ _ heq
      cases heq
    · intro _ _ _ _ heq
      cases heq

/-- A client that is forgotten stays so until it connects again, whatever goes on. -/
theorem Forgets.foldl_undergo (h : hub.Forgets client) (sound : hub.Sound components)
    {activity : List Activity} (others : ∀ a ∈ activity, a.client? ≠ some client) :
    (activity.foldl (Hub.undergo makes) hub).Forgets client := by
  induction activity generalizing hub with
  | nil => exact h
  | cons a activity ih =>
    exact ih (h.undergo sound (others a List.mem_cons_self)) (sound.undergo makes a)
      fun b hb => others b (List.mem_cons_of_mem _ hb)

end Hub

end Live

end ChatServer
