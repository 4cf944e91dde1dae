import ChatServer.Proofs.Live.Queues

/-!
# Connections from their start to their end

A connection is greeted, its messages are handed on one after another until one is refused or the
connection ends, and then it is given up, in the same way whatever it was that ended it. Between the
turns of a connection others may do whatever they do: `serveAmid` serves a connection amid them.
Where no queue can be made for it, a connection is over before anybody hears of it.
-/

namespace ChatServer

namespace Live

namespace Hub

variable {makes : Nat → Bool} {hub : Hub} {components : List ComponentId} {client : ClientId}
  {hostname suffix : String}

/-- What a connection can bring next. -/
inductive Inbound where
  | message (bytes : List UInt8)
  /-- The client closed the connection. -/
  | closed
  /-- The connection failed. -/
  | failed (reason : String)
  /-- Nothing came for too long. -/
  | timedOut
  /-- The outbox of the connection overflowed. -/
  | overflowed
deriving DecidableEq, Repr, Inhabited

/-- What happens next while a connection is served. -/
inductive Turn where
  /-- The connection brings something. -/
  | own (inbound : Inbound)
  /-- Something goes on apart from the connection. -/
  | other (activity : Activity)

/-- Whether a turn ends the connection in any case. -/
def Turn.isEnd : Turn → Bool
  | own (.message _) => false
  | own _ => true
  | other _ => false

/-- Takes what a connection brings until it ends, amid the activity of others. -/
def readAmid (makes : Nat → Bool) (h : Hub) (client : ClientId) :
    List Turn → Hub × Except ServerError Unit
  | .own (.message bytes) :: turns =>
    match h.receive client bytes with
    | (h, .ok ()) => readAmid makes h client turns
    | (h, .error e) => (h, .error e)
  | .own (.failed reason) :: _ => (h, .error (.transport (.receiveFailed reason)))
  | .other a :: turns => readAmid makes (h.undergo makes a) client turns
  | _ => (h, .ok ())

/-- Serves a connection from its start to its end, amid the activity of others. A connection for
which no queue can be made has no outcome. -/
def serveAmid (makes : Nat → Bool) (h : Hub) (client : ClientId) (hostname suffix : String)
    (turns : List Turn) : Hub × Option (Except ServerError Unit) :=
  match h.connect makes client hostname suffix with
  | none => (h, none)
  | some greeted =>
    let (h, outcome) := greeted.readAmid makes client turns
    (h.disconnect client, some outcome)

/-! ## The course of a connection -/

/-- Turns in which all messages of a client are accepted, one after another in the order of their
arrival, with the calls that they lead to and the server that is reached. -/
inductive Accepts (makes : Nat → Bool) (client : ClientId) (hostname suffix : String) :
    Hub → List Turn → List Call → Hub → Prop
  | none {hub : Hub} : Accepts makes client hostname suffix hub [] [] hub
  | other {hub reached : Hub} {a : Activity} {turns : List Turn} {calls : List Call}
    (after : Accepts makes client hostname suffix (hub.undergo makes a) turns calls reached) :
    Accepts makes client hostname suffix hub (.other a :: turns) calls reached
  | message {hub reached : Hub} {bytes : List UInt8} {turns : List Turn} {now calls : List Call}
    (reception : hub.Reception client bytes now (.ok ()))
    (after : Accepts makes client hostname suffix (now.foldl (carry hostname suffix) hub) turns
      calls reached) :
    Accepts makes client hostname suffix hub (.own (.message bytes) :: turns) (now ++ calls) reached

/-- What ends a connection, with the calls that it still leads to and the outcome. -/
inductive Ends (client : ClientId) (hub : Hub) :
    Inbound → List Call → Except ServerError Unit → Prop
  | refused {bytes : List UInt8} {calls : List Call} {e : ServerError}
    (reception : hub.Reception client bytes calls (.error e)) :
    Ends client hub (.message bytes) calls (.error e)
  | closed : Ends client hub .closed [] (.ok ())
  | failed (reason : String) :
    Ends client hub (.failed reason) [] (.error (.transport (.receiveFailed reason)))
  | timedOut : Ends client hub .timedOut [] (.ok ())
  | overflowed : Ends client hub .overflowed [] (.ok ())

/-- What ends a connection is at most handed to a component. -/
theorem Ends.handles {last : Inbound} {calls : List Call} {outcome : Except ServerError Unit}
    (h : Ends client hub last calls outcome) :
    ∀ call ∈ calls, ∃ c frame, call = .handled c client frame := by
  cases h with
  | refused reception => exact reception.handles
  | closed => exact nofun
  | failed reason => exact nofun
  | timedOut => exact nofun
  | overflowed => exact nofun

/-- While a connection goes on, its messages are handed to components, and that is all. -/
theorem Accepts.handles {reached : Hub} {turns : List Turn} {calls : List Call}
    (accepts : Accepts makes client hostname suffix hub turns calls reached) :
    ∀ call ∈ calls, ∃ c frame, call = .handled c client frame := by
  induction accepts with
  | none => exact nofun
  | other after ih => exact ih
  | message reception after ih =>
    exact fun call hcall => (List.mem_append.1 hcall).elim (reception.handles call) (ih call)

/-- A server stays sound while it serves a connection. -/
theorem Accepts.sound {reached : Hub} {turns : List Turn} {calls : List Call}
    (accepts : Accepts makes client hostname suffix hub turns calls reached)
    (h : hub.Sound components) : reached.Sound components := by
  induction accepts with
  | none => exact h
  | other after ih => exact ih (h.undergo makes _)
  | message reception after ih => exact ih (h.foldl_carry hostname suffix _)

/-- The journal lists the calls of the messages that are accepted, and none besides. -/
theorem Accepts.callsOf {reached : Hub} {turns : List Turn} {calls : List Call}
    (accepts : Accepts makes client hostname suffix hub turns calls reached)
    (h : hub.Sound components) (others : ∀ a, .other a ∈ turns → a.client? ≠ some client) :
    reached.callsOf client = hub.callsOf client ++ calls := by
  induction accepts with
  | none => exact (List.append_nil _).symm
  | other after ih =>
    rw [ih (h.undergo makes _) fun a ha => others a (List.mem_cons_of_mem _ ha),
      h.callsOf_undergo (others _ List.mem_cons_self)]
  | message reception after ih =>
    rw [ih (h.foldl_carry hostname suffix _) fun a ha => others a (List.mem_cons_of_mem _ ha),
      callsOf_foldl_carry (client_of_handles reception.handles), List.append_assoc]

/-- Turns in which everything is accepted can follow each other. -/
theorem Accepts.append {between reached : Hub} {turns later : List Turn} {calls more : List Call}
    (accepts : Accepts makes client hostname suffix hub turns calls between)
    (after : Accepts makes client hostname suffix between later more reached) :
    Accepts makes client hostname suffix hub (turns ++ later) (calls ++ more) reached := by
  induction accepts with
  | none => exact after
  | other first ih => exact .other (ih after)
  | message reception first ih =>
    rw [List.append_assoc]
    exact .message reception (ih after)

/-- Turns in which everything is accepted leave the connection to the turns after them. -/
theorem Accepts.readAmid_append {reached : Hub} {turns : List Turn} {calls : List Call}
    (accepts : Accepts makes client hostname suffix hub turns calls reached)
    (h : hub.Sound components) (later : List Turn) :
    hub.readAmid makes client (turns ++ later) = reached.readAmid makes client later := by
  induction accepts with
  | none => rfl
  | other after ih => exact ih (h.undergo makes _)
  | message reception after ih =>
    rw [List.cons_append, readAmid, h.receive_eq reception hostname suffix]
    exact ih (h.foldl_carry hostname suffix _)

/-- The turn that ends a connection is the last that counts. -/
theorem Ends.readAmid_cons {last : Inbound} {final : List Call} {outcome : Except ServerError Unit}
    (ends : Ends client hub last final outcome) (h : hub.Sound components) (makes : Nat → Bool)
    (hostname suffix : String) (rest : List Turn) :
    hub.readAmid makes client (.own last :: rest) =
      (final.foldl (carry hostname suffix) hub, outcome) := by
  cases ends with
  | refused reception => rw [readAmid, h.receive_eq reception hostname suffix]
  | closed => rfl
  | failed reason => rfl
  | timedOut => rfl
  | overflowed => rfl

/-- Messages are accepted up to the first turn that ends the connection. -/
theorem Sound.course (h : hub.Sound components) (makes : Nat → Bool) (client : ClientId)
    (hostname suffix : String) {turns : List Turn} (ending : ∃ t ∈ turns, t.isEnd) :
    ∃ accepted last rest calls final reached outcome,
      turns = accepted ++ .own last :: rest ∧
        Accepts makes client hostname suffix hub accepted calls reached ∧
        Ends client reached last final outcome := by
  induction turns generalizing hub with
  | nil => exact absurd ending nofun
  | cons turn turns ih =>
    -- a turn that does not end the connection leaves its end to a later one
    have hlater : turn.isEnd = false → ∃ t ∈ turns, t.isEnd := by
      intro hturn
      obtain ⟨t, ht, hend⟩ := ending
      rcases List.mem_cons.1 ht with rfl | ht
      · rw [hturn] at hend
        cases hend
      · exact ⟨t, ht, hend⟩
    cases turn with
    | other a =>
      obtain ⟨accepted, last, rest, calls, final, reached, outcome, rfl, haccepts, hends⟩ :=
        ih (h.undergo makes a) (hlater rfl)
      exact ⟨.other a :: accepted, last, rest, calls, final, reached, outcome, rfl,
        .other haccepts, hends⟩
    | own inbound =>
      cases inbound with
      | message bytes =>
        obtain ⟨now, result, hreception⟩ := h.exists_reception client bytes
        -- a message that is refused ends the connection, whatever would come behind it
        cases result with
        | error e => exact ⟨[], _, turns, [], now, hub, _, rfl, .none, .refused hreception⟩
        | ok value =>
          obtain ⟨accepted, last, rest, calls, final, reached, outcome, rfl, haccepts, hends⟩ :=
            ih (h.foldl_carry hostname suffix now) (hlater rfl)
          exact ⟨.own (.message bytes) :: accepted, last, rest, now ++ calls, final, reached,
            outcome, rfl, .message hreception haccepts, hends⟩
      | closed => exact ⟨[], _, turns, [], [], hub, _, rfl, .none, .closed⟩
      | failed reason => exact ⟨[], _, turns, [], [], hub, _, rfl, .none, .failed reason⟩
      | timedOut => exact ⟨[], _, turns, [], [], hub, _, rfl, .none, .timedOut⟩
      | overflowed => exact ⟨[], _, turns, [], [], hub, _, rfl, .none, .overflowed⟩

/-- A connection that has a queue is greeted, served up to the turn that ends it, and then said
farewell. -/
theorem Sound.serveAmid_eq (h : hub.Sound components) (hmakes : makes hub.outboxes.capacity)
    {accepted : List Turn} {last : Inbound} {calls final : List Call} {reached : Hub}
    {outcome : Except ServerError Unit}
    (accepts : Accepts makes client hostname suffix
      ((greeting components client).foldl (Hub.carry hostname suffix) hub) accepted calls reached)
    (ends : Ends client reached last final outcome) (rest : List Turn) :
    hub.serveAmid makes client hostname suffix (accepted ++ .own last :: rest) =
      ((final ++ farewell components client).foldl (Hub.carry hostname suffix) reached,
        some outcome) := by
  have hgreeted := h.foldl_carry hostname suffix (greeting components client)
  have hreached : reached.Sound components := accepts.sound hgreeted
  have hended : (final.foldl (Hub.carry hostname suffix) reached).Sound components :=
    hreached.foldl_carry hostname suffix final
  rw [serveAmid, connect_of_makes hmakes, h.hosts]
  dsimp only
  rw [accepts.readAmid_append hgreeted, ends.readAmid_cons hreached makes hostname suffix]
  dsimp only
  rw [disconnect_eq _ client hostname suffix, hended.hosts, List.foldl_append]

/-- The calls about a client whose connection is served from its start to its end. -/
theorem Accepts.callsOf_served {accepted : List Turn} {last : Inbound} {calls final : List Call}
    {reached : Hub} {outcome : Except ServerError Unit}
    (accepts : Accepts makes client hostname suffix
      ((greeting components client).foldl (carry hostname suffix) hub) accepted calls reached)
    (ends : Ends client reached last final outcome) (h : hub.Sound components)
    (others : ∀ a, .other a ∈ accepted → a.client? ≠ some client) :
    ((final ++ farewell components client).foldl (carry hostname suffix) reached).callsOf client =
      hub.callsOf client ++ greeting components client ++ calls ++ final ++
        farewell components client := by
  rw [List.foldl_append, callsOf_foldl_carry client_of_mem_farewell,
    callsOf_foldl_carry (client_of_handles ends.handles),
    accepts.callsOf (h.foldl_carry hostname suffix _) others,
    callsOf_foldl_carry client_of_mem_greeting]

/-- Say that a queue can be made for `n` frames if `n` is neither zero nor more than `mostFrames`.
On a server whose settings keep the length of its queues within that, however a connection ends, and
whatever others do before it and meanwhile: every component is greeted with it once, in the order in
which the server was built; then its messages are handed on in the order of their arrival, up to the
first turn that ends it; then its outbox is unregistered and every component learns once that it is
gone. That is all that is done for the client, and nothing of it is left. With any other settings a
server can be built as well, but a connection is over there before a component hears of it. -/
theorem connection_lifecycle {makes : Nat → Bool}
    (rule : ∀ n, makes n ↔ n ≠ 0 ∧ n ≤ mostFrames) {network : Network} {config : ServerConfig}
    {parts : List Part} {built : Hub} (build : Hub.build network config parts = .ok built)
    (users : .users ∈ built.components) (channels : .channels ∈ built.components)
    (past : List Activity) (client : ClientId) (hostname suffix : String) {turns : List Turn}
    (others : ∀ a, .other a ∈ turns → a.client? ≠ some client)
    (ending : ∃ t ∈ turns, t.isEnd) :
    let hub := past.foldl (undergo makes) built
    let components := (withDefaults config parts).map Part.component
    let served := hub.serveAmid makes client hostname suffix turns
    hub.components = components ∧ (components.map ComponentId.type).Nodup ∧
    (config.outboundQueueLen ≤ mostFrames →
      (∃ accepted last rest calls final reached outcome,
        turns = accepted ++ .own last :: rest ∧
        Accepts makes client hostname suffix
          ((greeting components client).foldl (carry hostname suffix) hub) accepted calls reached ∧
        Ends client reached last final outcome ∧
        served = ((final ++ farewell components client).foldl (carry hostname suffix) reached,
          some outcome) ∧
        served.1.callsOf client = hub.callsOf client ++ greeting components client ++ calls ++
          final ++ farewell components client) ∧
      served.1.Forgets client) ∧
    (mostFrames < config.outboundQueueLen → served = (hub, none)) := by
  intro hub components served
  obtain ⟨hbuilt, hnodup⟩ := sound_build build
  have hsound : hub.Sound components := hbuilt.foldl_undergo makes past
  have hqueues : Queues makes config.queueCapacity hub.outboxes :=
    (queues_build build).foldl_undergo past
  have hmakes : makes hub.outboxes.capacity ↔ config.outboundQueueLen ≤ mostFrames := by
    rw [hqueues.capacity]
    exact makes_queueCapacity_iff rule config
  rw [hbuilt.hosts] at users channels
  refine ⟨hsound.hosts, hnodup, fun hlen => ?_, fun hlen => ?_⟩
  · have hgreeted := hsound.foldl_carry hostname suffix (greeting components client)
    obtain ⟨accepted, last, rest, calls, final, reached, outcome, rfl, haccepts, hends⟩ :=
      hgreeted.course makes client hostname suffix ending
    have hserved : served = ((final ++ farewell components client).foldl (carry hostname suffix)
        reached, some outcome) := hsound.serveAmid_eq (hmakes.2 hlen) haccepts hends rest
    have hended : (final.foldl (carry hostname suffix) reached).Sound components :=
      (haccepts.sound hgreeted).foldl_carry hostname suffix final
    refine ⟨⟨accepted, last, rest, calls, final, reached, outcome, rfl, haccepts, hends, hserved,
      ?_⟩, ?_⟩
    · rw [hserved]
      exact haccepts.callsOf_served hends hsound
        fun a ha => others a (List.mem_append_left _ ha)
    · -- whatever ended the connection, the farewell is said to the components it was greeted by
      rw [hserved, List.foldl_append]
      exact hended.forgets users channels
  · have hnone : ¬ makes hub.outboxes.capacity := fun htrue => absurd (hmakes.1 htrue) (by omega)
    show hub.serveAmid makes client hostname suffix turns = (hub, none)
    rw [serveAmid, connect_eq, if_neg hnone]

set_option maxRecDepth 100000 in
/-- A client that sends half a frame is given up after that; what it sent behind is not read. -/
theorem connection_lifecycle_with_short_frame :
    let ann : ClientId := ⟨1⟩
    let bob : ClientId := ⟨2⟩
    let config : ServerConfig := { bind := "localhost:80" }
    let claim : Frame := ⟨.user, Coded.code UserMessage.identify,
      Payload.ofValues [⟨.string, "Ann"⟩, ⟨.string, "secret"⟩]⟩
    let join : Frame := ⟨.channel, Coded.code ChannelMessage.join,
      Payload.ofValues [⟨.string, "#"⟩]⟩
    let turns := [.own (.message claim.encode), .other (.connect bob "host" "b"),
      .own (.message join.encode), .own (.message [2, 0]), .own (.message join.encode),
      .own .closed]
    let served := (localHub config).serveAmid Outboxes.canMake ann "host" "a" turns
    Hub.build .up config [] = .ok (localHub config) ∧
      served.2 = some (.error (.protocol (.frameTooShort 2))) ∧
      served.1.callsOf ann =
        [.registered ann, .connected .users ann, .connected .channels ann,
          .handled .users ann claim, .handled .channels ann join,
          .unregistered ann, .disconnected .users ann, .disconnected .channels ann] ∧
      served.1.Forgets ann := by
  intro ann bob config claim join turns served
  have hbuild : Hub.build .up config [] = .ok (localHub config) := build_local rfl
  have hothers : ∀ a, .other a ∈ turns → a.client? ≠ some ann := by
    intro a ha
    obtain rfl : a = .connect bob "host" "b" := by simpa [turns] using ha
    decide
  have hlifecycle := connection_lifecycle Outboxes.canMake_iff hbuild (by decide) (by decide) [] ann
    "host" "a" hothers ⟨.own .closed, by simp [turns], rfl⟩
  exact ⟨hbuild, by decide +kernel, by decide +kernel, (hlifecycle.2.2.1 (by decide)).2⟩

/-- A server is built with settings that are accepted, but no component of it is told of a client
that connects and closes its connection. -/
theorem connection_without_greeting :
    let serve (hub : Hub) := hub.serveAmid Outboxes.canMake ⟨1⟩ "host" "a" [.own .closed]
    ∃ config,
      ServerConfig.ofToml
        "bind = \"localhost:80\"\noutbound_queue_len = 2305843009213693952" = .ok config ∧
      build .up config [] = .ok (localHub config) ∧
      (serve (localHub config)).2 = none ∧ (serve (localHub config)).1.journal = [] := by
  intro serve
  let config : ServerConfig :=
    { bind := "localhost:80", outboundQueueLen := 2305843009213693952 }
  have hconnect : (localHub config).connect Outboxes.canMake ⟨1⟩ "host" "a" = none :=
    if_neg (by decide)
  have hserve : serve (localHub config) = (localHub config, none) := by
    show (localHub config).serveAmid _ _ _ _ _ = _
    rw [serveAmid, hconnect]
  refine ⟨config, ofToml_beyond_mostFrames, build_local rfl, ?_, ?_⟩ <;> rw [hserve]
  rfl

end Hub

end Live

end ChatServer
