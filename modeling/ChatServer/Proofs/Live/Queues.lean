import ChatServer.Proofs.Config
import ChatServer.Proofs.Live.Hub
import ChatServer.Proofs.Live.Outboxes

/-!
# Which clients get a queue

The queue of a connection is made when the connection is registered. Neither an empty queue can be
made nor one for more frames than memory could ever hold. The settings keep the length of the queues
away from zero, but not from the other end, and on a server with settings beyond it no connection is
ever registered.
-/

namespace ChatServer

namespace Live

namespace Outboxes

variable {o o' o'' : Outboxes}

/-- A queue can be made for a number of frames within the limits. -/
theorem canMake_iff (n : Nat) : canMake n ↔ n ≠ 0 ∧ n ≤ mostFrames := by
  simp [canMake]

/-- Nothing but sending leads from some outboxes to others. -/
def SendsTo (o o' : Outboxes) : Prop :=
  ∃ sent : List (ClientId × Frame), o' = o.run (sent.map fun s => .send s.1 s.2)

/-- Nothing need be sent. -/
theorem SendsTo.refl (o : Outboxes) : o.SendsTo o := ⟨[], rfl⟩

theorem SendsTo.trans (h : o.SendsTo o') (h' : o'.SendsTo o'') : o.SendsTo o'' := by
  obtain ⟨sent, rfl⟩ := h
  obtain ⟨more, rfl⟩ := h'
  refine ⟨sent ++ more, ?_⟩
  rw [List.map_append]
  exact List.foldl_append.symm

theorem SendsTo.capacity (h : o.SendsTo o') : o'.capacity = o.capacity := by
  obtain ⟨sent, rfl⟩ := h
  exact capacity_run _ _

theorem SendsTo.sound (h : o.SendsTo o') (sound : o.Sound) : o'.Sound := by
  obtain ⟨sent, rfl⟩ := h
  exact sound.run _

/-- Sending registers nobody. -/
theorem SendsTo.current (h : o.SendsTo o') (client : ClientId) :
    o'.current.get? client = o.current.get? client := by
  obtain ⟨sent, rfl⟩ := h
  refine current_run_of_lasts fun op hop => ?_
  obtain ⟨s, -, rfl⟩ := List.mem_map.1 hop
  rfl

end Outboxes

namespace Hub

open Outboxes

/-! ## What is done with the outboxes -/

/-- All that a step does to the outboxes is to queue what the components send. -/
theorem sendsTo_act (h : Hub) (st : Step) : h.outboxes.SendsTo (h.act st).1.outboxes := by
  refine ⟨(h.world.step h.rules st).1.takeRecord.1.map
    fun m => (m.2.client, m.2.message.frame), ?_⟩
  rw [List.map_map, run, List.foldl_map]
  rfl

/-- The components act one after another, each after something that leaves the outboxes alone. -/
theorem sendsTo_foldl_act (h : Hub) (cs : List ComponentId) (prepare : Hub → ComponentId → Hub)
    (st : ComponentId → Step) (same : ∀ h c, (prepare h c).outboxes = h.outboxes) :
    h.outboxes.SendsTo (cs.foldl (fun h c => ((prepare h c).act (st c)).1) h).outboxes := by
  induction cs generalizing h with
  | nil => exact .refl _
  | cons c cs ih =>
    have hact := (prepare h c).sendsTo_act (st c)
    rw [same] at hact
    exact hact.trans (ih _)

/-- A client that is greeted is registered first; then the components may send something. -/
theorem sendsTo_greeting (h : Hub) (client : ClientId) (hostname suffix : String) :
    (h.outboxes.register client).SendsTo
      ((greeting h.components client).foldl (carry hostname suffix) h).outboxes := by
  rw [greeting, List.foldl_cons, List.foldl_map]
  exact sendsTo_foldl_act _ _ (fun h c => h.note (.connected c client)) _ fun _ _ => rfl

/-- A client that leaves is unregistered first; then the components may send something. -/
theorem sendsTo_disconnect (h : Hub) (client : ClientId) :
    (h.outboxes.unregister client).SendsTo (h.disconnect client).outboxes :=
  sendsTo_foldl_act _ _ (fun h c => h.note (.disconnected c client)) _ fun _ _ => rfl

/-- A message that is received comes to nothing but frames for outboxes. -/
theorem sendsTo_receive (h : Hub) (client : ClientId) (bytes : List UInt8) :
    h.outboxes.SendsTo (h.receive client bytes).1.outboxes := by
  unfold receive
  split
  · exact .refl _
  · next frame _ =>
    split
    · exact .refl _
    · next c _ =>
      have hact := (h.note (.handled c client frame)).sendsTo_act
        (.message c client frame.message frame.payload)
      split
      · next heq => exact congrArg Prod.fst heq ▸ hact
      · next heq => exact congrArg Prod.fst heq ▸ hact

theorem sendsTo_stop (h : Hub) : h.outboxes.SendsTo h.stop.outboxes :=
  (h.sendsTo_foldl_act _ (fun h _ => h) _ fun _ _ => rfl).trans
    (sendsTo_foldl_act _ _ (fun h _ => h) _ fun _ _ => rfl)

variable {makes : Nat → Bool}

/-- What is done about other clients leaves the registration of a client as it is. -/
theorem current_undergo {client : ClientId} {a : Activity} (h : Hub)
    (others : a.client? ≠ some client) :
    (h.undergo makes a).outboxes.current.get? client = h.outboxes.current.get? client := by
  -- only to register or to unregister `client` changes its entry, and both are about it
  cases a with
  | connect other hostname suffix =>
    have hne : client ≠ other := fun heq => others (congrArg some heq.symm)
    rw [undergo_connect]
    split
    · refine ((h.sendsTo_greeting other hostname suffix).current client).trans ?_
      exact (Table.get?_insert ..).trans (if_neg hne)
    · rfl
  | receive other bytes => exact (h.sendsTo_receive other bytes).current client
  | disconnect other =>
    have hne : client ≠ other := fun heq => others (congrArg some heq.symm)
    refine ((h.sendsTo_disconnect other).current client).trans ?_
    exact (Table.get?_erase ..).trans (if_neg hne)
  | drain n => exact current_after_of_ends_eq_false (rfl : (Operation.drain n).ends client = false)
  | close n => exact current_after_of_ends_eq_false (rfl : (Operation.close n).ends client = false)
  | stop => exact h.sendsTo_stop.current client

/-! ## Connections that get a queue -/

/-- Every registered client has an outbox of its own, the outboxes have room for `n` frames, and no
client is registered if no queue for so many can be made. -/
structure Queues (makes : Nat → Bool) (n : Nat) (o : Outboxes) : Prop where
  sound : o.Sound
  capacity : o.capacity = n
  unserved : makes n = false → ∀ client, o.current.get? client = none

variable {o o' : Outboxes} {n : Nat}

theorem queues_initial (makes : Nat → Bool) (n : Nat) : Queues makes n (.initial n) where
  sound := sound_initial n
  capacity := rfl
  unserved _ _ := rfl

/-- An operation keeps this so, unless it registers a client without a queue. -/
theorem Queues.after (h : Queues makes n o) (op : Operation)
    (allowed : makes n ∨ ∀ c, op ≠ .register c) : Queues makes n (o.after op) where
  sound := h.sound.after op
  capacity := (capacity_after o op).trans h.capacity
  unserved := by
    -- no queue can be made here, so the operation is not a registration
    intro hmakes client
    have hop : ∀ c, op ≠ .register c :=
      allowed.resolve_left fun htrue => Bool.false_ne_true (hmakes.symm.trans htrue)
    have hnone := h.unserved hmakes client
    cases op with
    | register c => exact absurd rfl (hop c)
    | unregister c =>
      refine (Table.get?_erase ..).trans ?_
      split
      · rfl
      · exact hnone
    | _ => exact (current_after_of_ends_eq_false rfl).trans hnone

theorem Queues.sendsTo (h : Queues makes n o) (sends : o.SendsTo o') : Queues makes n o' where
  sound := sends.sound h.sound
  capacity := sends.capacity.trans h.capacity
  unserved hmakes client := (sends.current client).trans (h.unserved hmakes client)

/-- Whatever goes on, no client is registered without a queue. -/
theorem Queues.undergo {hub : Hub} (h : Queues makes n hub.outboxes) (a : Activity) :
    Queues makes n (hub.undergo makes a).outboxes := by
  cases a with
  | connect client hostname suffix =>
    rw [undergo_connect, h.capacity]
    split
    · next hmakes =>
      have hregistered := h.after (.register client) (.inl hmakes)
      exact hregistered.sendsTo (hub.sendsTo_greeting client hostname suffix)
    · exact h
  | receive client bytes => exact h.sendsTo (hub.sendsTo_receive client bytes)
  | disconnect client =>
    have hunregistered := h.after (.unregister client) (.inr nofun)
    exact hunregistered.sendsTo (hub.sendsTo_disconnect client)
  | drain m => exact h.after (.drain m) (.inr nofun)
  | close m => exact h.after (.close m) (.inr nofun)
  | stop => exact h.sendsTo hub.sendsTo_stop

/-- Whatever goes on, nobody is registered without a queue. -/
theorem Queues.foldl_undergo {hub : Hub} (h : Queues makes n hub.outboxes)
    (activity : List Activity) :
    Queues makes n (activity.foldl (Hub.undergo makes) hub).outboxes := by
  induction activity generalizing hub with
  | nil => exact h
  | cons a activity ih => exact ih (h.undergo a)

/-- A server that is built has nobody registered, and the outboxes of its configuration. -/
theorem queues_build {network : Network} {config : ServerConfig} {parts : List Part} {built : Hub}
    (h : build network config parts = .ok built) :
    Queues makes config.queueCapacity built.outboxes :=
  (fresh_build h).1 ▸ queues_initial makes _

/-- Where a queue can be made, the server works as if one could be made for any length. -/
theorem Queues.foldl_undergo_eq {hub : Hub} (h : Queues makes n hub.outboxes) (hmakes : makes n)
    (activity : List Activity) :
    activity.foldl (Hub.undergo makes) hub = activity.foldl (Hub.undergo fun _ => true) hub := by
  induction activity generalizing hub with
  | nil => rfl
  | cons a activity ih =>
    have hsame : hub.undergo makes a = hub.undergo (fun _ => true) a := by
      cases a with
      | connect client hostname suffix =>
        rw [undergo_connect, undergo_connect, h.capacity, if_pos hmakes]
        rfl
      | _ => rfl
    have hnext := ih (h.undergo a)
    rw [hsame] at hnext
    rw [List.foldl_cons, List.foldl_cons, hsame, hnext]

/-- For the queues of a server, what can be made depends on the settings from above only. -/
theorem makes_queueCapacity_iff (rule : ∀ n, makes n ↔ n ≠ 0 ∧ n ≤ mostFrames)
    (config : ServerConfig) :
    makes config.queueCapacity ↔ config.outboundQueueLen ≤ mostFrames := by
  have hcapacity : config.queueCapacity = max config.outboundQueueLen 1 := rfl
  have hmost : 1 ≤ mostFrames := by decide
  rw [rule, hcapacity]
  omega

/-- Say that a queue can be made for `n` frames if `n` is neither zero nor more than `mostFrames`.
The length of the queues in settings that are read from a text can be any number that fits into 64
bits with a sign, and where it is used it is not zero. If it is at most `mostFrames`, a queue is
made for every connection, whatever went on before: its client is registered with a new outbox of
this length, and all components are told. If it is more, the settings are accepted all the same, but
on a server with them no connection ever gets that far and no client is ever registered. -/
theorem connections_get_queues_iff {makes : Nat → Bool}
    (rule : ∀ n, makes n ↔ n ≠ 0 ∧ n ≤ mostFrames) :
    (∀ (text : String) (config : ServerConfig), ServerConfig.ofToml text = .ok config →
      config.outboundQueueLen < Toml.integerBound ∧
      config.queueCapacity = max config.outboundQueueLen 1 ∧
      (makes config.queueCapacity ↔ config.outboundQueueLen ≤ mostFrames) ∧
      ∀ (network : Network) (parts : List Part) (built : Hub) (activity : List Activity),
        build network config parts = .ok built →
        let hub := activity.foldl (undergo makes) built
        ∀ (client : ClientId) (hostname suffix : String),
          let after := (greeting hub.components client).foldl (carry hostname suffix) hub
          (config.outboundQueueLen ≤ mostFrames →
            hub = activity.foldl (undergo fun _ => true) built ∧
            hub.connect makes client hostname suffix = some after ∧
            after.outboxes.capacity = config.queueCapacity ∧
            after.outboxes.current.get? client = some hub.outboxes.boxes.length ∧
            ∃ box, after.outboxes.boxes[hub.outboxes.boxes.length]? = some box ∧
              box.client = client) ∧
          (mostFrames < config.outboundQueueLen →
            hub.connect makes client hostname suffix = none ∧
            hub.outboxes.current.get? client = none)) ∧
    ∀ n < Toml.integerBound,
      ∃ text config, ServerConfig.ofToml text = .ok config ∧ config.outboundQueueLen = n := by
  refine ⟨fun text config hread => ?_, fun n hn => ?_⟩
  · have hmakes := makes_queueCapacity_iff rule config
    refine ⟨(ServerConfig.fits_ofToml hread).queue, rfl, hmakes, ?_⟩
    intro network parts built activity hbuild hub client hostname suffix after
    have hbuilt : Queues makes config.queueCapacity built.outboxes := queues_build hbuild
    have hqueues : Queues makes config.queueCapacity hub.outboxes := hbuilt.foldl_undergo activity
    rw [connect_eq, hqueues.capacity]
    refine ⟨fun hlen => ?_, fun hlen => ?_⟩
    -- the client is registered first, and what the components then send leaves it so
    · have hmade := hmakes.2 hlen
      have hsends := hub.sendsTo_greeting client hostname suffix
      have hafter : Queues makes config.queueCapacity after.outboxes :=
        (hqueues.after (.register client) (.inl hmade)).sendsTo hsends
      have hcurrent : after.outboxes.current.get? client = some hub.outboxes.boxes.length :=
        (hsends.current client).trans ((Table.get?_insert ..).trans (if_pos rfl))
      exact ⟨hbuilt.foldl_undergo_eq hmade activity, if_pos hmade, hafter.capacity, hcurrent,
        hafter.sound.owned client _ hcurrent⟩
    · have hrefuses : makes config.queueCapacity = false :=
        Bool.eq_false_iff.2 fun htrue => absurd (hmakes.1 htrue) (by omega)
      exact ⟨if_neg (Bool.eq_false_iff.1 hrefuses), hqueues.unserved hrefuses client⟩
  · exact ⟨_, _, ServerConfig.ofToml_queueText hn, rfl⟩

/-- The server that is built at the local host from the standard parts. -/
def localHub (config : ServerConfig) : Hub :=
  { config, rules := rulesOf (withDefaults config []), components := [.users, .channels]
    world := (((worldOf (withDefaults config [])).attach .users 0).1.attach .channels 0).1
    outboxes := .initial config.queueCapacity, journal := [] }

/-- At the local host the standard parts can be built with any settings. -/
theorem build_local {config : ServerConfig} (h : config.bind = "localhost:80") :
    build .up config [] = .ok (localHub config) := by
  have hsplit : splitAtLastColon? "localhost:80".toList =
      some ("localhost".toList, ['8', '0']) := by decide +kernel
  have hlocal : isLocalHost "localhost" := by decide +kernel
  have hfound : lookUp .up "localhost" = .ok () := by
    rw [lookUp, if_neg (by decide +kernel), if_pos (by rw [hlocal, Bool.or_true])]
  have haddress : checkAddress .up config.bind = .ok () := by
    rw [checkAddress, h, hsplit]
    dsimp only
    rw [if_neg (by decide +kernel), if_neg (by decide +kernel), String.ofList_toList, hfound]
    rfl
  unfold build
  rw [haddress]
  rfl

/-- With settings of zero frames a client still gets a queue, which is for one frame. -/
theorem connection_gets_queue_of_one_frame :
    let makes := fun n => decide (n ≠ 0 ∧ n ≤ mostFrames)
    let ann : ClientId := ⟨1⟩
    (∀ n, makes n ↔ n ≠ 0 ∧ n ≤ mostFrames) ∧
    ∃ config after,
      ServerConfig.ofToml "bind = \"localhost:80\"\noutbound_queue_len = 0" = .ok config ∧
      build .up config [] = .ok (localHub config) ∧
      (localHub config).connect makes ann "host" "a" = some after ∧
      after.outboxes.capacity = 1 ∧ after.outboxes.current.get? ann = some 0 := by
  intro makes ann
  let config : ServerConfig := { bind := "localhost:80", outboundQueueLen := 0 }
  have hrule : ∀ n, makes n ↔ n ≠ 0 ∧ n ≤ mostFrames := fun n => decide_eq_true_iff
  have hread : ServerConfig.ofToml "bind = \"localhost:80\"\noutbound_queue_len = 0" = .ok config :=
    by decide +kernel
  have hbuild : build .up config [] = .ok (localHub config) := build_local rfl
  obtain ⟨-, -, -, hserves⟩ := (connections_get_queues_iff hrule).1 _ config hread
  obtain ⟨-, hconnects, hcapacity, hcurrent, -⟩ :=
    (hserves .up [] _ [] hbuild ann "host" "a").1 (Nat.zero_le _)
  exact ⟨hrule, config, _, hread, hbuild, hconnects, hcapacity, hcurrent⟩

/-- Settings are accepted although no queue can be made with them. -/
theorem ofToml_beyond_mostFrames :
    ServerConfig.ofToml "bind = \"localhost:80\"\noutbound_queue_len = 2305843009213693952" =
      .ok { bind := "localhost:80", outboundQueueLen := 2305843009213693952 } := by
  decide +kernel

/-- Settings are accepted and a server is built with them, but a client gets no queue there. -/
theorem no_queues_for_accepted_settings :
    let makes := fun n => decide (n ≠ 0 ∧ n ≤ mostFrames)
    ∃ config,
      ServerConfig.ofToml
        "bind = \"localhost:80\"\noutbound_queue_len = 2305843009213693952" = .ok config ∧
      makes config.queueCapacity = false ∧
      build .up config [] = .ok (localHub config) ∧
      (localHub config).connect makes ⟨1⟩ "host" "a" = none := by
  intro makes
  exact ⟨_, ofToml_beyond_mostFrames, by decide, build_local rfl, if_neg (by decide)⟩

end Hub

end Live

end ChatServer
