import ChatServer.Proofs.Live.Moves

/-!
# Runs of the machine

Every connection of every run is served from its start to its end as `Hub.serveAmid` serves it, amid
the other ones. `Orderly` is what holds of the server and the open connections at any time; every
move keeps it, and so it holds after every run.
-/

namespace ChatServer

namespace Live

open Hub Outboxes

namespace Machine

variable {label : Label}

/-! ## What becomes of a connection -/

variable {built hub after : Hub} {components : List ComponentId} {client : ClientId} {outbox : Nat}
  {v v' : View} {a : Activity} {activity : List Activity}

/-- The connection of a client is open. The client was unknown before it, it was greeted, all that
it sent since was accepted, amid the activity of others, and it is registered with its outbox. -/
def IsServed (built hub : Hub) (client : ClientId) (outbox : Nat) : Prop :=
  hub.outboxes.current.get? client = some outbox ∧
  ∃ (past : List Activity) (suffix : String) (turns : List Turn) (calls : List Call),
    let before := past.foldl (undergo canMake) built
    before.callsOf client = [] ∧ canMake before.outboxes.capacity ∧
    (∀ a, .other a ∈ turns → a.client? ≠ some client) ∧
    Accepts canMake client loopback suffix
      ((greeting built.components client).foldl (carry loopback suffix) before) turns calls hub

/-- A client had a connection. It was unknown before it, the connection was served from its start to
its end, amid the activity of others, and then nothing more was done about the client. -/
def WasServed (built hub : Hub) (client : ClientId) : Prop :=
  ∃ (past : List Activity) (suffix : String) (accepted : List Turn) (last : Inbound)
    (calls final : List Call) (reached : Hub) (outcome : Except ServerError Unit)
    (later : List Activity),
    let before := past.foldl (undergo canMake) built
    before.callsOf client = [] ∧ canMake before.outboxes.capacity ∧
    (∀ a, .other a ∈ accepted → a.client? ≠ some client) ∧
    Accepts canMake client loopback suffix
      ((greeting built.components client).foldl (carry loopback suffix) before) accepted calls
      reached ∧
    Ends client reached last final outcome ∧
    (∀ a ∈ later, a.client? ≠ some client) ∧
    hub = later.foldl (undergo canMake)
      ((final ++ farewell built.components client).foldl (carry loopback suffix) reached)

/-- A client that is greeted is served from then on. -/
theorem isServed_of_connect (sound : hub.Sound components) (hosts : built.components = components)
    (reached : hub = activity.foldl (Hub.undergo canMake) built) {suffix : String}
    (connect : hub.connect canMake client loopback suffix = some after)
    (unknown : hub.callsOf client = []) :
    IsServed built after client hub.outboxes.boxes.length := by
  rw [connect_eq] at connect
  split at connect
  · next hmakes =>
    cases connect
    have hcurrent := (hub.sendsTo_greeting client loopback suffix).current client
    refine ⟨hcurrent.trans ((Table.get?_insert ..).trans (if_pos rfl)), activity, suffix, [], [],
      ?_⟩
    rw [hosts, ← sound.hosts, ← reached]
    exact ⟨unknown, hmakes, nofun, .none⟩
  · cases connect

/-- A client is still served when something is done about another one. -/
theorem IsServed.undergo (h : IsServed built hub client outbox) (others : a.client? ≠ some client) :
    IsServed built (hub.undergo canMake a) client outbox := by
  obtain ⟨hcurrent, past, suffix, turns, calls, hunknown, hmakes, hothers, haccepts⟩ := h
  refine ⟨(current_undergo hub others).trans hcurrent, past, suffix, turns ++ [.other a],
    calls ++ [], hunknown, hmakes, fun b hb => ?_, haccepts.append (.other .none)⟩
  rcases List.mem_append.1 hb with hb | hb
  · exact hothers b hb
  · cases List.mem_singleton.1 hb
    exact others

theorem IsServed.foldl_undergo (h : IsServed built hub client outbox)
    (others : ∀ a ∈ activity, a.client? ≠ some client) :
    IsServed built (activity.foldl (Hub.undergo canMake) hub) client outbox := by
  induction activity generalizing hub with
  | nil => exact h
  | cons a activity ih =>
    exact ih (h.undergo (others a List.mem_cons_self))
      fun b hb => others b (List.mem_cons_of_mem _ hb)

/-- A message that is accepted leaves the connection open. -/
theorem IsServed.receive (h : IsServed built hub client outbox) (sound : hub.Sound components)
    {bytes : List UInt8} (receive : hub.receive client bytes = (after, .ok ())) :
    IsServed built after client outbox := by
  obtain ⟨hcurrent, past, suffix, turns, calls, hunknown, hmakes, hothers, haccepts⟩ := h
  obtain ⟨now, outcome, hreception⟩ := sound.exists_reception client bytes
  have hreceive := sound.receive_eq hreception loopback suffix
  rw [receive] at hreceive
  cases hreceive
  refine ⟨?_, past, suffix, turns ++ [.own (.message bytes)], calls ++ (now ++ []), hunknown,
    hmakes, fun b hb => ?_, haccepts.append (.message hreception .none)⟩
  · have hsends := hub.sendsTo_receive client bytes
    rw [receive] at hsends
    exact (hsends.current client).trans hcurrent
  · rcases List.mem_append.1 hb with hb | hb
    · exact hothers b hb
    · cases List.mem_singleton.1 hb

/-- A connection that ends was served from its start to its end. -/
theorem IsServed.wasServed (h : IsServed built hub client outbox) (sound : hub.Sound components)
    (hosts : built.components = components) {last : Inbound} {final : List Call}
    {outcome : Except ServerError Unit} (ends : Ends client hub last final outcome)
    (read : hub.readAmid canMake client [.own last] = (after, outcome)) :
    WasServed built (after.disconnect client) client := by
  obtain ⟨-, past, suffix, turns, calls, hunknown, hmakes, hothers, haccepts⟩ := h
  have hread := ends.readAmid_cons sound canMake loopback suffix []
  rw [read] at hread
  cases hread
  have hended := sound.foldl_carry loopback suffix final
  refine ⟨past, suffix, turns, last, calls, final, hub, outcome, [], hunknown, hmakes, hothers,
    haccepts, ends, nofun, ?_⟩
  rw [disconnect_eq _ client loopback suffix, hended.hosts, hosts, List.foldl_append]
  rfl

/-- What was done for a client is not changed by what is done about others. -/
theorem WasServed.undergo (h : WasServed built hub client) (others : a.client? ≠ some client) :
    WasServed built (hub.undergo canMake a) client := by
  obtain ⟨past, suffix, accepted, last, calls, final, reached, outcome, later, hunknown, hmakes,
    hothers, haccepts, hends, hlater, rfl⟩ := h
  refine ⟨past, suffix, accepted, last, calls, final, reached, outcome, later ++ [a], hunknown,
    hmakes, hothers, haccepts, hends, fun b hb => ?_, (List.foldl_concat ..).symm⟩
  rcases List.mem_append.1 hb with hb | hb
  · exact hlater b hb
  · rw [List.mem_singleton.1 hb]
    exact others

/-- What has become of a client that connected and has no open connection: it was served, or no
queue could be made for it, and then nothing was done about it. -/
def IsOver (built hub : Hub) (client : ClientId) : Prop :=
  WasServed built hub client ∨ canMake built.outboxes.capacity = false ∧ hub.callsOf client = []

/-- What has become of a connection is not changed by what is done about others. -/
theorem IsOver.undergo (h : IsOver built hub client) (sound : hub.Sound components)
    (others : a.client? ≠ some client) : IsOver built (hub.undergo canMake a) client :=
  h.imp (fun hserved => hserved.undergo others)
    fun haway => ⟨haway.1, (sound.callsOf_undergo others).trans haway.2⟩

theorem IsOver.foldl_undergo (h : IsOver built hub client) (sound : hub.Sound components)
    (others : ∀ a ∈ activity, a.client? ≠ some client) :
    IsOver built (activity.foldl (Hub.undergo canMake) hub) client := by
  induction activity generalizing hub with
  | nil => exact h
  | cons a activity ih =>
    exact ih (h.undergo sound (others a List.mem_cons_self)) (sound.undergo canMake a)
      fun b hb => others b (List.mem_cons_of_mem _ hb)

/-- Activity about others makes no calls for a client. -/
theorem callsOf_foldl_undergo (sound : hub.Sound components)
    (others : ∀ a ∈ activity, a.client? ≠ some client) :
    (activity.foldl (Hub.undergo canMake) hub).callsOf client = hub.callsOf client := by
  induction activity generalizing hub with
  | nil => rfl
  | cons a activity ih =>
    have hlater := ih (sound.undergo canMake a) fun b hb => others b (List.mem_cons_of_mem _ hb)
    exact hlater.trans (sound.callsOf_undergo (others a List.mem_cons_self))

/-! ## What holds after every move -/

variable {serving : Label → Option (ClientId × Nat)} {next : Nat}

/-- What holds of the server, the open connections and the number of the next client at any time. -/
structure Orderly (built hub : Hub) (serving : Label → Option (ClientId × Nat)) (next : Nat) :
    Prop where
  /-- The server underwent nothing but activity since it was built. -/
  reached : ∃ activity : List Activity, hub = activity.foldl (Hub.undergo canMake) built
  positive : 0 < next
  /-- Clients with a connection have numbers that are given out. -/
  known : ∀ l client n, serving l = some (client, n) →
    ∃ k, 0 < k ∧ k < next ∧ client = numbered k
  /-- No two connections are of one client. -/
  distinct : ∀ l l' client n n', serving l = some (client, n) → serving l' = some (client, n') →
    l = l'
  served : ∀ l client n, serving l = some (client, n) → IsServed built hub client n
  ended : ∀ k, 0 < k → k < next → (∀ l n, serving l ≠ some (numbered k, n)) →
    IsOver built hub (numbered k)
  /-- Nothing was done about clients whose numbers are not given out. -/
  unheard : ∀ k, next ≤ k → k < 2 ^ 64 → hub.callsOf (numbered k) = []

/-- A server is sound at any time. -/
theorem Orderly.sound (h : Orderly built hub serving next) (hbuilt : built.Sound components) :
    hub.Sound components := by
  obtain ⟨past, rfl⟩ := h.reached
  exact hbuilt.foldl_undergo canMake past

/-- A client whose number is not given out has no connection. -/
theorem Orderly.ne_of_serving (h : Orderly built hub serving next) {k : Nat} (hk : next ≤ k)
    (room : k < 2 ^ 64) (hl : serving label = some (client, outbox)) : numbered k ≠ client := by
  obtain ⟨j, -, hj, rfl⟩ := h.known label client outbox hl
  intro heq
  have hkj : k = j := numbered_injective room (by omega) heq
  omega

/-- A server that was just built has no connections, and its clients are numbered from one. -/
theorem orderly_start (fresh : built.journal = []) :
    Orderly built built (fun _ => none) 1 where
  reached := ⟨[], rfl⟩
  positive := Nat.one_pos
  known _ _ _ h := by cases h
  distinct _ _ _ _ _ h := by cases h
  served _ _ _ h := by cases h
  ended k hpos hk := by omega
  unheard k _ _ := by
    rw [callsOf, fresh]
    rfl

/-- Activity about clients with open connections that leaves the connections open. -/
theorem Orderly.stay (h : Orderly built hub serving next) (hbuilt : built.Sound components)
    (about : ∀ client, a.client? = some client → ∃ l n, serving l = some (client, n))
    (own : ∀ client n, a.client? = some client → IsServed built hub client n →
      IsServed built (hub.undergo canMake a) client n) :
    Orderly built (hub.undergo canMake a) serving next := by
  have hsound := h.sound hbuilt
  obtain ⟨past, hpast⟩ := h.reached
  refine ⟨⟨past ++ [a], ?_⟩, h.positive, h.known, h.distinct, fun l client n hl => ?_,
    fun k hpos hk hnone => ?_, fun k hk hlt => ?_⟩
  · rw [hpast]
    exact (List.foldl_concat ..).symm
  · by_cases ha : a.client? = some client
    · exact own client n ha (h.served l client n hl)
    · exact (h.served l client n hl).undergo ha
  -- what is not about a connection leaves what has been said of it as it is
  · refine (h.ended k hpos hk hnone).undergo hsound fun ha => ?_
    obtain ⟨l, n, hl⟩ := about _ ha
    exact hnone l n hl
  · refine (hsound.callsOf_undergo fun ha => ?_).trans (h.unheard k hk hlt)
    obtain ⟨l, n, hl⟩ := about _ ha
    exact h.ne_of_serving hk hlt hl rfl

/-- Activity about one client that ends its connection. -/
theorem Orderly.leave (h : Orderly built hub serving next) (hbuilt : built.Sound components)
    (hl : serving label = some (client, outbox)) (activity : List Activity)
    (about : ∀ a ∈ activity, a.client? = some client)
    (served : WasServed built (activity.foldl (Hub.undergo canMake) hub) client) :
    Orderly built (activity.foldl (Hub.undergo canMake) hub)
      (Function.update serving label none) next := by
  have hsound := h.sound hbuilt
  obtain ⟨past, hpast⟩ := h.reached
  have hothers : ∀ c, c ≠ client → ∀ a ∈ activity, a.client? ≠ some c :=
    fun c hc a ha heq => hc (Option.some.inj (heq.symm.trans (about a ha)))
  -- a connection that is still open was open before, and it is another one
  have hopen : ∀ l c n, Function.update serving label none l = some (c, n) →
      serving l = some (c, n) ∧ c ≠ client := by
    intro l c n hl'
    rw [Function.update_apply] at hl'
    split at hl'
    · cases hl'
    · next hne =>
      refine ⟨hl', fun heq => hne ?_⟩
      exact h.distinct l label client n outbox (heq ▸ hl') hl
  refine ⟨⟨past ++ activity, ?_⟩, h.positive, fun l c n hl => h.known l c n (hopen l c n hl).1,
    fun l l' c n n' hl hl' => h.distinct l l' c n n' (hopen l c n hl).1 (hopen l' c n' hl').1,
    fun l c n hl => ?_, fun k hpos hk hnone => ?_, fun k hk hlt => ?_⟩
  · rw [List.foldl_append, ← hpast]
  · obtain ⟨hserving, hne⟩ := hopen l c n hl
    exact (h.served l c n hserving).foldl_undergo (hothers c hne)
  · by_cases heq : numbered k = client
    · exact .inl (heq ▸ served)
    · refine IsOver.foldl_undergo (h.ended k hpos hk fun l n hl' => ?_) hsound (hothers _ heq)
      have hne : l ≠ label := by
        rintro rfl
        exact heq (congrArg Prod.fst (Option.some.inj (hl'.symm.trans hl)))
      exact hnone l n ((Function.update_of_ne hne ..).trans hl')
  · exact (callsOf_foldl_undergo hsound (hothers _ (h.ne_of_serving hk hlt hl))).trans
      (h.unheard k hk hlt)

/-- A new connection is the only one of its client. -/
theorem Orderly.enter (h : Orderly built hub serving next) (hbuilt : built.Sound components)
    (room : next < 2 ^ 64) {suffix : String} {greeted : Hub} (free : serving label = none)
    (connect : hub.connect canMake (numbered next) loopback suffix = some greeted) :
    Orderly built greeted
      (Function.update serving label (some (numbered next, hub.outboxes.boxes.length)))
      (next + 1) := by
  have hsound := h.sound hbuilt
  obtain ⟨past, hpast⟩ := h.reached
  have hgreeted : greeted = hub.undergo canMake (.connect (numbered next) loopback suffix) :=
    (congrArg (Option.getD · hub) connect).symm
  have hothers : ∀ c, c ≠ numbered next →
      (Activity.connect (numbered next) loopback suffix).client? ≠ some c :=
    fun c hc heq => hc (Option.some.inj heq).symm
  have hold : ∀ l c n, serving l = some (c, n) → c ≠ numbered next :=
    fun l c n hl => (h.ne_of_serving le_rfl room hl).symm
  refine ⟨⟨past ++ [.connect (numbered next) loopback suffix], ?_⟩, Nat.succ_pos _,
    fun l c n hl => ?_, fun l l' c n n' hl hl' => ?_, fun l c n hl => ?_,
    fun k hpos hk hnone => ?_, fun k hk hlt => ?_⟩
  · rw [List.foldl_concat, ← hpast]
    exact hgreeted
  · rw [Function.update_apply] at hl
    split at hl
    · cases hl
      exact ⟨next, h.positive, Nat.lt_succ_self _, rfl⟩
    · obtain ⟨k, hpos, hk, hc⟩ := h.known l c n hl
      exact ⟨k, hpos, Nat.lt_succ_of_lt hk, hc⟩
  · rw [Function.update_apply] at hl hl'
    split at hl <;> split at hl'
    · next hlabel hlabel' => exact hlabel.trans hlabel'.symm
    · cases hl
      exact absurd rfl (hold l' _ n' hl')
    · cases hl'
      exact absurd rfl (hold l _ n hl)
    · exact h.distinct l l' c n n' hl hl'
  · rw [Function.update_apply] at hl
    split at hl
    · cases hl
      exact isServed_of_connect hsound hbuilt.hosts hpast connect (h.unheard next le_rfl room)
    · rw [hgreeted]
      exact (h.served l c n hl).undergo (hothers c (hold l c n hl))
  · -- the new client has a connection, so only the earlier ones are concerned
    have hne : k ≠ next := by
      rintro rfl
      exact hnone label _ (Function.update_self ..)
    have hclient : numbered k ≠ numbered next :=
      fun heq => hne (numbered_injective (by omega) room heq)
    rw [hgreeted]
    refine (h.ended k hpos (by omega) fun l n hl => ?_).undergo hsound (hothers _ hclient)
    have hlabel : l ≠ label := by
      rintro rfl
      cases free.symm.trans hl
    exact hnone l n ((Function.update_of_ne hlabel ..).trans hl)
  · have hclient : numbered k ≠ numbered next :=
      fun heq => absurd (numbered_injective hlt room heq) (by omega)
    rw [hgreeted]
    exact (hsound.callsOf_undergo (hothers _ hclient)).trans (h.unheard k (by omega) hlt)

/-- A message that is refused ends a connection. -/
theorem IsServed.refused (h : IsServed built hub client outbox) (sound : hub.Sound components)
    (hosts : built.components = components) {bytes : List UInt8} {e : ServerError}
    (receive : hub.receive client bytes = (after, .error e)) :
    WasServed built (after.disconnect client) client := by
  obtain ⟨final, outcome, hreception⟩ := sound.exists_reception client bytes
  have hreceive := sound.receive_eq hreception "" ""
  rw [receive] at hreceive
  cases hreceive
  refine h.wasServed sound hosts (.refused hreception) ?_
  rw [readAmid, receive]

/-- No number is given out twice. -/
theorem Move.nextClient_le (move : Move v v') : v.nextClient ≤ v'.nextClient := by
  cases move <;> simp

/-- Every move keeps the connections in order. -/
theorem Orderly.move (h : Orderly built v.hub v.serving v.nextClient)
    (hbuilt : built.Sound components)
    (queues : Queues canMake built.outboxes.capacity built.outboxes)
    (move : Move v v') (room : v'.nextClient ≤ 2 ^ 64) :
    Orderly built v'.hub v'.serving v'.nextClient := by
  have hsound := h.sound hbuilt
  cases move with
  | aside about =>
    refine h.stay hbuilt (fun client ha => ?_) fun client n ha => ?_ <;>
    · rw [about] at ha
      cases ha
  | opened free connect => exact h.enter hbuilt room free connect
  | @turnedAway suffix connect =>
    obtain ⟨past, hpast⟩ := h.reached
    -- all queues have the length the server was built with, and it is too great
    have hcapacity : canMake built.outboxes.capacity = false := by
      rw [connect_eq] at connect
      split at connect
      · cases connect
      · next hmakes =>
        rw [hpast, (queues.foldl_undergo past).capacity] at hmakes
        exact Bool.eq_false_iff.2 hmakes
    refine ⟨h.reached, Nat.succ_pos _, fun l c n hl => ?_, h.distinct, h.served,
      fun k hpos hk hnone => ?_, fun k hk => h.unheard k (Nat.le_of_succ_le hk)⟩
    · obtain ⟨k, hpos, hk, hc⟩ := h.known l c n hl
      exact ⟨k, hpos, Nat.lt_succ_of_lt hk, hc⟩
    · rcases Nat.lt_succ_iff_lt_or_eq.1 hk with hk | rfl
      · exact h.ended k hpos hk hnone
      · exact .inr ⟨hcapacity, h.unheard _ le_rfl room⟩
  | @handled label client outbox bytes after serving receive =>
    have hstay := h.stay (a := .receive client bytes) hbuilt
      (fun c hc => ⟨label, outbox, Option.some.inj hc ▸ serving⟩) fun c n hc hserved => ?_
    · rwa [undergo, receive] at hstay
    · cases hc
      rw [undergo, receive]
      exact hserved.receive hsound receive
  | @refused label client outbox bytes after e serving receive =>
    -- the answer is the end of the connection: its handler disconnects the client at once
    have hleave := h.leave hbuilt serving [.receive client bytes, .disconnect client]
      (by simp [Activity.client?]) ?_
    · rwa [List.foldl_cons, List.foldl_cons, undergo, receive] at hleave
    · rw [List.foldl_cons, List.foldl_cons, undergo, receive]
      exact (h.served label client outbox serving).refused hsound hbuilt.hosts receive
  | @ended label client outbox last outcome serving ends =>
    refine h.leave hbuilt serving [.disconnect client] (by simp [Activity.client?]) ?_
    exact (h.served label client outbox serving).wasServed hsound hbuilt.hosts ends
      (ends.readAmid_cons hsound canMake "" "" [])

/-- Any number of moves keep a server orderly, as long as there are numbers left. -/
theorem Orderly.moves (h : Orderly built v.hub v.serving v.nextClient)
    (hbuilt : built.Sound components)
    (queues : Queues canMake built.outboxes.capacity built.outboxes)
    (moves : Moves v v') (room : v'.nextClient ≤ 2 ^ 64) :
    Orderly built v'.hub v'.serving v'.nextClient := by
  induction moves with
  | refl => exact h
  | tail _ move ih => exact (ih (move.nextClient_le.trans room)).move hbuilt queues move room

/-! ## Runs -/

/-- The machine after a step, with the suffix for a new guest name. A step that cannot be made
changes nothing. -/
def perform (m : Machine) (step : String × Action) : Machine :=
  match m.step step.1 step.2 with
  | .ok (m, _, _) => m
  | .error _ => m

/-- The machine after some steps. -/
def run (m : Machine) (steps : List (String × Action)) : Machine := steps.foldl perform m

/-- A run is moves one after the other. -/
theorem moves_run (m : Machine) (steps : List (String × Action)) :
    Moves m.view (m.run steps).view := by
  induction steps generalizing m with
  | nil => exact .refl
  | cons step steps ih =>
    refine .trans ?_ (ih _)
    unfold perform
    split
    · next h => exact moves_step h
    · exact .refl

/-- What was done about a client with an open connection: it was greeted, and what it sent was
handed on. -/
theorem IsServed.callsOf (h : IsServed built hub client outbox) (sound : built.Sound components) :
    ∃ handled, (∀ call ∈ handled, ∃ c frame, call = .handled c client frame) ∧
      hub.callsOf client = greeting components client ++ handled := by
  obtain ⟨-, past, suffix, turns, calls, hunknown, -, hothers, haccepts⟩ := h
  have hpast := sound.foldl_undergo canMake past
  have hcalls := haccepts.callsOf (hpast.foldl_carry loopback suffix _) hothers
  rw [callsOf_foldl_carry client_of_mem_greeting, hunknown, List.nil_append, sound.hosts] at hcalls
  exact ⟨calls, haccepts.handles, hcalls⟩

/-- A client that was served was served as `serveAmid` does it. It was greeted, what it sent was
handed on, and it was said farewell; nothing more was done about it, and nothing of it is left. -/
theorem WasServed.serveAmid (h : WasServed built hub client) (sound : built.Sound components)
    (users : .users ∈ components) (channels : .channels ∈ components) :
    (∃ (past : List Activity) (suffix : String) (turns : List Turn) (later : List Activity),
      (∀ a, .other a ∈ turns → a.client? ≠ some client) ∧ (∃ t ∈ turns, t.isEnd) ∧
      (∀ a ∈ later, a.client? ≠ some client) ∧
      hub = later.foldl (Hub.undergo canMake)
        ((past.foldl (Hub.undergo canMake) built).serveAmid canMake client loopback suffix
          turns).1) ∧
    (∃ handled, (∀ call ∈ handled, ∃ c frame, call = .handled c client frame) ∧
      hub.callsOf client = greeting components client ++ handled ++ farewell components client) ∧
    hub.Forgets client := by
  obtain ⟨past, suffix, accepted, last, calls, final, reached, outcome, later, hunknown, hmakes,
    hothers, haccepts, hends, hlater, hhub⟩ := h
  rw [sound.hosts] at haccepts hhub
  have hpast := sound.foldl_undergo canMake past
  have hreached := haccepts.sound (hpast.foldl_carry loopback suffix _)
  have hended := hreached.foldl_carry loopback suffix final
  have hserved := hreached.foldl_carry loopback suffix (final ++ farewell components client)
  -- one more turn, as good as any, closes the connection that is over already
  refine ⟨⟨past, suffix, accepted ++ [.own last, .own .closed], later, fun a ha => ?_,
    ⟨.own .closed, by simp, rfl⟩, hlater, ?_⟩, ⟨calls ++ final, fun call hcall => ?_, ?_⟩, ?_⟩
  · rcases List.mem_append.1 ha with ha | ha
    · exact hothers a ha
    · simp at ha
  · rw [hpast.serveAmid_eq hmakes haccepts hends]
    exact hhub
  · exact (List.mem_append.1 hcall).elim (haccepts.handles call) (hends.handles call)
  · rw [hhub, callsOf_foldl_undergo hserved hlater, haccepts.callsOf_served hends hpast hothers,
      hunknown]
    simp only [List.nil_append, List.append_assoc]
  · rw [hhub]
    refine Forgets.foldl_undergo ?_ hserved hlater
    rw [List.foldl_append]
    exact hended.forgets users channels

/-- Every connection of every run is served as `Hub.serveAmid` serves it. A machine does nothing to
its server but what a server can undergo. A client with an open connection is registered with the
outbox from which it gets its frames; it was greeted, and all that it sent was handed on. Any other
client that ever connected was served from the start of its connection to its end, after which
nothing of it is left; only if no queue can be made with the settings of the server, nothing was
ever done about it. -/
theorem connections_are_served {network : Network} {config : ServerConfig} {parts : List Part}
    (build : Hub.build network config parts = .ok built) (users : .users ∈ built.components)
    (channels : .channels ∈ built.components) (steps : List (String × Action))
    (room : ((start network built).run steps).nextClient ≤ 2 ^ 64) :
    let m := (start network built).run steps
    (∃ activity : List Activity, m.hub = activity.foldl (Hub.undergo canMake) built) ∧
    (∀ label c, m.links.get? label = some (.connected c) →
      IsServed built m.hub c.client c.outbox ∧
      ∃ handled, (∀ call ∈ handled, ∃ d frame, call = .handled d c.client frame) ∧
        m.hub.callsOf c.client = greeting built.components c.client ++ handled) ∧
    ∀ k, 0 < k → k < m.nextClient →
      (∃ label c, m.links.get? label = some (.connected c) ∧ c.client = numbered k) ∨
      WasServed built m.hub (numbered k) ∧ m.hub.Forgets (numbered k) ∧
        (∃ handled, (∀ call ∈ handled, ∃ c frame, call = .handled c (numbered k) frame) ∧
          m.hub.callsOf (numbered k) =
            greeting built.components (numbered k) ++ handled ++
              farewell built.components (numbered k)) ∨
      mostFrames < config.outboundQueueLen ∧ m.hub.callsOf (numbered k) = [] := by
  intro m
  obtain ⟨hbuilt, -⟩ := sound_build build
  rw [← hbuilt.hosts] at hbuilt
  have hqueues : Queues canMake config.queueCapacity built.outboxes := queues_build build
  have hcapacity : built.outboxes.capacity = config.queueCapacity := hqueues.capacity
  -- nobody is served at the start, and from there every step is a list of moves
  have hstart : Orderly built built (fun _ => none) 1 := orderly_start (fresh_build build).2
  have horderly : Orderly built m.hub m.view.serving m.nextClient :=
    Orderly.moves (v := (start network built).view) hstart hbuilt (hcapacity ▸ hqueues)
      (moves_run _ steps) room
  refine ⟨horderly.reached, fun label c hlink => ?_, fun k hpos hk => ?_⟩
  · have hserved := horderly.served label c.client c.outbox (serving_of_get? hlink)
    exact ⟨hserved, hserved.callsOf hbuilt⟩
  · by_cases hopen : ∃ label c, m.links.get? label = some (.connected c) ∧ c.client = numbered k
    · exact .inl hopen
    · refine .inr ((horderly.ended k hpos hk fun l n hl => hopen ?_).imp (fun hserved => ?_) ?_)
      · obtain ⟨link, hlink, hsome⟩ := Option.bind_eq_some_iff.1 hl
        cases link with
        | connected c =>
          exact ⟨l, c, hlink, congrArg Prod.fst (Option.some.inj hsome)⟩
        | _ => cases hsome
      -- the connection is over, so it was served in full, or its queue could not be made
      · obtain ⟨-, hcalls, hforgets⟩ := hserved.serveAmid hbuilt users channels
        exact ⟨hserved, hforgets, hcalls⟩
      · rintro ⟨hmakes, hcalls⟩
        rw [hcapacity] at hmakes
        refine ⟨Nat.lt_of_not_le fun hle => ?_, hcalls⟩
        rw [(makes_queueCapacity_iff canMake_iff config).2 hle] at hmakes
        cases hmakes

-- a client sends too short a frame and is given up; it connects again and is another client then
example :
    let parts := withDefaults default []
    let world := (((worldOf parts).attach .users 0).1.attach .channels 0).1
    let hub : Hub := ⟨default, rulesOf parts, [.users, .channels], world, .initial 256, []⟩
    let m := (start .up hub).run [("a", .connect 7), ("", .send 7 [[2, 0]]), ("b", .connect 7)]
    m.nextClient = 3 ∧ m.links.get? 7 = some (.connected ⟨numbered 2, 1, 0⟩) := by
  decide +kernel

end Machine

end Live

end ChatServer
