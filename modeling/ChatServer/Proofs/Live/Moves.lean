import ChatServer.Live.Machine
import ChatServer.Proofs.Live.Connections

/-!
# What the machine does to its server

The machine greets the clients that connect, hands on what they send, and gives them up when their
connections end. `Move` lists these things as what they are to the server. The clock of the machine,
the requests that are not complete and what clients receive have no part in it. `Stepped` says what
can come of a step, and each such thing is a sequence of moves.
-/

namespace ChatServer

namespace Live

open Hub Outboxes

/-- The client with a number. -/
def numbered (k : Nat) : ClientId := ⟨UInt64.ofNat k⟩

/-- Numbers that fit into 64 bits belong to different clients. -/
theorem numbered_injective {j k : Nat} (hj : j < 2 ^ 64) (hk : k < 2 ^ 64)
    (h : numbered j = numbered k) : j = k := by
  have hval : UInt64.ofNat j = UInt64.ofNat k := congrArg ClientId.val h
  have hnat : (UInt64.ofNat j).toNat = (UInt64.ofNat k).toNat := congrArg UInt64.toNat hval
  rwa [UInt64.toNat_ofNat_of_lt' hj, UInt64.toNat_ofNat_of_lt' hk] at hnat

/-- The client of a link and its outbox, if the connection is open. -/
def Link.served? : Link → Option (ClientId × Nat)
  | .connected c => some (c.client, c.outbox)
  | _ => none

namespace Machine

/-- What the connections of a machine depend on: the server, the clients that have a connection with
their outboxes, and the number of the next client. -/
structure View where
  hub : Hub
  serving : Label → Option (ClientId × Nat)
  nextClient : Nat

/-- A machine apart from its clock, the requests that are not complete and what clients received. -/
def view (m : Machine) : View where
  hub := m.hub
  serving label := (m.links.get? label).bind Link.served?
  nextClient := m.nextClient

/-- One thing that a machine does, and what it is to the server and its connections. -/
inductive Move : View → View → Prop
  /-- Something goes on at the server that is about no client in particular. -/
  | aside {v : View} {a : Activity} (about : a.client? = none) :
    Move v { v with hub := v.hub.undergo canMake a }
  /-- A client connects. -/
  | opened {v : View} {label : Label} {suffix : String} {greeted : Hub}
    (free : v.serving label = none)
    (connect : v.hub.connect canMake (numbered v.nextClient) loopback suffix = some greeted) :
    Move v
      { hub := greeted
        serving := Function.update v.serving label
          (some (numbered v.nextClient, v.hub.outboxes.boxes.length))
        nextClient := v.nextClient + 1 }
  /-- A client connects, but no queue can be made for it. -/
  | turnedAway {v : View} {suffix : String}
    (connect : v.hub.connect canMake (numbered v.nextClient) loopback suffix = none) :
    Move v { v with nextClient := v.nextClient + 1 }
  /-- A message is accepted. -/
  | handled {v : View} {label : Label} {client : ClientId} {outbox : Nat} {bytes : List UInt8}
    {after : Hub} (serving : v.serving label = some (client, outbox))
    (receive : v.hub.receive client bytes = (after, .ok ())) :
    Move v { v with hub := after }
  /-- A message is refused, which ends the connection. -/
  | refused {v : View} {label : Label} {client : ClientId} {outbox : Nat} {bytes : List UInt8}
    {after : Hub} {e : ServerError} (serving : v.serving label = some (client, outbox))
    (receive : v.hub.receive client bytes = (after, .error e)) :
    Move v
      { v with hub := after.disconnect client, serving := Function.update v.serving label none }
  /-- A connection ends for another reason. -/
  | ended {v : View} {label : Label} {client : ClientId} {outbox : Nat} {last : Inbound}
    {outcome : Except ServerError Unit} (serving : v.serving label = some (client, outbox))
    (ends : Ends client v.hub last [] outcome) :
    Move v
      { v with hub := v.hub.disconnect client, serving := Function.update v.serving label none }

/-- Some moves one after another. -/
abbrev Moves : View → View → Prop := Relation.ReflTransGen Move

/-- What is not seen in the view is no move. -/
theorem moves_of_eq {v v' : View} (h : v' = v) : Moves v v' := h ▸ .refl

variable {m m' : Machine} {d : Digest} {state : Machine × Digest} {label : Label}

/-- To put down a link changes who is served over it, and nothing else that is in view. -/
@[simp]
theorem view_withLink (m : Machine) (label : Label) (link : Link) :
    (m.withLink label link).view =
      { m.view with serving := Function.update m.view.serving label link.served? } := by
  have hserving : (m.withLink label link).view.serving =
      Function.update m.view.serving label link.served? := by
    funext l
    show ((m.links.insert label link).get? l).bind Link.served? = _
    rw [Table.get?_insert, Function.update_apply]
    split <;> rfl
  rw [← hserving]
  rfl

/-- A link without an open connection makes no difference where there was none. -/
theorem view_withLink_of_none {link : Link} (free : m.view.serving label = none)
    (closed : link.served? = none) : (m.withLink label link).view = m.view := by
  rw [view_withLink, closed, ← free, Function.update_eq_self]

/-- An open connection is in view with its client and its outbox. -/
theorem serving_of_get? {c : Connection} (h : m.links.get? label = some (.connected c)) :
    m.view.serving label = some (c.client, c.outbox) := by
  show (m.links.get? label).bind _ = _
  rw [h]
  rfl

/-- The connections that are listed are the open ones. -/
theorem serving_of_mem_connections {target : Label × Connection} (h : target ∈ m.connections) :
    m.view.serving target.1 = some (target.2.client, target.2.outbox) := by
  rw [connections, List.mem_mergeSort, List.mem_filterMap] at h
  obtain ⟨⟨l, link⟩, hmem, hlink⟩ := h
  dsimp only at hlink
  split at hlink
  · next c =>
    cases hlink
    exact serving_of_get? (Table.get?_eq_some_iff.2 hmem)
  · cases hlink

/-! ## The parts of a step as moves -/

/-- To serve an outbox is to take its frames. -/
theorem view_serveOutbox (state : Machine × Digest) (target : Label × Connection) :
    (serveOutbox state target).1.view =
      { state.1.view with
        hub := state.1.hub.undergo canMake (.drain target.2.outbox) } := rfl

/-- To serve outboxes is to take the frames of one after the other, which opens and ends no
connection. -/
theorem moves_foldl_serveOutbox (targets : List (Label × Connection))
    (state : Machine × Digest) :
    Moves state.1.view (targets.foldl serveOutbox state).1.view ∧
      (targets.foldl serveOutbox state).1.view.serving = state.1.view.serving := by
  induction targets generalizing state with
  | nil => exact ⟨.refl, rfl⟩
  | cons target targets ih =>
    obtain ⟨hmoves, hserving⟩ := ih (serveOutbox state target)
    rw [view_serveOutbox] at hmoves
    exact ⟨.head (.aside rfl) hmoves, hserving⟩

/-- To finish a connection is to disconnect its client and to take what is left in its outbox. -/
theorem view_finish (state : Machine × Digest) (target : Label × Connection)
    (outcome : Except ServerError Unit) :
    (finish state target outcome).1.view =
      { state.1.view with
        hub := (state.1.hub.disconnect target.2.client).undergo canMake (.drain target.2.outbox)
        serving := Function.update state.1.view.serving target.1 none } :=
  view_withLink _ _ _

/-- A connection is given up, and what waits for its client is still delivered. -/
theorem moves_finish (state : Machine × Digest) (target : Label × Connection) {last : Inbound}
    {outcome : Except ServerError Unit}
    (serving : state.1.view.serving target.1 = some (target.2.client, target.2.outbox))
    (ends : Ends target.2.client state.1.hub last [] outcome) :
    Moves state.1.view (finish state target outcome).1.view := by
  rw [view_finish]
  exact .tail (.single (.ended serving ends)) (.aside rfl)

/-- To settle is to serve outboxes and to end connections. -/
theorem moves_settle (rounds : Nat) (state : Machine × Digest) :
    Moves state.1.view (settle rounds state).1.view ∧
      ∀ l, state.1.view.serving l = none → (settle rounds state).1.view.serving l = none := by
  induction rounds generalizing state with
  | zero => exact ⟨.refl, fun _ h => h⟩
  | succ rounds ih =>
    obtain ⟨m, d⟩ := state
    obtain ⟨hmoves, hserving⟩ := moves_foldl_serveOutbox m.connections (m, d)
    rw [settle]
    dsimp only
    split
    · exact ⟨hmoves, fun l h => (congrFun hserving l).trans h⟩
    · next target hfind =>
      have htarget := serving_of_mem_connections (List.mem_of_find?_eq_some hfind)
      obtain ⟨hlater, hnone⟩ := ih (finish (m.connections.foldl serveOutbox (m, d)) target (.ok ()))
      -- one overflowed connection is ended in each round, until none is left
      have hended :=
        moves_finish (m.connections.foldl serveOutbox (m, d)) target htarget .overflowed
      refine ⟨hmoves.trans (hended.trans hlater), fun l h => hnone l ?_⟩
      rw [view_finish]
      refine (Function.update_apply ..).trans ?_
      split
      · rfl
      · exact (congrFun hserving l).trans h

theorem moves_rest (state : Machine × Digest) : Moves state.1.view (rest state).1.view :=
  (moves_settle _ state).1

/-- What a client sends is handed on, message by message. -/
theorem moves_sendAll (label : Label) (messages : List (List UInt8)) (state : Machine × Digest) :
    Moves state.1.view (sendAll label state messages).1.view := by
  induction messages generalizing state with
  | nil => exact .refl
  | cons bytes messages ih =>
    obtain ⟨m, d⟩ := state
    rw [sendAll]
    split
    · next c hlink =>
      have hserving := serving_of_get? hlink
      rcases hreceive : m.hub.receive c.client bytes with ⟨hub, outcome⟩
      dsimp only
      -- that the client was heard of is not seen in the view
      have hheard : ({ m with hub }.withLink label (.connected { c with heard := m.now })).view =
          { m.view with hub } := by
        rw [view_withLink]
        show View.mk hub (Function.update m.view.serving label (some (c.client, c.outbox))) _ = _
        rw [← hserving, Function.update_eq_self]
        rfl
      cases outcome with
      | ok value =>
        have hmove : Move m.view { m.view with hub } := .handled hserving hreceive
        rw [← hheard] at hmove
        exact .head hmove ((moves_rest (_, d)).trans (ih _))
      | error e =>
        have hrefused : Moves m.view (finish ({ m with hub }.withLink label
            (.connected { c with heard := m.now }), d) (label, { c with heard := m.now })
            (.error e)).1.view := by
          rw [view_finish, hheard]
          exact .tail (.single (.refused hserving hreceive)) (.aside rfl)
        exact hrefused.trans (moves_rest _)
    · exact .refl

/-- A connection whose client ends it is given up, and afterwards it is not open any more. -/
theorem moves_hangUp {link : Link} (h : m.links.get? label = some link) {last : Inbound}
    {outcome : Except ServerError Unit}
    (ends : ∀ client, Ends client m.hub last [] outcome) :
    Moves m.view (m.hangUp label link outcome).1.view ∧
      (m.hangUp label link outcome).1.view.serving label = none := by
  cases link with
  | opening since received =>
    have hfree : m.view.serving label = none := congrArg (Option.bind · Link.served?) h
    have hview : (m.withLink label .closed).view = m.view := view_withLink_of_none hfree rfl
    exact ⟨moves_of_eq hview, (congrArg (View.serving · label) hview).trans hfree⟩
  | connected c =>
    have hserving := serving_of_get? h
    have hended := moves_finish (m, ⟨[], [], []⟩) (label, c) hserving (ends c.client)
    refine ⟨hended.trans (moves_rest _), (moves_settle _ _).2 label ?_⟩
    rw [view_finish]
    exact Function.update_self ..
  | closed => exact ⟨.refl, congrArg (Option.bind · Link.served?) h⟩

/-- A label is free once its old connection is hung up. -/
theorem moves_replaced (m : Machine) (label : Label) :
    Moves m.view (m.replaced label).1.view ∧ (m.replaced label).1.view.serving label = none := by
  unfold replaced
  split
  · next link h => exact moves_hangUp h fun _ => .failed ""
  · next h => exact ⟨.refl, congrArg (Option.bind · Link.served?) h⟩

/-- To let a connection expire ends it, if it is open. -/
theorem moves_expire (state : Machine × Digest) (label : Label) :
    Moves state.1.view (expire state label).1.view := by
  unfold expire
  split
  · next h =>
    have hfree : state.1.view.serving label = none := congrArg (Option.bind · Link.served?) h
    exact moves_of_eq (view_withLink_of_none hfree rfl)
  · next c h =>
    have hended := moves_finish state (label, c) (serving_of_get? h) .timedOut
    exact hended.trans (moves_rest _)
  · exact .refl

/-- Connections expire one after the other. -/
theorem moves_foldl_expire (labels : List Label) (state : Machine × Digest) :
    Moves state.1.view (labels.foldl expire state).1.view := by
  induction labels generalizing state with
  | nil => exact .refl
  | cons label labels ih => exact (moves_expire state label).trans (ih _)

/-- A client that connects is greeted or turned away. -/
theorem moves_establish (suffix : String) (free : state.1.view.serving label = none) :
    Moves state.1.view (establish state label suffix).1.view := by
  obtain ⟨m, d⟩ := state
  unfold establish
  dsimp only
  split
  · next hconnect =>
    have hmove : Move m.view { m.view with nextClient := m.nextClient + 1 } := .turnedAway hconnect
    -- a link that is closed at once serves nobody, so the view does not show it
    have hview : ({ m with nextClient := m.nextClient + 1 }.withLink label .closed).view =
        { m.view with nextClient := m.nextClient + 1 } := view_withLink_of_none free rfl
    rw [hview]
    exact .single hmove
  · next hub hconnect =>
    refine .trans ?_ (moves_rest _)
    rw [view_withLink]
    exact .single (.opened free hconnect)

/-- All that can come of a step. -/
inductive Stepped (m : Machine) : Machine → Prop
  | same : Stepped m m
  | connected (label : Label) (suffix : String) :
    Stepped m (establish (m.replaced label) label suffix).1
  | sent (label : Label) (messages : List (List UInt8)) (d : Digest) :
    Stepped m (sendAll label (m, d) messages).1
  /-- A client closes its connection, or the connection breaks. -/
  | hungUp {label : Label} {link : Link} (found : m.links.get? label = some link) {last : Inbound}
    {outcome : Except ServerError Unit} (ends : ∀ client, Ends client m.hub last [] outcome) :
    Stepped m (m.hangUp label link outcome).1
  | opening (label : Label) (since : Nat) :
    Stepped m ((m.replaced label).1.withLink label (.opening since []))
  /-- More of a request arrives that is still not complete. -/
  | requested {label : Label} (free : m.view.serving label = none) (since : Nat)
    (received : List UInt8) : Stepped m (m.withLink label (.opening since received))
  | expired (now : Nat) (labels : List Label) (d : Digest) :
    Stepped m (labels.foldl expire ({ m with now }, d)).1
  | stopped (d : Digest) : Stepped m (rest ({ m with hub := m.hub.stop, accepting := false }, d)).1

/-- Nothing else comes of a step. -/
theorem stepped {suffix : String} {action : Action} {reply : Reply}
    (h : m.step suffix action = .ok (m', reply, d)) : Stepped m m' := by
  cases action with
  | connect label =>
    rw [step] at h
    split at h
    · cases h
      exact .same
    · cases h
      exact .connected label suffix
  | send label messages =>
    rw [step, withClient] at h
    split at h
    · cases h
      exact .sent label messages _
    · cases h
  | ping label =>
    rw [step, withClient] at h
    split at h <;> cases h
    exact .same
  | close label =>
    rw [step, withClient] at h
    split at h
    · next link hlink =>
      cases h
      exact .hungUp hlink fun _ => .closed
    · cases h
  | drop label =>
    rw [step, withClient] at h
    split at h
    · next link hlink =>
      cases h
      exact .hungUp hlink fun _ => .failed ""
    · cases h
  | openRaw label =>
    rw [step] at h
    split at h
    · cases h
    · split at h
      · cases h
      · cases h
        exact .opening label _
  | sendRaw label bytes =>
    rw [step, withClient] at h
    split at h
    · next link hlink =>
      split at h
      · next since received =>
        dsimp only at h
        split at h
        · cases h
          exact .requested (congrArg (Option.bind · Link.served?) hlink) since _
        · cases h
          exact .hungUp hlink fun _ => .closed
      · cases h
        exact .same
    · cases h
  | advance milliseconds =>
    cases h
    exact .expired (m.now + milliseconds) _ _
  | stop =>
    rw [step] at h
    split at h
    · cases h
      exact .stopped ⟨[], [], []⟩
    · cases h
      exact .same
  | info name =>
    cases h
    exact .same

/-- Whatever a step does is a sequence of moves. -/
theorem moves_step {suffix : String} {action : Action} {reply : Reply}
    (h : m.step suffix action = .ok (m', reply, d)) : Moves m.view m'.view := by
  -- a label is freed before it is taken again: `moves_replaced` gives both facts
  cases stepped h with
  | same => exact .refl
  | connected label suffix =>
    obtain ⟨hmoves, hfree⟩ := moves_replaced m label
    exact hmoves.trans (moves_establish suffix hfree)
  | sent label messages d => exact moves_sendAll label messages (m, d)
  | hungUp found ends => exact (moves_hangUp found ends).1
  | opening label since =>
    obtain ⟨hmoves, hfree⟩ := moves_replaced m label
    exact hmoves.trans (moves_of_eq (view_withLink_of_none hfree rfl))
  | requested free since received => exact moves_of_eq (view_withLink_of_none free rfl)
  | expired now labels d => exact moves_foldl_expire labels ({ m with now }, d)
  | stopped d =>
    have hmove : Move m.view { m.view with hub := m.hub.stop } := .aside (a := .stop) rfl
    exact .head hmove (moves_rest ({ m with hub := m.hub.stop, accepting := false }, d))

end Machine

end Live

end ChatServer
