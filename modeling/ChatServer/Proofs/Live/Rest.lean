import Mathlib.Data.Set.Card
import ChatServer.Proofs.Live.Machine

/-!
# The machine comes to rest

After every step no frame waits for a client with an open connection, and no open connection has an
outbox that overflowed. The machine ends overflowed connections one after another, in as many rounds
as it has links and one more. That is enough because each round but the last ends a connection.
-/

namespace ChatServer

namespace Live

open Hub Outboxes

namespace Outboxes

variable {o : Outboxes} {n : Nat}

/-- What is taken from an outbox is what waits in it. -/
theorem drain_fst (o : Outboxes) (n : Nat) :
    (o.drain n).1 = o.boxes[n]?.elim [] Outbox.waiting := by
  unfold drain
  split <;> simp [*]

/-- Nothing waits in an outbox whose frames were taken. -/
theorem drain_drain_self (o : Outboxes) (n : Nat) : ((o.drain n).2.drain n).1 = [] := by
  rw [drain_fst]
  cases hbox : o.boxes[n]? with
  | none => simp [drain, hbox]
  | some box =>
    have hlt := (List.getElem?_eq_some_iff.1 hbox).1
    simp [drain, hbox, List.getElem?_set_self hlt]

/-- To take the frames of one outbox puts none into another. -/
theorem drain_drain_of_nil (h : (o.drain n).1 = []) (m : Nat) : ((o.drain m).2.drain n).1 = [] := by
  by_cases hm : m = n
  · rw [hm]
    exact drain_drain_self o n
  · rw [drain_fst] at h ⊢
    unfold drain
    split
    · exact h
    · rwa [List.getElem?_set_ne hm]

end Outboxes

namespace Machine

variable {m m' : Machine} {d : Digest} {state : Machine × Digest} {label : Label}

/-- Open connections have nothing to deliver and none of them has overflowed. -/
structure View.AtRest (v : View) : Prop where
  delivered : ∀ l client n, v.serving l = some (client, n) → (v.hub.outboxes.drain n).1 = []
  lasting : ∀ l client n, v.serving l = some (client, n) → v.hub.outboxes.overflowed n = false

/-- The labels with an open connection. -/
def View.served (v : View) : Set Label := {l | v.serving l ≠ none}

/-- Connections are open only over links. -/
theorem served_subset (m : Machine) : m.view.served ⊆ m.links.keys.toFinset := by
  intro l hl
  obtain ⟨_, hserved⟩ := Option.ne_none_iff_exists'.1 hl
  obtain ⟨link, hlink, -⟩ := Option.bind_eq_some_iff.1 hserved
  exact List.mem_toFinset.2 (Table.mem_keys_iff.2 ⟨link, hlink⟩)

theorem finite_served (m : Machine) : m.view.served.Finite :=
  (Finset.finite_toSet _).subset (served_subset m)

/-- There are no more open connections than links. -/
theorem ncard_served_le (m : Machine) : m.view.served.ncard ≤ m.links.size := by
  calc m.view.served.ncard
      ≤ (m.links.keys.toFinset : Set Label).ncard :=
        Set.ncard_le_ncard (served_subset m) (Finset.finite_toSet _)
    _ = m.links.keys.toFinset.card := Set.ncard_coe_finset _
    _ ≤ m.links.keys.length := List.toFinset_card_le _
    _ = m.links.size := List.length_map _

/-- Every open connection is listed. -/
theorem exists_mem_connections {client : ClientId} {n : Nat}
    (h : m.view.serving label = some (client, n)) :
    ∃ target ∈ m.connections, target.2.outbox = n := by
  obtain ⟨link, hlink, hserved⟩ := Option.bind_eq_some_iff.1 h
  cases link with
  | connected c =>
    cases hserved
    refine ⟨(label, c), ?_, rfl⟩
    rw [connections, List.mem_mergeSort, List.mem_filterMap]
    exact ⟨_, Table.get?_eq_some_iff.1 hlink, rfl⟩
  | _ => cases hserved

/-- To finish an open connection leaves one connection less. -/
theorem ncard_served_finish {target : Label × Connection} (state : Machine × Digest)
    (outcome : Except ServerError Unit)
    (serving : state.1.view.serving target.1 = some (target.2.client, target.2.outbox)) :
    (finish state target outcome).1.view.served.ncard < state.1.view.served.ncard := by
  have hopen : state.1.view.serving target.1 ≠ none := by
    rw [serving]
    exact Option.some_ne_none _
  have hserved : (finish state target outcome).1.view.served =
      state.1.view.served \ {target.1} := by
    rw [view_finish]
    ext l
    show Function.update state.1.view.serving target.1 none l ≠ none ↔
      state.1.view.serving l ≠ none ∧ l ≠ target.1
    by_cases hl : l = target.1 <;> simp [hl]
  rw [hserved]
  exact Set.ncard_sdiff_singleton_lt_of_mem hopen (finite_served state.1)

/-! ## Rounds -/

/-- Who is served has no frames left, and neither has an outbox that had none before. -/
theorem drain_foldl_serveOutbox (targets : List (Label × Connection)) (state : Machine × Digest)
    {n : Nat}
    (h : (∃ target ∈ targets, target.2.outbox = n) ∨ (state.1.hub.outboxes.drain n).1 = []) :
    ((targets.foldl serveOutbox state).1.hub.outboxes.drain n).1 = [] := by
  induction targets generalizing state with
  | nil => exact h.resolve_left fun ⟨_, hmem, _⟩ => List.not_mem_nil hmem
  | cons target targets ih =>
    refine ih (serveOutbox state target) ?_
    rcases h with ⟨other, hmem, hn⟩ | hnil
    · rcases List.mem_cons.1 hmem with heq | hlater
      · rw [← hn, heq]
        exact .inr (drain_drain_self _ _)
      · exact .inl ⟨other, hlater, hn⟩
    · exact .inr (drain_drain_of_nil hnil _)

/-- Enough rounds bring everything to rest. -/
theorem atRest_settle (rounds : Nat) (state : Machine × Digest)
    (enough : state.1.view.served.ncard < rounds) : (settle rounds state).1.view.AtRest := by
  induction rounds generalizing state with
  | zero => exact absurd enough (Nat.not_lt_zero _)
  | succ rounds ih =>
    obtain ⟨m, d⟩ := state
    obtain ⟨-, hserving⟩ := moves_foldl_serveOutbox m.connections (m, d)
    rw [settle]
    split
    · next hnone =>
      refine ⟨fun l client n hl => ?_, fun l client n hl => ?_⟩
      · rw [hserving] at hl
        exact drain_foldl_serveOutbox _ _ (.inl (exists_mem_connections hl))
      · obtain ⟨target, hmem, rfl⟩ := exists_mem_connections hl
        exact Bool.eq_false_iff.2 (List.find?_eq_none.1 hnone target hmem)
    · next target hfind =>
      have htarget := serving_of_mem_connections (List.mem_of_find?_eq_some hfind)
      -- the round ends a connection that was open and opens none
      have hfewer := ncard_served_finish (m.connections.foldl serveOutbox (m, d)) (.ok ()) htarget
      have hsame : (m.connections.foldl serveOutbox (m, d)).1.view.served = m.view.served :=
        congrArg (fun serving : Label → Option (ClientId × Nat) => {l | serving l ≠ none}) hserving
      rw [hsame] at hfewer
      exact ih _ (Nat.lt_of_lt_of_le hfewer (Nat.le_of_lt_succ enough))

/-- What `rest` does is enough. -/
theorem atRest_rest (state : Machine × Digest) : (rest state).1.view.AtRest :=
  atRest_settle _ state (Nat.lt_succ_of_le (ncard_served_le state.1))

/-! ## Steps -/

/-- A link without an open connection changes nothing where there was none. -/
theorem View.AtRest.withLink (h : m.view.AtRest) {link : Link} (free : m.view.serving label = none)
    (closed : link.served? = none) : (m.withLink label link).view.AtRest := by
  rw [view_withLink_of_none free closed]
  exact h

/-- To give up a connection leaves the others at rest. -/
theorem atRest_hangUp (h : m.view.AtRest) {link : Link} (hlink : m.links.get? label = some link)
    (outcome : Except ServerError Unit) : (m.hangUp label link outcome).1.view.AtRest := by
  cases link with
  | opening since received =>
    exact h.withLink (congrArg (Option.bind · Link.served?) hlink) rfl
  | connected c => exact atRest_rest _
  | closed => exact h

theorem atRest_replaced (h : m.view.AtRest) (label : Label) :
    (m.replaced label).1.view.AtRest := by
  unfold replaced
  split
  · next link hlink => exact atRest_hangUp h hlink broken
  · exact h

/-- A client is greeted in full, or its connection is closed at once. -/
theorem atRest_establish (h : state.1.view.AtRest) (free : state.1.view.serving label = none)
    (suffix : String) : (establish state label suffix).1.view.AtRest := by
  obtain ⟨m, d⟩ := state
  unfold establish
  dsimp only
  split
  · have hview : ({ m with nextClient := m.nextClient + 1 }.withLink label .closed).view =
        { m.view with nextClient := m.nextClient + 1 } := view_withLink_of_none free rfl
    rw [hview]
    exact ⟨h.delivered, h.lasting⟩
  · exact atRest_rest _

/-- Each message is answered in full before the next one. -/
theorem atRest_sendAll (label : Label) (messages : List (List UInt8)) (state : Machine × Digest)
    (h : state.1.view.AtRest) : (sendAll label state messages).1.view.AtRest := by
  induction messages generalizing state with
  | nil => exact h
  | cons bytes messages ih =>
    obtain ⟨m, d⟩ := state
    rw [sendAll]
    split
    · next c hlink =>
      rcases m.hub.receive c.client bytes with ⟨hub, outcome⟩
      cases outcome with
      | ok value => exact ih _ (atRest_rest _)
      | error e => exact atRest_rest _
    · exact h

theorem atRest_expire (h : state.1.view.AtRest) (label : Label) :
    (expire state label).1.view.AtRest := by
  unfold expire
  split
  · next hlink =>
    exact h.withLink (congrArg (Option.bind · Link.served?) hlink) rfl
  · exact atRest_rest _
  · exact h

theorem atRest_foldl_expire (labels : List Label) (state : Machine × Digest)
    (h : state.1.view.AtRest) : (labels.foldl expire state).1.view.AtRest := by
  induction labels generalizing state with
  | nil => exact h
  | cons label labels ih => exact ih _ (atRest_expire h label)

/-- A step ends with everything at rest. -/
theorem atRest_step (h : m.view.AtRest) {suffix : String} {action : Action} {reply : Reply}
    (hstep : m.step suffix action = .ok (m', reply, d)) : m'.view.AtRest := by
  cases stepped hstep with
  | same => exact h
  | connected label suffix =>
    exact atRest_establish (atRest_replaced h label) (moves_replaced m label).2 suffix
  | sent label messages d => exact atRest_sendAll label messages (m, d) h
  | hungUp found ends => exact atRest_hangUp h found _
  | opening label since => exact (atRest_replaced h label).withLink (moves_replaced m label).2 rfl
  | requested free since received => exact h.withLink free rfl
  | expired now labels d => exact atRest_foldl_expire labels ({ m with now }, d) h
  | stopped d => exact atRest_rest _

/-- A machine is at rest between the steps of a run. -/
theorem atRest_run (network : Network) (built : Hub) (steps : List (String × Action)) :
    ((start network built).run steps).view.AtRest := by
  induction steps using List.reverseRecOn with
  | nil => exact ⟨nofun, nofun⟩
  | append_singleton steps step ih =>
    rw [run, List.foldl_concat]
    unfold perform
    split
    · next hstep => exact atRest_step ih hstep
    · exact ih

end Machine

end Live

end ChatServer
