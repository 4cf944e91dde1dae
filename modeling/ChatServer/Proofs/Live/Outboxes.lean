import ChatServer.Config
import ChatServer.Live.Outbox
import ChatServer.Proofs.Wire.Reading
import ChatServer.World

/-!
# What reaches a client through its outbox

A registration has one outbox, which only its client's frames enter, and only while it lasts. What
is taken from the outbox, followed by what still waits there, is what was let in, in the order in
which it was sent. A frame is kept out of an outbox that is served only if the outbox is full, and
that is noted for good. So a client whose outbox never overflowed has seen a beginning of all that
was sent to it, and all of it once nothing waits any more.
-/

namespace ChatServer

namespace Live

/-! ## One outbox -/

namespace Outbox

variable {capacity : Nat} {bytes : List UInt8} {box : Outbox}

/-- Someone takes frames from the outbox, and it is not full. -/
def HasRoom (capacity : Nat) (box : Outbox) : Prop :=
  box.closed = false ∧ box.waiting.length < capacity

instance : Decidable (box.HasRoom capacity) := inferInstanceAs (Decidable (_ ∧ _))

/-- A frame waits behind the others where there is room. -/
theorem push_of_hasRoom (h : box.HasRoom capacity) :
    box.push capacity bytes = { box with waiting := box.waiting ++ [bytes] } := by
  rw [push, h.1, if_neg Bool.false_ne_true, if_pos h.2]

theorem push_of_closed (h : box.closed) : box.push capacity bytes = box := if_pos h

/-- A frame that is kept out of an outbox that is served is noted as an overflow. -/
theorem push_of_full (opened : box.closed = false) (full : capacity ≤ box.waiting.length) :
    box.push capacity bytes = { box with overflowed := true } := by
  rw [push, opened, if_neg Bool.false_ne_true, if_neg (Nat.not_lt.2 full)]

/-- A frame is let in, or comes too late, or finds the outbox full. -/
theorem push_cases (capacity : Nat) (bytes : List UInt8) (box : Outbox) :
    box.HasRoom capacity ∧
        box.push capacity bytes = { box with waiting := box.waiting ++ [bytes] } ∨
      ¬ box.HasRoom capacity ∧ (box.push capacity bytes = box ∨
        box.push capacity bytes = { box with overflowed := true }) := by
  by_cases hroom : box.HasRoom capacity
  · exact .inl ⟨hroom, push_of_hasRoom hroom⟩
  · refine .inr ⟨hroom, ?_⟩
    by_cases hclosed : box.closed
    · exact .inl (push_of_closed hclosed)
    · rw [Bool.not_eq_true] at hclosed
      exact .inr (push_of_full hclosed (Nat.not_lt.1 fun hlt => hroom ⟨hclosed, hlt⟩))

/-- The frame that is taken from an outbox was the first of those that waited. -/
theorem pop_append (box : Outbox) : box.pop.1.toList ++ box.pop.2.waiting = box.waiting := by
  unfold pop
  split
  · rfl
  · next bytes rest hcons => exact hcons.symm

/-- What no operation undoes: whose outbox it is, that it overflowed or is closed, and that it holds
no more than it should. -/
structure Follows (capacity : Nat) (box box' : Outbox) : Prop where
  client : box'.client = box.client
  overflowed : box.overflowed → box'.overflowed
  closed : box.closed → box'.closed
  bounded : box.waiting.length ≤ capacity → box'.waiting.length ≤ capacity

theorem Follows.refl (capacity : Nat) (box : Outbox) : box.Follows capacity box :=
  ⟨rfl, id, id, id⟩

/-- An outbox that a frame is pushed into follows what it was. -/
theorem follows_push (capacity : Nat) (bytes : List UInt8) (box : Outbox) :
    box.Follows capacity (box.push capacity bytes) := by
  rcases push_cases capacity bytes box with ⟨hroom, hpush⟩ | ⟨-, hpush | hpush⟩ <;> rw [hpush]
  · refine ⟨rfl, id, id, fun _ => ?_⟩
    rw [List.length_append]
    exact hroom.2
  · exact .refl capacity box
  · exact ⟨rfl, fun _ => rfl, id, id⟩

theorem closed_push (capacity : Nat) (bytes : List UInt8) (box : Outbox) :
    (box.push capacity bytes).closed = box.closed := by
  rcases push_cases capacity bytes box with ⟨-, hpush⟩ | ⟨-, hpush | hpush⟩ <;> rw [hpush]

/-- An outbox that a frame is taken from follows what it was. -/
theorem follows_pop (capacity : Nat) (box : Outbox) : box.Follows capacity box.pop.2 := by
  unfold pop
  split
  · exact .refl capacity box
  · next bytes rest hcons =>
    refine ⟨rfl, id, id, fun hle => ?_⟩
    rw [hcons] at hle
    exact (Nat.le_succ _).trans hle

theorem closed_pop (box : Outbox) : box.pop.2.closed = box.closed := by
  unfold pop
  split <;> rfl

end Outbox

namespace Outboxes

/-! ## Operations -/

/-- Something that is done with the outboxes. -/
inductive Operation where
  | register (client : ClientId)
  | unregister (client : ClientId)
  | send (client : ClientId) (frame : Frame)
  | receive (outbox : Nat)
  | drain (outbox : Nat)
  | close (outbox : Nat)
deriving DecidableEq, Repr

namespace Operation

/-- Whether an operation ends the registration that a client has. A new registration takes the place
of the one before. -/
def ends (client : ClientId) : Operation → Bool
  | register c => c = client
  | unregister c => c = client
  | _ => false

/-- The frame that an operation sends to a client. -/
def sentTo (client : ClientId) : Operation → List Frame
  | send c frame => if c = client then [frame] else []
  | _ => []

end Operation

/-- The outboxes after an operation. -/
def after (o : Outboxes) : Operation → Outboxes
  | .register client => o.register client
  | .unregister client => o.unregister client
  | .send client frame => o.send client frame
  | .receive n => (o.receive n).2
  | .drain n => (o.drain n).2
  | .close n => o.close n

/-- The outboxes after operations one after another. -/
def run (o : Outboxes) (ops : List Operation) : Outboxes := ops.foldl after o

/-- The frames that wait in an outbox. -/
def waiting (o : Outboxes) (n : Nat) : List (List UInt8) := (o.boxes[n]?.map Outbox.waiting).getD []

/-- The frames that an operation takes from an outbox. -/
def taken (o : Outboxes) (n : Nat) : Operation → List (List UInt8)
  | .receive m => if m = n then (o.receive n).1.toList else []
  | .drain m => if m = n then (o.drain n).1 else []
  | _ => []

/-- The frames that operations one after another take from an outbox. -/
def received (o : Outboxes) (n : Nat) : List Operation → List (List UInt8)
  | [] => []
  | op :: ops => o.taken n op ++ (o.after op).received n ops

/-- The operations before the one that ends the registration of a client. -/
def during (client : ClientId) (ops : List Operation) : List Operation :=
  ops.takeWhile fun op => !op.ends client

/-- The frames that operations send to a client. -/
def sends (client : ClientId) (ops : List Operation) : List Frame := ops.flatMap (·.sentTo client)

/-- After some operations, during which the registration of a client lasts and its outbox is served,
a frame for the client is kept out of the outbox. -/
structure Refuses (o : Outboxes) (n : Nat) (client : ClientId) (ops : List Operation)
    (frame : Frame) : Prop where
  lasts : ∀ op ∈ ops, op.ends client = false
  served : Operation.close n ∉ ops
  kept : ((o.run ops).send client frame).waiting n ≠ (o.run ops).waiting n ++ [frame.encode]

variable {o : Outboxes} {n : Nat} {client : ClientId} {box : Outbox} {op : Operation}
  {ops : List Operation} {frame : Frame}

theorem waiting_eq (h : o.boxes[n]? = some box) : o.waiting n = box.waiting := by
  rw [waiting, h]
  rfl

theorem overflowed_eq (h : o.boxes[n]? = some box) : o.overflowed n = box.overflowed := by
  rw [overflowed, h]
  rfl

/-! ## What an operation does to one outbox -/

/-- What an operation makes of an outbox. -/
def effect (o : Outboxes) (n : Nat) (box : Outbox) : Operation → Outbox
  | .send client frame =>
    if o.current.get? client = some n then box.push o.capacity frame.encode else box
  | .receive m => if m = n then box.pop.2 else box
  | .drain m => if m = n then { box with waiting := [] } else box
  | .close m => if m = n then { box with closed := true } else box
  | _ => box

/-- The frame that an operation adds to an outbox. -/
def queued (o : Outboxes) (n : Nat) (box : Outbox) : Operation → List Frame
  | .send client frame =>
    if o.current.get? client = some n ∧ box.HasRoom o.capacity then [frame] else []
  | _ => []

theorem getElem?_set_of {f : Outbox → Outbox} {other : Outbox} {m : Nat}
    (h : o.boxes[n]? = some box) (hother : o.boxes[m]? = some other) :
    (o.boxes.set m (f other))[n]? = some (if m = n then f box else box) := by
  obtain ⟨hlt, -⟩ := List.getElem?_eq_some_iff.1 h
  rw [List.getElem?_set]
  by_cases heq : m = n
  · subst heq
    rw [h] at hother
    cases hother
    rw [if_pos rfl, if_pos hlt, if_pos rfl]
  · rw [if_neg heq, if_neg heq, h]

/-- What an operation does to one outbox is its effect. -/
theorem boxes_after (h : o.boxes[n]? = some box) (op : Operation) :
    (o.after op).boxes[n]? = some (o.effect n box op) := by
  -- an outbox that does not exist is not the one the operation leaves behind
  have hne {m : Nat} (hm : o.boxes[m]? = none) : m ≠ n := by
    rintro rfl
    rw [h] at hm
    cases hm
  cases op with
  | register c => exact (List.getElem?_append_left (List.getElem?_eq_some_iff.1 h).1).trans h
  | unregister c => exact h
  | send c frame =>
    simp only [after, send, effect]
    cases hc : o.current.get? c with
    | none => simpa using h
    | some m => simp [List.getElem?_modify, h]
  | receive m =>
    simp only [after, receive, effect]
    cases hm : o.boxes[m]? with
    | none => rw [if_neg (hne hm)]; exact h
    | some other => exact getElem?_set_of (f := fun box => box.pop.2) h hm
  | drain m =>
    simp only [after, drain, effect]
    cases hm : o.boxes[m]? with
    | none => rw [if_neg (hne hm)]; exact h
    | some other => exact getElem?_set_of (f := fun box => { box with waiting := [] }) h hm
  | close m => simp [after, close, effect, List.getElem?_modify, h]

/-- What waited and what is added is what is taken and what waits after that. -/
theorem waiting_effect (h : o.boxes[n]? = some box) (op : Operation) :
    box.waiting ++ (o.queued n box op).map Frame.encode =
      o.taken n op ++ (o.effect n box op).waiting := by
  cases op with
  | register c => simp [queued, taken, effect]
  | unregister c => simp [queued, taken, effect]
  | send c frame =>
    simp only [queued, taken, effect, List.nil_append]
    by_cases hc : o.current.get? c = some n
    · rcases box.push_cases o.capacity frame.encode with ⟨hroom, hpush⟩ | ⟨hfull, hpush | hpush⟩
      · rw [if_pos ⟨hc, hroom⟩, if_pos hc, hpush]
        rfl
      · rw [if_neg fun hboth => hfull hboth.2, if_pos hc, hpush, List.map_nil, List.append_nil]
      · rw [if_neg fun hboth => hfull hboth.2, if_pos hc, hpush, List.map_nil, List.append_nil]
    · rw [if_neg fun hboth => hc hboth.1, if_neg hc, List.map_nil, List.append_nil]
  | receive m =>
    simp only [queued, taken, effect, List.map_nil, List.append_nil]
    split
    · rw [receive, h]
      exact box.pop_append.symm
    · rfl
  | drain m =>
    simp only [queued, taken, effect, List.map_nil, List.append_nil]
    split
    · rw [drain, h, List.append_nil]
    · rfl
  | close m =>
    simp only [queued, taken, effect, List.map_nil, List.append_nil]
    split <;> rfl

/-- Every effect lets an outbox follow what it was. -/
theorem follows_effect (o : Outboxes) (n : Nat) (box : Outbox) (op : Operation) :
    box.Follows o.capacity (o.effect n box op) := by
  cases op with
  | register c => exact .refl _ _
  | unregister c => exact .refl _ _
  | send c frame =>
    simp only [effect]
    split
    · exact Outbox.follows_push _ _ _
    · exact .refl _ _
  | receive m =>
    simp only [effect]
    split
    · exact Outbox.follows_pop _ _
    · exact .refl _ _
  | drain m =>
    simp only [effect]
    split
    · exact ⟨rfl, id, id, fun _ => Nat.zero_le _⟩
    · exact .refl _ _
  | close m =>
    simp only [effect]
    split
    · exact ⟨rfl, id, fun _ => rfl, id⟩
    · exact .refl _ _

/-- Nothing but closing an outbox closes it. -/
theorem closed_effect (ne : op ≠ .close n) : (o.effect n box op).closed = box.closed := by
  cases op with
  | register c => rfl
  | unregister c => rfl
  | send c frame =>
    simp only [effect]
    split
    · exact Outbox.closed_push _ _ _
    · rfl
  | receive m =>
    simp only [effect]
    split
    · exact box.closed_pop
    · rfl
  | drain m =>
    simp only [effect]
    split <;> rfl
  | close m =>
    have hne : m ≠ n := fun heq => ne (congrArg Operation.close heq)
    exact congrArg Outbox.closed (if_neg hne)

/-- Only sending something to a client adds something to its outbox. -/
theorem queued_sublist (owned : ∀ c, o.current.get? c = some n → c = client) (op : Operation) :
    (o.queued n box op).Sublist (op.sentTo client) := by
  cases op with
  | send c frame =>
    simp only [queued, Operation.sentTo]
    split
    · next h =>
      exact (if_pos (owned c h.1)).symm ▸ List.Sublist.refl [frame]
    · exact List.nil_sublist _
  | _ => exact List.nil_sublist _

/-! ## Registrations -/

/-- An operation that does not end a client's registration leaves the client its outbox. -/
theorem current_after_of_ends_eq_false (h : op.ends client = false) :
    (o.after op).current.get? client = o.current.get? client := by
  cases op with
  | register c =>
    have hne : client ≠ c := fun heq => of_decide_eq_false h heq.symm
    exact (Table.get?_insert ..).trans (if_neg hne)
  | unregister c =>
    have hne : client ≠ c := fun heq => of_decide_eq_false h heq.symm
    exact (Table.get?_erase ..).trans (if_neg hne)
  | send c frame =>
    simp only [after, send]
    split <;> rfl
  | receive m =>
    simp only [after, receive]
    split <;> rfl
  | drain m =>
    simp only [after, drain]
    split <;> rfl
  | close m => rfl

/-- After one that does, the client has no outbox or a new one. -/
theorem current_after_of_ends (h : op.ends client) :
    (o.after op).current.get? client = none ∨
      (o.after op).current.get? client = some o.boxes.length := by
  cases op with
  | register c => exact .inr ((Table.get?_insert ..).trans (if_pos (of_decide_eq_true h).symm))
  | unregister c => exact .inl ((Table.get?_erase ..).trans (if_pos (of_decide_eq_true h).symm))
  | _ => cases h

/-- Every registered client has an outbox of its own, and none holds more than it should. -/
structure Sound (o : Outboxes) : Prop where
  owned : ∀ client n, o.current.get? client = some n →
    ∃ box, o.boxes[n]? = some box ∧ box.client = client
  bounded : ∀ box ∈ o.boxes, box.waiting.length ≤ o.capacity

theorem sound_initial (capacity : Nat) : (initial capacity).Sound where
  owned _ _ h := nomatch h
  bounded := nofun

theorem capacity_after (o : Outboxes) (op : Operation) : (o.after op).capacity = o.capacity := by
  cases op with
  | send c frame => simp only [after, send]; split <;> rfl
  | receive m => simp only [after, receive]; split <;> rfl
  | drain m => simp only [after, drain]; split <;> rfl
  | _ => rfl

theorem length_boxes_after (o : Outboxes) (op : Operation) (ne : ∀ c, op ≠ .register c) :
    (o.after op).boxes.length = o.boxes.length := by
  cases op with
  | register c => exact absurd rfl (ne c)
  | unregister c => rfl
  | send c frame => simp only [after, send]; split <;> simp
  | receive m => simp only [after, receive]; split <;> simp
  | drain m => simp only [after, drain]; split <;> simp
  | close m => simp [after, close]

/-- The outboxes after an operation are those before, and a new one for a new registration. -/
theorem mem_boxes_after {box' : Outbox} (h : box' ∈ (o.after op).boxes) :
    (∃ n box, o.boxes[n]? = some box ∧ o.effect n box op = box') ∨
      ∃ c, op = .register c ∧ box' = .fresh c := by
  obtain ⟨n, hn⟩ := List.mem_iff_getElem?.1 h
  by_cases hreg : ∃ c, op = .register c
  · obtain ⟨c, rfl⟩ := hreg
    rcases List.mem_append.1 h with hold | hnew
    · obtain ⟨n, hn⟩ := List.mem_iff_getElem?.1 hold
      exact .inl ⟨n, box', hn, rfl⟩
    · exact .inr ⟨c, rfl, List.mem_singleton.1 hnew⟩
  · left
    have hlt := (List.getElem?_eq_some_iff.1 hn).1
    rw [length_boxes_after o op fun c heq => hreg ⟨c, heq⟩] at hlt
    have hbox := List.getElem?_eq_getElem hlt
    rw [boxes_after hbox op] at hn
    exact ⟨n, _, hbox, Option.some.inj hn⟩

/-- Every operation keeps outboxes sound. -/
theorem Sound.after (h : o.Sound) (op : Operation) : (o.after op).Sound := by
  constructor
  · intro client n hcurrent
    -- a registration changes only by an operation that ends the one before
    cases hends : op.ends client with
    | false =>
      rw [current_after_of_ends_eq_false hends] at hcurrent
      obtain ⟨box, hbox, hclient⟩ := h.owned client n hcurrent
      exact ⟨_, boxes_after hbox op, (follows_effect o n box op).client.trans hclient⟩
    | true =>
      cases op with
      | register c =>
        have hc : client = c := (of_decide_eq_true hends).symm
        have hn := (Table.get?_insert ..).symm.trans hcurrent
        rw [if_pos hc, Option.some.injEq] at hn
        refine ⟨.fresh c, ?_, hc.symm⟩
        rw [← hn]
        exact List.getElem?_concat_length
      | unregister c =>
        have hn := (Table.get?_erase ..).symm.trans hcurrent
        rw [if_pos (of_decide_eq_true hends).symm] at hn
        cases hn
      | _ => cases hends
  · intro box' hbox'
    rw [capacity_after]
    rcases mem_boxes_after hbox' with ⟨n, box, hbox, rfl⟩ | ⟨c, -, rfl⟩
    · exact (follows_effect o n box op).bounded (h.bounded box (List.mem_of_getElem? hbox))
    · exact Nat.zero_le _

theorem run_append_cons (o : Outboxes) (before rest : List Operation) (op : Operation) :
    o.run (before ++ op :: rest) = ((o.run before).after op).run rest :=
  List.foldl_append ..

theorem Sound.run (h : o.Sound) (ops : List Operation) : (o.run ops).Sound := by
  induction ops generalizing o with
  | nil => exact h
  | cons op ops ih => exact ih (h.after op)

theorem capacity_run (o : Outboxes) (ops : List Operation) : (o.run ops).capacity = o.capacity := by
  induction ops generalizing o with
  | nil => rfl
  | cons op ops ih => exact (ih (o.after op)).trans (capacity_after o op)

/-- A client keeps its outbox as long as no operation ends its registration. -/
theorem current_run_of_lasts (lasts : ∀ op ∈ ops, op.ends client = false) :
    (o.run ops).current.get? client = o.current.get? client := by
  induction ops generalizing o with
  | nil => rfl
  | cons op ops ih =>
    obtain ⟨hop, hops⟩ := List.forall_mem_cons.1 lasts
    exact (ih hops).trans (current_after_of_ends_eq_false hop)

/-- An outbox that some client has or had. -/
structure Holds (o : Outboxes) (n : Nat) (client : ClientId) (box : Outbox) : Prop where
  sound : o.Sound
  found : o.boxes[n]? = some box
  client : box.client = client

/-- An outbox that a client has or had is followed through every operation. -/
theorem Holds.after (h : o.Holds n client box) (op : Operation) :
    (o.after op).Holds n client (o.effect n box op) :=
  ⟨h.sound.after op, boxes_after h.found op, (follows_effect o n box op).client.trans h.client⟩

/-- No more frames wait in an outbox than there is room for. -/
theorem Holds.bounded (h : o.Holds n client box) : box.waiting.length ≤ o.capacity :=
  h.sound.bounded box (List.mem_of_getElem? h.found)

/-- No other client is registered with the outbox. -/
theorem Holds.owned (h : o.Holds n client box) (c : ClientId)
    (current : o.current.get? c = some n) : c = client := by
  obtain ⟨box', hfound, hclient⟩ := h.sound.owned c n current
  rw [h.found, Option.some.injEq] at hfound
  rw [← hclient, ← hfound, h.client]

/-- Once the registration ended, no later one has its outbox. -/
theorem Holds.current_after_of_ends (h : o.Holds n client box) (ends : op.ends client) :
    (o.after op).current.get? client ≠ some n := by
  have hlt := (List.getElem?_eq_some_iff.1 h.found).1
  rcases Outboxes.current_after_of_ends (o := o) ends with hnone | hnew
  · rw [hnone]
    exact nofun
  · rw [hnew, Ne, Option.some.injEq]
    omega

/-- A client does not get an outbox back that it no longer has. -/
theorem Holds.current_after_of_ne (h : o.Holds n client box)
    (ended : o.current.get? client ≠ some n) (op : Operation) :
    (o.after op).current.get? client ≠ some n := by
  cases hends : op.ends client with
  | false =>
    rw [current_after_of_ends_eq_false hends]
    exact ended
  | true => exact h.current_after_of_ends hends

/-! ## What is let into an outbox -/

/-- The frames that operations one after another add to an outbox. -/
def accepted (o : Outboxes) (n : Nat) (box : Outbox) : List Operation → List Frame
  | [] => []
  | op :: ops => o.queued n box op ++ (o.after op).accepted n (o.effect n box op) ops

/-- What waited first and what is let in comes out in this order, or waits at the end. -/
theorem Holds.run (h : o.Holds n client box) (ops : List Operation) :
    ∃ box', (o.run ops).Holds n client box' ∧ box.Follows o.capacity box' ∧
      box.waiting ++ (o.accepted n box ops).map Frame.encode =
        o.received n ops ++ box'.waiting := by
  -- the operations one by one; what waits at the end is what came in less what went out
  induction ops generalizing o box with
  | nil => exact ⟨box, h, .refl _ _, List.append_nil _⟩
  | cons op ops ih =>
    obtain ⟨box', hholds, hfollows, hwaiting⟩ := ih (h.after op)
    rw [capacity_after] at hfollows
    have hop := follows_effect o n box op
    refine ⟨box', hholds, ⟨hfollows.client.trans hop.client, hfollows.overflowed ∘ hop.overflowed,
      hfollows.closed ∘ hop.closed, hfollows.bounded ∘ hop.bounded⟩, ?_⟩
    calc box.waiting ++ (o.accepted n box (op :: ops)).map Frame.encode
        = (box.waiting ++ (o.queued n box op).map Frame.encode) ++
            ((o.after op).accepted n (o.effect n box op) ops).map Frame.encode := by
          rw [accepted, List.map_append, List.append_assoc]
      _ = o.taken n op ++ ((o.effect n box op).waiting ++
            ((o.after op).accepted n (o.effect n box op) ops).map Frame.encode) := by
          rw [waiting_effect h.found, List.append_assoc]
      _ = o.received n (op :: ops) ++ box'.waiting := by
          rw [hwaiting, received, List.append_assoc]

/-- An outbox is not closed unless it is closed by its server. -/
theorem closed_run {box' : Outbox} (h : o.Holds n client box) (served : Operation.close n ∉ ops)
    (found : (o.run ops).boxes[n]? = some box') : box'.closed = box.closed := by
  induction ops generalizing o box with
  | nil =>
    have hsame := h.found.symm.trans found
    rw [Option.some.inj hsame]
  | cons op ops ih =>
    obtain ⟨hop, hops⟩ := not_or.1 (mt List.mem_cons.2 served)
    exact (ih (h.after op) hops found).trans (closed_effect (Ne.symm hop))

/-- Nothing is let in when the registration is over. -/
theorem Holds.accepted_of_ended (h : o.Holds n client box)
    (ended : o.current.get? client ≠ some n) (ops : List Operation) :
    o.accepted n box ops = [] := by
  induction ops generalizing o box with
  | nil => rfl
  | cons op ops ih =>
    have hnone : o.queued n box op = [] := by
      -- who would be registered with the outbox is its client, and that one is not
      have hnobody (c : ClientId) : o.current.get? c ≠ some n := fun hc =>
        ended (h.owned c hc ▸ hc)
      cases op with
      | send c frame => exact if_neg fun hboth => hnobody c hboth.1
      | _ => rfl
    rw [accepted, hnone, ih (h.after op) (h.current_after_of_ne ended op), List.append_nil]

/-- Nothing is let in when nobody takes frames any more. -/
theorem accepted_of_closed (closed : box.closed) (ops : List Operation) :
    o.accepted n box ops = [] := by
  induction ops generalizing o box with
  | nil => rfl
  | cons op ops ih =>
    have hnone : o.queued n box op = [] := by
      cases op with
      | send c frame => exact if_neg fun hboth => Bool.false_ne_true (hboth.2.1.symm.trans closed)
      | _ => rfl
    rw [accepted, hnone, ih ((follows_effect o n box op).closed closed), List.append_nil]

theorem during_cons (op : Operation) (ops : List Operation) :
    during client (op :: ops) = if op.ends client then [] else op :: during client ops := by
  rw [during, List.takeWhile_cons]
  cases op.ends client <;> rfl

/-- What is let in was sent to the client while the registration lasted. -/
theorem Holds.accepted_sublist (h : o.Holds n client box)
    (current : o.current.get? client = some n) (ops : List Operation) :
    (o.accepted n box ops).Sublist (sends client (during client ops)) := by
  induction ops generalizing o box with
  | nil => exact List.nil_sublist _
  | cons op ops ih =>
    cases hends : op.ends client with
    | false =>
      rw [during_cons, hends, if_neg Bool.false_ne_true, sends, List.flatMap_cons]
      refine (queued_sublist h.owned op).append (ih (h.after op) ?_)
      rw [current_after_of_ends_eq_false hends, current]
    | true =>
      -- the operation that ends the registration queues nothing here, and later ones cannot
      have hnone : o.queued n box op = [] := by
        cases op with
        | send c frame => cases hends
        | _ => rfl
      rw [accepted, hnone, (h.after op).accepted_of_ended (h.current_after_of_ends hends)]
      exact List.nil_sublist _

/-! ## Refused frames -/

/-- A frame for a client is pushed into the outbox that the client has. -/
theorem boxes_send (h : o.boxes[n]? = some box) (current : o.current.get? client = some n)
    (frame : Frame) :
    (o.send client frame).boxes[n]? = some (box.push o.capacity frame.encode) :=
  (boxes_after h (.send client frame)).trans (congrArg some (if_pos current))

/-- What is refused later is refused, if the registration lasts until then. -/
theorem Refuses.cons (h : (o.after op).Refuses n client ops frame) (lasts : op.ends client = false)
    (ne : op ≠ .close n) : o.Refuses n client (op :: ops) frame where
  lasts := List.forall_mem_cons.2 ⟨lasts, h.lasts⟩
  served := List.not_mem_cons_of_ne_of_not_mem (Ne.symm ne) h.served
  kept := h.kept

/-- An outbox without room refuses a frame. -/
theorem refuses_of_not_hasRoom (h : o.boxes[n]? = some box)
    (current : o.current.get? client = some n) (full : ¬ box.HasRoom o.capacity) :
    o.Refuses n client [] frame where
  lasts := nofun
  served := nofun
  kept := by
    have hsame : (box.push o.capacity frame.encode).waiting = box.waiting := by
      rcases box.push_cases o.capacity frame.encode with ⟨hroom, -⟩ | ⟨-, hpush | hpush⟩
      · exact absurd hroom full
      · rw [hpush]
      · rw [hpush]
    show (o.send client frame).waiting n ≠ o.waiting n ++ [frame.encode]
    rw [waiting_eq (boxes_send h current frame), waiting_eq h, hsame]
    exact fun heq => List.cons_ne_nil _ _ (List.self_eq_append_right.1 heq)

/-- A frame is refused only when the outbox is full, and that is noted for good. -/
theorem Holds.overflow (h : o.Holds n client box) (current : o.current.get? client = some n)
    (opened : box.closed = false) (refused : o.Refuses n client ops frame)
    (rest : List Operation) :
    ((o.run ops).waiting n).length = o.capacity ∧
      (o.run (ops ++ .send client frame :: rest)).overflowed n := by
  obtain ⟨box', hholds, -, -⟩ := h.run ops
  have hcurrent := (current_run_of_lasts (o := o) refused.lasts).trans current
  have hclosed := (closed_run h refused.served hholds.found).trans opened
  have hsent := boxes_send hholds.found hcurrent frame
  have hle := hholds.bounded
  have hkept := refused.kept
  rw [waiting_eq hsent, waiting_eq hholds.found] at hkept
  have hfull : (o.run ops).capacity ≤ box'.waiting.length := by
    -- with room left the frame would have been let in
    by_contra hlt
    exact hkept (by rw [Outbox.push_of_hasRoom ⟨hclosed, Nat.lt_of_not_le hlt⟩])
  rw [waiting_eq hholds.found, ← capacity_run o ops]
  refine ⟨Nat.le_antisymm hle hfull, ?_⟩
  obtain ⟨last, hlast, hfollows, -⟩ := (hholds.after (.send client frame)).run rest
  rw [run_append_cons]
  refine (overflowed_eq hlast.found).trans (hfollows.overflowed ?_)
  rw [effect, if_pos hcurrent, Outbox.push_of_full hclosed hfull]

/-- As long as no frame is refused, what is let in is a beginning of what is sent while the
registration lasts, and all of it if the outbox is served that long. -/
theorem Holds.accepted_prefix (h : o.Holds n client box)
    (current : o.current.get? client = some n) (opened : box.closed = false)
    (smooth : ∀ before frame rest, ops = before ++ .send client frame :: rest →
      ¬ o.Refuses n client before frame) :
    o.accepted n box ops <+: sends client (during client ops) ∧
      (Operation.close n ∉ during client ops →
        o.accepted n box ops = sends client (during client ops)) := by
  induction ops generalizing o box with
  | nil => exact ⟨List.nil_prefix, fun _ => rfl⟩
  | cons op ops ih =>
    cases hends : op.ends client with
    | true =>
      have hnone := h.accepted_sublist current (op :: ops)
      rw [during_cons, hends, if_pos rfl] at hnone ⊢
      rw [List.sublist_nil.1 hnone]
      exact ⟨List.nil_prefix, fun _ => rfl⟩
    | false =>
      rw [during_cons, hends, if_neg Bool.false_ne_true]
      by_cases hclose : op = .close n
      · subst hclose
        -- nothing is let in from here on
        have hclosed : (o.effect n box (.close n)).closed := by rw [effect, if_pos rfl]
        rw [accepted, accepted_of_closed hclosed]
        exact ⟨List.nil_prefix, fun hserved => absurd List.mem_cons_self hserved⟩
      · have hqueued : o.queued n box op = op.sentTo client := by
          cases op with
          | send c frame =>
            by_cases hc : c = client
            · subst hc
              by_cases hroom : box.HasRoom o.capacity
              · rw [queued, if_pos ⟨current, hroom⟩, Operation.sentTo, if_pos rfl]
              · exact absurd (refuses_of_not_hasRoom h.found current hroom)
                  (smooth [] frame ops rfl)
            · rw [Operation.sentTo, if_neg hc]
              exact if_neg fun hboth => hc (h.owned c hboth.1)
          | _ => rfl
        obtain ⟨hfront, hall⟩ := ih (h.after op)
          ((current_after_of_ends_eq_false hends).trans current)
          ((closed_effect hclose).trans opened)
          (fun before frame rest heq hrefuses =>
            smooth (op :: before) frame rest (congrArg (op :: ·) heq) (hrefuses.cons hends hclose))
        rw [accepted, hqueued, sends, List.flatMap_cons]
        refine ⟨(List.prefix_append_right_inj _).2 hfront, fun hserved => ?_⟩
        rw [hall (List.not_mem_of_not_mem_cons hserved), sends]

/-! ## What a client receives -/

/-- What a world sends a client are the frames that a server that records would list. -/
theorem recorded_sends (w : World) {b : Binding} {i : ServerId} (bound : b.get? w.servers = some i)
    (client : ClientId) (messages : List Outgoing) :
    (sends client (messages.map fun m => .send m.client m.message.frame)).map Frame.unread =
      ((({ w with record := [] } : World).send b messages).takeRecordOf i client).1.map
        fun m => m.message.frame := by
  rw [World.send, bound]
  simp only [World.takeRecordOf, List.nil_append, List.filter_map, List.map_map, Function.comp_def,
    decide_true, Bool.true_and]
  induction messages with
  | nil => rfl
  | cons m messages ih =>
    rw [List.map_cons, sends, List.flatMap_cons, List.map_append, ← sends, ih, Operation.sentTo,
      List.filter_cons]
    -- messages to other clients are in neither list
    split
    · next heq =>
      rw [if_pos (decide_eq_true heq), List.map_cons, List.map_cons, ServerMessage.unread_frame]
      rfl
    · next hne =>
      rw [if_neg (mt of_decide_eq_true hne)]
      rfl

/-- A client that registers has an empty outbox of its own. -/
theorem holds_register (h : o.Sound) (client : ClientId) :
    (o.register client).Holds o.boxes.length client (.fresh client) where
  sound := h.after (.register client)
  found := List.getElem?_concat_length
  client := rfl

/-- A registration of a client, after whatever was done with the outboxes before. Its outbox is its
own and never holds more than it should; what is taken from it and what waits there was sent to the
client while the registration lasted and comes in the order in which it was sent. A frame is refused
only when the outbox is full, and the overflow is noted for good. If no frame is refused, the frames
received are a beginning of those that a recording server lists for the client, and all of them once
nothing waits; only an outbox that nobody serves any more may miss some. -/
theorem received_in_full_or_overflowed (config : ServerConfig) (before after : List Operation)
    (client : ClientId) :
    let earlier := (initial config.queueCapacity).run before
    let n := earlier.boxes.length
    let opened := earlier.register client
    let o := opened.run after
    let sent := sends client (during client after)
    let got := opened.received n after
    ((∃ box, o.boxes[n]? = some box ∧ box.client = client) ∧
      (o.waiting n).length ≤ config.queueCapacity) ∧
    (∃ frames : List Frame, frames.Sublist sent ∧ got ++ o.waiting n = frames.map Frame.encode) ∧
    (∀ mid frame rest, after = mid ++ .send client frame :: rest →
      opened.Refuses n client mid frame →
      ((opened.run mid).waiting n).length = config.queueCapacity ∧ o.overflowed n) ∧
    ((∀ mid frame rest, after = mid ++ .send client frame :: rest →
        ¬ opened.Refuses n client mid frame) →
      got.map Frame.decode <+: sent.map (fun frame => .ok frame.unread) ∧
      (o.waiting n = [] → Operation.close n ∉ during client after →
        got.map Frame.decode = sent.map fun frame => .ok frame.unread)) ∧
    ∀ (w : World) (b : Binding) (i : ServerId) (messages : List Outgoing),
      b.get? w.servers = some i →
      (sends client (messages.map fun m => .send m.client m.message.frame)).map Frame.unread =
        ((({ w with record := [] } : World).send b messages).takeRecordOf i client).1.map
          fun m => m.message.frame := by
  intro earlier n opened o sent got
  have hearlier : earlier.Sound := (sound_initial _).run before
  have hcapacity : earlier.capacity = config.queueCapacity := capacity_run _ before
  have hopened : opened.Holds n client (.fresh client) := holds_register hearlier client
  have hcurrent : opened.current.get? client = some n :=
    (Table.get?_insert ..).trans (if_pos rfl)
  obtain ⟨box, hholds, -, hwaiting⟩ := hopened.run after
  have hwaits : o.waiting n = box.waiting := waiting_eq hholds.found
  have hdecode (frames : List Frame) :
      (frames.map Frame.encode).map Frame.decode = frames.map fun frame => .ok frame.unread := by
    rw [List.map_map]
    exact List.map_congr_left fun frame _ => frame.decode_encode
  refine ⟨⟨⟨box, hholds.found, hholds.client⟩, ?_⟩, ?_, ?_, ?_, ?_⟩
  · rw [hwaits, ← hcapacity]
    exact hholds.bounded.trans_eq (capacity_run _ _)
  · refine ⟨_, hopened.accepted_sublist hcurrent after, ?_⟩
    rw [hwaits]
    exact hwaiting.symm
  · rintro mid frame rest rfl hrefuses
    rw [← hcapacity]
    exact hopened.overflow hcurrent rfl hrefuses rest
  · intro smooth
    obtain ⟨hfront, hall⟩ := hopened.accepted_prefix hcurrent rfl smooth
    -- what was let in is what was taken, followed by what waits
    have hgot : got.map Frame.decode ++ box.waiting.map Frame.decode =
        (opened.accepted n (.fresh client) after).map fun frame => .ok frame.unread := by
      rw [← List.map_append, ← hwaiting, ← hdecode]
      rfl
    refine ⟨?_, fun hempty hserved => ?_⟩
    · exact (hgot ▸ List.prefix_append _ _).trans (hfront.map _)
    · rw [hall hserved, ← hwaits, hempty, List.map_nil, List.append_nil] at hgot
      exact hgot
  · exact fun w b i messages bound => recorded_sends w bound client messages

theorem received_in_full_or_overflowed_with_one_place :
    let config : ServerConfig := { outboundQueueLen := 1 }
    let client : ClientId := ⟨7⟩
    let hello : Frame := ⟨.channel, 1, .ofBytes [0]⟩
    let bye : Frame := ⟨.channel, 3, .ofBytes [1, 2]⟩
    let opened := (initial config.queueCapacity).register client
    (opened.received 0
        [.send client hello, .receive 0, .send client bye, .receive 0]).map Frame.decode =
      [.ok hello, .ok bye] ∧
    (opened.run [.send client hello, .send client bye]).overflowed 0 := by
  intro config client hello bye opened
  constructor
  · refine ((received_in_full_or_overflowed config [] _ client).2.2.2.1 ?_).2 rfl (by decide)
    intro mid frame rest heq h
    -- two frames are sent, and each finds the one place empty
    rcases mid with _ | ⟨_, _ | ⟨_, _ | ⟨_, _ | ⟨_, mid⟩⟩⟩⟩ <;>
      simp only [List.nil_append, List.cons_append, List.cons.injEq, Operation.send.injEq,
        reduceCtorEq, false_and, and_false] at heq
    · obtain ⟨⟨-, rfl⟩, -⟩ := heq
      exact h.kept (by decide +kernel)
    · obtain ⟨rfl, rfl, ⟨-, rfl⟩, -⟩ := heq
      exact h.kept (by decide +kernel)
    · exact List.cons_ne_nil _ _ (List.append_eq_nil_iff.1 heq.2.2.2.2.symm).2
  · refine ((received_in_full_or_overflowed config [] _ client).2.2.1 [.send client hello] bye []
      rfl ⟨by decide, by decide, by decide +kernel⟩).2

end Outboxes

end Live

end ChatServer
