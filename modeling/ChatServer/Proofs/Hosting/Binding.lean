import ChatServer.Proofs.History
import ChatServer.Proofs.Hosting.Servers

/-!
# One running server at a time

A component asks its binding for its server. The answer depends on the binding and on servers that
come and go elsewhere; it is pinned down here by the history of both: the binding names the server
of the last attempt that was granted, and that server counts while it runs. An attempt is granted
exactly when there would be no answer, so a component changes its server only if the first one is
gone or was given up.
-/

namespace ChatServer

namespace Binding

/-- A binding to a running server stays as it is, and any other one is replaced. -/
theorem bind_cases (b : Binding) (servers : Servers) (type : ComponentType) (i : ServerId) :
    b.get? servers = Option.none ∧ b.bind servers type i = .ok ⟨some i⟩ ∨
      (∃ j, b.get? servers = some j) ∧ b.bind servers type i =
        .error (.initializationFailed type "already bound to a running server") := by
  unfold bind
  cases b.get? servers with
  | none => exact .inl ⟨rfl, rfl⟩
  | some j => exact .inr ⟨⟨j, rfl⟩, rfl⟩

end Binding

/-- A component's binding among the servers that there are. -/
structure Tenancy where
  servers : Servers
  binding : Binding

namespace Tenancy

/-- What happens to servers and to the binding. -/
inductive Event where
  | create
  | drop (server : ServerId)
  /-- A component of some type attempts to bind to a server. -/
  | bind (type : ComponentType) (server : ServerId)
  | clear
  /-- The component asks for its server. -/
  | get
deriving DecidableEq, Repr

/-- What an event answers. -/
inductive Reply where
  | done
  | bound (outcome : Except ComponentError Unit)
  | got (outcome : Except HandleError ServerId)

/-- No servers yet, and a binding to none. -/
def initial : Tenancy := ⟨[], .none⟩

/-- The server that the component is bound to and that runs. -/
def server? (t : Tenancy) : Option ServerId := t.binding.get? t.servers

/-- Lets an event happen. -/
def step (t : Tenancy) : Event → Tenancy × Reply
  | .create => ({ t with servers := t.servers.create }, .done)
  | .drop i => ({ t with servers := t.servers.drop i }, .done)
  | .bind type i =>
    match t.binding.bind t.servers type i with
    | .ok binding => ({ t with binding }, .bound (.ok ()))
    | .error e => (t, .bound (.error e))
  | .clear => ({ t with binding := .none }, .done)
  | .get =>
    match t.server? with
    | some i => (t, .got (.ok i))
    | none => (t, .got (.error .notInitialized))

/-- Lets events happen one after another. -/
def run (t : Tenancy) (events : List Event) : Tenancy := events.foldl (fun t e => (t.step e).1) t

/-- An attempt to bind to a server is granted. -/
def Binds (t : Tenancy) (e : Event) (i : ServerId) : Prop :=
  ∃ type, e = .bind type i ∧ (t.step e).2 = .bound (.ok ())

/-- The last attempt that was granted was for this server, and the binding was not cleared since. -/
def LastBound (events : List Event) (i : ServerId) : Prop :=
  Lasting (fun before e => (initial.run before).Binds e i)
    (fun before e => e ≠ .clear ∧ ∀ j, ¬(initial.run before).Binds e j) events

/-- The server was created and not dropped since. -/
def Running (events : List Event) (i : ServerId) : Prop :=
  Lasting (fun before e => e = .create ∧ before.count .create = i) (fun _ e => e ≠ .drop i) events

variable {t : Tenancy} {i j : ServerId} {type : ComponentType} {e : Event} {events : List Event}

theorem run_append (t : Tenancy) (before after : List Event) :
    t.run (before ++ after) = (t.run before).run after :=
  List.foldl_append

theorem run_snoc (t : Tenancy) (events : List Event) (e : Event) :
    t.run (events ++ [e]) = ((t.run events).step e).1 :=
  run_append t events [e]

/-! ## One event -/

/-- A binding leads to a server as long as that one runs. -/
theorem server?_eq_some_iff : t.server? = some i ↔ t.binding.server = some i ∧ t.servers.isLive i :=
  Option.filter_eq_some_iff

/-- An attempt to bind is granted, and moves the binding, or is refused and changes nothing. -/
theorem step_bind (t : Tenancy) (type : ComponentType) (i : ServerId) :
    t.server? = none ∧ t.step (.bind type i) = ({ t with binding := ⟨some i⟩ }, .bound (.ok ())) ∨
      (∃ j, t.server? = some j) ∧ t.step (.bind type i) =
        (t, .bound (.error (.initializationFailed type "already bound to a running server"))) := by
  rcases t.binding.bind_cases t.servers type i with ⟨hnone, hbind⟩ | ⟨hsome, hbind⟩
  · exact .inl ⟨hnone, by simp only [step, hbind]⟩
  · exact .inr ⟨hsome, by simp only [step, hbind]⟩

/-- To bind is granted exactly if no server would be found. -/
theorem granted_iff : (t.step (.bind type i)).2 = .bound (.ok ()) ↔ t.server? = none := by
  rcases t.step_bind type i with ⟨hnone, hstep⟩ | ⟨⟨j, hj⟩, hstep⟩
  · rw [hstep, hnone]
    exact iff_of_true rfl rfl
  · rw [hstep, hj]
    exact iff_of_false nofun nofun

/-- What a binding gets is the server that it leads to. -/
theorem got_iff : (t.step .get).2 = .got (.ok i) ↔ t.server? = some i := by
  simp only [step]
  cases t.server? with
  | none => simp
  | some j => simp

/-- A binding without a running server says that it is not initialized. -/
theorem not_initialized_iff :
    (t.step .get).2 = .got (.error .notInitialized) ↔ t.server? = none := by
  simp only [step]
  cases t.server? with
  | none => simp
  | some j => simp

/-- The component keeps its server until that one is dropped or given up. -/
theorem server?_step (h : t.server? = some i) (undropped : e ≠ .drop i) (uncleared : e ≠ .clear) :
    (t.step e).1.server? = some i := by
  have hsome := server?_eq_some_iff.1 h
  cases e with
  | create => exact server?_eq_some_iff.2 ⟨hsome.1, Servers.isLive_create.2 (.inr hsome.2)⟩
  | drop j =>
    have hne : i ≠ j := fun heq => undropped (congrArg Event.drop heq.symm)
    exact server?_eq_some_iff.2 ⟨hsome.1, Servers.isLive_drop.2 ⟨hsome.2, hne⟩⟩
  | bind type j =>
    rcases t.step_bind type j with ⟨hnone, -⟩ | ⟨-, hstep⟩
    · rw [h] at hnone
      cases hnone
    · rw [hstep]
      exact h
  | clear => exact absurd rfl uncleared
  | get =>
    simp only [step]
    rw [h]
    exact h

/-- A server that a binding leads to stays until it is dropped or the binding is cleared. -/
theorem server?_run (h : t.server? = some i) (undropped : .drop i ∉ events)
    (uncleared : .clear ∉ events) : (t.run events).server? = some i := by
  induction events generalizing t with
  | nil => exact h
  | cons e events ih =>
    have hdrop := not_or.1 (mt List.mem_cons.2 undropped)
    have hclear := not_or.1 (mt List.mem_cons.2 uncleared)
    exact ih (server?_step h (Ne.symm hdrop.1) (Ne.symm hclear.1)) hdrop.2 hclear.2

/-! ## Histories -/

/-- Servers are numbered in the order in which they were created. -/
theorem length_servers_run (events : List Event) :
    (initial.run events).servers.length = events.count .create := by
  -- by the last event: only the creation of a server adds one
  induction events using List.reverseRecOn with
  | nil => rfl
  | append_singleton events e ih =>
    rw [run_snoc, List.count_append, ← ih]
    cases e with
    | create => exact List.length_append
    | drop j => exact List.length_modify ..
    | bind type j =>
      rcases (initial.run events).step_bind type j with ⟨-, hstep⟩ | ⟨-, hstep⟩
      · rw [hstep]
        rfl
      · rw [hstep]
        rfl
    | clear => rfl
    | get =>
      simp only [step]
      split <;> rfl

/-- A server runs if it was created and not dropped since. -/
theorem isLive_run (events : List Event) (i : ServerId) :
    (initial.run events).servers.isLive i ↔ Running events i := by
  -- by the last event, which is what `Running` looks at as well
  induction events using List.reverseRecOn with
  | nil => exact iff_of_false Bool.false_ne_true (not_lasting_nil _ _)
  | append_singleton events e ih =>
    rw [run_snoc, Running, lasting_snoc, ← Running, ← ih]
    cases e with
    | create =>
      rw [← length_servers_run]
      simp [step, Servers.isLive_create, @eq_comm _ i]
    | drop j => simp [step, Servers.isLive_drop, @eq_comm _ i]
    | bind type j =>
      rcases (initial.run events).step_bind type j with ⟨-, hstep⟩ | ⟨-, hstep⟩
      · simp [hstep]
      · simp [hstep]
    | clear => simp [step]
    | get =>
      simp only [step]
      split <;> simp

/-- The binding names the server of the last attempt that was granted. -/
theorem binding_run (events : List Event) (i : ServerId) :
    (initial.run events).binding.server = some i ↔ LastBound events i := by
  induction events using List.reverseRecOn with
  | nil => exact iff_of_false nofun (not_lasting_nil _ _)
  | append_singleton events e ih =>
    rw [run_snoc, LastBound, lasting_snoc, ← LastBound, ← ih]
    cases e with
    | create => simp [step, Binds]
    | drop j => simp [step, Binds]
    | bind type j =>
      -- a refused request binds nothing, and `Binds` counts granted ones only
      rcases (initial.run events).step_bind type j with ⟨-, hstep⟩ | ⟨-, hstep⟩ <;>
        simp [Binds, hstep]
    | clear => simp [step, Binds, Binding.none]
    | get =>
      simp only [step, Binds]
      split <;> simp

/-- The binding leads to the server that the last granted event bound, if it still runs. -/
theorem server?_initial_run (events : List Event) (i : ServerId) :
    (initial.run events).server? = some i ↔ LastBound events i ∧ Running events i := by
  rw [server?_eq_some_iff, binding_run, isLive_run]

/-- A component that asks for its server is given the one of the last granted attempt that was not
cleared since, if this server runs, and is told else that there is none. An attempt is granted
exactly when there is none; an attempt that is refused changes nothing. So another server is only
given when the first one was dropped or the binding was cleared in between. -/
theorem serves_one_server_at_a_time (events : List Event) :
    let t := initial.run events
    (∀ i, (t.step .get).2 = .got (.ok i) ↔ LastBound events i ∧ Running events i) ∧
    ((t.step .get).2 = .got (.error .notInitialized) ↔
      ¬∃ i, LastBound events i ∧ Running events i) ∧
    (∀ type i,
      ((t.step (.bind type i)).2 = .bound (.ok ()) ↔
        (t.step .get).2 = .got (.error .notInitialized)) ∧
      ((t.step (.bind type i)).2 ≠ .bound (.ok ()) →
        t.step (.bind type i) =
          (t, .bound (.error (.initializationFailed type "already bound to a running server"))))) ∧
    ∀ later i j, (t.step .get).2 = .got (.ok i) →
      ((t.run later).step .get).2 = .got (.ok j) → i ≠ j → .drop i ∈ later ∨ .clear ∈ later := by
  intro t
  refine ⟨fun i => ?_, ?_, fun type i => ⟨?_, fun hrefused => ?_⟩, fun later i j hi hj hne => ?_⟩
  · rw [got_iff, server?_initial_run]
  · rw [not_initialized_iff, Option.eq_none_iff_forall_ne_some, not_exists]
    exact forall_congr' fun i => not_congr (server?_initial_run events i)
  · rw [granted_iff, not_initialized_iff]
  · rcases t.step_bind type i with ⟨-, hstep⟩ | ⟨-, hstep⟩
    · exact absurd (congrArg Prod.snd hstep) hrefused
    · exact hstep
  -- without a drop or a clear in between, the later answer is the earlier one
  · by_contra hkept
    obtain ⟨hdrop, hclear⟩ := not_or.1 hkept
    have hsame := server?_run (got_iff.1 hi) hdrop hclear
    rw [got_iff.1 hj, Option.some.injEq] at hsame
    exact hne hsame.symm

theorem serves_one_server_at_a_time_after_drop :
    let t := initial.run [.create, .bind .user 0]
    let later := [.drop 0, .create, .bind .user 1]
    (t.step .get).2 = .got (.ok 0) ∧ ((t.run later).step .get).2 = .got (.ok 1) ∧
      (.drop 0 ∈ later ∨ .clear ∈ later) :=
  ⟨rfl, rfl, (serves_one_server_at_a_time [.create, .bind .user 0]).2.2.2
    [.drop 0, .create, .bind .user 1] 0 1 rfl rfl Nat.zero_ne_one⟩

end Tenancy

end ChatServer
