import ChatServer.Proofs.Hosting.Binding
import ChatServer.Proofs.World.Runs
import ChatServer.Proofs.World.Serving

/-!
# Registrations that fail

A server that is given a component first keeps a place for it and then binds it. If the place is
taken nothing happens at all. If the component runs elsewhere it stays bound there, but the place is
not given back: from then on the server takes no component of this type any more.
-/

namespace ChatServer

namespace World

variable {rules : Rules} {w : World} {c : ComponentId} {i : ServerId} {type : ComponentType}

/-- The binding of a component. One that was just made has none. -/
def bindingOf (w : World) : ComponentId → Binding
  | .users => w.users.binding
  | .channels => w.channels.binding
  | _ => .none

/-- The running server that a component is bound to. -/
def serverOf? (w : World) (c : ComponentId) : Option ServerId := (w.bindingOf c).get? w.servers

/-! ## One registration -/

/-- A component that runs nowhere is bound, and any other one stays as it is. -/
theorem attach_cases (w : World) (c : ComponentId) (i : ServerId) :
    w.serverOf? c = none ∧ (w.attach c i).2 = .ok () ∨
      (∃ j, w.serverOf? c = some j) ∧ w.attach c i =
        (w, .error (.initializationFailed c.type "already bound to a running server")) := by
  rw [attach_eq]
  cases c with
  | users =>
    rcases w.users.binding.bind_cases w.servers .user i with ⟨hnone, hbind⟩ | ⟨hsome, hbind⟩
    · exact .inl ⟨hnone, by simp only [rebound, hbind, Except.map]⟩
    · exact .inr ⟨hsome, by simp only [rebound, hbind, Except.map]; rfl⟩
  | channels =>
    rcases w.channels.binding.bind_cases w.servers .channel i with ⟨hnone, hbind⟩ | ⟨hsome, hbind⟩
    · exact .inl ⟨hnone, by simp only [rebound, hbind, Except.map]⟩
    · exact .inr ⟨hsome, by simp only [rebound, hbind, Except.map]; rfl⟩
  | freshChannels => exact .inl ⟨rfl, rfl⟩
  | freshForeign => exact .inl ⟨rfl, rfl⟩

/-- To place a component does not change which server a service is bound to. -/
theorem serverOf?_place (w : World) (c d : ComponentId) (i : ServerId) :
    serverOf? { w with servers := w.servers.place i d } c = w.serverOf? c := by
  have hbinding : bindingOf { w with servers := w.servers.place i d } c = w.bindingOf c := by
    cases c <;> rfl
  simp only [serverOf?, hbinding, Binding.get?, Servers.isLive_place]

/-- A component whose place is taken is refused, and nothing changes. -/
theorem register_of_taken (taken : ∃ d, w.servers.component? i c.type = some d) :
    w.register c i = (w, .error (.duplicate c.type)) := by
  obtain ⟨d, hd⟩ := taken
  simp only [register, hd]

/-- The component goes to its place, and then it is bound or stays with the server where it runs. -/
theorem register_of_free (free : w.servers.component? i c.type = none) :
    w.serverOf? c = none ∧ (w.register c i).2 = .ok () ∨
      (∃ j, w.serverOf? c = some j) ∧ w.register c i =
        ({ w with servers := w.servers.place i c },
          .error (.initializationFailed c.type "already bound to a running server")) := by
  simp only [register, free]
  have hcases := attach_cases { w with servers := w.servers.place i c } c i
  rwa [serverOf?_place] at hcases

/-! ## Places are kept -/

/-- A component keeps its place when others are registered. -/
theorem component?_register {d : ComponentId} {j : ServerId}
    (h : w.servers.component? i type = some c) :
    (w.register d j).1.servers.component? i type = some c := by
  unfold register
  split
  · exact h
  · next free =>
    rw [servers_attach]
    by_cases hij : i = j
    · subst hij
      have htype : type ≠ d.type := by
        rintro rfl
        rw [h] at free
        cases free
      obtain ⟨s, hs, -⟩ := Option.bind_eq_some_iff.1 h
      rw [Servers.component?_place (List.getElem?_eq_some_iff.1 hs).1, if_neg htype, h]
    · rw [Servers.component?_place_of_ne _ hij, h]

/-- No step takes a component from its place. -/
theorem component?_step (h : w.servers.component? i type = some c) (st : Step) :
    (w.step rules st).1.servers.component? i type = some c := by
  -- only a registration puts a component anywhere
  cases st with
  | createServer => exact (congrFun (w.servers.component?_create i) type).trans h
  | dropServer j => exact (congrFun (w.servers.component?_drop i j) type).trans h
  | register d j => exact component?_register h
  | attach d j =>
    show (w.attach d j).1.servers.component? i type = some c
    rw [servers_attach, h]
  | start d => exact h
  | observe o => exact h
  | enlist channel user audience => exact h
  | dismiss channel client audience => exact h
  | connect hooks client hostname suffix => rwa [servers_step rfl]
  | disconnect hooks client => rwa [servers_step rfl]
  | message d client code p => rwa [servers_step rfl]
  | stop d => rwa [servers_step rfl]
  | shutdown d => rwa [servers_step rfl]

/-- A component keeps its place whatever happens. -/
theorem component?_run (h : w.servers.component? i type = some c) (steps : List Step) :
    (w.run rules steps).servers.component? i type = some c :=
  run_keeps (p := fun w => w.servers.component? i type = some c)
    (fun st _ _ h => component?_step h st) h

/-! ## What a failure leaves behind -/

/-- A registration fails because the type is taken, and then leaves everything as it was, or because
the component runs on some server already. Then the services with their bindings, the record of what
was sent and all other places are as they were, and the component keeps the place on the new server
that it could not be bound to. In both cases the server refuses every component of this type from
then on, whatever happens. -/
theorem failed_registration_keeps_the_place (rules : Rules) {e : ComponentError}
    (running : w.servers.isLive i) (failed : (w.register c i).2 = .error e) :
    let after := (w.register c i).1
    after = { w with servers := after.servers } ∧
    after.servers.isLive = w.servers.isLive ∧
    (∀ j type, j ≠ i ∨ type ≠ c.type →
      after.servers.component? j type = w.servers.component? j type) ∧
    ((∃ d, w.servers.component? i c.type = some d) ∧ e = .duplicate c.type ∧ after = w ∨
      w.servers.component? i c.type = none ∧ (∃ j, w.serverOf? c = some j) ∧
        e = .initializationFailed c.type "already bound to a running server" ∧
        after.servers.component? i c.type = some c) ∧
    ∀ (steps : List Step) (d : ComponentId), d.type = c.type →
      (after.run rules steps).register d i =
        (after.run rules steps, .error (.duplicate c.type)) := by
  intro after
  -- whoever holds the place refuses it to all others, however it came to hold it
  have hrefuses : (∃ d, after.servers.component? i c.type = some d) →
      ∀ (steps : List Step) (d : ComponentId), d.type = c.type →
        (after.run rules steps).register d i =
          (after.run rules steps, .error (.duplicate c.type)) := by
    rintro ⟨holder, hholder⟩ steps d hd
    have htaken : (after.run rules steps).servers.component? i c.type = some holder :=
      component?_run hholder steps
    rw [← hd] at htaken ⊢
    exact register_of_taken ⟨holder, htaken⟩
  cases hplace : w.servers.component? i c.type with
  | some d =>
    have hregister : w.register c i = (w, .error (.duplicate c.type)) :=
      register_of_taken ⟨d, hplace⟩
    have hafter : after = w := congrArg Prod.fst hregister
    rw [hregister] at failed
    refine ⟨?_, ?_, ?_, .inl ⟨⟨d, rfl⟩, ?_, hafter⟩, hrefuses ⟨d, ?_⟩⟩
    · rw [hafter]
    · rw [hafter]
    · intro j type _
      rw [hafter]
    · exact (Except.error.inj failed).symm
    · rw [hafter, hplace]
  | none =>
    rcases register_of_free hplace with ⟨-, hok⟩ | ⟨hbound, hregister⟩
    · rw [hok] at failed
      cases failed
    · have hafter : after = { w with servers := w.servers.place i c } :=
        congrArg Prod.fst hregister
      obtain ⟨s, hs, -⟩ := Servers.isLive_iff.1 running
      -- the component is in its place although it was not initialized
      have hown : after.servers.component? i c.type = some c := by
        rw [hafter, Servers.component?_place (List.getElem?_eq_some_iff.1 hs).1, if_pos rfl]
      rw [hregister] at failed
      refine ⟨?_, ?_, ?_, .inr ⟨rfl, hbound, ?_, hown⟩, hrefuses ⟨c, hown⟩⟩
      · rw [hafter]
      · rw [hafter]
        exact w.servers.isLive_place i c
      · intro j type hother
        rw [hafter]
        by_cases hj : j = i
        · subst hj
          have htype : type ≠ c.type := hother.resolve_left (not_not_intro rfl)
          rw [Servers.component?_place (List.getElem?_eq_some_iff.1 hs).1, if_neg htype]
        · rw [Servers.component?_place_of_ne _ hj]
      · exact (Except.error.inj failed).symm

/-- A component that runs nowhere is refused the place of another one that runs elsewhere, also when
the server where that one ran is gone and it was taken from it. -/
theorem failed_registration_keeps_the_place_for_good :
    let w := initial.run default [.register .channels 0, .createServer]
    let after := (w.register .channels 1).1
    let steps := [.dropServer 0, .shutdown .channels]
    w.servers.isLive 1 ∧
      (w.register .channels 1).2 =
        .error (.initializationFailed .channel "already bound to a running server") ∧
      (after.run default steps).serverOf? .channels = none ∧
      ((after.run default steps).register .freshChannels 1).2 = .error (.duplicate .channel) := by
  intro w after steps
  have hlive : w.servers.isLive 1 := rfl
  have hfailed : (w.register .channels 1).2 =
      .error (.initializationFailed .channel "already bound to a running server") := rfl
  obtain ⟨-, -, -, -, hrefused⟩ :=
    failed_registration_keeps_the_place default hlive hfailed
  exact ⟨hlive, hfailed, rfl, congrArg Prod.snd (hrefused steps .freshChannels rfl)⟩

/-- A registration that failed did not leave the server as it was: its place for the type was free
before, and another component, which was welcome there, is refused. -/
theorem place_taken_by_failed_registration :
    let w := initial.run default [.register .channels 0, .createServer]
    let after := (w.register .channels 1).1
    w.servers.component? 1 .channel = none ∧ (w.register .freshChannels 1).2 = .ok () ∧
      (w.register .channels 1).2 =
        .error (.initializationFailed .channel "already bound to a running server") ∧
      after.servers.component? 1 .channel = some .channels ∧
      (after.register .freshChannels 1).2 = .error (.duplicate .channel) :=
  ⟨rfl, rfl, rfl, rfl, rfl⟩

end World

end ChatServer
