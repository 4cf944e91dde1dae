import ChatServer.Proofs.History
import ChatServer.Proofs.World.Steps

/-!
# What holds after every run

The invariants of the services, carried from one step to the next and so through all runs. A step
may change the user directory and the channels at once; the channels are then followed in two
moves, first past the directory as it was and then to the records that the step made of it.
-/

namespace ChatServer

namespace World

variable {rules : Rules} {w : World}

theorem run_snoc (rules : Rules) (w : World) (steps : List Step) (st : Step) :
    w.run rules (steps ++ [st]) = ((w.run rules steps).step rules st).1 :=
  run_append rules w steps [st]

/-- What none of some steps undoes holds after they are made. -/
theorem run_keeps {p : World → Prop} {steps : List Step}
    (keeps : ∀ st ∈ steps, ∀ w, p w → p (w.step rules st).1) (h : p w) :
    p (w.run rules steps) := by
  induction steps generalizing w with
  | nil => exact h
  | cons st steps ih =>
    obtain ⟨hst, hsteps⟩ := List.forall_mem_cons.1 keeps
    exact ih hsteps (hst w h)

/-- In a run there was a step at which `p` held, and at every later step `q` held. A step is judged
together with the world in which it was taken. -/
def Since (rules : Rules) (p q : World → Step → Prop) (w : World) (steps : List Step) : Prop :=
  ∃ before st after, steps = before ++ st :: after ∧ p (w.run rules before) st ∧
    ∀ earlier st' later, after = earlier ++ st' :: later →
      q (w.run rules (before ++ st :: earlier)) st'

theorem not_since_nil (rules : Rules) (p q : World → Step → Prop) (w : World) :
    ¬Since rules p q w [] :=
  not_lasting_nil (p <| w.run rules ·) (q <| w.run rules ·)

/-- What was the case since some step either starts with the last step or goes on with it. -/
theorem since_snoc {p q : World → Step → Prop} {steps : List Step} {st : Step} :
    Since rules p q w (steps ++ [st]) ↔
      p (w.run rules steps) st ∨ Since rules p q w steps ∧ q (w.run rules steps) st :=
  @lasting_snoc _ (p <| w.run rules ·) (q <| w.run rules ·) steps st

/-! ## The user directory -/

/-- Every step keeps the directory sound. -/
theorem directory_sound_step
    (h : UserDirectory.Sound rules.user.config w.users.directory) (st : Step) :
    UserDirectory.Sound rules.user.config (w.step rules st).1.users.directory :=
  h.changes (step_changes rules w st)

/-- The user directory is sound after every run. -/
theorem directory_sound (rules : Rules) (steps : List Step) :
    UserDirectory.Sound rules.user.config (initial.run rules steps).users.directory :=
  run_keeps (p := fun w => UserDirectory.Sound rules.user.config w.users.directory)
    (fun st _ _ h => directory_sound_step h st) (UserDirectory.sound_empty rules.user.config)

/-- No step takes a claimed name away. -/
theorem directory_evolves (rules : Rules) (w : World) (st : Step) :
    w.users.directory.Evolves (w.step rules st).1.users.directory :=
  (step_changes rules w st).evolves

/-! ## Both services -/

/-- What holds of the services at any time. -/
structure Sound (rules : Rules) (w : World) : Prop where
  directory : UserDirectory.Sound rules.user.config w.users.directory
  channels : ChannelService.Sound rules.channel w.user w.channels

theorem sound_initial (rules : Rules) : initial.Sound rules where
  directory := UserDirectory.sound_empty rules.user.config
  channels := ChannelService.sound_initial rules.channel initial.user

/-- Every step keeps them sound that does not change rosters directly. -/
theorem Sound.step (h : w.Sound rules) {st : Step} (hst : st.isDirect = false) :
    (w.step rules st).1.Sound rules where
  directory := directory_sound_step h.directory st
  channels := by
    have hchannels := h.channels.changes h.directory.client (step_channels rules w hst)
    exact hchannels.of_evolves (directory_evolves rules w st)

/-- Every run without direct changes of rosters keeps both services sound. -/
theorem Sound.run (h : w.Sound rules) {steps : List Step}
    (hsteps : ∀ st ∈ steps, st.isDirect = false) : (w.run rules steps).Sound rules :=
  run_keeps (fun st hst _ h => h.step (hsteps st hst)) h

/-- After every run, whatever the components are told and in whatever order, each registered channel
is intact, the registry counts the enabled channels among all that were ever created, and a text
names a channel exactly if its key is registered. -/
theorem registry_of_channels_in_use (rules : Rules) {steps : List Step}
    (hsteps : ∀ st ∈ steps, st.isDirect = false) :
    let w := initial.run rules steps
    (∀ key n, w.channels.registry.get? key = some n →
      (w.channels.channel ⟨key, n⟩).Intact rules.channel w.user key) ∧
    w.channels.count = w.channels.channels.all.countP (fun c => c.enabled) ∧
    ∀ name, (w.channels.lookup? rules.channel name).isSome ↔
      (w.channels.registry.get? (rules.channel.keyFor name)).isSome := by
  intro w
  have hsound : w.Sound rules := (sound_initial rules).run hsteps
  refine ⟨fun key n hn => hsound.channels.intact ⟨key, n⟩ hn, hsound.channels.count_eq, ?_⟩
  intro name
  rw [hsound.channels.lookup?_eq, ChannelService.registered?, Option.isSome_map]

set_option maxRecDepth 100000 in
/-- Of two channels one is left when a user of both disconnects. -/
theorem registry_of_two_channels :
    let ann : ClientId := ⟨1⟩
    let bob : ClientId := ⟨2⟩
    let both := [ComponentId.users, .channels]
    let claim := fun c name => Step.message .users c (Coded.code UserMessage.identify)
      (Payload.ofValues [⟨.string, name⟩, ⟨.string, "secret"⟩])
    let join := fun c name => Step.message .channels c (Coded.code ChannelMessage.join)
      (Payload.ofValues [⟨.string, name⟩])
    let steps := [.register .users 0, .register .channels 0, .connect both ann "host" "a",
      .connect both bob "host" "b", claim ann "Ann", claim bob "Bob", join ann "#one",
      join ann "#two", join bob "#two", .disconnect both ann]
    (initial.run default steps).channels.registry.get? "#two" = some 0 ∧
      (initial.run default steps).channels.channels.all.length = 2 ∧
      (initial.run default steps).channels.count = 1 ∧
      ((initial.run default steps).channels.channel ⟨"#two", 0⟩).Intact (default : Rules).channel
        (initial.run default steps).user "#two" := by
  intro ann bob both claim join steps
  have hsteps : ∀ st ∈ steps, st.isDirect = false := by decide +kernel
  have hregistered : (initial.run default steps).channels.registry.get? "#two" = some 0 := by
    decide +kernel
  have hintact := (registry_of_channels_in_use default hsteps).1 "#two" 0 hregistered
  exact ⟨hregistered, by decide +kernel, by decide +kernel, hintact⟩

end World

end ChatServer
