import ChatServer.Proofs.World.Runs

/-!
# Where claimed names come from

After every run the claimed names of the connected users are valid and differ in more than case, and
each of them was accepted by the authenticator in a message of this very connection, which was
answered with the name. The induction is on the last step of the run: a step that grants a claim is
such a message itself, and any other step leaves every claimed name to a record that had it before.
-/

namespace ChatServer

namespace World

variable {rules : Rules}

/-- In one of the steps of a run from the start the client with a record presented a user name, with
a password that the authenticator accepts, and was answered that the name is its own. -/
def Presented (rules : Rules) (steps : List Step) (r : UserRef) (username : String) : Prop :=
  ∃ before after code p rest password,
    steps = before ++ .message .users r.owner code p :: after ∧
      NameClaim.ofMessage code p = (.ok ⟨username, password⟩, rest) ∧
      (initial.run rules before).users.directory.IsCurrent r ∧
      (rules.user.authenticate username password).isOk ∧
      (initial.run rules before).sent rules (.message .users r.owner code p) =
        [⟨r.owner, .nameGranted username⟩]

/-- A name that was presented is so whatever comes after. -/
theorem Presented.snoc {steps : List Step} {r : UserRef} {username : String}
    (h : Presented rules steps r username) (st : Step) :
    Presented rules (steps ++ [st]) r username := by
  rcases h with ⟨before, after, code, p, rest, password, hsteps, h⟩
  refine ⟨before, after ++ [st], code, p, rest, password, ?_, h⟩
  rw [hsteps, List.append_assoc, List.cons_append]

/-- A claim that is granted presents its name. -/
theorem Grants.presented {steps : List Step} {st : Step} {r : UserRef} {claim : NameClaim}
    (h : (initial.run rules steps).Grants rules st r claim) :
    Presented rules (steps ++ [st]) r claim.username := by
  obtain ⟨code, p, rest, rfl, hread⟩ := h.message
  obtain ⟨-, -, haccepted, -⟩ := UserDirectory.judge_eq_ok_iff.1 h.granted
  exact ⟨steps, [], code, p, rest, claim.password, rfl, hread, h.current, haccepted, h.sent⟩

/-- Every claimed name was presented by the client that has it now. -/
theorem presented (rules : Rules) (steps : List Step) {r : UserRef}
    (current : (initial.run rules steps).users.directory.IsCurrent r)
    (identified : ((initial.run rules steps).user r).identified) :
    Presented rules steps r ((initial.run rules steps).user r).username := by
  induction steps using List.reverseRecOn with
  | nil => cases current
  | append_singleton steps st ih =>
    have hsound := directory_sound rules steps
    rw [run_snoc] at current identified ⊢
    rcases step_users rules (initial.run rules steps) st with h | h
    · -- nobody got a name, so the record is as it was, and its name was presented earlier
      obtain ⟨hcurrent, huser⟩ := h.current hsound current identified
      have hsame : ((initial.run rules steps).step rules st).1.user r =
          (initial.run rules steps).user r := huser
      rw [hsame] at identified ⊢
      exact (ih hcurrent identified).snoc st
    · -- one client got a name: either this one just now, or another one
      rcases h with ⟨q, claim, hgrants⟩
      have huser : ((initial.run rules steps).step rules st).1.user r =
          if r = q then ((initial.run rules steps).user q).identify claim.username
          else (initial.run rules steps).user r := by
        rw [user, hgrants.directory]
        exact UserDirectory.user_update (hsound.enabled q hgrants.current) _ r
      rw [huser] at identified ⊢
      by_cases hr : r = q
      · rw [if_pos hr, hr]
        exact hgrants.presented
      · rw [if_neg hr] at identified ⊢
        rw [hgrants.directory] at current
        exact (ih current identified).snoc st

/-- After every run, two connected clients have no claimed name in common, whatever its case, and
every claimed name is valid and was presented by its client with a password that was accepted. -/
theorem claimed_names (rules : Rules) (steps : List Step) :
    let d := (initial.run rules steps).users.directory
    (∀ b c r q, d.ref? b = some r → d.ref? c = some q → b ≠ c →
      (d.user r).identified → (d.user q).identified →
      Text.lowercase (d.user r).username ≠ Text.lowercase (d.user q).username) ∧
    ∀ c r, d.ref? c = some r → (d.user r).identified →
      rules.user.config.isValidUsername (d.user r).username ∧ r.owner = c ∧
        Presented rules steps r (d.user r).username := by
  intro d
  have hsound : UserDirectory.Sound rules.user.config d := directory_sound rules steps
  constructor
  · intro b c r q hr hq hne hri hqi heq
    obtain ⟨hr, hb⟩ := UserDirectory.isCurrent_of_ref? hr
    obtain ⟨hq, hc⟩ := UserDirectory.isCurrent_of_ref? hq
    have hsame := hsound.unique r q hr hq hri hqi heq
    apply hne
    rw [← hb, ← hc, hsame]
  · intro c r hr hi
    obtain ⟨hr, hc⟩ := UserDirectory.isCurrent_of_ref? hr
    exact ⟨hsound.valid r hr hi, hc, presented rules steps hr hi⟩

set_option maxRecDepth 100000 in
/-- Two clients claim a name that differs in case only, and the first one gets it. -/
theorem claimed_names_ann :
    let ann : ClientId := ⟨1⟩
    let claim := fun c name => Step.message .users c (Coded.code UserMessage.identify)
      (Payload.ofValues [⟨.string, name⟩, ⟨.string, "secret"⟩])
    let steps := [.register .users 0, .connect [.users] ann "host" "a",
      .connect [.users] ⟨2⟩ "host" "b", claim ann "Ann", claim ⟨2⟩ "ANN"]
    let d := (initial.run default steps).users.directory
    d.ref? ann = some ⟨ann, 0⟩ ∧ (d.user ⟨ann, 0⟩).identified ∧
      (d.user ⟨⟨2⟩, 0⟩).identified = false ∧ (d.user ⟨ann, 0⟩).username = "Ann" ∧
      Presented default steps ⟨ann, 0⟩ (d.user ⟨ann, 0⟩).username := by
  intro ann claim steps d
  have hcurrent : d.ref? ann = some ⟨ann, 0⟩ := by decide +kernel
  have hidentified : (d.user ⟨ann, 0⟩).identified := by decide +kernel
  have hclaimed := (claimed_names default steps).2 ann ⟨ann, 0⟩ hcurrent hidentified
  exact ⟨hcurrent, hidentified, by decide +kernel, by decide +kernel, hclaimed.2.2⟩

end World

end ChatServer
