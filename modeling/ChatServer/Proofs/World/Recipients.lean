import ChatServer.Proofs.World.Faults
import ChatServer.Proofs.World.Operators
import ChatServer.Proofs.World.Sessions

/-!
# Whom messages reach

As long as connections come and go in order, no message is for a client that is not registered: an
answer is for the client that asked, a notice for members, and the rosters only hold members whose
record is the current one. `Attendance` is what a run keeps for that; `Entitled` is what each single
message owes to it. A run is more than a session here: components may be bound to other servers,
servers may end, and channels may be closed at any time.
-/

namespace ChatServer

/-- Who is connected after a step. -/
def Step.online (online : Finset ClientId) : Step → Finset ClientId
  | .connect _ client _ _ => insert client online
  | .disconnect _ client => online.erase client
  | _ => online

namespace World

variable {rules : Rules} {w : World} {online : Finset ClientId} {st : Step}

/-- Whether a step keeps the order in which connections come and go: a client connects only while it
is not connected, both services learn of it and of its end, and the users are not forgotten while
channels are in use. -/
def keepsOrder (w : World) (online : Finset ClientId) : Step → Bool
  | .connect hooks client _ _ => Session.bothServices hooks && client ∉ online
  | .disconnect hooks _ => Session.bothServices hooks
  | .shutdown .users => w.channels.count = 0
  | st => !st.isDirect

/-- Whether connections come and go in order in a run. -/
def inOrder (rules : Rules) : World → Finset ClientId → List Step → Bool
  | _, _, [] => true
  | w, online, st :: steps =>
    w.keepsOrder online st && inOrder rules (w.step rules st).1 (st.online online) steps

/-- What holds at any time while connections come and go in order. -/
structure Attendance (rules : Rules) (w : World) (online : Finset ClientId) : Prop where
  sound : w.Sound rules
  current : w.channels.RostersCurrent w.users.directory
  online : ∀ c r, w.users.directory.ref? c = some r → c ∈ online

/-- Steps in order do not change rosters directly. -/
theorem not_direct_of_keepsOrder (h : w.keepsOrder online st) : st.isDirect = false := by
  cases st with
  | enlist channel user audience => cases h
  | dismiss channel client audience => cases h
  | _ => rfl

/-- A message leaves rosters current, and registers nobody who is not connected. -/
theorem Attendance.delivered (h : w.Attendance rules online) {c : ComponentId} {client : ClientId}
    {code : UInt16} {p : Payload} {w' : World} (delivery : Delivery rules w client code p c w') :
    w'.channels.RostersCurrent w'.users.directory ∧
      ∀ c r, w'.users.directory.ref? c = some r → c ∈ online := by
  cases delivery with
  | refused c => exact ⟨h.current, h.online⟩
  | @claimed i q claim rest bound read current =>
    have href : ∀ c, (w.users.claim rules.user q claim).1.directory.ref? c =
        w.users.directory.ref? c := UserService.ref?_claim rules.user w.users q claim
    refine ⟨h.current.of_ref?_eq fun _ c _ _ _ => href c, fun c r hc => ?_⟩
    exact h.online c r ((href c).symm.trans hc)
  | requested bound read current =>
    refine ⟨h.current.changes h.sound.channels h.sound.directory.client ?_, h.online⟩
    exact ChannelService.changes_perform (UserDirectory.isCurrent_of_ref? current).1 _

/-- Connections that come and go in order leave the rosters current. -/
theorem Attendance.step (h : w.Attendance rules online) (order : w.keepsOrder online st) :
    (w.step rules st).1.Attendance rules (st.online online) := by
  suffices hkeep : (w.step rules st).1.channels.RostersCurrent
      (w.step rules st).1.users.directory ∧
        ∀ c r, (w.step rules st).1.users.directory.ref? c = some r → c ∈ st.online online from
    ⟨h.sound.step (not_direct_of_keepsOrder order), hkeep.1, hkeep.2⟩
  cases st with
  | connect hooks client hostname suffix =>
    simp only [keepsOrder, Bool.and_eq_true, decide_eq_true_eq] at order
    rw [step_bothConnect rules w order.1]
    -- all who are registered are online, so the client that connects is not
    have habsent : w.users.directory.ref? client = none :=
      Option.eq_none_iff_forall_ne_some.2 fun r hr => order.2 (h.online client r hr)
    refine ⟨rostersCurrent_connect h.current habsent hostname suffix, fun c r hc => ?_⟩
    have hc : (w.users.directory.enrol
      (.guest client (rules.user.config.guestName suffix) hostname)).ref? c = some r := hc
    rw [UserDirectory.ref?_enrol] at hc
    show c ∈ insert client online
    rw [Finset.mem_insert]
    split at hc
    · next heq => exact .inl heq
    · exact .inr (h.online c r hc)
  | disconnect hooks client =>
    obtain ⟨view, -, hw⟩ := step_bothDisconnect rules w order client
    rw [hw]
    refine ⟨rostersCurrent_bothDisconnect h.current h.sound client view, fun c r hc => ?_⟩
    rw [ref?_bothDisconnect] at hc
    split at hc
    · cases hc
    · next hne => exact Finset.mem_erase.2 ⟨hne, h.online c r hc⟩
  | message c client code p => exact h.delivered (delivery rules w c client code p)
  | stop c =>
    cases c with
    | channels =>
      exact ⟨fun r _ _ hr => absurd hr (w.channels.not_isRegistered_clear r), h.online⟩
    | _ => exact ⟨h.current, h.online⟩
  | shutdown c =>
    cases c with
    | channels =>
      exact ⟨fun r _ _ hr => absurd hr (w.channels.not_isRegistered_clear r), h.online⟩
    | users =>
      have hcount : w.channels.refs.length = 0 :=
        (List.length_map _).trans (of_decide_eq_true order)
      refine ⟨fun r _ _ hr => ?_, fun c r hc => by cases hc⟩
      have hmem : r ∈ w.channels.refs := ChannelService.mem_refs_iff.2 hr
      rw [List.length_eq_zero_iff.1 hcount] at hmem
      cases hmem
    | _ => exact ⟨h.current, h.online⟩
  | register c i =>
    obtain ⟨hdirectory, binding, hchannels⟩ := register_frame w c i
    show (w.register c i).1.channels.RostersCurrent (w.register c i).1.users.directory ∧
      ∀ client q, (w.register c i).1.users.directory.ref? client = some q → client ∈ online
    rw [hdirectory, hchannels]
    exact ⟨h.current, h.online⟩
  | attach c i =>
    obtain ⟨hdirectory, binding, hchannels⟩ := attach_frame w c i
    show (w.attach c i).1.channels.RostersCurrent (w.attach c i).1.users.directory ∧
      ∀ client q, (w.attach c i).1.users.directory.ref? client = some q → client ∈ online
    rw [hdirectory, hchannels]
    exact ⟨h.current, h.online⟩
  | start c => exact ⟨h.current, h.online⟩
  | createServer => exact ⟨h.current, h.online⟩
  | dropServer i => exact ⟨h.current, h.online⟩
  | observe o => exact ⟨h.current, h.online⟩
  | enlist channel user audience => cases order
  | dismiss channel client audience => cases order

/-! ## What is sent -/

variable {q : UserRef} {name : String}

/-- Steps in order keep the attendance up to the last one. -/
theorem Attendance.run (h : w.Attendance rules online) {steps : List Step}
    (order : w.inOrder rules online (steps ++ [st])) :
    ∃ online', (w.run rules steps).Attendance rules online' ∧
      (w.run rules steps).keepsOrder online' st := by
  induction steps generalizing w online with
  | nil =>
    rw [List.nil_append, inOrder, Bool.and_eq_true] at order
    exact ⟨online, h, order.1⟩
  | cons first steps ih =>
    rw [List.cons_append, inOrder, Bool.and_eq_true] at order
    exact ih (h.step order.1) order.2

theorem Attendance.after (h : w.Attendance rules online) {steps : List Step}
    (order : w.inOrder rules online steps) :
    ∃ online', (w.run rules steps).Attendance rules online' := by
  induction steps generalizing w online with
  | nil => exact ⟨online, h⟩
  | cons first steps ih =>
    rw [inOrder, Bool.and_eq_true] at order
    exact ih (h.step order.1) order.2

end World

end ChatServer
