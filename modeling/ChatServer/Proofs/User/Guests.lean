import ChatServer.Proofs.User.Directory
import Mathlib.Logic.Basic

/-!
# Directories that differ in one guest

`AgreeOff g` relates two directories that have the same records of all clients but `g`, which in
neither of them has a claimed name. What other clients do keeps directories so related and comes to
the same in both, because a name is only taken if someone claimed it. What becomes of the guest's
own records, as long as it gets no name, keeps them related too.
-/

namespace ChatServer

namespace UserDirectory

variable {g : ClientId} {d d' : UserDirectory}

/-- The client never claimed a name. -/
def IsGuest (d : UserDirectory) (g : ClientId) : Prop := ∀ n, (d.user ⟨g, n⟩).identified = false

/-- Whoever has a name is somebody else than the guest. -/
theorem IsGuest.owner_ne (h : d.IsGuest g) {r : UserRef} (identified : (d.user r).identified) :
    r.owner ≠ g := by
  rintro rfl
  rw [h r.number] at identified
  cases identified

/-- A guest is still one when somebody enrols, unless it gets a record with a name. -/
theorem IsGuest.enrol (h : d.IsGuest g) {u : User} (hu : u.client = g → u.identified = false) :
    (d.enrol u).IsGuest g := by
  intro n
  rw [user_enrol]
  split
  · next hr => exact hu (congrArg Ref.owner hr).symm
  · exact h n

/-- A guest is still one after an update that gives it no name. -/
theorem IsGuest.update (h : d.IsGuest g) {r : UserRef} {f : User → User}
    (hf : r.owner = g → ∀ u : User, u.identified = false → (f u).identified = false) :
    (d.update r f).IsGuest g := by
  intro n
  have hn := h n
  simp only [user, UserDirectory.update, Archive.get?_update] at hn ⊢
  split
  · next hr =>
    cases hu : d.records.get? ⟨g, n⟩ with
    | none => rfl
    | some u =>
      rw [hu] at hn
      exact hf (congrArg Ref.owner hr).symm u hn
  · exact hn

/-- Two directories that differ at most in the records of a guest. -/
structure AgreeOff (g : ClientId) (d d' : UserDirectory) : Prop where
  registered : ∀ c, c ≠ g → d'.registered.get? c = d.registered.get? c
  history : ∀ c, c ≠ g → d'.records.history c = d.records.history c
  guest : d.IsGuest g
  guest' : d'.IsGuest g

namespace AgreeOff

theorem empty (g : ClientId) : AgreeOff g ∅ ∅ where
  registered _ _ := rfl
  history _ _ := rfl
  guest _ := rfl
  guest' _ := rfl

theorem symm (h : AgreeOff g d d') : AgreeOff g d' d where
  registered c ne := (h.registered c ne).symm
  history c ne := (h.history c ne).symm
  guest := h.guest'
  guest' := h.guest

/-! ## What is found of others -/

theorem ref?_eq (h : AgreeOff g d d') {c : ClientId} (ne : c ≠ g) : d'.ref? c = d.ref? c := by
  rw [ref?, ref?, h.registered c ne]

theorem user_eq (h : AgreeOff g d d') {r : UserRef} (ne : r.owner ≠ g) : d'.user r = d.user r := by
  rw [user, user, Archive.get?, Archive.get?, h.history r.owner ne]

/-- A name that is free in one directory is free in the other: no guest has taken it. -/
theorem free_of_free (h : AgreeOff g d d') {name : String} {except : ClientId}
    (free : d.isNameTaken name except = false) : d'.isNameTaken name except = false := by
  rw [isNameTaken_eq_false_iff] at free ⊢
  intro r hr hne hi
  -- whoever claimed a name is not the guest, so it is known under this name in both
  have hother := h.guest'.owner_ne hi
  rw [h.user_eq hother] at hi ⊢
  exact free r ((h.ref?_eq hother).symm.trans hr) hne hi

/-- The same names are taken, since the guest has none. -/
theorem isNameTaken_eq (h : AgreeOff g d d') (name : String) (except : ClientId) :
    d'.isNameTaken name except = d.isNameTaken name except := by
  cases htaken : d.isNameTaken name except with
  | false => exact h.free_of_free htaken
  | true =>
    rw [← Bool.not_eq_false]
    intro hfree
    rw [h.symm.free_of_free hfree] at htaken
    cases htaken

/-- A claim by another client is judged alike, since the guest has no name. -/
theorem judge_eq (h : AgreeOff g d d') (rules : UserRules) {r : UserRef} (ne : r.owner ≠ g)
    (claim : NameClaim) :
    UserService.judge rules d' r claim = UserService.judge rules d r claim := by
  rw [UserService.judge, UserService.judge, h.user_eq ne, h.isNameTaken_eq]

/-! ## Changes by others -/

/-- Directories still agree off the guest when another client enrols in both. -/
theorem enrol (h : AgreeOff g d d') {u : User} (ne : u.client ≠ g) :
    AgreeOff g (d.enrol u) (d'.enrol u) where
  registered c hc := by
    simp only [UserDirectory.enrol, Table.get?_insert, Archive.next, h.history _ ne,
      h.registered c hc]
  history c hc := by
    simp only [UserDirectory.enrol, Archive.history_add, h.history _ ne, h.history c hc]
  guest := h.guest.enrol fun heq => absurd heq ne
  guest' := h.guest'.enrol fun heq => absurd heq ne

theorem update (h : AgreeOff g d d') {r : UserRef} (ne : r.owner ≠ g) (f : User → User) :
    AgreeOff g (d.update r f) (d'.update r f) where
  registered := h.registered
  history c hc := by
    simp only [UserDirectory.update, Archive.history_update, h.history c hc]
  guest := h.guest.update fun heq => absurd heq ne
  guest' := h.guest'.update fun heq => absurd heq ne

theorem remove (h : AgreeOff g d d') (client : ClientId) :
    AgreeOff g (d.remove client) (d'.remove client) where
  registered c hc := by
    simp only [UserDirectory.remove, Table.get?_erase, h.registered c hc]
  history := h.history
  guest := h.guest
  guest' := h.guest'

theorem clear (h : AgreeOff g d d') : AgreeOff g d.clear d'.clear where
  registered _ _ := rfl
  history := h.history
  guest := h.guest
  guest' := h.guest'

/-! ## Changes of the guest -/

/-- Directories still agree off the guest when the guest enrols in one of them, without a name. -/
theorem enrol_guest (h : AgreeOff g d d') {u : User} (client : u.client = g)
    (unidentified : u.identified = false) : AgreeOff g (d.enrol u) d' where
  registered c hc := by
    rw [h.registered c hc, UserDirectory.enrol, Table.get?_insert, client, if_neg hc]
  history c hc := by
    rw [h.history c hc, UserDirectory.enrol, Archive.history_add, client, if_neg hc]
  guest := h.guest.enrol fun _ => unidentified
  guest' := h.guest'

/-- Directories still agree off the guest when the guest leaves one of them. -/
theorem gone_guest (h : AgreeOff g d d') {r : UserRef} (owner : r.owner = g) :
    AgreeOff g ((d.update r User.disable).remove g) d' where
  registered c hc := by
    rw [h.registered c hc, UserDirectory.remove, Table.get?_erase, if_neg hc]
    rfl
  history c hc := by
    rw [h.history c hc]
    show _ = (d.records.update r User.disable).history c
    rw [Archive.history_update, owner, if_neg hc]
  guest := h.guest.update fun _ _ hu => hu
  guest' := h.guest'

end AgreeOff

end UserDirectory

namespace UserService

open UserDirectory (AgreeOff)

variable {g client : ClientId} {s s' : UserService}

/-- Another client that disconnects leaves the same behind with or without the guest. -/
theorem agreeOff_disconnect (h : AgreeOff g s.directory s'.directory) (ne : client ≠ g) :
    AgreeOff g (s.disconnect client).directory (s'.disconnect client).directory := by
  unfold disconnect
  rw [h.ref?_eq ne]
  cases hr : s.directory.ref? client with
  | none => exact h
  | some r =>
    obtain ⟨-, rfl⟩ := UserDirectory.isCurrent_of_ref? hr
    exact (h.update ne User.disable).remove r.owner

/-- Another client that claims a name gets the same answer with or without the guest. -/
theorem agreeOff_claim (h : AgreeOff g s.directory s'.directory) (rules : UserRules) {r : UserRef}
    (ne : r.owner ≠ g) (request : NameClaim) :
    AgreeOff g (s.claim rules r request).1.directory (s'.claim rules r request).1.directory ∧
      (s'.claim rules r request).2 = (s.claim rules r request).2 := by
  unfold claim
  rw [h.judge_eq rules ne]
  dsimp only
  split
  · exact ⟨h.update ne _, rfl⟩
  · exact ⟨h, rfl⟩

/-- When the guest disconnects nothing is left that others could see. -/
theorem agreeOff_disconnect_guest (h : AgreeOff g s.directory s'.directory) :
    AgreeOff g (s.disconnect g).directory s'.directory := by
  unfold disconnect
  cases hr : s.directory.ref? g with
  | none => exact h
  | some r => exact h.gone_guest (UserDirectory.isCurrent_of_ref? hr).2

end UserService

end ChatServer
