import ChatServer.Proofs.Table
import ChatServer.Proofs.User.Directory

/-!
# The order of the listing makes no difference to users

The user service goes through all current records only to find out whether a name is taken, and that
does not depend on the order in which they are listed.
-/

namespace ChatServer

namespace UserDirectory

variable {d d' : UserDirectory}

/-- Two directories that differ at most in the order in which they list the current records. -/
structure Relists (d d' : UserDirectory) : Prop where
  registered : d.registered.Relists d'.registered
  history : ∀ c, d'.records.history c = d.records.history c

namespace Relists

theorem user_eq (h : d.Relists d') : d'.user = d.user := by
  funext r
  rw [user, user, Archive.get?, Archive.get?, h.history]

theorem ref?_eq (h : d.Relists d') (c : ClientId) : d'.ref? c = d.ref? c := by
  rw [ref?, ref?, h.registered.get?_eq]

/-- The same names are taken. -/
theorem isNameTaken_eq (h : d.Relists d') (name : String) (except : ClientId) :
    d'.isNameTaken name except = d.isNameTaken name except := by
  rw [isNameTaken, isNameTaken, h.user_eq]
  exact (List.Perm.any_eq h.registered).symm

/-- A claim is judged alike, whatever order the registered users are listed in. -/
theorem judge_eq (h : d.Relists d') (rules : UserRules) (r : UserRef) (claim : NameClaim) :
    UserService.judge rules d' r claim = UserService.judge rules d r claim := by
  rw [UserService.judge, UserService.judge, h.user_eq, h.isNameTaken_eq]

/-- The order still makes the only difference when a record is changed. -/
theorem update (h : d.Relists d') (r : UserRef) (f : User → User) :
    (d.update r f).Relists (d'.update r f) where
  registered := h.registered
  history c := by
    simp only [UserDirectory.update, Archive.history_update, h.history]

theorem remove (h : d.Relists d') (c : ClientId) : (d.remove c).Relists (d'.remove c) where
  registered := h.registered.erase c
  history := h.history

end Relists

/-- The directory with the listing of the current records turned round. -/
def reverse (d : UserDirectory) : UserDirectory := { d with registered := d.registered.reverse }

theorem relists_reverse (d : UserDirectory) : d.Relists d.reverse :=
  ⟨d.registered.relists_reverse, fun _ => rfl⟩

end UserDirectory

namespace UserService

variable {s s' : UserService}

/-- Two services that differ at most in the order of their directories. -/
structure Relists (s s' : UserService) : Prop where
  binding : s'.binding = s.binding
  directory : s.directory.Relists s'.directory

namespace Relists

/-- A claim gets the same answer, and the order still makes the only difference. -/
theorem claim (h : s.Relists s') (rules : UserRules) (r : UserRef) (request : NameClaim) :
    (s.claim rules r request).1.Relists (s'.claim rules r request).1 ∧
      (s'.claim rules r request).2 = (s.claim rules r request).2 := by
  unfold UserService.claim
  rw [h.directory.judge_eq]
  dsimp only
  split
  · exact ⟨⟨h.binding, h.directory.update r _⟩, rfl⟩
  · exact ⟨h, rfl⟩

/-- A client disconnects, and the order still makes the only difference. -/
theorem disconnect (h : s.Relists s') (client : ClientId) :
    (s.disconnect client).Relists (s'.disconnect client) := by
  unfold UserService.disconnect
  rw [h.directory.ref?_eq]
  cases s.directory.ref? client with
  | none => exact h
  | some r => exact ⟨h.binding, (h.directory.update r User.disable).remove client⟩

end Relists

end UserService

end ChatServer
