import ChatServer.User.Service
import Mathlib.Logic.Relation
import Mathlib.Tactic.SplitIfs

/-!
# Changes of the user directory

The user service changes its directory in four ways: a client gets a guest record, a guest record
gets the name that its client claimed, the record of a client that is gone is disabled, and all
clients are forgotten. Every invariant of the directory is proved once for these changes:

* `Sound`: the current records are enabled, and their claimed names are valid and differ;
* `Evolves`: a record keeps its client and host name, a claimed name and the loss of its connection.

The two operations on which runs depend for more than that, the end of a connection and the decision
of a claim, have their own lemmas at the end.
-/

namespace ChatServer

namespace User

/-- What can become of a record. -/
structure Becomes (u v : User) : Prop where
  client : v.client = u.client
  hostname : v.hostname = u.hostname
  identified : u.identified → v.identified ∧ v.username = u.username
  enabled : v.enabled → u.enabled

theorem Becomes.refl (u : User) : u.Becomes u :=
  ⟨rfl, rfl, fun h => ⟨h, rfl⟩, id⟩

theorem Becomes.trans {u v w : User} (h : u.Becomes v) (h' : v.Becomes w) : u.Becomes w where
  client := h'.client.trans h.client
  hostname := h'.hostname.trans h.hostname
  identified hu := by
    obtain ⟨hv, huv⟩ := h.identified hu
    obtain ⟨hw, hvw⟩ := h'.identified hv
    exact ⟨hw, hvw.trans huv⟩
  enabled hw := h.enabled (h'.enabled hw)

end User

namespace UserDirectory

/-- The name is that of its client's current record. -/
def IsCurrent (d : UserDirectory) (r : UserRef) : Prop := d.ref? r.owner = some r

/-- What a directory finds for a client is the current record of this client. -/
theorem isCurrent_of_ref? {d : UserDirectory} {c : ClientId} {r : UserRef}
    (h : d.ref? c = some r) : d.IsCurrent r ∧ r.owner = c := by
  have hc : r.owner = c := by
    simp only [ref?, Option.map_eq_some_iff] at h
    rcases h with ⟨n, -, rfl⟩
    rfl
  subst hc
  exact ⟨h, rfl⟩

/-- A client has one current record at most. -/
theorem IsCurrent.eq {d : UserDirectory} {r q : UserRef} (hr : d.IsCurrent r)
    (hq : d.IsCurrent q) (h : r.owner = q.owner) : r = q := by
  rw [IsCurrent, h] at hr
  exact Option.some.inj (hr.symm.trans hq)

/-- The table of registered users lists the current records. -/
theorem mem_entries_iff_isCurrent {d : UserDirectory} {r : UserRef} :
    (r.owner, r.number) ∈ d.registered.entries ↔ d.IsCurrent r := by
  rcases r with ⟨c, n⟩
  rw [← Table.get?_eq_some_iff, IsCurrent, ref?, Option.map_eq_some_iff]
  simp

/-! ## What the operations do to names and records -/

/-- Who enrols is found by the new record from then on, and others are found as before. -/
theorem ref?_enrol (d : UserDirectory) (u : User) (c : ClientId) :
    (d.enrol u).ref? c = if c = u.client then some (d.records.next u.client) else d.ref? c := by
  simp only [ref?, enrol, Table.get?_insert]
  split
  · next h =>
    subst h
    rfl
  · rfl

theorem user_enrol (d : UserDirectory) (u : User) (r : UserRef) :
    (d.enrol u).user r = if r = d.records.next u.client then u else d.user r := by
  simp only [user, enrol, Archive.get?_add]
  split <;> rfl

@[simp]
theorem ref?_update (d : UserDirectory) (r : UserRef) (f : User → User) (c : ClientId) :
    (d.update r f).ref? c = d.ref? c := rfl

/-- An update changes the one record it is about, if that is enabled. -/
theorem user_update {d : UserDirectory} {r : UserRef} (h : (d.user r).enabled) (f : User → User)
    (q : UserRef) : (d.update r f).user q = if q = r then f (d.user r) else d.user q := by
  simp only [user, update, Archive.get?_update]
  split
  · next hq =>
    subst hq
    -- a disabled nobody stands for a record that is missing
    cases hu : d.records.get? q with
    | none => simp [user, hu, User.absent] at h
    | some u => rfl
  · rfl

@[simp]
theorem user_remove (d : UserDirectory) (c : ClientId) (r : UserRef) :
    (d.remove c).user r = d.user r := rfl

theorem ref?_remove (d : UserDirectory) (c b : ClientId) :
    (d.remove c).ref? b = if b = c then none else d.ref? b := by
  simp only [ref?, remove, Table.get?_erase]
  split <;> rfl

/-- A name is free if no other client that is registered and identified has it, whatever the case of
its letters. -/
theorem isNameTaken_eq_false_iff {d : UserDirectory} {name : String} {except : ClientId} :
    d.isNameTaken name except = false ↔
      ∀ r, d.IsCurrent r → r.owner ≠ except → (d.user r).identified →
        Text.lowercase (d.user r).username ≠ Text.lowercase name := by
  simp only [isNameTaken, List.any_eq_false, Bool.and_eq_true, decide_eq_true_eq]
  constructor
  · intro h r hr hne hid heq
    exact h _ (mem_entries_iff_isCurrent.2 hr) ⟨⟨hne, hid⟩, heq⟩
  · intro h e he hboth
    rcases hboth with ⟨⟨hne, hid⟩, heq⟩
    exact h ⟨e.1, e.2⟩ (mem_entries_iff_isCurrent.1 he) hne hid heq

/-! ## The changes -/

/-- A change that gives nobody a name. -/
inductive Turnover (config : UserConfig) (d : UserDirectory) : UserDirectory → Prop
  | connected (client : ClientId) (hostname suffix : String) :
    Turnover config d (d.enrol (.guest client (config.guestName suffix) hostname))
  | gone {r : UserRef} (current : d.IsCurrent r) :
    Turnover config d ((d.update r User.disable).remove r.owner)
  | cleared : Turnover config d d.clear

/-- A change of the directory. -/
inductive Change (rules : UserRules) (d : UserDirectory) : UserDirectory → Prop
  | turnover {d' : UserDirectory} (h : Turnover rules.config d d') : Change rules d d'
  | named {r : UserRef} {claim : NameClaim} (current : d.IsCurrent r)
    (granted : UserService.judge rules d r claim = .ok) :
    Change rules d (d.update r fun u => u.identify claim.username)

/-- A claim is granted to a guest with a valid and free name that the authenticator accepts. -/
theorem judge_eq_ok_iff {rules : UserRules} {d : UserDirectory} {r : UserRef}
    {claim : NameClaim} :
    UserService.judge rules d r claim = .ok ↔
      (d.user r).identified = false ∧ rules.config.isValidUsername claim.username ∧
        (rules.authenticate claim.username claim.password).isOk ∧
        d.isNameTaken claim.username r.owner = false := by
  unfold UserService.judge
  split_ifs <;> simp_all

/-! ## Soundness -/

/-- What holds of a directory at any time. -/
structure Sound (config : UserConfig) (d : UserDirectory) : Prop where
  client : ∀ r, (d.user r).client = r.owner
  enabled : ∀ r, d.IsCurrent r → (d.user r).enabled
  valid : ∀ r, d.IsCurrent r → (d.user r).identified →
    config.isValidUsername (d.user r).username
  unique : ∀ r q, d.IsCurrent r → d.IsCurrent q → (d.user r).identified →
    (d.user q).identified →
    Text.lowercase (d.user r).username = Text.lowercase (d.user q).username → r = q

theorem sound_empty (config : UserConfig) : Sound config ∅ where
  client r := rfl
  enabled r h := by cases h
  valid r h := by cases h
  unique r q h := by cases h

variable {config : UserConfig} {rules : UserRules} {d d' : UserDirectory}

/-- After a turnover a current record is that of a new guest or was current before. -/
theorem Turnover.current (h : Turnover config d d') (hd : Sound config d) {r : UserRef}
    (hr : d'.IsCurrent r) :
    ((d'.user r).identified = false ∧ (d'.user r).enabled) ∨
      (d.IsCurrent r ∧ d'.user r = d.user r) := by
  -- a current record is the new guest's, or it was current before and is the same
  cases h with
  | connected client hostname suffix =>
    rw [IsCurrent, ref?_enrol] at hr
    rw [user_enrol]
    split at hr
    · obtain rfl := Option.some.inj hr
      exact .inl ⟨by simp [User.guest], by simp [User.guest]⟩
    · next hne =>
      have hnew : r ≠ d.records.next client := by
        intro heq
        rw [heq] at hne
        exact hne rfl
      exact .inr ⟨hr, if_neg hnew⟩
  | @gone q current =>
    rw [IsCurrent, ref?_remove] at hr
    split at hr
    · cases hr
    · next hne =>
      have hrq : r ≠ q := fun h => hne (congrArg Ref.owner h)
      refine .inr ⟨hr, ?_⟩
      rw [user_remove, user_update (hd.enabled q current), if_neg hrq]
  | cleared => cases hr

/-- A change does not move a record to another client. -/
theorem Change.client (h : Change rules d d') (hd : Sound rules.config d) (r : UserRef) :
    (d'.user r).client = r.owner := by
  cases h with
  | turnover h =>
    cases h with
    | connected client hostname suffix =>
      rw [user_enrol]
      split
      · next hr => rw [hr]; rfl
      · exact hd.client r
    | @gone q current =>
      rw [user_remove, user_update (hd.enabled q current)]
      split
      · next hr => rw [hr]; exact hd.client q
      · exact hd.client r
    | cleared => exact hd.client r
  | @named q claim current granted =>
    rw [user_update (hd.enabled q current)]
    split
    · next hr => rw [hr]; exact hd.client q
    · exact hd.client r

/-- Clients that come and go keep a directory sound. -/
theorem Sound.turnover (hd : Sound rules.config d) (h : Turnover rules.config d d') :
    Sound rules.config d' where
  client := (Change.turnover h).client hd
  enabled r hr := by
    rcases h.current hd hr with ⟨-, he⟩ | ⟨hr, hu⟩
    · exact he
    · rw [hu]; exact hd.enabled r hr
  valid r hr hi := by
    rcases h.current hd hr with ⟨hn, -⟩ | ⟨hr, hu⟩
    · rw [hn] at hi; cases hi
    · rw [hu] at hi ⊢; exact hd.valid r hr hi
  unique r q hr hq hri hqi heq := by
    -- a guest has no claimed name, so both records were current before
    rcases h.current hd hr with ⟨hn, -⟩ | ⟨hr, hru⟩
    · rw [hn] at hri; cases hri
    rcases h.current hd hq with ⟨hn, -⟩ | ⟨hq, hqu⟩
    · rw [hn] at hqi; cases hqi
    rw [hru] at hri heq
    rw [hqu] at hqi heq
    exact hd.unique r q hr hq hri hqi heq

/-- A granted name is valid and differs from all others, so a directory stays sound. -/
theorem Sound.named (hd : Sound rules.config d) {r : UserRef} {claim : NameClaim}
    (current : d.IsCurrent r) (granted : UserService.judge rules d r claim = .ok) :
    Sound rules.config (d.update r fun u => u.identify claim.username) := by
  obtain ⟨-, hvalid, -, hfree⟩ := judge_eq_ok_iff.1 granted
  rw [isNameTaken_eq_false_iff] at hfree
  have huser := user_update (hd.enabled r current) fun u => u.identify claim.username
  constructor
  case client => exact (Change.named current granted).client hd
  case enabled =>
    intro q hq
    rw [huser]
    split
    · exact hd.enabled r current
    · exact hd.enabled q hq
  case valid =>
    intro q hq hi
    rw [huser] at hi ⊢
    by_cases hqr : q = r
    · rw [if_pos hqr]
      exact hvalid
    · rw [if_neg hqr] at hi ⊢
      exact hd.valid q hq hi
  case unique =>
    -- of two holders of a name at most one is the client that just got it
    have hnew : ∀ q, d.IsCurrent q → q ≠ r → (d.user q).identified →
        Text.lowercase (d.user q).username ≠ Text.lowercase claim.username := by
      intro q hq hne hi
      refine hfree q hq (fun ho => hne ?_) hi
      exact hq.eq current ho
    intro p q hp hq hpi hqi heq
    rw [huser] at hpi heq
    rw [huser q] at hqi heq
    split at hpi <;> split at hqi
    · next hp' hq' => rw [hp', hq']
    · next hp' hq' =>
      rw [if_pos hp', if_neg hq'] at heq
      exact absurd heq.symm (hnew q hq hq' hqi)
    · next hp' hq' =>
      rw [if_neg hp', if_pos hq'] at heq
      exact absurd heq (hnew p hp hp' hpi)
    · next hp' hq' =>
      rw [if_neg hp', if_neg hq'] at heq
      exact hd.unique p q hp hq hpi hqi heq

/-- Every change keeps a directory sound: a name is granted only if nobody has it. -/
theorem Sound.change (hd : Sound rules.config d) (h : Change rules d d') :
    Sound rules.config d' := by
  cases h with
  | turnover h => exact hd.turnover h
  | named current granted => exact hd.named current granted

/-! ## Evolution of records -/

/-- Every record is still there, and became what a record can become. -/
def Evolves (d d' : UserDirectory) : Prop :=
  ∀ r u, d.records.get? r = some u → ∃ v, d'.records.get? r = some v ∧ u.Becomes v

theorem Evolves.refl (d : UserDirectory) : d.Evolves d :=
  fun _ u h => ⟨u, h, .refl u⟩

theorem Evolves.trans {d'' : UserDirectory} (h : d.Evolves d') (h' : d'.Evolves d'') :
    d.Evolves d'' := by
  intro r u hu
  obtain ⟨v, hv, huv⟩ := h r u hu
  obtain ⟨x, hx, hvx⟩ := h' r v hv
  exact ⟨x, hx, huv.trans hvx⟩

/-- An update that lets every record become what it may lets the directory evolve. -/
theorem evolves_update (d : UserDirectory) (r : UserRef) {f : User → User}
    (h : ∀ u, d.records.get? r = some u → u.Becomes (f u)) : d.Evolves (d.update r f) := by
  intro q u hu
  simp only [update, Archive.get?_update]
  split
  · next hq =>
    subst hq
    exact ⟨f u, by rw [hu]; rfl, h u hu⟩
  · exact ⟨u, hu, .refl u⟩

/-- Whatever changes, records become only what they may: none is lost, and a name once granted
stays. -/
theorem Change.evolves (h : Change rules d d') : d.Evolves d' := by
  cases h with
  | turnover h =>
    cases h with
    | connected client hostname suffix =>
      intro r u hu
      refine ⟨u, ?_, .refl u⟩
      simp only [enrol, Archive.get?_add]
      split
      · next hr =>
        rw [hr, Archive.get?_next] at hu
        cases hu
      · exact hu
    | @gone q current =>
      refine evolves_update d q fun u _ => ?_
      exact ⟨rfl, rfl, fun h => ⟨h, rfl⟩, fun h => nomatch h⟩
    | cleared => exact .refl d
  | @named q claim current granted =>
    refine evolves_update d q fun u hu => ?_
    -- a name is granted to a guest, so no granted name is taken away
    have hguest : u.identified = false := by
      have := (judge_eq_ok_iff.1 granted).1
      rwa [user, hu] at this
    exact ⟨rfl, rfl, fun h => by simp [hguest] at h, id⟩

/-- An identified user stays identified, with the same client, name and host name. -/
theorem Evolves.user {r : UserRef} (h : d.Evolves d') (hi : (d.user r).identified) :
    (d.user r).Becomes (d'.user r) := by
  cases hu : d.records.get? r with
  | none =>
    rw [UserDirectory.user, hu] at hi
    cases hi
  | some u =>
    obtain ⟨v, hv, huv⟩ := h r u hu
    simpa [UserDirectory.user, hu, hv] using huv

end UserDirectory

namespace UserService

/-- Who disconnects is no longer found; others are. -/
theorem ref?_disconnect (s : UserService) (client c : ClientId) :
    (s.disconnect client).directory.ref? c =
      if c = client then none else s.directory.ref? c := by
  unfold disconnect
  cases hr : s.directory.ref? client with
  | none =>
    dsimp only
    split
    · next hc => rw [hc, hr]
    · rfl
  | some r =>
    dsimp only
    rw [UserDirectory.ref?_remove, UserDirectory.ref?_update]

/-- A granted claim gives the client its name and is answered with it. -/
theorem claim_of_granted {rules : UserRules} {s : UserService} {r : UserRef} {request : NameClaim}
    (h : judge rules s.directory r request = .ok) :
    s.claim rules r request =
      ({ s with directory := s.directory.update r fun u => u.identify request.username },
        [⟨r.owner, .nameGranted request.username⟩]) := by
  simp [claim, reply, h]

/-- A refused claim changes nothing and is answered with the reason. -/
theorem claim_of_refused {rules : UserRules} {s : UserService} {r : UserRef} {request : NameClaim}
    (h : judge rules s.directory r request ≠ .ok) :
    s.claim rules r request =
      (s, [⟨r.owner, .nameRefused (judge rules s.directory r request)⟩]) := by
  simp [claim, reply, h]

@[simp]
theorem binding_disconnect (s : UserService) (client : ClientId) :
    (s.disconnect client).binding = s.binding := by
  unfold disconnect
  split <;> rfl

@[simp]
theorem binding_claim (rules : UserRules) (s : UserService) (r : UserRef) (request : NameClaim) :
    (s.claim rules r request).1.binding = s.binding := by
  unfold claim
  dsimp only
  split <;> rfl

/-- A claim, granted or not, does not change who is found. -/
theorem ref?_claim (rules : UserRules) (s : UserService) (r : UserRef) (request : NameClaim)
    (c : ClientId) : (s.claim rules r request).1.directory.ref? c = s.directory.ref? c := by
  unfold claim
  dsimp only
  split <;> rfl

end UserService

end ChatServer
