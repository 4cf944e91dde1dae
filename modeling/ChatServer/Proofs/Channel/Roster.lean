import ChatServer.Channel.Basic
import ChatServer.Channel.Name
import ChatServer.Proofs.Table
import ChatServer.Proofs.User.Directory
import Mathlib.Data.Finset.Basic
import Mathlib.Data.Finset.Dedup
import Mathlib.Tactic.SplitIfs

/-!
# Members of one channel

What adding and removing a member does to a channel, in all cases, and who is on the lists that
come of it. `Channel.Intact` collects what holds of every channel in use: it is enabled and has
members, who are identified, and its only operator is one of them.
-/

namespace ChatServer

namespace Roster

variable {users : UserRef → User}

/-- The records of a roster are those that its members joined with. -/
theorem mem_records_iff {r : Roster} {c : ClientId} {u : User} :
    (c, u) ∈ records users r ↔ ∃ n, r.get? c = some n ∧ users ⟨c, n⟩ = u := by
  simp only [records, List.mem_map, Prod.mk.injEq]
  constructor
  · intro h
    rcases h with ⟨⟨k, n⟩, he, rfl, rfl⟩
    exact ⟨n, Table.get?_eq_some_iff.2 he, rfl⟩
  · intro h
    rcases h with ⟨n, hn, rfl⟩
    exact ⟨(c, n), Table.get?_eq_some_iff.1 hn, rfl, rfl⟩

/-- The enabled clients of a roster, with one left out, are told. -/
theorem mem_recipients_iff {r : Roster} {excluded : Option ClientId} {c : ClientId} :
    c ∈ recipients users r excluded ↔
      some c ≠ excluded ∧ ∃ n, r.get? c = some n ∧ (users ⟨c, n⟩).enabled := by
  simp only [recipients, List.mem_mergeSort, List.mem_map, List.mem_filter, Bool.and_eq_true,
    decide_eq_true_eq]
  constructor
  · intro h
    rcases h with ⟨⟨b, u⟩, ⟨hu, hne, he⟩, rfl⟩
    rcases mem_records_iff.1 hu with ⟨n, hn, rfl⟩
    exact ⟨hne, n, hn, he⟩
  · intro h
    rcases h with ⟨hne, n, hn, he⟩
    exact ⟨(c, _), ⟨mem_records_iff.2 ⟨n, hn, rfl⟩, hne, he⟩, rfl⟩

theorem nodup_keys_records (users : UserRef → User) (r : Roster) :
    ((records users r).map Prod.fst).Nodup := by
  rw [records, List.map_map]
  exact r.nodup

/-- Nobody is told twice. -/
theorem nodup_recipients (r : Roster) (excluded : Option ClientId) :
    (recipients users r excluded).Nodup := by
  have hsome := (nodup_keys_records users r).sublist
    ((List.filter_sublist (p := fun e => some e.1 ≠ excluded && e.2.enabled)).map Prod.fst)
  exact (List.mergeSort_perm _ _).nodup_iff.2 hsome

/-- The enabled users of a roster are listed. -/
theorem mem_listing_iff {r : Roster} {e : RosterEntry} :
    e ∈ listing users r ↔
      ∃ c n, r.get? c = some n ∧ (users ⟨c, n⟩).enabled ∧ (users ⟨c, n⟩).entry = e := by
  simp only [listing, List.mem_mergeSort, List.mem_map, List.mem_filter]
  constructor
  · intro h
    rcases h with ⟨⟨c, u⟩, ⟨hu, he⟩, rfl⟩
    rcases mem_records_iff.1 hu with ⟨n, hn, rfl⟩
    exact ⟨c, n, hn, he, rfl⟩
  · intro h
    rcases h with ⟨c, n, hn, he, rfl⟩
    exact ⟨(c, _), ⟨mem_records_iff.2 ⟨n, hn, rfl⟩, he⟩, rfl⟩

/-- The names and host names of all clients on a roster. -/
def entrySet (users : UserRef → User) (r : Roster) : Finset RosterEntry :=
  (r.entries.map fun e => (users ⟨e.1, e.2⟩).entry).toFinset

/-- The entries of a roster are those of its members' records. -/
theorem mem_entrySet_iff {r : Roster} {e : RosterEntry} :
    e ∈ entrySet users r ↔ ∃ c n, r.get? c = some n ∧ (users ⟨c, n⟩).entry = e := by
  simp only [entrySet, List.mem_toFinset, List.mem_map, Prod.exists, Table.get?_eq_some_iff]

/-- A listing leaves out nobody if all are enabled. -/
theorem toFinset_listing {r : Roster}
    (h : ∀ c n, r.get? c = some n → (users ⟨c, n⟩).enabled) :
    (listing users r).toFinset = entrySet users r := by
  ext e
  rw [List.mem_toFinset, mem_listing_iff, mem_entrySet_iff]
  constructor
  · intro he
    rcases he with ⟨c, n, hn, -, he⟩
    exact ⟨c, n, hn, he⟩
  · intro he
    rcases he with ⟨c, n, hn, he⟩
    exact ⟨c, n, hn, h c n hn, he⟩

/-- Entries are the same as long as the records of the members show the same. -/
theorem entrySet_congr {users' : UserRef → User} {r : Roster}
    (h : ∀ c n, r.get? c = some n → (users' ⟨c, n⟩).entry = (users ⟨c, n⟩).entry) :
    entrySet users' r = entrySet users r := by
  ext e
  simp only [mem_entrySet_iff]
  constructor
  · intro he
    rcases he with ⟨c, n, hn, he⟩
    exact ⟨c, n, hn, (h c n hn).symm.trans he⟩
  · intro he
    rcases he with ⟨c, n, hn, he⟩
    exact ⟨c, n, hn, (h c n hn).trans he⟩

/-- Who is added to a roster adds its entry. -/
theorem entrySet_insert {r : Roster} {c : ClientId} (h : r.get? c = none) (n : Nat) :
    entrySet users (r.insert c n) = insert (users ⟨c, n⟩).entry (entrySet users r) := by
  ext e
  simp only [Finset.mem_insert, mem_entrySet_iff, Table.get?_insert]
  constructor
  · intro he
    rcases he with ⟨b, m, hm, he⟩
    split at hm
    · next hb =>
      rw [hb, ← Option.some.inj hm] at he
      exact .inl he.symm
    · exact .inr ⟨b, m, hm, he⟩
  · intro he
    rcases he with he | ⟨b, m, hm, he⟩
    · exact ⟨c, n, if_pos rfl, he.symm⟩
    -- an entry that was there is not of the client that is added
    · have hb : b ≠ c := by
        intro hbc
        rw [hbc, h] at hm
        cases hm
      exact ⟨b, m, by rw [if_neg hb, hm], he⟩

/-- A removed client is missing from the names if nobody else on the roster has its name. -/
theorem entrySet_erase {r : Roster} {c : ClientId} {n : Nat} (h : r.get? c = some n)
    (distinct : ∀ b m, r.get? b = some m → (users ⟨b, m⟩).entry = (users ⟨c, n⟩).entry → b = c) :
    entrySet users (r.erase c) = (entrySet users r).erase (users ⟨c, n⟩).entry := by
  ext e
  simp only [Finset.mem_erase, mem_entrySet_iff, Table.get?_erase]
  constructor
  · intro he
    rcases he with ⟨b, m, hm, rfl⟩
    split at hm
    · cases hm
    · next hb => exact ⟨fun he => hb (distinct b m hm he), b, m, hm, rfl⟩
  · intro he
    rcases he with ⟨hne, b, m, hm, rfl⟩
    -- whoever is listed under another name is another client
    have hb : b ≠ c := by
      intro hbc
      subst hbc
      rw [h] at hm
      apply hne
      rw [Option.some.inj hm]
    exact ⟨b, m, by rw [if_neg hb, hm], rfl⟩

end Roster

namespace Channel

variable {users : UserRef → User}

/-- The channel with one more member. -/
def withMember (c : Channel) (r : UserRef) : Channel :=
  { c with members := c.members.insert r.owner r.number }

/-- The channel without a client, which is disabled if nobody is left. -/
def withoutMember (c : Channel) (client : ClientId) : Channel :=
  { c with
    enabled := !(c.members.erase client).isEmpty
    members := c.members.erase client
    operators := c.operators.erase client }

/-- What adding a member comes to. -/
inductive Addition (users : UserRef → User) (c : Channel) (r : UserRef) (audience : Audience) :
    Channel × AddOutcome → Prop
  | disabled (closed : c.enabled = false) : Addition users c r audience (c, .disabled)
  | alreadyMember (enabled : c.enabled) (member : c.isMember r.owner) :
    Addition users c r audience (c, .alreadyMember)
  | added (enabled : c.enabled) (absent : c.members.get? r.owner = none) :
    Addition users c r audience
      (c.withMember r,
        .added ((c.withMember r).snapshot users)
          (Roster.recipients users (c.withMember r).members (audience.excluded r.owner))
          ((c.withMember r).info users))

/-- To add a client to a channel comes to one of the outcomes of an addition. -/
theorem addition (users : UserRef → User) (c : Channel) (r : UserRef) (audience : Audience) :
    Addition users c r audience (c.add users r audience) := by
  unfold add
  split_ifs with he hm
  · exact .disabled (by simpa using he)
  · exact .alreadyMember (by simpa using he) hm
  · rw [Bool.not_eq_true] at hm
    exact .added (by simpa using he) (Table.contains_eq_false_iff.1 hm)

/-- What removing a member comes to. -/
inductive Removal (users : UserRef → User) (c : Channel) (client : ClientId)
    (audience : Audience) : Channel × RemoveOutcome → Prop
  | disabled (closed : c.enabled = false) : Removal users c client audience (c, .disabled)
  | notMember (enabled : c.enabled) (absent : c.members.get? client = none) :
    Removal users c client audience (c, .notMember)
  | removed {n : Nat} (enabled : c.enabled) (member : c.members.get? client = some n) :
    Removal users c client audience
      (c.withoutMember client,
        .removed (users ⟨client, n⟩)
          (Roster.recipients users c.members (audience.excluded client))
          (c.withoutMember client).members.isEmpty ((c.withoutMember client).info users))

/-- To remove a client from a channel comes to one of the outcomes of a removal. -/
theorem removal (users : UserRef → User) (c : Channel) (client : ClientId)
    (audience : Audience) :
    Removal users c client audience (c.remove users client audience) := by
  unfold remove
  split_ifs with he
  · exact .disabled (by simpa using he)
  · have enabled : c.enabled := by simpa using he
    cases hm : c.members.get? client with
    | none => exact .notMember enabled hm
    | some n => exact .removed enabled hm

/-! ## Channels in use -/

/-- What holds of a channel that is found under a key. -/
structure Intact (config : ChannelConfig) (users : UserRef → User) (key : String)
    (c : Channel) : Prop where
  key_eq : c.key = key
  keyFor_name : config.keyFor c.name = key
  valid : isValidChannelName c.name
  enabled : c.enabled
  inhabited : c.members.isEmpty = false
  operator : ∀ client n, c.operators.get? client = some n → c.members.get? client = some n
  oneOperator : c.operators.size ≤ 1
  record : ∀ client n, c.members.get? client = some n →
    (users ⟨client, n⟩).client = client ∧ (users ⟨client, n⟩).identified

variable {config : ChannelConfig}

theorem get?_singleton (r : UserRef) (client : ClientId) :
    (Table.empty.insert r.owner r.number).get? client =
      if client = r.owner then some r.number else none := by
  rw [Table.get?_insert]
  rfl

/-- A channel that a client with a name creates is intact. -/
theorem intact_create {r : UserRef} {name : String} (valid : isValidChannelName name)
    (client : (users r).client = r.owner) (identified : (users r).identified) :
    Intact config users (config.keyFor name) (create name (config.keyFor name) r) where
  key_eq := rfl
  keyFor_name := rfl
  valid := valid
  enabled := rfl
  inhabited := Table.isEmpty_eq_false_iff.2 ⟨r.owner, r.number, by simp [create, get?_singleton]⟩
  operator _ _ h := h
  oneOperator := by simp [create, Table.insert, Table.size, Table.keys, Table.empty]
  record c n h := by
    simp only [create, get?_singleton] at h
    split at h
    · next hc =>
      obtain rfl := Option.some.inj h
      rw [hc]
      exact ⟨client, identified⟩
    · cases h

/-- Who is added is on the roster with its record, and the others stay. -/
theorem get?_withMember (c : Channel) (r : UserRef) (client : ClientId) :
    (c.withMember r).members.get? client =
      if client = r.owner then some r.number else c.members.get? client :=
  Table.get?_insert _ _ _ _

theorem get?_withoutMember (c : Channel) (gone client : ClientId) :
    (c.withoutMember gone).members.get? client =
      if client = gone then none else c.members.get? client :=
  Table.get?_erase _ _ _

/-- Someone besides a client is a member. -/
def HasOther (c : Channel) (client : ClientId) : Prop := ∃ b, b ≠ client ∧ c.isMember b

/-- Without a client, a channel is left empty if there was nobody else. -/
theorem isEmpty_withoutMember_iff {c : Channel} {client : ClientId} :
    (c.withoutMember client).members.isEmpty = false ↔ c.HasOther client := by
  rw [Table.isEmpty_eq_false_iff]
  constructor
  · rintro ⟨b, n, hb⟩
    rw [get?_withoutMember] at hb
    split_ifs at hb with hne
    exact ⟨b, hne, Table.contains_iff.2 ⟨n, hb⟩⟩
  · rintro ⟨b, hne, hb⟩
    obtain ⟨n, hn⟩ := Table.contains_iff.1 hb
    exact ⟨b, n, (get?_withoutMember c client b).trans ((if_neg hne).trans hn)⟩

/-- A channel stays enabled without a client if somebody is left. -/
theorem enabled_withoutMember_iff {c : Channel} {client : ClientId} :
    (c.withoutMember client).enabled ↔ c.HasOther client := by
  rw [← isEmpty_withoutMember_iff, withoutMember, Bool.not_eq_true']

variable {key : String} {c : Channel}

/-- A channel is still intact when a client with a name is added that was not in it. -/
theorem Intact.withMember (h : Intact config users key c) {r : UserRef}
    (absent : c.members.get? r.owner = none) (client : (users r).client = r.owner)
    (identified : (users r).identified) : Intact config users key (c.withMember r) where
  key_eq := h.key_eq
  keyFor_name := h.keyFor_name
  valid := h.valid
  enabled := h.enabled
  inhabited := Table.isEmpty_eq_false_iff.2 ⟨r.owner, r.number, by simp [get?_withMember]⟩
  operator b n hb := by
    have hm := h.operator b n hb
    -- an operator was a member before, so it is not the one that is added
    have hne : b ≠ r.owner := by
      intro hb
      rw [hb, absent] at hm
      cases hm
    rw [get?_withMember, if_neg hne]
    exact hm
  oneOperator := h.oneOperator
  record b n hb := by
    rw [get?_withMember] at hb
    split at hb
    · next hr =>
      obtain rfl := Option.some.inj hb
      rw [hr]
      exact ⟨client, identified⟩
    · exact h.record b n hb

/-- A channel is still intact without a member, if somebody is left. -/
theorem Intact.withoutMember (h : Intact config users key c) {client : ClientId}
    (rest : (c.withoutMember client).members.isEmpty = false) :
    Intact config users key (c.withoutMember client) := by
  -- who is left was there before
  have hmember : ∀ b n, (c.withoutMember client).members.get? b = some n →
      c.members.get? b = some n := by
    intro b n hb
    rw [get?_withoutMember] at hb
    split at hb
    · cases hb
    · exact hb
  constructor
  case key_eq => exact h.key_eq
  case keyFor_name => exact h.keyFor_name
  case valid => exact h.valid
  case enabled =>
    show (!(c.members.erase client).isEmpty) = true
    rw [show (c.members.erase client).isEmpty = false from rest]
    rfl
  case inhabited => exact rest
  case operator =>
    intro b n hb
    have hb : (c.operators.erase client).get? b = some n := hb
    rw [Table.get?_erase] at hb
    rw [get?_withoutMember]
    split at hb
    · cases hb
    · next hne =>
      rw [if_neg hne]
      exact h.operator b n hb
  case oneOperator => exact (Table.size_erase_le _ _).trans h.oneOperator
  case record =>
    intro b n hb
    exact h.record b n (hmember b n hb)

/-- The founder of a channel is all there is on its roster. -/
theorem entrySet_create (users : UserRef → User) (name key : String) (r : UserRef) :
    Roster.entrySet users (create name key r).members = {(users r).entry} := by
  show Roster.entrySet users (Table.insert ∅ r.owner r.number) = _
  rw [Roster.entrySet_insert rfl]
  rfl

/-- Nobody but its creator is in a new channel. -/
theorem get?_create {name key : String} {r : UserRef} {client : ClientId} {n : Nat}
    (h : (create name key r).members.get? client = some n) : (⟨client, n⟩ : UserRef) = r := by
  have hsingle : (Table.empty.insert r.owner r.number).get? client = some n := h
  rw [get?_singleton] at hsingle
  split at hsingle
  · next hc => rw [hc, ← Option.some.inj hsingle]
  · cases hsingle

/-- Nobody is on the rosters. -/
structure IsVacant (c : Channel) : Prop where
  members : ∀ client, c.members.get? client = none
  operators : ∀ client, c.operators.get? client = none

/-- Everyone who is an operator is a member. -/
def OperatorsBelong (c : Channel) : Prop :=
  ∀ client n, c.operators.get? client = some n → ∃ m, c.members.get? client = some m

theorem operatorsBelong_create (name key : String) (r : UserRef) :
    (create name key r).OperatorsBelong :=
  fun _ n h => ⟨n, h⟩

/-- Operators are still members when somebody is added. -/
theorem OperatorsBelong.withMember (h : c.OperatorsBelong) (r : UserRef) :
    (c.withMember r).OperatorsBelong := by
  intro client n hn
  obtain ⟨m, hm⟩ := h client n hn
  rw [get?_withMember]
  split
  · exact ⟨_, rfl⟩
  · exact ⟨m, hm⟩

/-- Operators are still members when somebody is removed, who is no operator any more either. -/
theorem OperatorsBelong.withoutMember (h : c.OperatorsBelong) (gone : ClientId) :
    (c.withoutMember gone).OperatorsBelong := by
  intro client n hn
  have hn : (c.operators.erase gone).get? client = some n := hn
  rw [Table.get?_erase] at hn
  rw [get?_withoutMember]
  split at hn
  · cases hn
  · next hne =>
    rw [if_neg hne]
    exact h client n hn

/-- A channel that is closed by the leave of its last member has nobody on its rosters. -/
theorem OperatorsBelong.isVacant_withoutMember (h : c.OperatorsBelong) {gone : ClientId}
    (closed : (c.withoutMember gone).enabled = false) : (c.withoutMember gone).IsVacant := by
  have hempty : (c.members.erase gone).isEmpty := by simpa [Channel.withoutMember] using closed
  have hmembers : ∀ client, (c.withoutMember gone).members.get? client = none :=
    Table.isEmpty_iff.1 hempty
  refine ⟨hmembers, fun client => Option.eq_none_iff_forall_ne_some.2 fun n hn => ?_⟩
  obtain ⟨m, hm⟩ := h.withoutMember gone client n hn
  rw [hmembers] at hm
  cases hm

theorem Intact.operatorsBelong (h : Intact config users key c) : c.OperatorsBelong :=
  fun client n hn => ⟨n, h.operator client n hn⟩

/-- A channel stays intact when its members' records change as records can. -/
theorem Intact.of_becomes {users' : UserRef → User} (h : Intact config users key c)
    (becomes : ∀ r, (users r).identified → (users r).Becomes (users' r)) :
    Intact config users' key c :=
  { h with
    record := by
      intro b n hb
      obtain ⟨hc, hi⟩ := h.record b n hb
      have hbecomes := becomes _ hi
      exact ⟨hbecomes.client.trans hc, (hbecomes.identified hi).1⟩ }

end Channel

end ChatServer
