import ChatServer.Proofs.Channel.Closing
import ChatServer.Proofs.Channel.Listings
import ChatServer.Proofs.Channel.Replay
import Mathlib.Data.List.Perm.Subperm
import Mathlib.Logic.Function.Basic

/-!
# One channel from its creation on

Members are added to a channel and removed from it, and it may be closed, in any order, while the
records that its rosters hold change from outside. `Coherent` is what every action keeps: a channel
is in use exactly as long as it has members, and its operators are among them under the same
records. Recipients and snapshots look at the members whose records are enabled by then, infos at
all of them.
-/

namespace ChatServer

/-- Something that happens to a channel, or to a record that its rosters may hold. -/
inductive ChannelAction where
  | add (r : UserRef) (audience : Audience)
  | remove (client : ClientId) (audience : Audience)
  | close
  | change (r : UserRef) (f : User → User)

/-- A channel, and what is known about all users. -/
structure Gathering where
  users : UserRef → User
  channel : Channel

namespace Gathering

/-- A channel that was just created. -/
def opened (users : UserRef → User) (name key : String) (creator : UserRef) : Gathering :=
  ⟨users, .create name key creator⟩

/-- Does something to a channel or to a record. -/
def act (g : Gathering) : ChannelAction → Gathering
  | .add r audience => { g with channel := (g.channel.add g.users r audience).1 }
  | .remove client audience => { g with channel := (g.channel.remove g.users client audience).1 }
  | .close => { g with channel := g.channel.close }
  | .change r f => { g with users := Function.update g.users r (f (g.users r)) }

/-- Does several things one after another. -/
def run (g : Gathering) (actions : List ChannelAction) : Gathering := actions.foldl act g

end Gathering

/-! ## What is told of rosters -/

namespace Roster

variable {users : UserRef → User} {r r' : Roster}

/-- The enabled users of a roster as they are listed, in the order of the roster. -/
def enabledEntries (users : UserRef → User) (r : Roster) : List RosterEntry :=
  ((records users r).filter fun e => e.2.enabled).map fun e => e.2.entry

/-- The listing of a roster has its enabled users and nobody else, sorted by name. -/
structure Lists (users : UserRef → User) (r : Roster) (listing : List RosterEntry) : Prop where
  sorted : listing.Pairwise fun a b => a.username ≤ b.username
  perm : listing.Perm (r.enabledEntries users)

/-- A listing of a roster lists its members, in order, without those whose records are disabled. -/
theorem lists_listing (users : UserRef → User) (r : Roster) : r.Lists users (listing users r) where
  sorted := (List.pairwise_mergeSort le_username_trans le_username_total _).imp of_decide_eq_true
  perm := List.mergeSort_perm _ _

/-- Who is on a roster under the same record is listed at least as often. -/
theorem Lists.subperm {l l' : List RosterEntry} (h : r.Lists users l) (h' : r'.Lists users l')
    (le : ∀ c n, r.get? c = some n → r'.get? c = some n) : l.Subperm l' := by
  have hentries : r.entries.Subperm r'.entries := by
    refine List.subperm_of_subset (r.nodup.of_map _) fun e he => ?_
    exact Table.get?_eq_some_iff.1 (le e.1 e.2 (Table.get?_eq_some_iff.2 he))
  have hrecords : (records users r).Subperm (records users r') := by
    obtain ⟨entries, hperm, hsub⟩ := hentries
    exact ⟨_, hperm.map _, hsub.map _⟩
  have henabled : (r.enabledEntries users).Subperm (r'.enabledEntries users) := by
    obtain ⟨entries, hperm, hsub⟩ := hrecords.filter fun e => e.2.enabled
    exact ⟨_, hperm.map _, hsub.map _⟩
  exact (h.perm.subperm.trans henabled).trans h'.perm.symm.subperm

end Roster

namespace Channel

variable {users : UserRef → User} {c c' : Channel} {r : UserRef} {client : ClientId}
  {audience : Audience}

/-- A snapshot lists the enabled members, and the operators among them, sorted by name. -/
structure Shows (users : UserRef → User) (c : Channel) (s : Snapshot) : Prop where
  members : c.members.Lists users s.members
  operators : c.operators.Lists users s.operators
  operators_le : s.operators.Subperm s.members

/-- An info counts all members and names all operators, whether or not they are enabled. -/
structure Describes (users : UserRef → User) (c : Channel) (i : ChannelInfo) : Prop where
  name : i.name = c.name
  memberCount : i.memberCount = c.memberIds.card
  sorted : i.operators.Pairwise fun a b => a ≤ b
  operators : i.operators.Perm (c.operators.entries.map fun e => (users ⟨e.1, e.2⟩).username)

/-- The enabled members are told, in ascending order, with one left out. -/
structure Tells (users : UserRef → User) (c : Channel) (excluded : Option ClientId)
    (recipients : List ClientId) : Prop where
  ascending : recipients.Pairwise fun a b => a.val < b.val
  mem : ∀ b, b ∈ recipients ↔
    some b ≠ excluded ∧ ∃ n, c.members.get? b = some n ∧ (users ⟨b, n⟩).enabled

/-- A roster tells its enabled members, in order, but for the one that is excluded. -/
theorem tells_recipients (users : UserRef → User) (c : Channel) (excluded : Option ClientId) :
    c.Tells users excluded (Roster.recipients users c.members excluded) where
  ascending := Roster.recipients_strict users c.members excluded
  mem _ := Roster.mem_recipients_iff

/-- What is known about a channel describes it. -/
theorem describes_info (users : UserRef → User) (c : Channel) :
    c.Describes users (c.info users) where
  name := rfl
  memberCount := c.card_memberIds.symm
  sorted :=
    (List.pairwise_mergeSort Roster.le_name_trans Roster.le_name_total _).imp of_decide_eq_true
  operators := by
    refine (List.mergeSort_perm _ _).trans ?_
    rw [Roster.records, List.map_map]
    exact .refl _

/-! ## What every action keeps -/

/-- A channel is in use as long as it has members, and its operators are members. -/
structure Coherent (c : Channel) : Prop where
  enabled_iff : c.enabled ↔ ∃ client, c.isMember client
  operator : ∀ client n, c.operators.get? client = some n → c.members.get? client = some n

/-- The snapshot of a coherent channel shows its members and operators. -/
theorem Coherent.shows (h : c.Coherent) (users : UserRef → User) :
    c.Shows users (c.snapshot users) where
  members := c.members.lists_listing users
  operators := c.operators.lists_listing users
  operators_le :=
    (c.operators.lists_listing users).subperm (c.members.lists_listing users) h.operator

/-- A new channel is coherent: its creator is its only member and its operator. -/
theorem coherent_create (name key : String) (creator : UserRef) :
    (create name key creator).Coherent where
  enabled_iff := by
    have hcreator : (create name key creator).members.get? creator.owner = some creator.number :=
      (get?_singleton creator creator.owner).trans (if_pos rfl)
    exact iff_of_true rfl ⟨creator.owner, Table.contains_iff.2 ⟨_, hcreator⟩⟩
  operator _ _ h := h

/-- A channel is still coherent when a new member is added. -/
theorem Coherent.withMember (h : c.Coherent) (enabled : c.enabled)
    (absent : c.members.get? r.owner = none) : (c.withMember r).Coherent where
  enabled_iff := by
    have hmember : (c.withMember r).members.get? r.owner = some r.number :=
      (get?_withMember c r r.owner).trans (if_pos rfl)
    exact iff_of_true enabled ⟨r.owner, Table.contains_iff.2 ⟨_, hmember⟩⟩
  operator b n hb := by
    have hold := h.operator b n hb
    have hne : b ≠ r.owner := by
      intro heq
      rw [heq, absent] at hold
      cases hold
    rw [get?_withMember, if_neg hne]
    exact hold

/-- A coherent channel without one of its members is coherent, and closed if that was the last one.
-/
theorem Coherent.withoutMember (h : c.Coherent) (client : ClientId) :
    (c.withoutMember client).Coherent where
  enabled_iff := by
    -- the channel stays in use exactly if somebody else is in it
    rw [enabled_withoutMember_iff]
    simp only [HasOther, isMember, Table.contains_iff, get?_withoutMember]
    constructor
    · rintro ⟨b, hne, n, hn⟩
      exact ⟨b, n, by rw [if_neg hne, hn]⟩
    · rintro ⟨b, n, hn⟩
      split at hn
      · cases hn
      · next hne => exact ⟨b, hne, n, hn⟩
  operator b n hb := by
    have hb : (c.operators.erase client).get? b = some n := hb
    rw [Table.get?_erase] at hb
    rw [get?_withoutMember]
    split at hb
    · cases hb
    · next hne =>
      rw [if_neg hne]
      exact h.operator b n hb

/-- A closed channel is coherent. -/
theorem coherent_close (c : Channel) : c.close.Coherent where
  enabled_iff := iff_of_false (by simp [close]) fun ⟨b, hb⟩ => by cases hb
  operator _ _ h := by cases h

/-- Nobody is on the rosters of a channel that is not in use. -/
theorem Coherent.isVacant (h : c.Coherent) (closed : c.enabled = false) : c.IsVacant := by
  have hmembers : ∀ b, c.members.get? b = none := by
    intro b
    refine Option.eq_none_iff_forall_ne_some.2 fun n hn => ?_
    rw [h.enabled_iff.2 ⟨b, Table.contains_iff.2 ⟨n, hn⟩⟩] at closed
    cases closed
  refine ⟨hmembers, fun b => Option.eq_none_iff_forall_ne_some.2 fun n hn => ?_⟩
  have hmember := h.operator b n hn
  rw [hmembers b] at hmember
  cases hmember

/-! ## What comes of adding and removing a member -/

/-- A user was added: it is the one change, and whoever is enabled by then is told and shown. -/
structure Added (users : UserRef → User) (c c' : Channel) (r : UserRef) (audience : Audience)
    (s : Snapshot) (recipients : List ClientId) (i : ChannelInfo) : Prop where
  members : ∀ b, c'.members.get? b = if b = r.owner then some r.number else c.members.get? b
  others : c' = { c with members := c'.members }
  shows : c'.Shows users s
  tells : c'.Tells users (audience.excluded r.owner) recipients
  describes : c'.Describes users i

/-- A member was removed: it is the one change, besides that the channel is no longer in use when
nobody is left. Who was enabled before is told. -/
structure Removed (users : UserRef → User) (c c' : Channel) (client : ClientId)
    (audience : Audience) (u : User) (recipients : List ClientId) (nowEmpty : Bool)
    (i : ChannelInfo) : Prop where
  members : ∀ b, c'.members.get? b = if b = client then none else c.members.get? b
  operators : ∀ b, c'.operators.get? b = if b = client then none else c.operators.get? b
  others : c' =
    { c with members := c'.members, operators := c'.operators, enabled := c'.enabled }
  enabled : c'.enabled = !nowEmpty
  nowEmpty : nowEmpty ↔ ∀ b, c.isMember b → b = client
  record : ∃ n, c.members.get? client = some n ∧ u = users ⟨client, n⟩
  tells : c.Tells users (audience.excluded client) recipients
  describes : c'.Describes users i

/-- The three ways in which adding a user can go. -/
inductive Admission (users : UserRef → User) (c : Channel) (r : UserRef) (audience : Audience) :
    Channel × AddOutcome → Prop
  | disabled (closed : c.enabled = false) : Admission users c r audience (c, .disabled)
  | alreadyMember (enabled : c.enabled) (member : c.isMember r.owner) :
    Admission users c r audience (c, .alreadyMember)
  | added {c' : Channel} {s : Snapshot} {recipients : List ClientId} {i : ChannelInfo}
    (enabled : c.enabled) (absent : c.isMember r.owner = false)
    (h : Added users c c' r audience s recipients i) :
    Admission users c r audience (c', .added s recipients i)

/-- The three ways in which removing a client can go. -/
inductive Dismissal (users : UserRef → User) (c : Channel) (client : ClientId)
    (audience : Audience) : Channel × RemoveOutcome → Prop
  | disabled (closed : c.enabled = false) : Dismissal users c client audience (c, .disabled)
  | notMember (enabled : c.enabled) (absent : c.isMember client = false) :
    Dismissal users c client audience (c, .notMember)
  | removed {c' : Channel} {u : User} {recipients : List ClientId} {nowEmpty : Bool}
    {i : ChannelInfo} (enabled : c.enabled) (member : c.isMember client)
    (h : Removed users c c' client audience u recipients nowEmpty i) :
    Dismissal users c client audience (c', .removed u recipients nowEmpty i)

/-- To add a member comes to one of the outcomes of an admission. -/
theorem Coherent.admission (h : c.Coherent) (users : UserRef → User) (r : UserRef)
    (audience : Audience) : Admission users c r audience (c.add users r audience) := by
  have hadd := c.addition users r audience
  generalize c.add users r audience = result at hadd
  cases hadd with
  | disabled closed => exact .disabled closed
  | alreadyMember enabled member => exact .alreadyMember enabled member
  | added enabled absent =>
    exact .added enabled (Table.contains_eq_false_iff.2 absent)
      { members := get?_withMember c r
        others := rfl
        shows := (h.withMember enabled absent).shows users
        tells := tells_recipients users (c.withMember r) _
        describes := describes_info users (c.withMember r) }

/-- To remove a client comes to one of the outcomes of a dismissal. -/
theorem dismissal (users : UserRef → User) (c : Channel) (client : ClientId)
    (audience : Audience) : Dismissal users c client audience (c.remove users client audience) := by
  have hremove := c.removal users client audience
  generalize c.remove users client audience = result at hremove
  cases hremove with
  | disabled closed => exact .disabled closed
  | notMember enabled absent => exact .notMember enabled (Table.contains_eq_false_iff.2 absent)
  | @removed n enabled member =>
    refine .removed enabled (Table.contains_iff.2 ⟨n, member⟩)
      { members := get?_withoutMember c client
        operators := fun b => Table.get?_erase c.operators client b
        others := rfl
        enabled := rfl
        nowEmpty := ?_
        record := ⟨n, member, rfl⟩
        tells := tells_recipients users c _
        describes := describes_info users (c.withoutMember client) }
    -- nobody is left exactly if there was no other member
    rw [← Bool.not_eq_false, isEmpty_withoutMember_iff, HasOther]
    grind

end Channel

namespace Gathering

variable {g : Gathering}

/-! ## Whole lifetimes -/

/-- Every action keeps a channel coherent. -/
theorem coherent_act (h : g.channel.Coherent) (a : ChannelAction) :
    (g.act a).channel.Coherent := by
  cases a with
  | add r audience =>
    have hadd := g.channel.addition g.users r audience
    show (g.channel.add g.users r audience).1.Coherent
    generalize g.channel.add g.users r audience = result at hadd
    cases hadd with
    | disabled closed => exact h
    | alreadyMember enabled member => exact h
    | added enabled absent => exact h.withMember enabled absent
  | remove client audience =>
    have hremove := g.channel.removal g.users client audience
    show (g.channel.remove g.users client audience).1.Coherent
    generalize g.channel.remove g.users client audience = result at hremove
    cases hremove with
    | disabled closed => exact h
    | notMember enabled absent => exact h
    | removed enabled member => exact h.withoutMember client
  | close => exact g.channel.coherent_close
  | change r f => exact h

theorem coherent_run (h : g.channel.Coherent) (actions : List ChannelAction) :
    (g.run actions).channel.Coherent := by
  induction actions generalizing g with
  | nil => exact h
  | cons a actions ih => exact ih (coherent_act h a)

/-- Nothing changes a channel that is not in use. -/
theorem channel_act_of_closed (h : g.channel.Coherent) (closed : g.channel.enabled = false)
    (a : ChannelAction) : (g.act a).channel = g.channel := by
  cases a with
  | add r audience => exact congrArg Prod.fst (Channel.add_of_closed closed g.users r audience)
  | remove client audience =>
    exact congrArg Prod.fst (Channel.remove_of_closed closed g.users client audience)
  | close => exact (h.isVacant closed).close_eq_self closed
  | change r f => rfl

/-- A closed channel stays as it is, whatever is done. -/
theorem channel_run_of_closed (h : g.channel.Coherent) (closed : g.channel.enabled = false)
    (actions : List ChannelAction) : (g.run actions).channel = g.channel := by
  induction actions generalizing g with
  | nil => rfl
  | cons a actions ih =>
    have hfirst := channel_act_of_closed h closed a
    refine (ih (coherent_act h a) ?_).trans hfirst
    rw [hfirst]
    exact closed

/-- Whatever happens to a channel from its creation on, and to the records that its rosters hold, it
is in use exactly as long as it has members, its operators are among them, and once it is out of use
it stays as it is and refuses everyone. A user is added exactly if the channel is in use and the
client is no member, and removed exactly if it is a member of a channel in use; nothing else changes
on the rosters. Those who are told are the enabled members, after the addition or before the
removal, in ascending order. A snapshot lists the enabled members and the operators among them,
sorted by name, and an info counts all members. -/
theorem lifetime (users : UserRef → User) (name key : String) (creator : UserRef)
    (actions : List ChannelAction) :
    let g := (opened users name key creator).run actions
    let c := g.channel
    c.Coherent ∧
    (c.enabled = false →
      (∀ later, (g.run later).channel = c) ∧
      (∀ users r audience, c.add users r audience = (c, .disabled)) ∧
      ∀ users client audience, c.remove users client audience = (c, .disabled)) ∧
    (∀ r audience,
      Channel.Admission g.users c r audience (c.add g.users r audience) ∧
      ((∃ s recipients i, (c.add g.users r audience).2 = .added s recipients i) ↔
        c.enabled ∧ c.isMember r.owner = false)) ∧
    (∀ client audience,
      Channel.Dismissal g.users c client audience (c.remove g.users client audience) ∧
      ((∃ u recipients nowEmpty i,
          (c.remove g.users client audience).2 = .removed u recipients nowEmpty i) ↔
        c.enabled ∧ c.isMember client)) ∧
    c.Shows g.users (c.snapshot g.users) ∧ c.Describes g.users (c.info g.users) := by
  intro g c
  have hcoherent : c.Coherent := coherent_run (Channel.coherent_create name key creator) actions
  refine ⟨hcoherent, fun closed => ⟨fun later => ?_, ?_, ?_⟩, fun r audience => ?_,
    fun client audience => ?_, hcoherent.shows g.users, c.describes_info g.users⟩
  · exact channel_run_of_closed hcoherent closed later
  · exact fun users r audience => Channel.add_of_closed closed users r audience
  · exact fun users client audience => Channel.remove_of_closed closed users client audience
  · have hadmission := hcoherent.admission g.users r audience
    refine ⟨hadmission, ?_⟩
    generalize c.add g.users r audience = result at hadmission
    cases hadmission with
    | disabled closed => simp [closed]
    | alreadyMember enabled member => simp [member]
    | added enabled absent h => simp [enabled, absent]
  · have hdismissal := c.dismissal g.users client audience
    refine ⟨hdismissal, ?_⟩
    generalize c.remove g.users client audience = result at hdismissal
    cases hdismissal with
    | disabled closed => simp [closed]
    | notMember enabled absent => simp [absent]
    | removed enabled member h => simp [enabled, member]

end Gathering

end ChatServer
