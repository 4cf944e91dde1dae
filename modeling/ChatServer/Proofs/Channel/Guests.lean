import ChatServer.Proofs.Channel.Registry

/-!
# Clients that no channel knows

A client that never claimed a name is on no roster. So the channel service reads none of its records
when others make requests or disconnect, and has nothing to do when the client itself disconnects.
-/

namespace ChatServer

/-- The records of all other clients are the same. -/
def RecordsAgreeOff (g : ClientId) (users users' : UserRef → User) : Prop :=
  ∀ r, r.owner ≠ g → users' r = users r

variable {g : ClientId} {users users' : UserRef → User}

namespace Roster

/-- A roster without the guest lists the same records, whatever the guest's are. -/
theorem records_congr (h : RecordsAgreeOff g users users') {r : Roster} (absent : r.get? g = none) :
    records users' r = records users r := by
  refine List.map_congr_left fun e he => ?_
  have hne : e.1 ≠ g := by
    intro heq
    rw [← heq, Table.get?_eq_some_iff.2 he] at absent
    cases absent
  rw [h ⟨e.1, e.2⟩ hne]

/-- A roster without the guest tells the same clients. -/
theorem recipients_congr (h : RecordsAgreeOff g users users') {r : Roster}
    (absent : r.get? g = none) (excluded : Option ClientId) :
    recipients users' r excluded = recipients users r excluded := by
  rw [recipients, recipients, records_congr h absent]

end Roster

namespace Channel

/-- The client is on no roster of the channel. -/
structure Lacks (c : Channel) (client : ClientId) : Prop where
  members : c.members.get? client = none
  operators : c.operators.get? client = none

variable {c : Channel}

/-- What is told of a channel depends on users only by their names. -/
theorem info_congr (names : ∀ r, (users' r).username = (users r).username) (c : Channel) :
    c.info users' = c.info users := by
  rw [info, info, Roster.usernames, Roster.usernames, Roster.records, Roster.records, List.map_map,
    List.map_map]
  simp only [Function.comp_def, names]

/-- Nobody but its creator is in a new channel. -/
theorem lacks_create {r : UserRef} (ne : r.owner ≠ g) (name key : String) :
    (create name key r).Lacks g where
  members := (get?_singleton r g).trans (if_neg ne.symm)
  operators := (get?_singleton r g).trans (if_neg ne.symm)

/-- Who is not in a channel is not when somebody else is added. -/
theorem Lacks.withMember (h : c.Lacks g) {r : UserRef} (ne : r.owner ≠ g) :
    (c.withMember r).Lacks g where
  members := (get?_withMember c r g).trans ((if_neg ne.symm).trans h.members)
  operators := h.operators

/-- Who is not in a channel is not when somebody is removed. -/
theorem Lacks.withoutMember (h : c.Lacks g) (gone : ClientId) : (c.withoutMember gone).Lacks g where
  members := by
    rw [get?_withoutMember, h.members]
    exact ite_self none
  operators := by
    refine (Table.get?_erase _ _ _).trans ?_
    rw [h.operators]
    exact ite_self none

/-- The snapshot of a channel without the guest does not depend on the guest's record. -/
theorem Lacks.snapshot_congr (h : c.Lacks g) (agree : RecordsAgreeOff g users users') :
    c.snapshot users' = c.snapshot users := by
  rw [snapshot, snapshot, Roster.listing, Roster.listing, Roster.listing, Roster.listing,
    Roster.records_congr agree h.members, Roster.records_congr agree h.operators]

theorem Lacks.info_congr (h : c.Lacks g) (agree : RecordsAgreeOff g users users') :
    c.info users' = c.info users := by
  rw [info, info, Roster.usernames, Roster.usernames, Roster.records_congr agree h.operators]

theorem Lacks.add_congr (h : c.Lacks g) (agree : RecordsAgreeOff g users users') {r : UserRef}
    (ne : r.owner ≠ g) (audience : Audience) :
    c.add users' r audience = c.add users r audience := by
  -- what is told of the channel is read from the rosters with the newcomer on them
  have hnew := h.withMember ne
  have hsnapshot := hnew.snapshot_congr agree
  have hinfo := hnew.info_congr agree
  have hrecipients := Roster.recipients_congr agree hnew.members (audience.excluded r.owner)
  unfold Channel.withMember at hsnapshot hinfo hrecipients
  unfold add
  dsimp only
  rw [hsnapshot, hinfo, hrecipients]

theorem Lacks.remove_congr (h : c.Lacks g) (agree : RecordsAgreeOff g users users')
    (client : ClientId) (audience : Audience) :
    c.remove users' client audience = c.remove users client audience := by
  have hinfo := (h.withoutMember client).info_congr agree
  have hrecipients := Roster.recipients_congr agree h.members (audience.excluded client)
  unfold Channel.withoutMember at hinfo
  unfold remove
  split
  · rfl
  cases hn : c.members.get? client with
  | none => rfl
  | some n =>
    -- who is removed was on the roster, and the guest is not
    have hne : client ≠ g := by
      intro heq
      rw [heq, h.members] at hn
      cases hn
    dsimp only
    rw [hinfo, hrecipients, agree ⟨client, n⟩ hne]

end Channel

namespace ChannelService

variable {config : ChannelConfig} {s : ChannelService}

/-- No channel has a client on its rosters that never claimed a name. -/
theorem Sound.lacks (h : Sound config users s) (guest : ∀ n, (users ⟨g, n⟩).identified = false)
    (channel : ChannelRef) : (s.channel channel).Lacks g := by
  -- members have claimed names, and operators are members
  have hmembers : (s.channel channel).members.get? g = none := by
    refine Option.eq_none_iff_forall_ne_some.2 fun n hn => ?_
    have hidentified := ((h.intact channel (h.registered_of_member hn)).record g n hn).2
    rw [guest n] at hidentified
    cases hidentified
  refine ⟨hmembers, Option.eq_none_iff_forall_ne_some.2 fun n hn => ?_⟩
  rw [h.member_of_operator hn] at hmembers
  cases hmembers

/-- Nothing brings a client without a current record onto a roster. -/
theorem lacks_change {d : UserDirectory} {s' : ChannelService} (sound : Sound config d.user s)
    (absent : d.ref? g = none) (lacks : ∀ r, (s.channel r).Lacks g) (hc : Change config d s s')
    (q : ChannelRef) : (s'.channel q).Lacks g := by
  -- only registered clients found or enter channels, and the guest is none
  have hother : ∀ r, d.IsCurrent r → r.owner ≠ g := by
    intro r current heq
    have hsome : d.ref? r.owner = some r := current
    rw [heq, absent] at hsome
    cases hsome
  cases hc with
  | founded current identified valid free =>
    rw [channel_register]
    split
    · exact Channel.lacks_create (hother _ current) _ _
    · exact lacks q
  | entered current identified registered absent =>
    rw [channel_update (sound.intact _ registered).enabled]
    split
    · exact (lacks _).withMember (hother _ current)
    · exact lacks q
  | parted client registered =>
    rw [channel_part (sound.intact _ registered).enabled]
    split
    · exact (lacks _).withoutMember client
    · exact lacks q
  | cleared =>
    rw [channel_clear]
    split
    · exact ⟨rfl, rfl⟩
    · exact lacks q
  | refitted binding observers => exact lacks q

/-- A client without a record is in no channel, whatever changes. -/
theorem lacks_changes {d : UserDirectory} {s' : ChannelService} (sound : Sound config d.user s)
    (client : ∀ r, (d.user r).client = r.owner) (absent : d.ref? g = none)
    (lacks : ∀ r, (s.channel r).Lacks g) (hc : Changes config d s s') :
    ∀ q, (s'.channel q).Lacks g := by
  induction hc with
  | refl => exact lacks
  | tail hcs hc ih => exact lacks_change (sound.changes client hcs) absent ih hc

/-- A request of another client is performed without looking at the client's records. -/
theorem perform_congr (config : ChannelConfig) (agree : RecordsAgreeOff g users users')
    (lacks : ∀ r, (s.channel r).Lacks g) {r : UserRef} (ne : r.owner ≠ g)
    (request : ChannelRequest) :
    s.perform config users' r request = s.perform config users r request := by
  cases request with
  | join name =>
    have hfound : s.found config users' r name = s.found config users r name := by
      have hinfo := (Channel.lacks_create ne name (config.keyFor name)).info_congr agree
      rw [found, found, agree r ne, hinfo]
    show s.join config users' r name = s.join config users r name
    unfold join enlist
    rw [agree r ne, hfound]
    simp only [(lacks _).add_congr agree ne]
  | leave name =>
    show s.leave config users' r name = s.leave config users r name
    unfold leave dismiss
    rw [agree r ne]
    simp only [(lacks _).remove_congr agree]

/-- A request of a client that claimed no name is refused, of which only the client is told. -/
theorem perform_of_unidentified (config : ChannelConfig) (s : ChannelService) {r : UserRef}
    (h : (users r).identified = false) (request : ChannelRequest) :
    (s.perform config users r request).1 = s ∧
      ∀ o ∈ (s.perform config users r request).2.messages, o.client = r.owner := by
  have hrefused : (!(users r).identified) = true := by rw [h]; rfl
  cases request with
  | join name =>
    have hjoin : s.perform config users r (.join name) =
        (s, refuseJoin (users r) r.owner .notIdentified) := if_pos hrefused
    rw [hjoin]
    exact ⟨rfl, fun o ho => by rw [List.mem_singleton.1 ho]⟩
  | leave name =>
    have hleave : s.perform config users r (.leave name) =
        (s, refuseLeave (users r) r.owner .notIdentified) := if_pos hrefused
    rw [hleave]
    exact ⟨rfl, fun o ho => by rw [List.mem_singleton.1 ho]⟩

/-- A disconnect of another client is announced without looking at the client's records. -/
theorem disconnect_congr (agree : RecordsAgreeOff g users users')
    (lacks : ∀ r, (s.channel r).Lacks g) (servers : Servers) (client : ClientId) :
    s.disconnect servers users' client = s.disconnect servers users client := by
  have hdeparture : ∀ bound r,
      departure bound users' client s r = departure bound users client s r := by
    intro bound r
    have hinfo := ((lacks r).withoutMember client).info_congr agree
    have hrecipients := Roster.recipients_congr agree (lacks r).members (some client)
    rw [departure, departure, hinfo, hrecipients]
    cases hn : (s.channel r).members.get? client with
    | none => rfl
    | some n =>
      -- who is told of was on the roster, and the guest is not
      have hne : client ≠ g := by
        intro heq
        rw [heq, (lacks r).members] at hn
        cases hn
      dsimp only
      rw [agree ⟨client, n⟩ hne]
  rw [disconnect_eq, disconnect_eq]
  simp only [hdeparture]

/-- A disconnect of a client that is on no roster changes nothing and is not announced. -/
theorem disconnect_of_lacks (lacks : ∀ r, (s.channel r).Lacks g) (servers : Servers)
    (users : UserRef → User) : s.disconnect servers users g = (s, .none) := by
  have hretire : ∀ refs, s.retire g refs = s := by
    intro refs
    induction refs with
    | nil => rfl
    | cons r refs ih =>
      show (s.retireFrom g r).retire g refs = s
      rw [retireFrom, if_neg (Channel.not_holds (lacks r).members)]
      exact ih
  have hdeparture : ∀ bound r, departure bound users g s r = .none := by
    intro bound r
    rw [departure, (lacks r).members]
  rw [disconnect_eq, hretire]
  simp only [hdeparture]
  simp [Effects.none]

/-- What observers find out does not depend on the records of users. -/
theorem callbacks_congr (config : ChannelConfig) (users users' : UserRef → User)
    (s : ChannelService) (events : List ChannelEvent) :
    s.callbacks config users' events = s.callbacks config users events := by
  have hcount : ∀ name, (s.info? config users' name).map (·.memberCount) =
      (s.info? config users name).map (·.memberCount) := by
    intro name
    rw [info?, info?, Option.map_map, Option.map_map]
    rfl
  unfold callbacks
  simp only [hcount]

end ChannelService

end ChatServer
