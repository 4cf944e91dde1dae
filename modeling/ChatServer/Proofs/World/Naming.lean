import ChatServer.Proofs.World.Frames
import ChatServer.Proofs.World.Operators

/-!
# Under which names users appear

A record is known to others under the name that its client claimed. Nobody is on a roster before
that, and a claimed name is never changed, so the notice that a member joined, every snapshot that
lists it and the notice that it left all name it alike. `Presents` says so of one step, with one
naming for the records of a whole run.
-/

namespace ChatServer

namespace Roster

variable {users : UserRef → User}

/-- The records on a roster whose users are enabled. -/
def present (users : UserRef → User) (r : Roster) : List UserRef :=
  (r.entries.map fun e => (⟨e.1, e.2⟩ : UserRef)).filter fun q => (users q).enabled

/-- Present are the members whose records are enabled. -/
theorem mem_present_iff {r : Roster} {q : UserRef} :
    q ∈ present users r ↔ r.get? q.owner = some q.number ∧ (users q).enabled := by
  rw [present, List.mem_filter, Table.get?_eq_some_iff, List.mem_map]
  refine and_congr_left fun _ => ⟨?_, fun h => ⟨_, h, rfl⟩⟩
  rintro ⟨e, he, rfl⟩
  exact he

/-- A listing has one entry for each enabled user. -/
theorem listing_perm (users : UserRef → User) (r : Roster) :
    (listing users r).Perm ((present users r).map fun q => (users q).entry) := by
  have hunsorted : (((records users r).filter fun e => e.2.enabled).map fun e => e.2.entry) =
      (present users r).map fun q => (users q).entry := by
    simp only [records, present, List.filter_map, List.map_map, Function.comp_def]
  rw [← hunsorted]
  exact List.mergeSort_perm _ _

end Roster

/-- Whether a message names members of a channel. -/
def ServerMessage.namesMembers : ServerMessage → Bool
  | joined _ => true
  | memberJoined _ _ => true
  | memberLeft _ _ => true
  | _ => false

namespace UserService

/-- The answer to a claim names no members. -/
theorem namesMembers_reply (username : String) (result : UserResult) :
    (reply username result).namesMembers = false := by
  unfold reply
  split <;> rfl

end UserService

namespace ChannelService

variable {s : ChannelService}

/-- The roster of a channel holds a record. -/
def Lists (s : ChannelService) (r : ChannelRef) (q : UserRef) : Prop :=
  (s.channel r).members.get? q.owner = some q.number

/-- A record is on a roster until its client is off the roster. -/
def Keeps (s s' : ChannelService) : Prop :=
  ∀ r q, s.Lists r q → s'.Lists r q ∨ (s'.channel r).members.get? q.owner = none

theorem Keeps.of_channel_eq {s' : ChannelService} (h : s'.channel = s.channel) : s.Keeps s' :=
  fun r q hq => .inl (by rw [Lists, h]; exact hq)

/-- Channels keep the records of all members but those who go. -/
theorem keeps_withoutMember {s' : ChannelService} (client : ClientId)
    (h : ∀ r, s'.channel r = s.channel r ∨ s'.channel r = (s.channel r).withoutMember client) :
    s.Keeps s' := by
  intro r q hq
  rw [Lists]
  rcases h r with hr | hr
  · rw [hr]
    exact .inl hq
  · rw [hr, Channel.get?_withoutMember]
    split
    · exact .inr rfl
    · exact .inl hq

/-- A join lets every member keep the record that it is listed by. -/
theorem keeps_join (config : ChannelConfig) (users : UserRef → User) (s : ChannelService)
    (p : UserRef) (name : String) : s.Keeps (s.join config users p name).1 := by
  intro r q hq
  have h := joining config users s p name
  generalize s.join config users p name = result at h
  cases h with
  | refused why => exact .inl hq
  | founded allowed free =>
    -- nobody is on the roster of a channel that was not there
    have hnew : r ≠ s.channels.next (config.keyFor name) := by
      rintro rfl
      rw [Lists, channel, Archive.get?_next] at hq
      cases hq
    left
    show ((s.register _).channel r).members.get? q.owner = some q.number
    rw [channel_register]
    exact (congrArg (fun c : Channel => c.members.get? q.owner) (if_neg hnew)).trans hq
  | @entered channel allowed found =>
    obtain ⟨-, -, henabled⟩ := lookup?_eq_some_iff.1 found
    obtain ⟨-, -, habsent⟩ := joinRefusal?_eq_none_iff.1 allowed
    left
    rw [Lists, channel_update henabled]
    split
    · next heq =>
      subst heq
      have hne : q.owner ≠ p.owner := by
        intro heq
        rw [Lists, heq, habsent _ found] at hq
        cases hq
      rw [Channel.get?_withMember, if_neg hne]
      exact hq
    · exact hq

theorem keeps_leave (config : ChannelConfig) (users : UserRef → User) (s : ChannelService)
    (p : UserRef) (name : String) : s.Keeps (s.leave config users p name).1 := by
  have h := leaving config users s p name
  generalize s.leave config users p name = result at h
  cases h with
  | refused why => exact .of_channel_eq rfl
  | @parted channel n allowed found member =>
    obtain ⟨-, -, henabled⟩ := lookup?_eq_some_iff.1 found
    refine keeps_withoutMember p.owner fun r => ?_
    rw [channel_part henabled]
    split
    · next heq =>
      rw [heq]
      exact .inr rfl
    · exact .inl rfl

theorem keeps_retire (s : ChannelService) (client : ClientId) :
    s.Keeps (s.retire client s.refs) := by
  refine keeps_withoutMember client fun r => ?_
  rw [channel_retire s.nodup_refs]
  split
  · exact .inr rfl
  · exact .inl rfl

end ChannelService

namespace World

variable {rules : Rules} {w : World} {st : Step} {naming : UserRef → RosterEntry}

/-- Every snapshot lists the enabled users of a roster under their names. -/
def Shows (naming : UserRef → RosterEntry) (w : World) : Prop :=
  ∀ r, let c := w.channels.channel r
    (c.snapshot w.user).members.Perm ((Roster.present w.user c.members).map naming) ∧
      (c.snapshot w.user).operators.Perm ((Roster.present w.user c.operators).map naming)

/-- What the messages of a step say about the users on rosters. Who is announced to have joined was
not on the roster before and is on it now; who is announced to have left was on the roster; both
under their names. The rosters that a newcomer is sent are the snapshot of its channel. No record
takes the place of another one on a roster. -/
structure Presents (rules : Rules) (naming : UserRef → RosterEntry) (w : World) (st : Step) :
    Prop where
  joined : ∀ c r member, ⟨c, .memberJoined r member⟩ ∈ w.sent rules st →
    ∃ q name, st.Requests q.owner (.join name) ∧ rules.channel.keyFor name = r.owner ∧
      (w.channels.channel r).members.get? q.owner = none ∧
      (w.step rules st).1.channels.Lists r q ∧ member = naming q
  left : ∀ c r member, ⟨c, .memberLeft r member⟩ ∈ w.sent rules st →
    ∃ q, w.Departs rules q.owner r.owner st ∧ w.channels.IsRegistered r ∧
      w.channels.Lists r q ∧ member = naming q
  rosters : ∀ c rosters, ⟨c, .joined rosters⟩ ∈ w.sent rules st →
    ∃ name r, st.Requests c (.join name) ∧ rules.channel.keyFor name = r.owner ∧
      (w.step rules st).1.channels.IsRegistered r ∧
      rosters = ((w.step rules st).1.channels.channel r).snapshot (w.step rules st).1.user
  kept : w.channels.Keeps (w.step rules st).1.channels

/-- Names are right for identified users as they are now. -/
def Knows (naming : UserRef → RosterEntry) (w : World) : Prop :=
  ∀ q, (w.user q).identified → (w.user q).entry = naming q

/-- Claimed names are the same at the end of a run. -/
theorem knows_run (rules : Rules) (w : World) (steps : List Step) :
    w.Knows fun q => ((w.run rules steps).user q).entry := by
  intro q hidentified
  have hbecomes := (directory_evolves_run rules w steps).user hidentified
  obtain ⟨-, husername⟩ := hbecomes.identified hidentified
  exact congrArg₂ RosterEntry.mk husername.symm hbecomes.hostname.symm

/-- Whoever a channel lists has a name. -/
theorem Sound.identified_of_lists (h : w.Sound rules) {r : ChannelRef} {q : UserRef}
    (hq : w.channels.Lists r q) : (w.user q).identified :=
  ((h.channels.intact r (h.channels.registered_of_member hq)).record q.owner q.number hq).2

/-- In a sound world rosters show what is known of records. -/
theorem Sound.shows (h : w.Sound rules) (known : w.Knows naming) : w.Shows naming := by
  have hroster : ∀ (r : ChannelRef) (roster : Roster),
      (∀ q : UserRef, roster.get? q.owner = some q.number → w.channels.Lists r q) →
        (Roster.listing w.user roster).Perm ((Roster.present w.user roster).map naming) := by
    intro r roster hlists
    have hnames : (Roster.present w.user roster).map naming =
        (Roster.present w.user roster).map fun q => (w.user q).entry := by
      refine List.map_congr_left fun q hq => (known q ?_).symm
      exact h.identified_of_lists (hlists q (Roster.mem_present_iff.1 hq).1)
    rw [hnames]
    exact Roster.listing_perm w.user roster
  intro r
  exact ⟨hroster r _ fun q hq => hq, hroster r _ fun q hq => h.channels.member_of_operator hq⟩

/-! ## One step -/

/-- A step that names no users to anybody presents nobody. -/
theorem presents_of_silent (silent : ∀ o ∈ w.sent rules st, o.message.namesMembers = false)
    (kept : w.channels.Keeps (w.step rules st).1.channels) : w.Presents rules naming st where
  joined c r member h := by cases silent _ h
  left c r member h := by cases silent _ h
  rosters c rosters h := by cases silent _ h
  kept := kept

/-- What a join tells of members is what is known of their records. -/
theorem presents_join (known : w.Knows naming) {p : UserRef} {name : String}
    (asked : st.Requests p.owner (.join name)) (users : (w.step rules st).1.users = w.users)
    (channels : (w.step rules st).1.channels = (w.channels.join rules.channel w.user p name).1)
    (sent : w.sent rules st = (w.channels.join rules.channel w.user p name).2.messages) :
    w.Presents rules naming st := by
  have hkept : w.channels.Keeps (w.step rules st).1.channels := by
    rw [channels]
    exact ChannelService.keeps_join rules.channel w.user w.channels p name
  have h := ChannelService.joining rules.channel w.user w.channels p name
  generalize w.channels.join rules.channel w.user p name = result at h channels sent
  cases h with
  | refused why =>
    refine presents_of_silent ?_ hkept
    rw [sent]
    exact List.forall_mem_singleton.2 rfl
  | founded allowed free =>
    refine presents_of_silent ?_ hkept
    rw [sent]
    exact List.forall_mem_singleton.2 rfl
  | @entered channel allowed found =>
    obtain ⟨hidentified, -, habsent⟩ := ChannelService.joinRefusal?_eq_none_iff.1 allowed
    obtain ⟨hkey, hregistered, henabled⟩ := ChannelService.lookup?_eq_some_iff.1 found
    have hchannel : (w.step rules st).1.channels.channel channel =
        (w.channels.channel channel).withMember p := by
      rw [channels, ChannelService.channel_update henabled, if_pos rfl]
    -- the answer has the rosters, the notices have the entry of who enters
    have hsent : ∀ o ∈ w.sent rules st,
        o = ⟨p.owner, .joined (((w.channels.channel channel).withMember p).snapshot w.user)⟩ ∨
          o.message = .memberJoined channel (w.user p).entry := by
      intro o ho
      rw [sent] at ho
      rcases List.mem_cons.1 ho with hanswer | hnotice
      · exact .inl hanswer
      · obtain ⟨client, -, rfl⟩ := List.mem_map.1 hnotice
        exact .inr rfl
    constructor
    case joined =>
      intro c r member ho
      rcases hsent _ ho with hanswer | hnotice
      · cases hanswer
      · cases hnotice
        refine ⟨p, name, asked, hkey.symm, habsent _ found, ?_, known p hidentified⟩
        rw [ChannelService.Lists, hchannel, Channel.get?_withMember, if_pos rfl]
    case left =>
      intro c r member ho
      rcases hsent _ ho with hanswer | hnotice
      · cases hanswer
      · cases hnotice
    case rosters =>
      intro c rosters ho
      rcases hsent _ ho with hanswer | hnotice
      · cases hanswer
        refine ⟨name, channel, asked, hkey.symm, by rw [channels]; exact hregistered, ?_⟩
        rw [hchannel, user, user, users]
      · cases hnotice
    case kept => exact hkept

theorem presents_leave (h : w.Sound rules) (known : w.Knows naming) {p : UserRef} {name : String}
    (asked : st.Requests p.owner (.leave name))
    (channels : (w.step rules st).1.channels = (w.channels.leave rules.channel w.user p name).1)
    (sent : w.sent rules st = (w.channels.leave rules.channel w.user p name).2.messages) :
    w.Presents rules naming st := by
  have hkept : w.channels.Keeps (w.step rules st).1.channels := by
    rw [channels]
    exact ChannelService.keeps_leave rules.channel w.user w.channels p name
  have hleaving := ChannelService.leaving rules.channel w.user w.channels p name
  generalize w.channels.leave rules.channel w.user p name = result at hleaving channels sent
  cases hleaving with
  | refused why =>
    refine presents_of_silent ?_ hkept
    rw [sent]
    exact List.forall_mem_singleton.2 rfl
  | @parted channel n allowed found member =>
    obtain ⟨hkey, hregistered, -⟩ := ChannelService.lookup?_eq_some_iff.1 found
    -- the notices have the entry of the record that was on the roster
    have hsent : ∀ o ∈ w.sent rules st, o = ⟨p.owner, .left name⟩ ∨
        o.message = .memberLeft channel (w.user ⟨p.owner, n⟩).entry := by
      intro o ho
      rw [sent] at ho
      rcases List.mem_append.1 ho with hnotice | hanswer
      · obtain ⟨client, -, rfl⟩ := List.mem_map.1 hnotice
        exact .inr rfl
      · exact .inl (List.mem_singleton.1 hanswer)
    have hleft : ⟨p.owner, .left name⟩ ∈ w.sent rules st := by
      rw [sent]
      exact List.mem_append_right _ (List.mem_singleton_self _)
    constructor
    case joined =>
      intro c r member ho
      rcases hsent _ ho with hanswer | hnotice
      · cases hanswer
      · cases hnotice
    case left =>
      intro c r entry ho
      rcases hsent _ ho with hanswer | hnotice
      · cases hanswer
      · cases hnotice
        exact ⟨⟨p.owner, n⟩, .inl ⟨name, asked, hkey.symm, hleft⟩, hregistered, member,
          known _ (h.identified_of_lists member)⟩
    case rosters =>
      intro c rosters ho
      rcases hsent _ ho with hanswer | hnotice
      · cases hanswer
      · cases hnotice
    case kept => exact hkept

theorem presents_disconnect (h : w.Sound rules) {hooks : List ComponentId} {client : ClientId}
    (known : (w.step rules (.disconnect hooks client)).1.Knows naming) :
    w.Presents rules naming (.disconnect hooks client) := by
  have hkept : w.channels.Keeps (w.step rules (.disconnect hooks client)).1.channels := by
    rw [show (w.step rules (.disconnect hooks client)).1.channels = _ from
      channels_step_disconnect hooks client]
    split
    · exact ChannelService.keeps_retire w.channels client
    · exact .of_channel_eq rfl
  constructor
  case joined =>
    intro c r member ho
    obtain ⟨n, recipient, channel, -, -, -, -, hnotice⟩ := exists_of_mem_sent_disconnect h ho
    cases hnotice
  case left =>
    intro c r member ho
    obtain ⟨n, recipient, channel, hhooks, hregistered, hmember, hidentified, hnotice⟩ :=
      exists_of_mem_sent_disconnect h ho
    cases hnotice
    -- a notice of a disconnect is about a channel that the client was in
    have hdeparts : w.Departs rules client r.owner (.disconnect hooks client) :=
      .inr ⟨hooks, r, rfl, hhooks, rfl, hregistered, Table.contains_iff.2 ⟨n, hmember⟩⟩
    exact ⟨⟨client, n⟩, hdeparts, hregistered, hmember, known _ hidentified⟩
  case rosters =>
    intro c rosters ho
    obtain ⟨n, recipient, channel, -, -, -, -, hnotice⟩ := exists_of_mem_sent_disconnect h ho
    cases hnotice
  case kept => exact hkept

theorem presents_message (h : w.Sound rules) (known : w.Knows naming) (c : ComponentId)
    (client : ClientId) (code : UInt16) (p : Payload) :
    w.Presents rules naming (.message c client code p) := by
  have hreaction := reaction rules w c client code p
  generalize Step.message c client code p = st at hreaction
  cases hreaction with
  | none unchanged silent =>
    refine presents_of_silent ?_ (.of_channel_eq (by rw [unchanged]))
    rw [silent]
    exact List.forall_mem_nil _
  | claimed read current users channels sent =>
    refine presents_of_silent ?_ (.of_channel_eq (by rw [channels]))
    rw [sent]
    exact List.forall_mem_singleton.2 (UserService.namesMembers_reply _ _)
  | @requested q request code p rest read current users channels sent =>
    have hasked : (Step.message .channels q.owner code p).Requests q.owner request :=
      ⟨code, p, rest, rfl, read⟩
    cases request with
    | join name => exact presents_join known hasked users channels sent
    | leave name => exact presents_leave h known hasked channels sent

/-- What a step tells of members, if it does not change rosters directly, is what is known of their
records. -/
theorem Sound.presents (h : w.Sound rules) (direct : st.isDirect = false) (known : w.Knows naming)
    (later : (w.step rules st).1.Knows naming) : w.Presents rules naming st := by
  by_cases hquiet : st.isQuiet
  · have hsilent : w.sent rules st = [] := congrArg Occurrence.sent (occurrence_of_isQuiet hquiet)
    refine presents_of_silent ?_ ?_
    · rw [hsilent]
      exact List.forall_mem_nil _
    · rcases channels_of_isQuiet hquiet direct with hnone | ⟨binding, observers, hsame⟩
      · -- channels that were closed have nobody on their rosters
        intro r q _
        right
        refine Option.eq_none_iff_forall_ne_some.2 fun n hn => hnone r ?_
        exact (h.step direct).channels.registered_of_member hn
      · rw [hsame]
        exact .of_channel_eq rfl
  cases st with
  | message c client code p => exact presents_message h known c client code p
  | disconnect hooks client => exact presents_disconnect h later
  | _ => exact absurd rfl hquiet

/-! ## Whole runs -/

/-- What is once known of a user stays so, whatever happens to the services, to connections and to
components: the client and the host name of a record, a claimed name and that the connection ended.
Hence each record on a roster has one name. It is announced under this name when it joins, every
snapshot that lists it does so under this name, and under this name it is announced to have left. -/
theorem identities_are_frozen (rules : Rules) (steps more : List Step) :
    (initial.run rules steps).users.directory.Evolves
      (initial.run rules (steps ++ more)).users.directory ∧
    ((∀ st ∈ steps, st.isDirect = false) →
      let naming : UserRef → RosterEntry := fun q => ((initial.run rules steps).user q).entry
      ∀ before after, steps = before ++ after →
        (initial.run rules before).Shows naming ∧
        ∀ st later, after = st :: later → (initial.run rules before).Presents rules naming st) := by
  refine ⟨?_, fun direct => ?_⟩
  · rw [run_append]
    exact directory_evolves_run rules _ more
  intro naming before after hsplit
  obtain ⟨hbefore, hafter⟩ := List.forall_mem_append.1 (hsplit ▸ direct)
  have hsound : (initial.run rules before).Sound rules := (sound_initial rules).run hbefore
  -- names last, so the naming of the end holds at every step before
  have hknown : (initial.run rules before).Knows naming := by
    have hrun := knows_run rules (initial.run rules before) after
    rw [← run_append, ← hsplit] at hrun
    exact hrun
  refine ⟨hsound.shows hknown, ?_⟩
  rintro st later rfl
  refine hsound.presents (hafter st List.mem_cons_self) hknown ?_
  have hrun := knows_run rules ((initial.run rules before).step rules st).1 later
  rw [← run_snoc, ← run_append, List.append_assoc, List.singleton_append, ← hsplit] at hrun
  rw [← run_snoc]
  exact hrun

set_option maxRecDepth 100000 in
/-- A client whose connection ended for the user service only, and who came back under another name,
is said to have left a channel under the name that it had when it joined. -/
theorem identities_are_frozen_after_reconnect :
    let ann : ClientId := ⟨1⟩
    let bob : ClientId := ⟨2⟩
    let both := [ComponentId.users, .channels]
    let claim := fun c name => Step.message .users c (Coded.code UserMessage.identify)
      (Payload.ofValues [⟨.string, name⟩, ⟨.string, "secret"⟩])
    let join := fun c => Step.message .channels c (Coded.code ChannelMessage.join)
      (Payload.ofValues [⟨.string, "#"⟩])
    let steps := [.register .users 0, .register .channels 0, .connect both ann "host" "a",
      .connect both bob "host" "b", claim ann "Ann", claim bob "Bob", join bob, join ann,
      .disconnect [.users] ann, .connect both ann "home" "a", claim ann "Zoe"]
    let gone := Step.disconnect [.channels] ann
    let naming := fun q => ((initial.run default (steps ++ [gone])).user q).entry
    (initial.run default steps).users.directory.ref? ann = some ⟨ann, 1⟩ ∧
      naming ⟨ann, 1⟩ = ⟨"Zoe", "home"⟩ ∧
      (initial.run default steps).sent default gone =
        [⟨bob, .memberLeft ⟨"#", 0⟩ ⟨"Ann", "host"⟩⟩] ∧
      ∃ q, (initial.run default steps).channels.Lists ⟨"#", 0⟩ q ∧ ⟨"Ann", "host"⟩ = naming q := by
  intro ann bob both claim join steps gone naming
  have hdirect : ∀ st ∈ steps ++ [gone], st.isDirect = false := by decide +kernel
  have hsent : (initial.run default steps).sent default gone =
      [⟨bob, .memberLeft ⟨"#", 0⟩ ⟨"Ann", "host"⟩⟩] := by decide +kernel
  have hpresents := ((identities_are_frozen default (steps ++ [gone]) []).2 hdirect steps [gone]
    rfl).2 gone [] rfl
  obtain ⟨q, -, -, hlists, hname⟩ := hpresents.left bob ⟨"#", 0⟩ ⟨"Ann", "host"⟩
    (by rw [hsent]; exact List.mem_singleton_self _)
  exact ⟨by decide +kernel, by decide +kernel, hsent, q, hlists, hname⟩

end World

end ChatServer
