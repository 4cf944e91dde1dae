import ChatServer.Proofs.Text.IpAddress
import ChatServer.Proofs.Wire.Reading
import ChatServer.Proofs.World.Traces

/-!
# Clients can read what they are sent

Host names are texts of addresses, and claimed names and names of channels were read from the wire,
so none of them is too long to be written in full: the records of users stay legible. `Tells` says
for every message that a step sends what it tells about the world after the step; a message that
tells the truth about a sound and legible world fits on the wire.
-/

namespace ChatServer

/-- The texts of a record that are sent fit on the wire. Names are sent only once claimed. -/
structure User.Legible (u : User) : Prop where
  hostname : FitsOnWire u.hostname
  username : u.identified → FitsOnWire u.username

theorem User.legible_absent (client : ClientId) : (User.absent client).Legible :=
  ⟨by show FitsOnWire ""; decide, nofun⟩

theorem User.Legible.entryFits {u : User} (h : u.Legible) (identified : u.identified) :
    Reader.EntryFits u.entry :=
  ⟨h.username identified, h.hostname⟩

/-! ## Records -/

namespace UserDirectory

/-- All records are legible. -/
def Legible (d : UserDirectory) : Prop := ∀ r, (d.user r).Legible

theorem legible_empty : Legible ∅ := fun r => User.legible_absent r.owner

variable {d : UserDirectory}

/-- A directory is still legible after an update that keeps records so. -/
theorem Legible.update (h : d.Legible) (r : UserRef) {f : User → User}
    (hf : ∀ u : User, u.Legible → (f u).Legible) : (d.update r f).Legible := by
  intro q
  simp only [user, UserDirectory.update, Archive.get?_update]
  split
  · cases hu : d.records.get? q with
    | none => exact User.legible_absent q.owner
    | some u =>
      have hq := h q
      rw [user, hu] at hq
      exact hf u hq
  · exact h q

theorem Legible.enrol (h : d.Legible) {u : User} (hu : u.Legible) : (d.enrol u).Legible := by
  intro q
  rw [user_enrol]
  split
  · exact hu
  · exact h q

end UserDirectory

namespace UserService

variable {s : UserService}

theorem legible_connect (h : s.directory.Legible) (rules : UserRules) (client : ClientId)
    {hostname : String} (fits : FitsOnWire hostname) (suffix : String) :
    (s.connect rules client hostname suffix).directory.Legible :=
  h.enrol ⟨fits, nofun⟩

theorem legible_disconnect (h : s.directory.Legible) (client : ClientId) :
    (s.disconnect client).directory.Legible := by
  unfold disconnect
  split
  · exact h
  · next r _ => exact h.update r fun u hu => ⟨hu.hostname, hu.username⟩

theorem legible_claim (h : s.directory.Legible) (rules : UserRules) (r : UserRef)
    {request : NameClaim} (fits : FitsOnWire request.username) :
    (s.claim rules r request).1.directory.Legible := by
  by_cases hok : judge rules s.directory r request = .ok
  · rw [claim_of_granted hok]
    exact h.update r fun u hu => ⟨hu.hostname, fun _ => fits⟩
  · rw [claim_of_refused hok]
    exact h

end UserService

/-- A claim asks for a name that was read from the wire. -/
theorem NameClaim.fitsOnWire_username {code : UInt16} {p rest : Payload} {claim : NameClaim}
    (h : ofMessage code p = (.ok claim, rest)) : FitsOnWire claim.username := by
  unfold ofMessage at h
  split at h
  · unfold NameClaim.read at h
    split at h
    · cases h
    · next hname =>
      split at h
      · cases h
      · cases h
        exact Payload.fitsOnWire_of_read hname
  · cases h

/-- A request names a channel as it was read from the wire. -/
theorem ChannelRequest.fitsOnWire_name {code : UInt16} {p rest : Payload} {name : String}
    (h : ofMessage code p = (.ok (.leave name), rest)) : FitsOnWire name := by
  have hnamed : ∀ request : String → ChannelRequest,
      ofMessage.named p request = (.ok (.leave name), rest) →
        (∀ name', request name' = .leave name → name' = name) → FitsOnWire name := by
    intro request h hrequest
    unfold ofMessage.named at h
    split at h
    · cases h
    · next hname =>
      simp only [Prod.mk.injEq, Except.ok.injEq] at h
      rw [← hrequest _ h.1]
      exact Payload.fitsOnWire_of_read hname
  -- only a request to leave echoes its name, but both are read in the same way
  unfold ofMessage at h
  split at h
  · exact hnamed .join h nofun
  · exact hnamed .leave h fun _ => ChannelRequest.leave.inj
  · cases h

/-- Whoever connects does so from an address. -/
def Step.HasAddress : Step → Prop
  | .connect _ _ hostname _ => ∃ a : Text.IpAddress, a.WellFormed ∧ hostname = a.text
  | _ => True

namespace World

variable {rules : Rules} {w : World}

/-- The records of users stay legible as long as clients connect from addresses. -/
theorem legible_step (h : w.users.directory.Legible) {st : Step} (address : st.HasAddress) :
    (w.step rules st).1.users.directory.Legible := by
  -- a record changes when a client connects, disconnects or claims a name
  cases st with
  | connect hooks client hostname suffix =>
    obtain ⟨a, ha, rfl⟩ := address
    rw [step_connect_fst]
    induction hooks generalizing w with
    | nil => exact h
    | cons c hooks ih =>
      refine ih (w := connectTo rules client a.text suffix w c) ?_
      cases c with
      | users => exact UserService.legible_connect h _ _ (Text.IpAddress.fitsOnWire_text ha) _
      | channels => exact h
      | freshChannels => exact h
      | freshForeign => exact h
  | disconnect hooks client =>
    clear address
    rw [step_disconnect_fst]
    induction hooks generalizing w with
    | nil => exact h
    | cons c hooks ih =>
      refine ih (w := (w.disconnectFrom rules client c).1) ?_
      cases c with
      | users => exact UserService.legible_disconnect h client
      | channels =>
        simp only [disconnectFrom, users_send]
        exact h
      | freshChannels => exact h
      | freshForeign => exact h
  | message c client code p =>
    have hdelivery := delivery rules w c client code p
    show (w.deliver rules c client code p).1.users.directory.Legible
    generalize (w.deliver rules c client code p).1 = w' at hdelivery
    cases hdelivery with
    | refused c => exact h
    | requested bound read current => exact h
    | claimed bound read current =>
      exact UserService.legible_claim h _ _ (NameClaim.fitsOnWire_username read)
  | shutdown c => cases c <;> exact h
  | stop c => cases c <;> exact h
  | register c i =>
    show (w.register c i).1.users.directory.Legible
    rwa [(register_frame w c i).1]
  | attach c i =>
    show (w.attach c i).1.users.directory.Legible
    rwa [(attach_frame w c i).1]
  | start c => exact h
  | createServer => exact h
  | dropServer i => exact h
  | observe o => exact h
  | enlist channel user audience => exact h
  | dismiss channel client audience => exact h

/-- A directory is legible after any number of steps from addresses that fit. -/
theorem legible_run (h : w.users.directory.Legible) {steps : List Step}
    (addresses : ∀ st ∈ steps, st.HasAddress) :
    (w.run rules steps).users.directory.Legible := by
  induction steps generalizing w with
  | nil => exact h
  | cons st steps ih =>
    obtain ⟨hst, addresses⟩ := List.forall_mem_cons.1 addresses
    exact ih (legible_step h hst) addresses

/-! ## What messages tell -/

/-- What a message that a step sends tells about the world after the step. Texts are told in full:
the name and the host name of a user are those of its record, a name that is granted or left is the
one in the request. -/
inductive Tells (w : World) : Step → Outgoing → Prop
  | nameGranted {r : UserRef} {code : UInt16} {p rest : Payload} {claim : NameClaim}
    (read : NameClaim.ofMessage code p = (.ok claim, rest))
    (current : w.users.directory.ref? r.owner = some r)
    (named : (w.user r).identified ∧ (w.user r).username = claim.username) :
    Tells w (.message .users r.owner code p) ⟨r.owner, .nameGranted claim.username⟩
  | nameRefused {client : ClientId} {code : UInt16} {p : Payload} {reason : UserResult}
    (refused : reason ≠ .ok) :
    Tells w (.message .users client code p) ⟨client, .nameRefused reason⟩
  | channelCreated {client : ClientId} {code : UInt16} {p : Payload} :
    Tells w (.message .channels client code p) ⟨client, .channelCreated⟩
  | joined {client : ClientId} {code : UInt16} {p : Payload} {channel : ChannelRef}
    (registered : w.channels.IsRegistered channel)
    (member : (w.channels.channel channel).isMember client) :
    Tells w (.message .channels client code p)
      ⟨client, .joined ((w.channels.channel channel).snapshot w.user)⟩
  | joinRefused {client : ClientId} {code : UInt16} {p : Payload} {reason : ChannelResult}
    (possible : reason ∈ Reading.joinResults) (refused : reason ≠ .ok) :
    Tells w (.message .channels client code p) ⟨client, .joinRefused reason⟩
  | left {client : ClientId} {code : UInt16} {p rest : Payload} {name : String}
    (read : ChannelRequest.ofMessage code p = (.ok (.leave name), rest)) :
    Tells w (.message .channels client code p) ⟨client, .left name⟩
  | leaveRefused {client : ClientId} {code : UInt16} {p : Payload} {reason : ChannelResult}
    (possible : reason ∈ Reading.leaveResults) (refused : reason ≠ .ok) :
    Tells w (.message .channels client code p) ⟨client, .leaveRefused reason⟩
  | memberJoined {r : UserRef} {st : Step} {client : ClientId} {channel : ChannelRef}
    (joiner : st.client? = some r.owner) (identified : (w.user r).identified) :
    Tells w st ⟨client, .memberJoined channel (w.user r).entry⟩
  | memberLeft {r : UserRef} {st : Step} {client : ClientId} {channel : ChannelRef}
    (departed : st.client? = some r.owner) (identified : (w.user r).identified) :
    Tells w st ⟨client, .memberLeft channel (w.user r).entry⟩

/-- The rosters are short enough for the wire. -/
def RostersFit (w : World) : Prop :=
  ∀ r, w.channels.IsRegistered r → (w.channels.channel r).memberCount ≤ Reader.maxRosterLength

instance (w : World) : Decidable w.RostersFit :=
  decidable_of_iff
    (∀ r ∈ w.channels.refs, (w.channels.channel r).memberCount ≤ Reader.maxRosterLength)
    (forall_congr' fun _ => imp_congr_left ChannelService.mem_refs_iff)

/-- A listing has no more entries than its roster has members. -/
theorem length_listing_le (users : UserRef → User) (r : Roster) :
    (Roster.listing users r).length ≤ r.size := by
  rw [Roster.listing, List.length_mergeSort, List.length_map]
  exact (List.length_filter_le _ _).trans (List.length_map _).le

/-- The rosters of a registered channel are written in full. -/
theorem snapshotFits (h : w.Sound rules) (legible : w.users.directory.Legible)
    (rosters : w.RostersFit) {channel : ChannelRef} (registered : w.channels.IsRegistered channel) :
    Reader.SnapshotFits ((w.channels.channel channel).snapshot w.user) := by
  have hintact := h.channels.intact channel registered
  -- members have names, so their records are legible in full
  have hmember : ∀ c n, (w.channels.channel channel).members.get? c = some n →
      Reader.EntryFits (w.user ⟨c, n⟩).entry := fun c n hn =>
    (legible ⟨c, n⟩).entryFits (hintact.record c n hn).2
  constructor
  case operators =>
    exact (length_listing_le w.user _).trans (hintact.oneOperator.trans (by decide))
  case members => exact (length_listing_le w.user _).trans (rosters channel registered)
  case entries =>
    intro e he
    rcases List.mem_append.1 he with he | he
    · obtain ⟨c, n, hn, -, rfl⟩ := Roster.mem_listing_iff.1 he
      exact hmember c n (hintact.operator c n hn)
    · obtain ⟨c, n, hn, -, rfl⟩ := Roster.mem_listing_iff.1 he
      exact hmember c n hn

/-- What a step tells fits, if rosters do. -/
theorem Tells.fits {st : Step} {o : Outgoing} (h : w.Tells st o) (sound : w.Sound rules)
    (legible : w.users.directory.Legible) (rosters : w.RostersFit) : o.message.Fits := by
  cases h with
  | nameGranted read current named => exact NameClaim.fitsOnWire_username read
  | nameRefused refused => exact refused
  | channelCreated => trivial
  | joined registered member => exact snapshotFits sound legible rosters registered
  | joinRefused possible refused => exact ⟨possible, refused⟩
  | left read => exact ChannelRequest.fitsOnWire_name read
  | leaveRefused possible refused => exact ⟨possible, refused⟩
  | @memberJoined r st client channel joiner identified => exact (legible r).entryFits identified
  | @memberLeft r st client channel departed identified => exact (legible r).entryFits identified

/-! ## What steps send -/

/-- A reason to refuse a join is one that an answer can give. -/
theorem joinRefusal?_possible {config : ChannelConfig} {users : UserRef → User}
    {s : ChannelService} {r : UserRef} {name : String} {reason : ChannelResult}
    (h : ChannelService.joinRefusal? config users s r name = some reason) :
    reason ∈ Reading.joinResults ∧ reason ≠ .ok := by
  unfold ChannelService.joinRefusal? at h
  split_ifs at h <;> cases h <;> decide

/-- A reason to refuse a leave is one that an answer can give. -/
theorem leaveRefusal?_possible {config : ChannelConfig} {users : UserRef → User}
    {s : ChannelService} {r : UserRef} {name : String} {reason : ChannelResult}
    (h : ChannelService.leaveRefusal? config users s r name = some reason) :
    reason ∈ Reading.leaveResults ∧ reason ≠ .ok := by
  unfold ChannelService.leaveRefusal? at h
  split_ifs at h
  · cases h
    decide
  · cases h
    decide
  · split at h
    · cases h
      decide
    · split_ifs at h
      cases h
      decide

/-- What the answer to a claim tells. -/
theorem tells_claim (h : w.Sound rules) {i : ServerId} {r : UserRef} {code : UInt16}
    {p rest : Payload} {claim : NameClaim}
    (read : NameClaim.ofMessage code p = (.ok claim, rest))
    (current : w.users.directory.IsCurrent r) :
    ∀ o ∈ (w.users.claim rules.user r claim).2,
      (w.afterClaim rules i r claim).Tells (.message .users r.owner code p) o := by
  intro o ho
  by_cases hok : UserService.judge rules.user w.users.directory r claim = .ok
  · have hclaim := UserService.claim_of_granted hok
    rw [hclaim] at ho
    obtain rfl := List.mem_singleton.1 ho
    have huser : (w.afterClaim rules i r claim).user r = (w.user r).identify claim.username := by
      rw [user, afterClaim, hclaim]
      exact (UserDirectory.user_update (h.directory.enabled r current) _ r).trans (if_pos rfl)
    refine .nameGranted read ?_ (by rw [huser]; exact ⟨rfl, rfl⟩)
    rw [afterClaim, hclaim]
    exact current
  · rw [UserService.claim_of_refused hok] at ho
    obtain rfl := List.mem_singleton.1 ho
    exact .nameRefused hok

/-- What the messages tell that a request leads to. -/
theorem tells_request (h : w.Sound rules) {i : ServerId} {r : UserRef} {code : UInt16}
    {p rest : Payload} {request : ChannelRequest}
    (read : ChannelRequest.ofMessage code p = (.ok request, rest)) :
    ∀ o ∈ (w.channels.perform rules.channel w.user r request).2.messages,
      (w.afterRequest rules i r request).Tells (.message .channels r.owner code p) o := by
  intro o ho
  cases request with
  | join name =>
    -- the rosters that the newcomer is sent are those after it entered
    have hjoin := ChannelService.joining rules.channel w.user w.channels r name
    have hafter : (w.afterRequest rules i r (.join name)).channels =
      (w.channels.join rules.channel w.user r name).1 := rfl
    have hperform : o ∈ (w.channels.join rules.channel w.user r name).2.messages := ho
    generalize hresult : w.channels.join rules.channel w.user r name = result at *
    cases hjoin with
    | refused why =>
      obtain rfl := List.mem_singleton.1 hperform
      obtain ⟨hpossible, hrefused⟩ := joinRefusal?_possible why
      exact .joinRefused hpossible hrefused
    | founded allowed free =>
      obtain rfl := List.mem_singleton.1 hperform
      exact .channelCreated
    | @entered channel allowed found =>
      obtain ⟨-, hregistered, henabled⟩ := ChannelService.lookup?_eq_some_iff.1 found
      have hchannel : (w.afterRequest rules i r (.join name)).channels.channel channel =
          (w.channels.channel channel).withMember r := by
        rw [hafter]
        exact (ChannelService.channel_update henabled _ channel).trans (if_pos rfl)
      rcases List.mem_cons.1 hperform with rfl | hnotice
      · have hmember : ((w.channels.channel channel).withMember r).isMember r.owner :=
          Table.contains_iff.2 ⟨r.number, by rw [Channel.get?_withMember, if_pos rfl]⟩
        rw [← hchannel] at hmember ⊢
        refine .joined (w := w.afterRequest rules i r (.join name)) ?_ hmember
        rw [hafter]
        exact hregistered
      · obtain ⟨client, -, rfl⟩ := List.mem_map.1 hnotice
        exact .memberJoined (w := w.afterRequest rules i r (.join name)) rfl
          (ChannelService.joinRefusal?_eq_none_iff.1 allowed).1
  | leave name =>
    have hleave := ChannelService.leaving rules.channel w.user w.channels r name
    have hperform : o ∈ (w.channels.leave rules.channel w.user r name).2.messages := ho
    generalize w.channels.leave rules.channel w.user r name = result at *
    cases hleave with
    | refused why =>
      obtain rfl := List.mem_singleton.1 hperform
      obtain ⟨hpossible, hrefused⟩ := leaveRefusal?_possible why
      exact .leaveRefused hpossible hrefused
    | @parted channel n allowed found member =>
      obtain ⟨-, hregistered, -⟩ := ChannelService.lookup?_eq_some_iff.1 found
      rcases List.mem_append.1 hperform with hnotice | hanswer
      · obtain ⟨client, -, rfl⟩ := List.mem_map.1 hnotice
        exact .memberLeft (w := w.afterRequest rules i r (.leave name)) rfl
          ((h.channels.intact channel hregistered).record r.owner n member).2
      · obtain rfl := List.mem_singleton.1 hanswer
        exact .left read

/-- No run takes a claimed name away. -/
theorem directory_evolves_run (rules : Rules) (w : World) (steps : List Step) :
    w.users.directory.Evolves (w.run rules steps).users.directory := by
  induction steps generalizing w with
  | nil => exact .refl _
  | cons st steps ih => exact (directory_evolves rules w st).trans (ih _)

/-- Of the end of a connection the members of the client's channels are told, under the name that
the client's record has before and after it. -/
theorem exists_of_mem_sent_disconnect (h : w.Sound rules) {hooks : List ComponentId}
    {client : ClientId} {o : Outgoing} (ho : o ∈ w.sent rules (.disconnect hooks client)) :
    let w' := (w.step rules (.disconnect hooks client)).1
    ∃ n recipient channel, .channels ∈ hooks ∧ w.channels.IsRegistered channel ∧
      (w.channels.channel channel).members.get? client = some n ∧
      (w'.user ⟨client, n⟩).identified ∧
      o = ⟨recipient, .memberLeft channel (w'.user ⟨client, n⟩).entry⟩ := by
  intro w'
  rw [sent_disconnect] at ho
  obtain ⟨e, he, ho⟩ := List.mem_flatMap.1 ho
  obtain ⟨before, st, after, hsteps, rfl⟩ := exists_of_mem_trace he
  obtain ⟨first, rest, rfl, rfl, hrest⟩ := List.map_eq_append_iff.1 hsteps
  obtain ⟨c, later, rfl, rfl, rfl⟩ := List.map_eq_cons_iff.1 hrest
  rw [← step_disconnect_eq_run] at ho
  have hsound : ((w.step rules (.disconnect first client)).1).Sound rules := h.step rfl
  by_cases hc : c = .channels
  · subst hc
    rw [occurrence_disconnect_channels, ChannelService.disconnect_eq] at ho
    obtain ⟨channel, hchannel, ho⟩ := List.mem_flatMap.1 ho
    obtain ⟨n, hn, -, hmessage⟩ := ChannelService.exists_of_mem_departure ho
    have hregistered := ChannelService.mem_refs_iff.1 hchannel
    have hidentified := ((hsound.channels.intact channel hregistered).record client n hn).2
    -- a channel service that learned of it before has taken the client off all channels
    have hsame : (w.step rules (.disconnect first client)).1.channels = w.channels := by
      have hchannels : (w.step rules (.disconnect first client)).1.channels = _ :=
        channels_step_disconnect first client
      refine hchannels.trans (if_neg fun hfirst => ?_)
      rw [hchannels, if_pos hfirst] at hn hregistered
      have hgone : (w.channels.disconnect w.servers w.user client).1.IsRegistered channel →
          ((w.channels.disconnect w.servers w.user client).1.channel channel).members.get? client =
            none := ChannelService.not_member_disconnect h.channels
      rw [ChannelService.disconnect_eq] at hgone
      rw [hgone hregistered] at hn
      cases hn
    rw [hsame] at hn hregistered
    -- components that learn of it later keep the name that the client claimed
    have hlast : w' = (w.step rules (.disconnect first client)).1.run rules
        ((.channels :: later).map fun c => .disconnect [c] client) := by
      show (w.step rules (.disconnect (first ++ .channels :: later) client)).1 = _
      rw [step_disconnect_eq_run, List.map_append, run_append,
        ← step_disconnect_eq_run first client]
    have hbecomes := (directory_evolves_run rules (w.step rules (.disconnect first client)).1
      ((.channels :: later).map fun c => .disconnect [c] client)).user hidentified
    rw [← hlast] at hbecomes
    obtain ⟨hlater, husername⟩ := hbecomes.identified hidentified
    have hentry : ((w.step rules (.disconnect first client)).1.user ⟨client, n⟩).entry =
        (w'.user ⟨client, n⟩).entry :=
      congrArg₂ RosterEntry.mk husername.symm hbecomes.hostname.symm
    rw [hentry] at hmessage
    exact ⟨n, o.client, channel, List.mem_append_right _ List.mem_cons_self, hregistered, hn,
      hlater, congrArg (Outgoing.mk o.client) hmessage⟩
  · rw [occurrence_disconnect_of_ne hc] at ho
    cases ho

/-- What the messages tell that the end of a connection leads to. -/
theorem tells_disconnect (h : w.Sound rules) {hooks : List ComponentId} {client : ClientId} :
    ∀ o ∈ w.sent rules (.disconnect hooks client),
      (w.step rules (.disconnect hooks client)).1.Tells (.disconnect hooks client) o := by
  intro o ho
  obtain ⟨n, recipient, channel, -, -, -, hidentified, rfl⟩ := exists_of_mem_sent_disconnect h ho
  exact .memberLeft rfl hidentified

/-- Every message that is sent tells about the world after the step that sends it. -/
theorem tells_step (h : w.Sound rules) (st : Step) :
    ∀ o ∈ w.sent rules st, (w.step rules st).1.Tells st o := by
  -- of all steps only messages and disconnects send anything
  have hquiet : st.isQuiet → ∀ o ∈ w.sent rules st, (w.step rules st).1.Tells st o := by
    intro hquiet o ho
    rw [show w.sent rules st = (w.occurrence rules st).sent from rfl,
      occurrence_of_isQuiet hquiet] at ho
    cases ho
  cases st with
  | disconnect hooks client => exact tells_disconnect h
  | message c client code p =>
    have hstep : w.step rules (.message c client code p) = w.deliver rules c client code p := rfl
    cases c with
    | users =>
      have hsent := congrArg Occurrence.sent (occurrence_users rules w client code p)
      rw [show (w.occurrence rules _).sent = w.sent rules _ from rfl] at hsent
      rw [hsent, hstep, deliver_users]
      rcases hclaim : w.claimOf client code p with ⟨result, rest⟩
      cases result with
      | error e => exact fun o ho => nomatch ho
      | ok claim =>
        obtain ⟨-, hread, href⟩ := claimOf_eq_ok hclaim
        obtain ⟨hcurrent, rfl⟩ := UserDirectory.isCurrent_of_ref? href
        exact tells_claim h hread hcurrent
    | channels =>
      have hsent := congrArg Occurrence.sent (occurrence_channels rules w client code p)
      rw [show (w.occurrence rules _).sent = w.sent rules _ from rfl] at hsent
      rw [hsent, hstep, deliver_channels]
      rcases hrequest : w.requestOf client code p with ⟨result, rest⟩
      cases result with
      | error e => exact fun o ho => nomatch ho
      | ok request =>
        obtain ⟨-, hread, href⟩ := requestOf_eq_ok hrequest
        obtain ⟨-, rfl⟩ := UserDirectory.isCurrent_of_ref? href
        exact tells_request h hread
    | freshChannels => exact hquiet rfl
    | freshForeign => exact hquiet rfl
  | _ => exact hquiet rfl

/-- In every run, whatever comes from the clients and however long their names may be, every frame
that a step sends is read to its end, and what is read is exactly what the message tells about the
world. The run may have any length, as long as each roster has fewer than 2^32 members. -/
theorem sent_frames_readable (rules : Rules) {steps : List Step} {st : Step}
    (hsteps : ∀ st' ∈ steps ++ [st], st'.isDirect = false ∧ st'.HasAddress)
    (rosters : (initial.run rules (steps ++ [st])).RostersFit) :
    ∀ o ∈ (initial.run rules steps).sent rules st,
      Reading.ofFrame o.message.frame =
        .ok (o.message.reading, ⟨o.message.frame.payload.bytes, []⟩) ∧
      (initial.run rules (steps ++ [st])).Tells st o := by
  intro o ho
  have hbefore : (initial.run rules steps).Sound rules := (sound_initial rules).run fun st' hst' =>
    (hsteps st' (List.mem_append_left _ hst')).1
  have hafter : (initial.run rules (steps ++ [st])).Sound rules :=
    (sound_initial rules).run fun st' hst' => (hsteps st' hst').1
  have hlegible : (initial.run rules (steps ++ [st])).users.directory.Legible :=
    legible_run UserDirectory.legible_empty fun st' hst' => (hsteps st' hst').2
  -- messages tell about the world after the step, so it is that world that must be legible
  have htells := tells_step hbefore st o ho
  rw [← run_snoc] at htells
  exact ⟨ServerMessage.ofFrame_frame (htells.fits hafter hlegible rosters), htells⟩

set_option maxRecDepth 100000 in
/-- A client is told of its new name while others are in a channel. -/
theorem sent_frame_of_grant :
    let rules : Rules := ⟨⟨{ maxUsernameLength := 100000 }, .everyone⟩, default⟩
    let ann : ClientId := ⟨1⟩
    let bob : ClientId := ⟨2⟩
    let both := [ComponentId.users, .channels]
    let host := Text.IpAddress.v4 [127, 0, 0, 1]
    let claim := fun c name => Step.message .users c (Coded.code UserMessage.identify)
      (Payload.ofValues [⟨.string, name⟩, ⟨.string, "secret"⟩])
    let join := fun c name => Step.message .channels c (Coded.code ChannelMessage.join)
      (Payload.ofValues [⟨.string, name⟩])
    let steps := [.register .users 0, .register .channels 0, .connect both ann host.text "a",
      .connect both bob host.text "b", claim bob "Bob", join bob "#one"]
    let message := ServerMessage.nameGranted "Ann"
    (initial.run rules steps).sent rules (claim ann "Ann") = [⟨ann, message⟩] ∧
      Reading.ofFrame message.frame =
        .ok (.identifyComplete .ok (some "Ann"), ⟨message.frame.payload.bytes, []⟩) := by
  intro rules ann bob both host claim join steps message
  have hindirect : ∀ st ∈ steps ++ [claim ann "Ann"], st.isDirect = false := by decide +kernel
  have hhost : ∀ c suffix, (Step.connect both c host.text suffix).HasAddress :=
    fun _ _ => ⟨host, by decide, rfl⟩
  -- only the two connections have an address to show
  have haddress : ∀ st ∈ steps ++ [claim ann "Ann"], st.HasAddress := by
    simp only [steps, List.cons_append, List.nil_append, List.forall_mem_cons]
    exact ⟨trivial, trivial, hhost ann "a", hhost bob "b", trivial, trivial, trivial,
      fun _ hst => absurd hst List.not_mem_nil⟩
  have hrosters : (initial.run rules (steps ++ [claim ann "Ann"])).RostersFit := by decide +kernel
  have hsent : (initial.run rules steps).sent rules (claim ann "Ann") = [⟨ann, message⟩] := by
    decide +kernel
  have hread := sent_frames_readable rules
    (fun st hst => ⟨hindirect st hst, haddress st hst⟩) hrosters ⟨ann, message⟩
    (by rw [hsent]; exact List.mem_singleton_self _)
  exact ⟨hsent, hread.1⟩

end World

end ChatServer
