import ChatServer.Proofs.World.Traces

/-!
# Who is an operator

The operator of a channel in use is the client that founded it, as long as it was not taken off the
channel since. Both are seen from outside: the answer to a request says that a channel was created
or left. `Succession` lists what one step can make of the operators of a channel; a run is followed
with `Since`.
-/

namespace ChatServer

/-- In a step a client makes a request to the channel service. -/
def Step.Requests (st : Step) (client : ClientId) (request : ChannelRequest) : Prop :=
  ∃ code p rest, st = .message .channels client code p ∧
    ChannelRequest.ofMessage code p = (.ok request, rest)

/-- A step makes at most one request. -/
theorem Step.Requests.eq {st : Step} {client client' : ClientId}
    {request request' : ChannelRequest} (h : st.Requests client request)
    (h' : st.Requests client' request') : client = client' ∧ request = request' := by
  obtain ⟨code, p, rest, rfl, hread⟩ := h
  obtain ⟨code', p', rest', hst, hread'⟩ := h'
  cases hst
  rw [hread] at hread'
  cases hread'
  exact ⟨rfl, rfl⟩

theorem Step.Requests.ne_disconnect {st : Step} {client : ClientId} {request : ChannelRequest}
    (h : st.Requests client request) (hooks : List ComponentId) (gone : ClientId) :
    st ≠ .disconnect hooks gone := by
  obtain ⟨code, p, rest, rfl, -⟩ := h
  exact nofun

namespace Channel

/-- Its creator is the only operator of a new channel. -/
theorem isOperator_create {name key : String} {r : UserRef} {client : ClientId} :
    (create name key r).isOperator client ↔ client = r.owner := by
  rw [isOperator, Table.contains_iff, create, get?_singleton]
  simp

/-- Who is removed is no operator any more, and the others are as before. -/
theorem isOperator_withoutMember {c : Channel} {gone client : ClientId} :
    (c.withoutMember gone).isOperator client ↔ c.isOperator client ∧ client ≠ gone := by
  show (c.operators.erase gone).contains client ↔ c.operators.contains client ∧ client ≠ gone
  simp only [Table.contains_iff, Table.get?_erase]
  by_cases hgone : client = gone <;> simp [hgone]

/-- A channel in use has at most one operator. -/
theorem Intact.operator_eq {config : ChannelConfig} {users : UserRef → User} {key : String}
    {c : Channel} (h : Intact config users key c) {client client' : ClientId}
    (operator : c.isOperator client) (operator' : c.isOperator client') : client = client' :=
  Table.eq_of_size_le_one h.oneOperator operator operator'

end Channel

namespace ChannelService

variable {config : ChannelConfig} {users : UserRef → User} {s : ChannelService} {r : UserRef}
  {name : String}

/-- An operator of what a name finds is one of the channel in use. -/
theorem isOperator_iff {client : ClientId} :
    s.isOperator config name client ↔
      ∃ r, s.lookup? config name = some r ∧ (s.channel r).isOperator client :=
  Option.any_eq_true _ _

/-- Who asks to join is told that it created the channel exactly if it may join and there is
none. -/
theorem channelCreated_mem_join_iff :
    ⟨r.owner, .channelCreated⟩ ∈ (s.join config users r name).2.messages ↔
      joinRefusal? config users s r name = none ∧ s.lookup? config name = none := by
  have h := joining config users s r name
  generalize s.join config users r name = result at h
  cases h with
  | refused why => simp [refuseJoin, why]
  | founded allowed free => simp [found, allowed, free]
  | entered allowed found => simp [joinEffects, announceJoin, found]

/-- Who is told that it created a channel, which did not exist, is its operator. -/
theorem isOperator_of_channelCreated {name' : String}
    (key : config.keyFor name = config.keyFor name')
    (h : ⟨r.owner, .channelCreated⟩ ∈ (s.join config users r name).2.messages) :
    s.lookup? config name' = none ∧
      (s.join config users r name).1.isOperator config name' r.owner := by
  obtain ⟨hallowed, hfree⟩ := channelCreated_mem_join_iff.1 h
  refine ⟨by rw [lookup?, ← key]; exact hfree, ?_⟩
  -- the answer says that the channel was created, so the join was neither refused nor an entry
  have hjoin := joining config users s r name
  generalize s.join config users r name = result at hjoin
  cases hjoin with
  | refused why =>
    rw [hallowed] at why
    cases why
  | entered allowed found =>
    rw [hfree] at found
    cases found
  | founded allowed free =>
    have hchannel : (s.found config users r name).1.channel
        (s.channels.next (config.keyFor name)) = .create name (config.keyFor name) r :=
      (channel_register s _ _).trans (if_pos rfl)
    refine isOperator_iff.2 ⟨s.channels.next (config.keyFor name), ?_, ?_⟩
    · exact lookup?_eq_some_iff.2
        ⟨key, isRegistered_register.2 (.inl rfl), congrArg Channel.enabled hchannel⟩
    · rw [hchannel]
      exact Channel.isOperator_create.2 rfl

end ChannelService

namespace World

variable {rules : Rules} {w : World} {st : Step} {client : ClientId} {key : String}
  {r : ChannelRef}

/-- A client founds the channel under a key: it asks to join it and is told that it created it. -/
def Founds (rules : Rules) (client : ClientId) (key : String) (w : World) (st : Step) : Prop :=
  ∃ name, st.Requests client (.join name) ∧ rules.channel.keyFor name = key ∧
    ⟨client, .channelCreated⟩ ∈ w.sent rules st

/-- A client is taken off the channel under a key: it is told that it left, or it is a member when
the channel service learns that it is gone. -/
def Departs (rules : Rules) (client : ClientId) (key : String) (w : World) (st : Step) : Prop :=
  (∃ name, st.Requests client (.leave name) ∧ rules.channel.keyFor name = key ∧
    ⟨client, .left name⟩ ∈ w.sent rules st) ∨
  ∃ hooks r, st = .disconnect hooks client ∧ .channels ∈ hooks ∧ r.owner = key ∧
    w.channels.IsRegistered r ∧ (w.channels.channel r).isMember client

/-- A step in which a client founds a channel is not one in which it departs from any. -/
theorem Founds.not_departs {founder : ClientId} (h : w.Founds rules founder key st)
    {key' : String} : ¬w.Departs rules client key' st := by
  obtain ⟨name, hjoin, -, -⟩ := h
  intro hdeparts
  rcases hdeparts with ⟨name', hleave, -, -⟩ | ⟨hooks, r, hst, -⟩
  · cases (hjoin.eq hleave).2
  · exact hjoin.ne_disconnect hooks client hst

/-! ## One step -/

/-- What a step makes of the operators of a channel that is in use after it. -/
inductive Succession (rules : Rules) (w : World) (st : Step) (r : ChannelRef) : Prop
  | founded {founder : ClientId} (founds : w.Founds rules founder r.owner st)
    (operator : ∀ c, ((w.step rules st).1.channels.channel r).isOperator c ↔ c = founder)
  | continued (registered : w.channels.IsRegistered r)
    (unfounded : ∀ c, ¬w.Founds rules c r.owner st)
    (operator : ∀ c, ((w.step rules st).1.channels.channel r).isOperator c ↔
      (w.channels.channel r).isOperator c ∧ ¬w.Departs rules c r.owner st)

/-- A step in which a channel is neither founded nor left keeps its operators. -/
theorem succession_of_eq (registered : w.channels.IsRegistered r)
    (unfounded : ∀ c, ¬w.Founds rules c r.owner st) (stays : ∀ c, ¬w.Departs rules c r.owner st)
    (operator : ∀ c, ((w.step rules st).1.channels.channel r).isOperator c =
      (w.channels.channel r).isOperator c) : w.Succession rules st r :=
  .continued registered unfounded fun c => by rw [operator c, and_iff_left (stays c)]

/-- A step that grants no request and ends no connection founds no channel, and nobody leaves
one. -/
theorem succession_of_silent
    (silent : ∀ c request, st.Requests c request → w.sent rules st = [])
    (stays : ∀ hooks c, st ≠ .disconnect hooks c) (registered : w.channels.IsRegistered r)
    (same : (w.step rules st).1.channels.channel r = w.channels.channel r) :
    w.Succession rules st r := by
  refine succession_of_eq registered ?_ ?_ fun c => by rw [same]
  · intro c hfounds
    obtain ⟨name, hasked, -, hcreated⟩ := hfounds
    rw [silent c _ hasked] at hcreated
    cases hcreated
  · intro c hdeparts
    rcases hdeparts with ⟨name, hasked, -, hleft⟩ | ⟨hooks, q, hst, -⟩
    · rw [silent c _ hasked] at hleft
      cases hleft
    · exact stays hooks c hst

/-- After a disconnect the operators of a channel that is left are as the step says. -/
theorem succession_disconnect (h : w.Sound rules) (hooks : List ComponentId) (client : ClientId)
    (registered : (w.step rules (.disconnect hooks client)).1.channels.IsRegistered r) :
    w.Succession rules (.disconnect hooks client) r := by
  -- nobody founds a channel by a disconnect
  have hunfounded : ∀ c, ¬w.Founds rules c r.owner (.disconnect hooks client) := by
    intro c hfounds
    obtain ⟨name, hasked, -⟩ := hfounds
    exact hasked.ne_disconnect hooks client rfl
  have hchannels : (w.step rules (.disconnect hooks client)).1.channels = _ :=
    channels_step_disconnect hooks client
  by_cases hhooks : .channels ∈ hooks
  · rw [if_pos hhooks] at hchannels
    rw [hchannels] at registered
    obtain ⟨hregistered, -⟩ := (ChannelService.isRegistered_retire w.channels.nodup_refs).1
      registered
    -- whoever departs in this step is the client that is gone
    have hdeparts : ∀ c, w.Departs rules c r.owner (.disconnect hooks client) ↔
        c = client ∧ (w.channels.channel r).isMember c := by
      intro c
      constructor
      · intro hdeparts
        rcases hdeparts with ⟨name, hasked, -⟩ | ⟨hooks', q, hst, -, hq, hreg, hmember⟩
        · exact absurd rfl (hasked.ne_disconnect hooks client)
        · cases hst
          rw [hreg.eq hregistered hq] at hmember
          exact ⟨rfl, hmember⟩
      · intro hmember
        obtain ⟨rfl, hmember⟩ := hmember
        exact .inr ⟨hooks, r, rfl, hhooks, rfl, hregistered, hmember⟩
    refine .continued hregistered hunfounded fun c => ?_
    rw [hdeparts, hchannels, ChannelService.channel_retire w.channels.nodup_refs]
    have hrefs := ChannelService.mem_refs_iff.2 hregistered
    by_cases hmember : (w.channels.channel r).isMember client
    · have hholds : (w.channels.channel r).Holds client :=
        ⟨(h.channels.intact r hregistered).enabled, hmember⟩
      rw [if_pos ⟨hrefs, hholds⟩, Channel.isOperator_withoutMember]
      refine and_congr_right fun _ => not_congr ⟨?_, And.left⟩
      rintro rfl
      exact ⟨rfl, hmember⟩
    · rw [if_neg fun hholds => hmember hholds.2.2]
      refine (and_iff_left ?_).symm
      rintro ⟨rfl, hgone⟩
      exact hmember hgone
  · rw [if_neg hhooks] at hchannels
    rw [hchannels] at registered
    refine succession_of_eq registered hunfounded ?_ fun c => by rw [hchannels]
    intro c hdeparts
    rcases hdeparts with ⟨name, hasked, -⟩ | ⟨hooks', q, hst, hmem, -⟩
    · exact hasked.ne_disconnect hooks client rfl
    · cases hst
      exact hhooks hmem

/-- After a join its founder is the only operator of a new channel, and the operators of others are
as before. -/
theorem succession_join {q : UserRef} {name : String} (asked : st.Requests q.owner (.join name))
    (channels : (w.step rules st).1.channels = (w.channels.join rules.channel w.user q name).1)
    (sent : w.sent rules st = (w.channels.join rules.channel w.user q name).2.messages)
    (registered : (w.step rules st).1.channels.IsRegistered r) : w.Succession rules st r := by
  -- whoever founds a channel in this step is the client that asked, and is told so
  have hfounds : ∀ c, w.Founds rules c r.owner st → rules.channel.keyFor name = r.owner ∧
      ⟨q.owner, .channelCreated⟩ ∈ w.sent rules st := by
    intro c hfounds
    obtain ⟨name', hasked, hkey, hcreated⟩ := hfounds
    obtain ⟨rfl, heq⟩ := hasked.eq asked
    cases heq
    exact ⟨hkey, hcreated⟩
  -- nobody departs by a join
  have hstays : ∀ c, ¬w.Departs rules c r.owner st := by
    intro c hdeparts
    rcases hdeparts with ⟨name', hasked, -⟩ | ⟨hooks, r', hst, -⟩
    · cases (hasked.eq asked).2
    · exact asked.ne_disconnect hooks c hst
  have hcreated : ⟨q.owner, .channelCreated⟩ ∈ w.sent rules st ↔
      ChannelService.joinRefusal? rules.channel w.user w.channels q name = none ∧
        w.channels.lookup? rules.channel name = none := by
    rw [sent]
    exact ChannelService.channelCreated_mem_join_iff
  have h := ChannelService.joining rules.channel w.user w.channels q name
  generalize w.channels.join rules.channel w.user q name = result at h channels sent
  rw [channels] at registered
  cases h with
  | refused why =>
    refine succession_of_eq registered ?_ hstays fun c => by rw [channels]
    intro c hc
    rw [(hcreated.1 (hfounds c hc).2).1] at why
    cases why
  | founded allowed free =>
    rcases ChannelService.isRegistered_register.1 registered with rfl | ⟨hne, hregistered⟩
    · refine .founded ⟨name, asked, rfl, hcreated.2 ⟨allowed, free⟩⟩ fun c => ?_
      rw [channels]
      show ((w.channels.register _).channel _).isOperator c ↔ _
      rw [ChannelService.channel_register, if_pos rfl]
      exact Channel.isOperator_create
    · refine succession_of_eq hregistered (fun c hc => hne (hfounds c hc).1.symm) hstays fun c => ?_
      rw [channels]
      show ((w.channels.register _).channel _).isOperator c = _
      rw [ChannelService.channel_register, if_neg fun heq => hne (congrArg Ref.owner heq)]
  | @entered channel allowed found =>
    obtain ⟨-, -, henabled⟩ := ChannelService.lookup?_eq_some_iff.1 found
    refine succession_of_eq registered ?_ hstays fun c => ?_
    · intro c hc
      rw [(hcreated.1 (hfounds c hc).2).2] at found
      cases found
    · rw [channels, ChannelService.channel_update henabled]
      split
      · next heq =>
        rw [heq]
        rfl
      · rfl

/-- After a leave the client is no operator of the channel any more. -/
theorem succession_leave {q : UserRef} {name : String}
    (asked : st.Requests q.owner (.leave name))
    (channels : (w.step rules st).1.channels = (w.channels.leave rules.channel w.user q name).1)
    (sent : w.sent rules st = (w.channels.leave rules.channel w.user q name).2.messages)
    (registered : (w.step rules st).1.channels.IsRegistered r) : w.Succession rules st r := by
  -- nobody founds a channel by a leave
  have hunfounded : ∀ c, ¬w.Founds rules c r.owner st := by
    intro c hfounds
    obtain ⟨name', hasked, -⟩ := hfounds
    cases (hasked.eq asked).2
  -- whoever departs in this step is the client that asked, and is told so
  have hdeparts : ∀ c, w.Departs rules c r.owner st ↔
      c = q.owner ∧ rules.channel.keyFor name = r.owner ∧
        ⟨q.owner, .left name⟩ ∈ w.sent rules st := by
    intro c
    constructor
    · intro hdeparts
      rcases hdeparts with ⟨name', hasked, hkey, hleft⟩ | ⟨hooks, r', hst, -⟩
      · obtain ⟨rfl, heq⟩ := hasked.eq asked
        cases heq
        exact ⟨rfl, hkey, hleft⟩
      · exact absurd hst (asked.ne_disconnect hooks c)
    · intro hleft
      obtain ⟨rfl, hkey, hleft⟩ := hleft
      exact .inl ⟨name, asked, hkey, hleft⟩
  have h := ChannelService.leaving rules.channel w.user w.channels q name
  generalize w.channels.leave rules.channel w.user q name = result at h channels sent
  rw [channels] at registered
  cases h with
  | refused why =>
    refine succession_of_eq registered hunfounded ?_ fun c => by rw [channels]
    intro c hc
    obtain ⟨-, -, hleft⟩ := (hdeparts c).1 hc
    rw [sent] at hleft
    cases List.mem_singleton.1 hleft
  | @parted channel n allowed found member =>
    obtain ⟨hkey, hregistered, henabled⟩ := ChannelService.lookup?_eq_some_iff.1 found
    obtain ⟨hr, -⟩ := ChannelService.isRegistered_part.1 registered
    have hleft : ⟨q.owner, .left name⟩ ∈ w.sent rules st := by
      rw [sent]
      exact List.mem_append_right _ (List.mem_singleton_self _)
    refine .continued hr hunfounded fun c => ?_
    rw [hdeparts, channels, ChannelService.channel_part henabled]
    by_cases heq : r = channel
    · rw [if_pos heq, Channel.isOperator_withoutMember, heq, hkey]
      simp [hleft]
    · have hother : rules.channel.keyFor name ≠ r.owner := by
        intro hname
        exact heq (hr.eq hregistered (hname.symm.trans hkey.symm))
      rw [if_neg heq]
      simp [hother]

theorem succession_message (c : ComponentId) (client : ClientId) (code : UInt16) (p : Payload)
    (registered : (w.step rules (.message c client code p)).1.channels.IsRegistered r) :
    w.Succession rules (.message c client code p) r := by
  have hreaction := reaction rules w c client code p
  have hended : ∀ hooks c', Step.message c client code p ≠ .disconnect hooks c' := nofun
  generalize Step.message c client code p = st at hreaction hended registered
  cases hreaction with
  | none unchanged silent =>
    rw [unchanged] at registered
    exact succession_of_silent (fun _ _ _ => silent) hended registered (by rw [unchanged])
  | claimed read current users channels sent =>
    rw [channels] at registered
    refine succession_of_silent ?_ hended registered (by rw [channels])
    rintro c request ⟨code', p', rest, hst, -⟩
    cases hst
  | @requested q request code p rest read current users channels sent =>
    have hasked : (Step.message .channels q.owner code p).Requests q.owner request :=
      ⟨code, p, rest, rfl, read⟩
    cases request with
    | join name => exact succession_join hasked channels sent registered
    | leave name => exact succession_leave hasked channels sent registered

/-- A channel in use after a step was founded in it, or it keeps the operators that do not
depart. -/
theorem succession (h : w.Sound rules) (direct : st.isDirect = false)
    (registered : (w.step rules st).1.channels.IsRegistered r) : w.Succession rules st r := by
  by_cases hquiet : st.isQuiet
  · rcases channels_of_isQuiet hquiet direct with hnone | ⟨binding, observers, hsame⟩
    · exact absurd registered (hnone r)
    · have hsilent : w.sent rules st = [] :=
        congrArg Occurrence.sent (occurrence_of_isQuiet hquiet)
      rw [hsame] at registered
      refine succession_of_silent (fun _ _ _ => hsilent) ?_ registered (by rw [hsame]; rfl)
      rintro hooks c rfl
      cases hquiet
  cases st with
  | message c client code p => exact succession_message c client code p registered
  | disconnect hooks client => exact succession_disconnect h hooks client registered
  | _ => exact absurd rfl hquiet

/-! ## Whole runs -/

/-- The run so far shows who the operator of a channel in use is. -/
theorem isOperator_iff_since (rules : Rules) {steps : List Step}
    (direct : ∀ st ∈ steps, st.isDirect = false)
    (registered : (initial.run rules steps).channels.IsRegistered r) (client : ClientId) :
    ((initial.run rules steps).channels.channel r).isOperator client ↔
      Since rules (Founds rules client r.owner)
        (fun w st => (∀ c, ¬w.Founds rules c r.owner st) ∧ ¬w.Departs rules client r.owner st)
        initial steps := by
  -- by the last step, which founded the channel or found it registered
  induction steps using List.reverseRecOn with
  | nil => cases registered
  | append_singleton steps st ih =>
    obtain ⟨hsteps, hst⟩ := List.forall_mem_append.1 direct
    have hsound := (sound_initial rules).run hsteps
    rw [run_snoc] at registered ⊢
    rw [since_snoc]
    cases succession hsound (hst st (List.mem_singleton_self st)) registered with
    | @founded founder founds operator =>
      rw [operator]
      constructor
      · rintro rfl
        exact .inl founds
      · intro h
        rcases h with hclient | ⟨-, hunfounded, -⟩
        · obtain ⟨name, hasked, -⟩ := hclient
          obtain ⟨name', hasked', -⟩ := founds
          exact (hasked.eq hasked').1
        · exact absurd founds (hunfounded founder)
    | continued hregistered unfounded operator =>
      rw [operator, ih hsteps hregistered]
      simp [unfounded]

/-- Nobody is an operator in the place of one that departed, unless the channel is founded again. -/
theorem not_isOperator_of_departed (rules : Rules) {steps : List Step}
    (direct : ∀ st ∈ steps, st.isDirect = false) {name : String} (departed : ClientId)
    (since : Since rules
      (fun w st => w.channels.isOperator rules.channel name departed ∧
        w.Departs rules departed (rules.channel.keyFor name) st)
      (fun w st => ∀ c, ¬w.Founds rules c (rules.channel.keyFor name) st) initial steps)
    (client : ClientId) :
    (initial.run rules steps).channels.isOperator rules.channel name client = false := by
  rw [← Bool.not_eq_true, ChannelService.isOperator_iff]
  intro h
  obtain ⟨r, hr, hoperator⟩ := h
  obtain ⟨hkey, hregistered, -⟩ := ChannelService.lookup?_eq_some_iff.1 hr
  clear hr
  induction steps using List.reverseRecOn with
  | nil => exact not_since_nil rules _ _ initial since
  | append_singleton steps st ih =>
    obtain ⟨hsteps, hst⟩ := List.forall_mem_append.1 direct
    have hsound := (sound_initial rules).run hsteps
    rw [run_snoc] at hregistered hoperator
    rw [since_snoc] at since
    cases succession hsound (hst st (List.mem_singleton_self st)) hregistered with
    | founded founds operator =>
      rcases since with ⟨-, hdeparts⟩ | ⟨-, hunfounded⟩
      · exact founds.not_departs hdeparts
      · exact hunfounded _ (hkey ▸ founds)
    | continued registered unfounded operator =>
      obtain ⟨hbefore, hstays⟩ := (operator client).1 hoperator
      rcases since with ⟨hdeparted, hdeparts⟩ | ⟨hsince, -⟩
      · -- the one that departs was the only operator
        obtain ⟨q, hq, hdeparted⟩ := ChannelService.isOperator_iff.1 hdeparted
        obtain ⟨hqkey, hqregistered, -⟩ := ChannelService.lookup?_eq_some_iff.1 hq
        rw [hqregistered.eq registered (hqkey.trans hkey.symm)] at hdeparted
        rw [(hsound.channels.intact r registered).operator_eq hbefore hdeparted, hkey] at hstays
        exact hstays hdeparts
      · exact ih hsteps hsince hbefore registered

/-- Who founds a channel, which did not exist, is its operator. -/
theorem Founds.isOperator {name : String}
    (h : w.Founds rules client (rules.channel.keyFor name) st) :
    w.channels.lookup? rules.channel name = none ∧
      (w.step rules st).1.channels.isOperator rules.channel name client := by
  obtain ⟨name', hasked, hkey, hcreated⟩ := h
  obtain ⟨code, p, rest, rfl, -⟩ := id hasked
  have hreaction := reaction rules w .channels client code p
  generalize hst : Step.message .channels client code p = st at hreaction hasked hcreated ⊢
  cases hreaction with
  | none unchanged silent =>
    rw [silent] at hcreated
    cases hcreated
  | claimed => cases hst
  | @requested q request code p rest read current users channels sent =>
    obtain ⟨rfl, rfl⟩ := hasked.eq ⟨code, p, rest, rfl, read⟩
    rw [sent] at hcreated
    rw [channels]
    exact ChannelService.isOperator_of_channelCreated hkey hcreated

/-- A channel has one operator at most. -/
theorem size_operators_le_one (h : w.Sound rules) (r : ChannelRef) :
    (w.channels.channel r).operators.size ≤ 1 := by
  cases henabled : (w.channels.channel r).enabled with
  | true => exact (h.channels.intact r (h.channels.registered r henabled)).oneOperator
  | false =>
    have hnone := Table.isEmpty_iff.2 (h.channels.vacant r henabled).operators
    have hempty : (w.channels.channel r).operators.size = 0 :=
      List.length_eq_zero_iff.2 (List.isEmpty_iff.1 hnone)
    rw [hempty]
    exact Nat.zero_le 1

/-- After every run, whatever the clients and the services do, a client is an operator of a channel
exactly if it founded the channel that is in use under this name and was not taken off it since.
There is never more than one operator. When it departs, nobody is operator any more, not even the
one who departed and joined again, until the channel is founded anew. That takes a channel that is
not in use, and whoever founds it is its operator. -/
theorem operator_is_founder (rules : Rules) {steps : List Step}
    (direct : ∀ st ∈ steps, st.isDirect = false) :
    let w := initial.run rules steps
    (∀ name client, w.channels.isOperator rules.channel name client ↔
      (w.channels.lookup? rules.channel name).isSome ∧
        Since rules (Founds rules client (rules.channel.keyFor name))
          (fun w st => (∀ c, ¬w.Founds rules c (rules.channel.keyFor name) st) ∧
            ¬w.Departs rules client (rules.channel.keyFor name) st) initial steps) ∧
    (∀ r, (w.channels.channel r).operators.size ≤ 1) ∧
    (∀ name departed, Since rules
        (fun w st => w.channels.isOperator rules.channel name departed ∧
          w.Departs rules departed (rules.channel.keyFor name) st)
        (fun w st => ∀ c, ¬w.Founds rules c (rules.channel.keyFor name) st) initial steps →
      ∀ client, w.channels.isOperator rules.channel name client = false) ∧
    ∀ st name client, w.Founds rules client (rules.channel.keyFor name) st →
      w.channels.lookup? rules.channel name = none ∧
        (w.step rules st).1.channels.isOperator rules.channel name client := by
  intro w
  refine ⟨?_, size_operators_le_one ((sound_initial rules).run direct),
    fun _ departed => not_isOperator_of_departed rules direct departed,
    fun _ _ _ => Founds.isOperator⟩
  intro name client
  rw [ChannelService.isOperator_iff, Option.isSome_iff_exists]
  constructor
  · intro h
    obtain ⟨r, hr, hoperator⟩ := h
    obtain ⟨hkey, hregistered, -⟩ := ChannelService.lookup?_eq_some_iff.1 hr
    rw [← hkey]
    exact ⟨⟨r, hr⟩, (isOperator_iff_since rules direct hregistered client).1 hoperator⟩
  · intro h
    obtain ⟨⟨r, hr⟩, hsince⟩ := h
    obtain ⟨hkey, hregistered, -⟩ := ChannelService.lookup?_eq_some_iff.1 hr
    rw [← hkey] at hsince
    exact ⟨r, hr, (isOperator_iff_since rules direct hregistered client).2 hsince⟩

set_option maxRecDepth 100000 in
/-- A founder that left and joined again is no operator, and neither is anyone else until all have
left: then the first to come back is. -/
theorem operator_is_founder_again :
    let ann : ClientId := ⟨1⟩
    let bob : ClientId := ⟨2⟩
    let both := [ComponentId.users, .channels]
    let claim := fun c name => Step.message .users c (Coded.code UserMessage.identify)
      (Payload.ofValues [⟨.string, name⟩, ⟨.string, "secret"⟩])
    let join := fun c => Step.message .channels c (Coded.code ChannelMessage.join)
      (Payload.ofValues [⟨.string, "#"⟩])
    let leave := fun c => Step.message .channels c (Coded.code ChannelMessage.leave)
      (Payload.ofValues [⟨.string, "#"⟩])
    let steps := [.register .users 0, .register .channels 0, .connect both ann "host" "a",
      .connect both bob "host" "b", claim ann "Ann", claim bob "Bob", join ann, join bob,
      leave ann, join ann]
    let more := [leave bob, leave ann, join bob, join ann]
    (initial.run default steps).channels.isOperator default "#" ann = false ∧
    (initial.run default steps).channels.isOperator default "#" bob = false ∧
    (initial.run default (steps ++ more)).channels.isOperator default "#" ann = false ∧
    Since default (Founds default bob "#")
      (fun w st => (∀ c, ¬w.Founds default c "#" st) ∧ ¬w.Departs default bob "#" st)
      initial (steps ++ more) := by
  intro ann bob both claim join leave steps more
  have hdirect : ∀ st ∈ steps ++ more, st.isDirect = false := by decide +kernel
  have hbob : (initial.run default (steps ++ more)).channels.isOperator default "#" bob := by
    decide +kernel
  have hsince := (((operator_is_founder default hdirect).1 "#" bob).1 hbob).2
  exact ⟨by decide +kernel, by decide +kernel, by decide +kernel, hsince⟩

end World

end ChatServer
