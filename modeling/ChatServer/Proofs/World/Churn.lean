import ChatServer.Proofs.Channel.Separation
import ChatServer.Proofs.World.Operators

/-!
# Churn settles

Clients that join and leave channels, in whatever order, leave no trace in the registry once they
are out of these channels again. `Churned` is what holds on the way: a channel that was there before
is still there and differs in nothing but clients that asked for it, and a new one has no other
members.
-/

namespace ChatServer

namespace Channel

/-- A channel became another one that differs at most in clients of some kind. -/
structure SameBut (asked : ClientId → Prop) (c c' : Channel) : Prop where
  name : c'.name = c.name
  members : ∀ client, ¬asked client → c'.members.get? client = c.members.get? client
  operators : ∀ client, ¬asked client → c'.operators.get? client = c.operators.get? client

variable {asked : ClientId → Prop} {c c' : Channel}

theorem SameBut.refl (asked : ClientId → Prop) (c : Channel) : SameBut asked c c :=
  ⟨rfl, fun _ _ => rfl, fun _ _ => rfl⟩

theorem SameBut.withMember (h : SameBut asked c c') {p : UserRef} (ask : asked p.owner) :
    SameBut asked c (c'.withMember p) where
  name := h.name
  members client hclient := by
    have hne : client ≠ p.owner := fun heq => hclient (heq ▸ ask)
    rw [get?_withMember, if_neg hne]
    exact h.members client hclient
  operators := h.operators

theorem SameBut.withoutMember (h : SameBut asked c c') {gone : ClientId} (ask : asked gone) :
    SameBut asked c (c'.withoutMember gone) where
  name := h.name
  members client hclient := by
    have hne : client ≠ gone := fun heq => hclient (heq ▸ ask)
    rw [get?_withoutMember, if_neg hne]
    exact h.members client hclient
  operators client hclient := by
    have hne : client ≠ gone := fun heq => hclient (heq ▸ ask)
    refine (Table.get?_erase _ _ _).trans ?_
    rw [if_neg hne]
    exact h.operators client hclient

end Channel

namespace ChannelService

variable {config : ChannelConfig} {users : UserRef → User} {asked : ClientId → String → Prop}
  {s s' : ChannelService} {r : ChannelRef} {p : UserRef} {name : String}

/-- Who is no member of the channel that a text names is not on its roster. -/
theorem Sound.absent_of_not_isMember (h : Sound config users s) {client : ClientId}
    (absent : s.isMember config name client = false) (registered : s.IsRegistered r)
    (key : r.owner = config.keyFor name) : (s.channel r).members.get? client = none := by
  have hlookup : s.lookup? config name = some r :=
    lookup?_eq_some_iff.2 ⟨key, registered, (h.intact r registered).enabled⟩
  rw [isMember, hlookup] at absent
  exact Table.contains_eq_false_iff.1 absent

/-- What clients that join and leave channels have made of the service: a channel that was there is
still there, and differs at most in clients that asked for it; in a new channel there is nobody
else. -/
structure Churned (asked : ClientId → String → Prop) (s s' : ChannelService) : Prop where
  old : ∀ r, s.IsRegistered r → s'.IsRegistered r ∧
    Channel.SameBut (fun client => asked client r.owner) (s.channel r) (s'.channel r)
  new : ∀ r, s'.IsRegistered r → ¬s.IsRegistered r →
    ∀ client n, (s'.channel r).members.get? client = some n → asked client r.owner

theorem Churned.refl (asked : ClientId → String → Prop) (s : ChannelService) :
    Churned asked s s where
  old _ hr := ⟨hr, .refl _ _⟩
  new _ hr hnot := absurd hr hnot

/-- A service is still churned when one of those who ask founds a channel: nobody else is in it. -/
theorem Churned.founded (h : Churned asked s s') (sound : Sound config users s')
    (ask : asked p.owner (config.keyFor name)) (free : s'.lookup? config name = none) :
    Churned asked s (s'.register (.create name (config.keyFor name) p)) := by
  constructor
  case old =>
    intro r hr
    obtain ⟨hregistered, hsame⟩ := h.old r hr
    -- the key is free, so no channel that was there at the start has it
    have hkey : r.owner ≠ config.keyFor name :=
      fun key => sound.free_of_lookup? free key hregistered
    refine ⟨isRegistered_register.2 (.inr ⟨hkey, hregistered⟩), ?_⟩
    rw [channel_register, if_neg fun heq => hkey (congrArg Ref.owner heq)]
    exact hsame
  case new =>
    intro r hr hnot client n hn
    rw [channel_register] at hn
    rcases isRegistered_register.1 hr with hnew | ⟨hkey, hregistered⟩
    · rw [if_pos hnew] at hn
      rw [hnew, show client = p.owner from congrArg Ref.owner (Channel.get?_create hn)]
      exact ask
    · rw [if_neg fun heq => hkey (congrArg Ref.owner heq)] at hn
      exact h.new r hregistered hnot client n hn

theorem Churned.entered (h : Churned asked s s') (ask : asked p.owner (config.keyFor name))
    (found : s'.lookup? config name = some r) :
    Churned asked s (s'.update r ((s'.channel r).withMember p)) := by
  obtain ⟨hkey, -, henabled⟩ := lookup?_eq_some_iff.1 found
  rw [← hkey] at ask
  constructor
  case old =>
    intro q hq
    obtain ⟨hregistered, hsame⟩ := h.old q hq
    refine ⟨hregistered, ?_⟩
    rw [channel_update henabled]
    split
    · next heq =>
      subst heq
      exact hsame.withMember ask
    · exact hsame
  case new =>
    -- in a channel that was not there at the start are only those who asked
    intro q hq hnot client n hn
    rw [channel_update henabled] at hn
    split at hn
    · next heq =>
      subst heq
      rw [Channel.get?_withMember] at hn
      split at hn
      · next hclient =>
        rw [hclient]
        exact ask
      · exact h.new q hq hnot client n hn
    · exact h.new q hq hnot client n hn

/-- Who leaves a channel that was there does not leave it empty, because someone is a member who did
not ask for it. -/
theorem Churned.parted (h : Churned asked s s')
    (inhabited : ∀ r, s.IsRegistered r →
      ∃ client n, ¬asked client r.owner ∧ (s.channel r).members.get? client = some n)
    (ask : asked p.owner (config.keyFor name)) (found : s'.lookup? config name = some r) :
    Churned asked s (s'.part r p.owner) := by
  obtain ⟨hkey, -, henabled⟩ := lookup?_eq_some_iff.1 found
  rw [← hkey] at ask
  constructor
  case old =>
    intro q hq
    obtain ⟨hregistered, hsame⟩ := h.old q hq
    rw [isRegistered_part, channel_part henabled]
    by_cases heq : q = r
    · subst heq
      have hwithout := hsame.withoutMember ask
      -- somebody who did not ask is still in it, so the channel is not released
      obtain ⟨client, n, hclient, hn⟩ := inhabited q hq
      rw [← hwithout.members client hclient] at hn
      rw [if_pos rfl]
      exact ⟨⟨hregistered, fun _ => Table.isEmpty_eq_false_iff.2 ⟨client, n, hn⟩⟩, hwithout⟩
    · rw [if_neg heq]
      exact ⟨⟨hregistered, fun hq => absurd hq heq⟩, hsame⟩
  case new =>
    intro q hq hnot client n hn
    obtain ⟨hregistered, -⟩ := isRegistered_part.1 hq
    rw [channel_part henabled] at hn
    split at hn
    · next heq =>
      subst heq
      rw [Channel.get?_withoutMember] at hn
      split at hn
      · cases hn
      · exact h.new q hregistered hnot client n hn
    · exact h.new q hregistered hnot client n hn

/-- Requests of those who ask leave a service churned: as long as somebody else is in it no channel
goes away. -/
theorem Churned.perform (h : Churned asked s s') (sound : Sound config users s')
    (inhabited : ∀ r, s.IsRegistered r →
      ∃ client n, ¬asked client r.owner ∧ (s.channel r).members.get? client = some n)
    {request : ChannelRequest} (ask : asked p.owner (config.keyFor request.name)) :
    Churned asked s (s'.perform config users p request).1 := by
  have hperformed := performed config users s' p request
  generalize (s'.perform config users p request).1 = s'' at hperformed
  cases hperformed with
  | refused => exact h
  | founded allowed free => exact h.founded sound ask free
  | entered allowed found => exact h.entered ask found
  | parted found => exact h.parted inhabited ask found

/-- No client is on the roster of a channel for which it asked. -/
def Clear (asked : ClientId → String → Prop) (s : ChannelService) : Prop :=
  ∀ r client, s.IsRegistered r → asked client r.owner → (s.channel r).members.get? client = none

/-- A registered channel that those who ask are not in has somebody else in it. -/
theorem Clear.inhabited (h : s.Clear asked) (sound : Sound config users s)
    (registered : s.IsRegistered r) :
    ∃ client n, ¬asked client r.owner ∧ (s.channel r).members.get? client = some n := by
  obtain ⟨client, n, hn⟩ := Table.isEmpty_eq_false_iff.1 (sound.intact r registered).inhabited
  refine ⟨client, n, fun hasked => ?_, hn⟩
  rw [h r client registered hasked] at hn
  cases hn

/-- Those who ask are no operators of channels that they are not in. -/
theorem Clear.operators (h : s.Clear asked) (sound : Sound config users s)
    (registered : s.IsRegistered r) {client : ClientId} (ask : asked client r.owner) :
    (s.channel r).operators.get? client = none := by
  refine Option.eq_none_iff_forall_ne_some.2 fun n hn => ?_
  have hmember := sound.member_of_operator hn
  rw [h r client registered ask] at hmember
  cases hmember

/-- When nobody is a member of a channel that it asked for, the channels are those there were. -/
theorem Churned.isRegistered_iff (h : Churned asked s s') (sound' : Sound config users s')
    (clear' : s'.Clear asked) : s'.IsRegistered r ↔ s.IsRegistered r := by
  refine ⟨fun hr => ?_, fun hr => (h.old r hr).1⟩
  -- a new channel would have members, and only such as asked for it
  by_contra hnew
  obtain ⟨client, n, hnot, hn⟩ := clear'.inhabited sound' hr
  exact hnot (h.new r hr hnew client n hn)

/-- When nobody is a member of a channel that it asked for, the rosters are those there were. -/
theorem Churned.sameBut_false {users' : UserRef → User} (h : Churned asked s s')
    (sound : Sound config users s) (sound' : Sound config users' s') (clear : s.Clear asked)
    (clear' : s'.Clear asked) (registered : s.IsRegistered r) :
    Channel.SameBut (fun _ => False) (s.channel r) (s'.channel r) := by
  obtain ⟨hregistered, hsame⟩ := h.old r registered
  refine ⟨hsame.name, fun client _ => ?_, fun client _ => ?_⟩
  · by_cases hclient : asked client r.owner
    · rw [clear r client registered hclient, clear' r client hregistered hclient]
    · exact hsame.members client hclient
  · by_cases hclient : asked client r.owner
    · rw [clear.operators sound registered hclient, clear'.operators sound' hregistered hclient]
    · exact hsame.operators client hclient

end ChannelService

namespace World

variable {rules : Rules} {w : World}

/-- In one of some steps a client asks for the channel under a key. -/
def Asks (rules : Rules) (steps : List Step) (client : ClientId) (key : String) : Prop :=
  ∃ st ∈ steps, ∃ request, st.Requests client request ∧ rules.channel.keyFor request.name = key

/-- No client is a member of a channel for which it asks in some steps. -/
def IsOutside (rules : Rules) (steps : List Step) (w : World) : Prop :=
  ∀ st ∈ steps, ∀ client request, st.Requests client request →
    w.channels.isMember rules.channel request.name client = false

/-- Clients that are outside of what they ask for are in none of these channels. -/
theorem IsOutside.clear {steps : List Step} (h : w.IsOutside rules steps) (sound : w.Sound rules) :
    w.channels.Clear (Asks rules steps) := by
  intro r client hregistered hasks
  obtain ⟨st, hst, request, hrequest, hkey⟩ := hasks
  exact sound.channels.absent_of_not_isMember (h st hst client request hrequest) hregistered
    hkey.symm

/-- A request changes no user, and it changes only a channel for which it asks. -/
theorem churned_step {asked : ClientId → String → Prop} {s : ChannelService} {st : Step}
    (sound : w.Sound rules) (churned : s.Churned asked w.channels)
    (inhabited : ∀ r, s.IsRegistered r →
      ∃ client n, ¬asked client r.owner ∧ (s.channel r).members.get? client = some n)
    (requests : ∃ client request, st.Requests client request)
    (ask : ∀ client request, st.Requests client request →
      asked client (rules.channel.keyFor request.name)) :
    (w.step rules st).1.users = w.users ∧ s.Churned asked (w.step rules st).1.channels := by
  obtain ⟨client, request, code, p, rest, rfl, -⟩ := requests
  have hreaction := reaction rules w .channels client code p
  generalize hst : Step.message .channels client code p = st at hreaction ask
  cases hreaction with
  | none unchanged silent =>
    rw [unchanged]
    exact ⟨rfl, churned⟩
  | claimed => cases hst
  | requested read current users channels sent =>
    refine ⟨users, ?_⟩
    rw [channels]
    exact churned.perform sound.channels inhabited (ask _ _ ⟨_, _, _, rfl, read⟩)

/-- Requests of clients that were outside at the start leave users as they were and channels the
same but for these clients. -/
theorem churned_run {asked : ClientId → String → Prop} {s : ChannelService} {churn : List Step}
    (sound : w.Sound rules) (churned : s.Churned asked w.channels)
    (inhabited : ∀ r, s.IsRegistered r →
      ∃ client n, ¬asked client r.owner ∧ (s.channel r).members.get? client = some n)
    (requests : ∀ st ∈ churn, ∃ client request, st.Requests client request)
    (ask : ∀ st ∈ churn, ∀ client request, st.Requests client request →
      asked client (rules.channel.keyFor request.name)) :
    (w.run rules churn).users = w.users ∧ s.Churned asked (w.run rules churn).channels ∧
      (w.run rules churn).Sound rules := by
  induction churn generalizing w with
  | nil => exact ⟨rfl, churned, sound⟩
  | cons st churn ih =>
    obtain ⟨hst, hrest⟩ := List.forall_mem_cons.1 requests
    obtain ⟨hask, haskRest⟩ := List.forall_mem_cons.1 ask
    obtain ⟨husers, hchurned⟩ := churned_step sound churned inhabited hst hask
    have hdirect : st.isDirect = false := by
      obtain ⟨client, request, code, p, rest, rfl, -⟩ := hst
      rfl
    obtain ⟨hrun, hlast⟩ := ih (sound.step hdirect) hchurned hrest haskRest
    exact ⟨hrun.trans husers, hlast⟩

/-- Clients may join and leave channels in any order, found channels, be refused and leave channels
empty. If at the start no client is a member of a channel for which it asks, and at the end none is,
then all is as it was: the registry has the same channels under the same keys, each with its name,
its members and its operators, and so have the users. -/
theorem churn_settles (rules : Rules) {steps churn : List Step}
    (direct : ∀ st ∈ steps, st.isDirect = false)
    (requests : ∀ st ∈ churn, ∃ client request, st.Requests client request)
    (start : (initial.run rules steps).IsOutside rules churn)
    (finish : (initial.run rules (steps ++ churn)).IsOutside rules churn) :
    let w := initial.run rules steps
    let w' := initial.run rules (steps ++ churn)
    w'.users = w.users ∧
    (∀ key, w'.channels.registry.get? key = w.channels.registry.get? key) ∧
    ∀ r, w.channels.IsRegistered r →
      let c := w.channels.channel r
      let c' := w'.channels.channel r
      c'.name = c.name ∧ (∀ client, c'.members.get? client = c.members.get? client) ∧
        ∀ client, c'.operators.get? client = c.operators.get? client := by
  have hsound : (initial.run rules steps).Sound rules := (sound_initial rules).run direct
  have hclear := start.clear hsound
  obtain ⟨husers, hchurned, hsound'⟩ :=
    churned_run hsound (.refl (Asks rules churn) _)
      (fun r hr => hclear.inhabited hsound.channels hr) requests
      fun st hst client request hrequest => ⟨st, hst, request, hrequest, rfl⟩
  rw [run_append] at finish ⊢
  have hclear' := finish.clear hsound'
  refine ⟨husers, fun key => Option.ext fun n => ?_, fun r hr => ?_⟩
  · exact hchurned.isRegistered_iff hsound'.channels hclear' (r := ⟨key, n⟩)
  · have hrosters := hchurned.sameBut_false hsound.channels hsound'.channels hclear hclear' hr
    exact ⟨hrosters.name, fun client => hrosters.members client id,
      fun client => hrosters.operators client id⟩

set_option maxRecDepth 100000 in
/-- Two clients that come and go leave a channel to its operator, and found and leave another one.
-/
theorem churn_settles_around_operator :
    let ann : ClientId := ⟨1⟩
    let bob : ClientId := ⟨2⟩
    let cid : ClientId := ⟨3⟩
    let both := [ComponentId.users, .channels]
    let claim := fun c name => Step.message .users c (Coded.code UserMessage.identify)
      (Payload.ofValues [⟨.string, name⟩, ⟨.string, "secret"⟩])
    let join := fun c name => Step.message .channels c (Coded.code ChannelMessage.join)
      (Payload.ofValues [⟨.string, name⟩])
    let leave := fun c name => Step.message .channels c (Coded.code ChannelMessage.leave)
      (Payload.ofValues [⟨.string, name⟩])
    let steps := [.register .users 0, .register .channels 0, .connect both ann "host" "a",
      .connect both bob "host" "b", .connect both cid "host" "c", claim ann "Ann", claim bob "Bob",
      claim cid "Cid", join ann "#one"]
    let churn := [join bob "#one", join bob "#two", join cid "#two", leave bob "#two",
      leave cid "#two", leave bob "#one"]
    (initial.run default (steps ++ churn)).channels.channels.all.length = 2 ∧
      (initial.run default (steps ++ churn)).channels.registry.get? "#one" =
        (initial.run default steps).channels.registry.get? "#one" ∧
      (initial.run default steps).channels.registry.get? "#one" = some 0 := by
  intro ann bob cid both claim join leave steps churn
  have hasked : ∀ st ∈ churn, ∃ client ∈ [bob, cid], ∃ request : ChannelRequest,
      request.name ∈ ["#one", "#two"] ∧ st.Requests client request := by
    simp only [churn, List.forall_mem_cons]
    exact ⟨
      ⟨bob, by decide, .join "#one", by decide, _, _, _, rfl, Prod.ext (by decide +kernel) rfl⟩,
      ⟨bob, by decide, .join "#two", by decide, _, _, _, rfl, Prod.ext (by decide +kernel) rfl⟩,
      ⟨cid, by decide, .join "#two", by decide, _, _, _, rfl, Prod.ext (by decide +kernel) rfl⟩,
      ⟨bob, by decide, .leave "#two", by decide, _, _, _, rfl, Prod.ext (by decide +kernel) rfl⟩,
      ⟨cid, by decide, .leave "#two", by decide, _, _, _, rfl, Prod.ext (by decide +kernel) rfl⟩,
      ⟨bob, by decide, .leave "#one", by decide, _, _, _, rfl, Prod.ext (by decide +kernel) rfl⟩,
      fun _ hst => absurd hst List.not_mem_nil⟩
  -- bob and cid are the only ones to ask, and only for these two channels
  have houtside : ∀ {w : World}, (∀ client ∈ [bob, cid], ∀ name ∈ ["#one", "#two"],
      w.channels.isMember (default : Rules).channel name client = false) →
        w.IsOutside default churn := by
    intro w habsent st hst client request hrequest
    obtain ⟨client', hclient, request', hname, hrequest'⟩ := hasked st hst
    obtain ⟨rfl, rfl⟩ := hrequest.eq hrequest'
    exact habsent client hclient request.name hname
  have hdirect : ∀ st ∈ steps, st.isDirect = false := by decide +kernel
  have hrequests : ∀ st ∈ churn, ∃ client request, st.Requests client request := by
    intro st hst
    obtain ⟨client, -, request, -, hrequest⟩ := hasked st hst
    exact ⟨client, request, hrequest⟩
  obtain ⟨-, hregistry, -⟩ := churn_settles default hdirect hrequests
    (houtside (by decide +kernel)) (houtside (by decide +kernel))
  exact ⟨by decide +kernel, hregistry "#one", by decide +kernel⟩

end World

end ChatServer
