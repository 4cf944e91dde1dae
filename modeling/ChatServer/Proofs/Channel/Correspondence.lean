import ChatServer.Proofs.Channel.Departure

/-!
# Services that correspond to each other

Two channel services can differ and still do the same: in the order of their listings, in what they
keep of the past, or in channels that nobody looks at. `Correspondence` lists what has to be found
out about such a difference: that a name finds channels that correspond, and that services which
are related stay so when the same is done to such channels. Requests then come to alike in both,
whatever the difference is.
-/

namespace ChatServer

/-- The name of the channel that a request is about. -/
def ChannelRequest.name : ChannelRequest → String
  | join name => name
  | leave name => name

namespace ChannelService

/-- A way in which channel services correspond to each other. -/
structure Correspondence (config : ChannelConfig) where
  related : ChannelService → ChannelService → Prop
  /-- The keys of the channels that correspond. -/
  about : String → Prop
  /-- Where the second service has the channel that the first one has under a name. -/
  counterpart : ChannelRef → ChannelRef
  /-- How channels in corresponding places are related. -/
  like : Channel → Channel → Prop
  /-- When it makes no difference which of two things is sent and told. -/
  alike : Effects → Effects → Prop
  /-- The channels whose snapshots leave no choice. -/
  plain : (UserRef → User) → Channel → Prop
  enabled_eq : ∀ {c c'}, like c c' → c'.enabled = c.enabled
  members_eq : ∀ {c c'}, like c c' → ∀ client, c'.members.get? client = c.members.get? client
  info_eq : ∀ {c c'}, like c c' → ∀ users, c'.info users = c.info users
  withMember : ∀ {c c'}, like c c' → ∀ q, like (c.withMember q) (c'.withMember q)
  withoutMember : ∀ {c c'}, like c c' → ∀ client,
    like (c.withoutMember client) (c'.withoutMember client)
  lookup?_eq : ∀ {s s'}, related s s' → ∀ name, about (config.keyFor name) →
    s'.lookup? config name = (s.lookup? config name).map counterpart
  channel : ∀ {s s'}, related s s' → ∀ r, about r.owner →
    like (s.channel r) (s'.channel (counterpart r))
  update : ∀ {s s'}, related s s' → ∀ {r c c'}, about r.owner → (s.channel r).enabled →
    like c c' → related (s.update r c) (s'.update (counterpart r) c')
  register : ∀ {s s'}, related s s' → ∀ {c}, about c.key → related (s.register c) (s'.register c)
  release : ∀ {s s'}, related s s' → ∀ r, about r.owner →
    related (s.release r) (s'.release (counterpart r))
  refl : ∀ effects, alike effects effects
  joined : ∀ {c c' users}, like c c' → plain users c → ∀ r q,
    alike (joinEffects config users r c q) (joinEffects config users (counterpart r) c' q)
  left : ∀ {c c' users}, like c c' → ∀ r q departed name,
    alike (leaveEffects users r c q departed name)
      (leaveEffects users (counterpart r) c' q departed name)

/-- What a request to join comes to, by what stands against it and what is found. -/
theorem join_eq (config : ChannelConfig) (users : UserRef → User) (s : ChannelService)
    (q : UserRef) (name : String) :
    s.join config users q name =
      match joinRefusal? config users s q name, s.lookup? config name with
      | some reason, _ => (s, refuseJoin (users q) q.owner reason)
      | none, none => s.found config users q name
      | none, some r =>
        (s.update r ((s.channel r).withMember q),
          joinEffects config users r ((s.channel r).withMember q) q) := by
  have h := joining config users s q name
  generalize s.join config users q name = result at h
  cases h with
  | refused why => rw [why]
  | founded allowed free => rw [allowed, free]
  | entered allowed found => rw [allowed, found]

namespace Correspondence

/-- Services correspond where they find the same channels, be it in different places. -/
def ofSame {config : ChannelConfig} (related : ChannelService → ChannelService → Prop)
    (about : String → Prop) (counterpart : ChannelRef → ChannelRef)
    (alike : Effects → Effects → Prop)
    (lookup?_eq : ∀ {s s'}, related s s' → ∀ name, about (config.keyFor name) →
      s'.lookup? config name = (s.lookup? config name).map counterpart)
    (channel_eq : ∀ {s s'}, related s s' → ∀ r, about r.owner →
      s'.channel (counterpart r) = s.channel r)
    (update : ∀ {s s'}, related s s' → ∀ {r} c, about r.owner → (s.channel r).enabled →
      related (s.update r c) (s'.update (counterpart r) c))
    (register : ∀ {s s'}, related s s' → ∀ {c}, about c.key →
      related (s.register c) (s'.register c))
    (release : ∀ {s s'}, related s s' → ∀ r, about r.owner →
      related (s.release r) (s'.release (counterpart r)))
    (refl : ∀ effects, alike effects effects)
    (joined : ∀ users r c q,
      alike (joinEffects config users r c q) (joinEffects config users (counterpart r) c q))
    (left : ∀ users r c q departed name,
      alike (leaveEffects users r c q departed name)
        (leaveEffects users (counterpart r) c q departed name)) : Correspondence config where
  related := related
  about := about
  counterpart := counterpart
  like c c' := c' = c
  alike := alike
  plain _ _ := True
  enabled_eq h := by rw [h]
  members_eq h _ := by rw [h]
  info_eq h _ := by rw [h]
  withMember h _ := by rw [h]
  withoutMember h _ := by rw [h]
  lookup?_eq := lookup?_eq
  channel := channel_eq
  update h _ c _ hr enabled hc := hc ▸ update h c hr enabled
  register := register
  release := release
  refl := refl
  joined {c _ users} h _ r q := h ▸ joined users r c q
  left {c _ users} h r q departed name := h ▸ left users r c q departed name

/-- Services correspond where they find the same channels in the same places. -/
def ofEq {config : ChannelConfig} (related : ChannelService → ChannelService → Prop)
    (about : String → Prop)
    (lookup?_eq : ∀ {s s'}, related s s' → ∀ name, about (config.keyFor name) →
      s'.lookup? config name = s.lookup? config name)
    (channel_eq : ∀ {s s'}, related s s' → ∀ r, about r.owner → s'.channel r = s.channel r)
    (update : ∀ {s s'}, related s s' → ∀ {r} c, about r.owner → (s.channel r).enabled →
      related (s.update r c) (s'.update r c))
    (register : ∀ {s s'}, related s s' → ∀ {c}, about c.key →
      related (s.register c) (s'.register c))
    (release : ∀ {s s'}, related s s' → ∀ r, about r.owner →
      related (s.release r) (s'.release r)) : Correspondence config :=
  ofSame related about id (fun effects effects' => effects' = effects)
    (fun h name hname => (lookup?_eq h name hname).trans Option.map_id'.symm) channel_eq update
    register release (fun _ => rfl) (fun _ _ _ _ => rfl) fun _ _ _ _ _ _ => rfl

variable {config : ChannelConfig} (k : Correspondence config) {users : UserRef → User}
  {s s' : ChannelService} {r : ChannelRef} {q : UserRef} {name : String}

/-! ## What is found -/

/-- A channel and its counterpart have the same members. -/
theorem isMember_channel (h : k.related s s') (about : k.about r.owner) (client : ClientId) :
    (s'.channel (k.counterpart r)).isMember client = (s.channel r).isMember client :=
  congrArg Option.isSome (k.members_eq (k.channel h r about) client)

/-- The same is known about a channel and its counterpart. -/
theorem info?_eq (h : k.related s s') (about : k.about (config.keyFor name))
    (users : UserRef → User) : s'.info? config users name = s.info? config users name := by
  rw [info?, info?, k.lookup?_eq h name about, Option.map_map]
  refine Option.map_congr fun r hr => k.info_eq (k.channel h r ?_) users
  rw [(lookup?_eq_some_iff.1 hr).1]
  exact about

/-- The same clients are members of the channel that a name finds. -/
theorem isMember_eq (h : k.related s s') (about : k.about (config.keyFor name))
    (client : ClientId) : s'.isMember config name client = s.isMember config name client := by
  rw [isMember, isMember, k.lookup?_eq h name about]
  cases hr : s.lookup? config name with
  | none => rfl
  | some r =>
    have howner := (lookup?_eq_some_iff.1 hr).1
    exact k.isMember_channel h (howner ▸ about) client

/-- The same stands against joining. -/
theorem joinRefusal?_eq (h : k.related s s') (about : k.about (config.keyFor name)) :
    joinRefusal? config users s' q name = joinRefusal? config users s q name := by
  rw [joinRefusal?, joinRefusal?, k.isMember_eq h about]

/-- The same stands against leaving. -/
theorem leaveRefusal?_eq (h : k.related s s') (about : k.about (config.keyFor name)) :
    leaveRefusal? config users s' q name = leaveRefusal? config users s q name := by
  rw [leaveRefusal?, leaveRefusal?, k.lookup?_eq h name about]
  cases hr : s.lookup? config name with
  | none => rfl
  | some r =>
    have howner := (lookup?_eq_some_iff.1 hr).1
    rw [Option.map_some]
    dsimp only
    rw [k.isMember_channel h (howner ▸ about)]

/-! ## What is done -/

/-- A client leaves a channel and its counterpart; either both are left empty or none. -/
theorem part (h : k.related s s') (about : k.about r.owner) (enabled : (s.channel r).enabled)
    (client : ClientId) : k.related (s.part r client) (s'.part (k.counterpart r) client) := by
  have hleft := k.withoutMember (k.channel h r about) client
  have hupdate := k.update h about enabled hleft
  -- whether the channel is released depends on who is left, not on how the roster is kept
  have hempty : ((s'.channel (k.counterpart r)).withoutMember client).members.isEmpty =
      ((s.channel r).withoutMember client).members.isEmpty := by
    rw [Bool.eq_iff_iff, Table.isEmpty_iff, Table.isEmpty_iff]
    simp only [k.members_eq hleft]
  unfold ChannelService.part
  dsimp only
  rw [hempty]
  split
  · exact k.release hupdate r about
  · exact hupdate

/-- A client that disconnects is taken off a channel and its counterpart. -/
theorem retireFrom (h : k.related s s') (about : k.about r.owner) (client : ClientId) :
    k.related (s.retireFrom client r) (s'.retireFrom client (k.counterpart r)) := by
  have hholds : (s'.channel (k.counterpart r)).Holds client ↔ (s.channel r).Holds client := by
    rw [Channel.Holds, Channel.Holds, k.enabled_eq (k.channel h r about),
      k.isMember_channel h about]
  unfold ChannelService.retireFrom
  simp only [hholds]
  split
  · next hholds => exact k.part h about hholds.1 client
  · exact h

/-- Who joins is refused for the same reason, founds the channel in both services, or enters a
channel and its counterpart. -/
theorem join (h : k.related s s') (about : k.about (config.keyFor name))
    (plain : ∀ r, k.plain users ((s.join config users q name).1.channel r)) :
    k.related (s.join config users q name).1 (s'.join config users q name).1 ∧
      k.alike (s.join config users q name).2 (s'.join config users q name).2 := by
  rw [join_eq] at plain
  rw [join_eq, join_eq, k.joinRefusal?_eq h about, k.lookup?_eq h name about]
  cases hrefusal : joinRefusal? config users s q name with
  | some reason => exact ⟨h, k.refl _⟩
  | none =>
    cases hfound : s.lookup? config name with
    | none => exact ⟨k.register h about, k.refl _⟩
    | some r =>
      obtain ⟨hkey, -, henabled⟩ := lookup?_eq_some_iff.1 hfound
      rw [← hkey] at about
      have hentered := k.withMember (k.channel h r about) q
      -- the answer shows the channel as it is after it was entered
      rw [hrefusal, hfound] at plain
      have hplain := plain r
      rw [channel_update henabled, if_pos rfl] at hplain
      exact ⟨k.update h about henabled hentered, k.joined hentered hplain r q⟩

/-- Who leaves is refused for the same reason, or leaves a channel and its counterpart. -/
theorem leave (h : k.related s s') (about : k.about (config.keyFor name)) :
    k.related (s.leave config users q name).1 (s'.leave config users q name).1 ∧
      k.alike (s.leave config users q name).2 (s'.leave config users q name).2 := by
  have hleaving := leaving config users s q name
  have hleaving' := leaving config users s' q name
  generalize s.leave config users q name = result at hleaving
  generalize s'.leave config users q name = result' at hleaving'
  -- the refusals agree, and so do the channels that are found
  cases hleaving with
  | refused why =>
    cases hleaving' with
    | refused why' =>
      rw [k.leaveRefusal?_eq h about, why] at why'
      cases why'
      exact ⟨h, k.refl _⟩
    | parted allowed' =>
      rw [k.leaveRefusal?_eq h about, why] at allowed'
      cases allowed'
  | @parted r n allowed found member =>
    cases hleaving' with
    | refused why' =>
      rw [k.leaveRefusal?_eq h about, allowed] at why'
      cases why'
    | parted allowed' found' member' =>
      rw [k.lookup?_eq h name about, found] at found'
      cases found'
      obtain ⟨hkey, -, henabled⟩ := lookup?_eq_some_iff.1 found
      rw [← hkey] at about
      have hlike := k.channel h r about
      rw [k.members_eq hlike, member] at member'
      cases member'
      exact ⟨k.part h about henabled q.owner, k.left hlike r q _ name⟩

/-- A request comes to alike in services that correspond. -/
theorem perform (h : k.related s s') {request : ChannelRequest}
    (about : k.about (config.keyFor request.name))
    (plain : ∀ r, k.plain users ((s.perform config users q request).1.channel r)) :
    k.related (s.perform config users q request).1 (s'.perform config users q request).1 ∧
      k.alike (s.perform config users q request).2 (s'.perform config users q request).2 := by
  cases request with
  | join name => exact k.join h about plain
  | leave name => exact k.leave h about

end Correspondence

end ChannelService

end ChatServer
