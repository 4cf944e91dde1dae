import ChatServer.Live.Hub
import ChatServer.Proofs.Hosting.Servers
import ChatServer.Proofs.World.Serving

/-!
# How a server is built

A server is built of components of different types, in the order in which they are listed, and finds
each of them under its type. `Hub.Sound` is what holds when it is built and stays so.
-/

namespace ChatServer

namespace World

variable {rules : Rules} {w : World}

/-- Binding a component changes neither the servers nor what the services know. -/
theorem attach_sound {c : ComponentId} {i : ServerId} (h : w.Sound rules) :
    (w.attach c i).1.Sound rules ∧ (w.attach c i).1.servers = w.servers := by
  have hsound : (w.step rules (.attach c i)).1.Sound rules := h.step rfl
  exact ⟨hsound, servers_attach w c i⟩

end World

namespace Live

namespace Hub

/-- A server is built of components of which no two have the same type. -/
theorem duplicate?_eq_none {seen : List ComponentType} {cs : List ComponentId}
    (h : duplicate? seen cs = none) :
    (cs.map ComponentId.type).Nodup ∧ ∀ c ∈ cs, c.type ∉ seen := by
  induction cs generalizing seen with
  | nil => exact ⟨List.nodup_nil, nofun⟩
  | cons c cs ih =>
    rw [duplicate?] at h
    split at h
    · cases h
    · next hc =>
      -- no later component has the type of this one, because it is seen from here on
      obtain ⟨hnodup, hunseen⟩ := ih h
      refine ⟨?_, fun d hd => ?_⟩
      · rw [List.map_cons, List.nodup_cons]
        refine ⟨fun hmem => ?_, hnodup⟩
        obtain ⟨d, hd, htype⟩ := List.mem_map.1 hmem
        exact hunseen d hd (htype ▸ List.mem_cons_self)
      · rcases List.mem_cons.1 hd with rfl | hd
        · exact hc
        · exact fun hmem => hunseen d hd (List.mem_cons_of_mem _ hmem)

/-- What holds of a server of some components at any time. -/
structure Sound (components : List ComponentId) (h : Hub) : Prop where
  hosts : h.components = components
  routed : ∀ type c, h.world.servers.component? 0 type = some c ↔ c ∈ components ∧ c.type = type
  world : h.world.Sound h.rules

/-- A server that is given components of different types finds each of them. -/
theorem component?_foldl_place {servers : Servers} {i : ServerId} (running : i < servers.length)
    (empty : ∀ type, servers.component? i type = none) {cs : List ComponentId}
    (nodup : (cs.map ComponentId.type).Nodup) (type : ComponentType) (c : ComponentId) :
    (cs.foldl (fun servers c => servers.place i c) servers).component? i type = some c ↔
      c ∈ cs ∧ c.type = type := by
  have hlength : ∀ cs : List ComponentId,
      i < (cs.foldl (fun servers c => servers.place i c) servers).length := by
    intro cs
    induction cs using List.reverseRecOn with
    | nil => exact running
    | append_singleton cs d ih =>
      rw [List.foldl_append, List.foldl_cons, List.foldl_nil, Servers.length_place]
      exact ih
  induction cs using List.reverseRecOn with
  | nil =>
    rw [List.foldl_nil, empty]
    exact ⟨nofun, fun h => absurd h.1 List.not_mem_nil⟩
  | append_singleton cs d ih =>
    rw [List.map_append, List.nodup_append] at nodup
    obtain ⟨hnodup, -, hdisjoint⟩ := nodup
    rw [List.foldl_append, List.foldl_cons, List.foldl_nil, Servers.component?_place (hlength cs),
      List.mem_append, List.mem_singleton]
    -- the component that is placed last is found under its type, all others are found as before
    split
    · next htype =>
      constructor
      · intro h
        rw [Option.some.inj h] at htype
        exact ⟨.inr (Option.some.inj h).symm, htype.symm⟩
      · intro h
        rcases h.1 with hc | rfl
        · have hsame : c.type = d.type := h.2.trans htype
          exact absurd hsame (hdisjoint _ (List.mem_map_of_mem hc) _ (by simp))
        · rfl
    · next htype =>
      refine (ih hnodup).trans ?_
      constructor
      · exact fun h => ⟨.inl h.1, h.2⟩
      · intro h
        rcases h.1 with hc | rfl
        · exact ⟨hc, h.2⟩
        · exact absurd h.2.symm htype

/-- Nobody used the services of a server before its components are bound. -/
theorem sound_worldOf (rules : Rules) (parts : List Part) : (worldOf parts).Sound rules where
  directory := UserDirectory.sound_empty rules.user.config
  channels :=
    let h := ChannelService.sound_initial rules.channel (worldOf parts).user
    ⟨h.intact, h.registered, h.vacant⟩

/-- To attach all components keeps a world sound, and creates no server. -/
theorem attachAll_sound {rules : Rules} {w built : World} {cs : List ComponentId}
    (h : attachAll w cs = .ok built) (sound : w.Sound rules) :
    built.Sound rules ∧ built.servers = w.servers := by
  induction cs generalizing w with
  | nil =>
    cases h
    exact ⟨sound, rfl⟩
  | cons c cs ih =>
    rw [attachAll] at h
    obtain ⟨hsound, hservers⟩ := World.attach_sound (c := c) (i := 0) sound
    split at h
    · next hattach =>
      rw [hattach] at hsound hservers
      obtain ⟨hbuilt, hsame⟩ := ih h hsound
      exact ⟨hbuilt, hsame.trans hservers⟩
    · cases h

/-- A server is built of components of different types, in the order in which they are listed. -/
theorem sound_build {network : Network} {config : ServerConfig} {parts : List Part} {built : Hub}
    (h : build network config parts = .ok built) :
    built.Sound ((withDefaults config parts).map Part.component) ∧
      (((withDefaults config parts).map Part.component).map ComponentId.type).Nodup := by
  unfold build at h
  dsimp only at h
  generalize withDefaults config parts = parts at h ⊢
  split at h
  · cases h
  · next hnone =>
    have hnodup := (duplicate?_eq_none hnone).1
    split at h
    · cases h
    · next world hattach =>
      obtain ⟨hworld, hservers⟩ := attachAll_sound hattach (sound_worldOf (rulesOf parts) parts)
      split at h
      · cases h
      · cases h
        -- neither of the two fresh servers has a component yet
        have hempty : ∀ type, Servers.component? [⟨true, ∅⟩, ⟨true, ∅⟩] 0 type = none :=
          fun _ => rfl
        refine ⟨⟨rfl, fun type c => ?_, hworld⟩, hnodup⟩
        show world.servers.component? 0 type = some c ↔ _
        rw [hservers, ← component?_foldl_place Nat.zero_lt_two hempty hnodup, List.foldl_map]
        rfl

/-- A new server has outboxes of the length in its settings, and nothing happened there yet. -/
theorem fresh_build {network : Network} {config : ServerConfig} {parts : List Part} {built : Hub}
    (h : build network config parts = .ok built) :
    built.outboxes = .initial config.queueCapacity ∧ built.journal = [] := by
  unfold build at h
  dsimp only at h
  split at h
  · cases h
  · split at h
    · cases h
    · split at h <;> cases h
      exact ⟨rfl, rfl⟩

end Hub

end Live

end ChatServer
