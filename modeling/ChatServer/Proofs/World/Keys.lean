import ChatServer.Proofs.World.ReadingBack
import ChatServer.Proofs.World.Stale

/-!
# Keys of registered channels

Whatever was done to the channels, also past the channel service, each that is registered is under
the key of its name, and since the name has a `#` so has the key. So the key could be the name of a
channel, and it finds this one.
-/

namespace ChatServer

namespace World

variable {rules : Rules} {steps : List Step} {r : ChannelRef}

/-- What is registered are channels that there are. -/
theorem get?_of_isRegistered (h : (initial.run rules steps).channels.IsRegistered r) :
    (initial.run rules steps).channels.channels.get? r =
      some ((initial.run rules steps).channels.channel r) := by
  have horderly :=
    orderly_run (w := initial) (ChannelService.orderly_initial rules.channel) steps
  exact ChannelService.get?_eq_some_iff.2 ⟨horderly.given r h, rfl⟩

/-- A registered channel has the key of its name, which has a `#`. -/
theorem name_of_isRegistered (h : (initial.run rules steps).channels.IsRegistered r) :
    isValidChannelName ((initial.run rules steps).channels.channel r).name ∧
      rules.channel.keyFor ((initial.run rules steps).channels.channel r).name = r.owner :=
  named_run (p := fun name key => isValidChannelName name ∧ rules.channel.keyFor name = key)
    (fun _ valid => ⟨valid, rfl⟩) steps r _ (get?_of_isRegistered h)

/-- Keys are names. When case counts no two names have the same key; when it does not, names have
the same key that differ in the case of ASCII letters only, whatever else they consist of. In both
cases a key is its own key, it has a `#` exactly if the name has one, and it finds what the name
finds. So after every run each key in the registry could be the name of a channel: it is the key of
itself as it is of the name that the channel was founded under, so both find the same channel, which
is the registered one as long as it is in use. -/
theorem keys_are_names (rules : Rules) (steps : List Step) :
    let config := rules.channel
    let s := (initial.run rules steps).channels
    (config.caseSensitive → Function.Injective config.keyFor) ∧
    (config.caseSensitive = false → ∀ a b : String, a.toLower = b.toLower →
      config.keyFor a = config.keyFor b) ∧
    (∀ name, config.keyFor (config.keyFor name) = config.keyFor name ∧
      ('#' ∈ (config.keyFor name).toList ↔ '#' ∈ name.toList) ∧
      s.lookup? config (config.keyFor name) = s.lookup? config name) ∧
    ∀ r, s.IsRegistered r →
      isValidChannelName r.owner ∧ config.keyFor r.owner = r.owner ∧
      config.keyFor (s.channel r).name = r.owner ∧
      s.lookup? config r.owner = s.lookup? config (s.channel r).name ∧
      ((s.channel r).enabled → s.lookup? config r.owner = some r) := by
  intro config s
  refine ⟨ChannelConfig.keyFor_injective, fun insensitive _ _ =>
    ChannelConfig.keyFor_eq_of_toLower_eq insensitive, fun name => ⟨config.keyFor_keyFor name,
      ChannelConfig.hash_mem_keyFor_iff, ChannelService.lookup?_keyFor config s name⟩, ?_⟩
  intro r hr
  obtain ⟨hvalid, hkey⟩ := name_of_isRegistered hr
  have hself : config.keyFor r.owner = r.owner := by
    rw [← hkey, config.keyFor_keyFor]
  refine ⟨?_, hself, hkey, ?_, fun enabled => ?_⟩
  · rw [← hkey, config.isValidChannelName_keyFor]
    exact hvalid
  · rw [← hkey, ChannelService.lookup?_keyFor]
  · exact ChannelService.lookup?_eq_some_iff.2 ⟨hself.symm, hr, enabled⟩

end World

end ChatServer
