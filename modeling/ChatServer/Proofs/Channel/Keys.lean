import ChatServer.Proofs.Channel.Registry
import ChatServer.Proofs.Text.Lowercase
import Mathlib.Logic.Function.Defs

/-!
# Names and keys

A key is a name itself: it is its own key, so it finds what the names find that have it. Which names
share a key depends on the rules. When case counts every name has a key of its own, and when it does
not, all names that differ in the case of ASCII letters have the same one. `Named` is about the
channels that there ever were: a relation between the name and the key of each of them lasts if all
names that channels are founded under have it to their keys.
-/

namespace ChatServer

variable {config : ChannelConfig} {name : String}

/-- A name could be the name of a channel if it has a `#`. -/
theorem isValidChannelName_iff : isValidChannelName name ↔ '#' ∈ name.toList := by
  rw [isValidChannelName, List.contains_iff_mem]

namespace ChannelConfig

theorem keyFor_of_caseSensitive (h : config.caseSensitive) (name : String) :
    config.keyFor name = name := if_pos h

theorem keyFor_of_not_caseSensitive (h : config.caseSensitive = false) (name : String) :
    config.keyFor name = Text.lowercase name := by
  rw [keyFor, h]
  rfl

/-- When case counts no two names have the same key. -/
theorem keyFor_injective (h : config.caseSensitive) : Function.Injective config.keyFor := by
  intro a b hab
  rwa [keyFor_of_caseSensitive h, keyFor_of_caseSensitive h] at hab

/-- When case does not count, the case of ASCII letters is not seen. -/
theorem keyFor_eq_of_toLower_eq (h : config.caseSensitive = false) {a b : String}
    (alike : a.toLower = b.toLower) : config.keyFor a = config.keyFor b := by
  rw [keyFor_of_not_caseSensitive h, keyFor_of_not_caseSensitive h, ← Text.lowercase_toLower a,
    alike, Text.lowercase_toLower]

/-- A key is its own key. -/
@[simp]
theorem keyFor_keyFor (config : ChannelConfig) (name : String) :
    config.keyFor (config.keyFor name) = config.keyFor name := by
  cases h : config.caseSensitive with
  | true => rw [keyFor_of_caseSensitive h]
  | false => simp only [keyFor_of_not_caseSensitive h, Text.lowercase_lowercase]

/-- A key has a `#` exactly if the name has one. -/
theorem hash_mem_keyFor_iff : '#' ∈ (config.keyFor name).toList ↔ '#' ∈ name.toList := by
  cases h : config.caseSensitive with
  | true => rw [keyFor_of_caseSensitive h]
  | false => rw [keyFor_of_not_caseSensitive h, Text.hash_mem_lowercase_iff]

/-- The key of a name could be the name of a channel if the name could be. -/
theorem isValidChannelName_keyFor (config : ChannelConfig) (name : String) :
    isValidChannelName (config.keyFor name) = isValidChannelName name := by
  rw [Bool.eq_iff_iff, isValidChannelName_iff, isValidChannelName_iff, hash_mem_keyFor_iff]

end ChannelConfig

namespace ChannelService

variable {d : UserDirectory} {s s' : ChannelService} {r : ChannelRef}
  {p : String → String → Prop}

/-- A key finds what a name finds that has it. -/
@[simp]
theorem lookup?_keyFor (config : ChannelConfig) (s : ChannelService) (name : String) :
    s.lookup? config (config.keyFor name) = s.lookup? config name := by
  rw [lookup?, config.keyFor_keyFor, lookup?]

/-! ## The channels that there ever were -/

/-- The name of every channel that there ever was is related to the key that it got. -/
def Named (p : String → String → Prop) (s : ChannelService) : Prop :=
  ∀ r c, s.channels.get? r = some c → p c.name r.owner

theorem named_initial (p : String → String → Prop) : Named p initial := fun _ _ h => nomatch h

/-- A channel keeps its name whatever is done to it. -/
theorem Named.update (h : Named p s) {c : Channel} (name : c.name = (s.channel r).name) :
    Named p (s.update r c) := by
  intro q c' hc'
  rw [ChannelService.update, Archive.get?_update] at hc'
  split at hc'
  · next heq =>
    obtain ⟨before, hbefore, rfl⟩ := Option.map_eq_some_iff.1 hc'
    rw [name, ← heq, channel, hbefore]
    exact h q before hbefore
  · exact h q c' hc'

/-- A channel is founded under the key of its name. -/
theorem Named.founded (h : Named p s) (related : p name (config.keyFor name))
    (creator : UserRef) : Named p (s.register (.create name (config.keyFor name) creator)) := by
  intro q c hc
  rw [register, Archive.get?_add] at hc
  split at hc
  · next heq =>
    cases hc
    rw [heq]
    exact related
  · exact h q c hc

/-- A channel keeps its name and key when a member leaves. -/
theorem Named.parted (h : Named p s) (r : ChannelRef) (client : ClientId) :
    Named p (s.part r client) := by
  have hupdate : Named p (s.update r ((s.channel r).withoutMember client)) := h.update rfl
  unfold part
  dsimp only
  split
  · intro q c hc
    rw [channels_release] at hc
    exact hupdate q c hc
  · exact hupdate

/-- Channels keep their names and keys when all are closed. -/
theorem Named.cleared (h : Named p s) : Named p s.clear := by
  have hforget : Named p { s with registry := ∅ } := h
  unfold clear
  generalize { s with registry := (∅ : Table String Nat) } = s' at hforget
  induction s.registry.entries generalizing s' with
  | nil => exact hforget
  | cons e entries ih => exact ih _ (hforget.update rfl)

variable (founds : ∀ name, isValidChannelName name → p name (config.keyFor name))

include founds in
/-- Whatever changes, channels are related to their keys as they were when they were founded. -/
theorem Named.change (h : Named p s) (hc : Change config d s s') : Named p s' := by
  cases hc with
  | @founded r name current identified valid free => exact h.founded (founds name valid) r
  | entered current identified registered absent => exact h.update rfl
  | @parted channel client registered => exact h.parted channel client
  | cleared => exact h.cleared
  | refitted binding observers => exact h

include founds in
theorem Named.changes (h : Named p s) (hc : Changes config d s s') : Named p s' := by
  induction hc with
  | refl => exact h
  | tail _ hc ih => exact ih.change founds hc

theorem Named.enlist (h : Named p s) (users : UserRef → User) (r : ChannelRef) (q : UserRef)
    (audience : Audience) : Named p (s.enlist users r q audience).1 := by
  have hadd := Channel.addition users (s.channel r) q audience
  unfold ChannelService.enlist
  dsimp only
  generalize (s.channel r).add users q audience = result at hadd
  cases hadd with
  | disabled closed => exact h.update rfl
  | alreadyMember enabled member => exact h.update rfl
  | added enabled absent => exact h.update rfl

theorem Named.dismiss (h : Named p s) (users : UserRef → User) (r : ChannelRef)
    (client : ClientId) (audience : Audience) :
    Named p (s.dismiss users r client audience).1 := by
  have hremove := Channel.removal users (s.channel r) client audience
  unfold ChannelService.dismiss
  dsimp only
  generalize (s.channel r).remove users client audience = result at hremove
  cases hremove with
  | disabled closed => exact h.update rfl
  | notMember enabled absent => exact h.update rfl
  | removed enabled member => exact h.update rfl

end ChannelService

end ChatServer
