import ChatServer.Config
import ChatServer.Proofs.Toml.Document
import ChatServer.Proofs.Toml.Setting

/-!
# The numbers of the settings

No number of settings that are read from a text is larger than a document can hold, and a length of
the queues is read for each number that a document can hold.
-/

namespace ChatServer

namespace ServerConfig

open Toml

/-- Every number of the settings fits into 64 bits with a sign. -/
structure Fits (config : ServerConfig) : Prop where
  idle : config.idleTimeoutSecs < integerBound
  handshake : config.handshakeTimeoutSecs < integerBound
  queue : config.outboundQueueLen < integerBound
  name : config.user.maxUsernameLength < integerBound

variable {es : Entries} {k : String} {standard n : Nat}

/-- A number that is read off an item is one of 64 bits with a sign. -/
theorem number?_lt {v : Item} (h : v.Fits) (hn : number? v = some n) : n < integerBound := by
  unfold number? at hn
  split at hn
  · next m =>
    cases h with
    | integer low high =>
      split at hn
      · obtain rfl := Option.some.inj hn
        omega
      · cases hn
  · cases hn

/-- A field that is a number, given or left to its standard, is below the bound of integers. -/
theorem fieldOr_number?_lt (h : es.Fits) (hstandard : standard < integerBound)
    (hn : fieldOr es k number? standard = some n) : n < integerBound := by
  unfold fieldOr at hn
  split at hn
  · next v hget => exact number?_lt (h.get? hget) hn
  · obtain rfl := Option.some.inj hn
    exact hstandard

theorem maxUsernameLength_lt {v : Item} (h : v.Fits) {user : UserConfig}
    (huser : user? v = some user) : user.maxUsernameLength < integerBound := by
  have hstandard : 32 < integerBound := by decide
  unfold user? settings? at huser
  -- a table gives the settings by name, an array by place
  split at huser
  · next es =>
    cases h with
    | table hes =>
      obtain ⟨len, hlen, huser⟩ := Option.bind_eq_some_iff.1 huser
      obtain ⟨pre, -, huser⟩ := Option.bind_eq_some_iff.1 huser
      obtain rfl := Option.some.inj huser
      exact fieldOr_number?_lt hes hstandard hlen
  · next items =>
    cases h with
    | array hitems =>
      obtain ⟨len, hlen, huser⟩ := Option.bind_eq_some_iff.1 huser
      obtain ⟨pre, -, huser⟩ := Option.bind_eq_some_iff.1 huser
      obtain rfl := Option.some.inj huser
      unfold placeOr at hlen
      split at hlen
      · next v hget => exact number?_lt (hitems v (List.mem_of_getElem? hget)) hlen
      · obtain rfl := Option.some.inj hlen
        exact hstandard
  · obtain rfl := Option.some.inj huser
    exact hstandard
  · cases huser

/-- Whatever a document says, the numbers of a configuration read from it fit. -/
theorem fits_ofToml {text : String} {config : ServerConfig} (h : ofToml text = .ok config) :
    config.Fits := by
  have hread : (Toml.parse text).bind ofEntries = some config := by
    unfold ofToml at h
    split at h
    · next hread =>
      obtain rfl := Except.ok.inj h
      exact hread
    · cases h
  -- the fields are read one after another, and reading succeeds only if each of them does
  obtain ⟨es, hes, hread⟩ := Option.bind_eq_some_iff.1 hread
  have hfits : es.Fits := fits_parse hes
  obtain ⟨bind, -, hread⟩ := Option.bind_eq_some_iff.1 hread
  obtain ⟨idle, hidle, hread⟩ := Option.bind_eq_some_iff.1 hread
  obtain ⟨handshake, hhandshake, hread⟩ := Option.bind_eq_some_iff.1 hread
  obtain ⟨queue, hqueue, hread⟩ := Option.bind_eq_some_iff.1 hread
  obtain ⟨filter, -, hread⟩ := Option.bind_eq_some_iff.1 hread
  obtain ⟨channel, -, hread⟩ := Option.bind_eq_some_iff.1 hread
  obtain ⟨user, huser, hread⟩ := Option.bind_eq_some_iff.1 hread
  obtain rfl := Option.some.inj hread
  refine ⟨?_, ?_, ?_, ?_⟩
  · exact fieldOr_number?_lt hfits (by decide) hidle
  · exact fieldOr_number?_lt hfits (by decide) hhandshake
  · exact fieldOr_number?_lt hfits (by decide) hqueue
  · unfold fieldOr at huser
    split at huser
    · next v hget => exact maxUsernameLength_lt (hfits.get? hget) huser
    · obtain rfl := Option.some.inj huser
      have hstandard : 32 < integerBound := by decide
      exact hstandard

/-- The text that sets just the length of the queues. -/
def queueText (n : Nat) : String := "outbound_queue_len" ++ " = " ++ toString n

/-- A document can ask for a queue of any length that an integer can tell. -/
theorem ofToml_queueText (hn : n < integerBound) :
    ofToml (queueText n) = .ok { outboundQueueLen := n } := by
  have hname : IsBare "outbound_queue_len".toList :=
    ⟨List.all_eq_true.1 (by decide), by decide⟩
  have hparse : Toml.parse (queueText n) = some [("outbound_queue_len", .integer n)] :=
    parse_number hname hn
  have hentries : ofEntries [("outbound_queue_len", .integer n)] =
      some { outboundQueueLen := n } := rfl
  rw [ofToml, hparse, Option.bind_some, hentries]

end ServerConfig

end ChatServer
