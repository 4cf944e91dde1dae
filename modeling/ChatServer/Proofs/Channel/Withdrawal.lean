import ChatServer.Proofs.Channel.Closing
import ChatServer.Proofs.Channel.Guests

/-!
# The channels of a client that is gone

Every channel in use is registered and no closed one has members, so to take a client off all
registered channels is to take it off all channels that there are. It does not matter where the
service is bound to, except that nobody is told without a server.
-/

namespace ChatServer

namespace Channel

/-- The record that a channel has of a member. -/
def recordOf (users : UserRef → User) (c : Channel) (client : ClientId) : User :=
  users ⟨client, (c.members.get? client).getD 0⟩

end Channel

namespace ChannelService

variable {users : UserRef → User} {s : ChannelService} {client : ClientId} {r : ChannelRef}

/-- The registered channels that a client is a member of, in the order of the registry. -/
def heldBy (s : ChannelService) (client : ClientId) : List ChannelRef :=
  s.refs.filter fun r => (s.channel r).isMember client

theorem nodup_heldBy (s : ChannelService) (client : ClientId) : (s.heldBy client).Nodup :=
  s.nodup_refs.filter _

/-- Only the channels of the client matter. -/
theorem flatMap_heldBy {α : Type} {f : ChannelRef → List α}
    (h : ∀ r, (s.channel r).isMember client = false → f r = []) :
    (s.heldBy client).flatMap f = s.refs.flatMap f :=
  flatMap_filter fun r _ => h r

/-- A channel that a client is not in tells nothing of its departure. -/
theorem departure_of_not_isMember {bound : Bool} (h : (s.channel r).isMember client = false) :
    departure bound users client s r = .none := by
  rw [departure, Table.contains_eq_false_iff.1 h]

/-- A channel in use that holds the client tells the others, and has one event. -/
theorem departure_of_holds {bound : Bool} (h : (s.channel r).Holds client) :
    departure bound users client s r =
      { messages :=
          if bound then
            announceLeave r (Roster.recipients users (s.channel r).members (some client))
              ((s.channel r).recordOf users client)
          else []
        events :=
          [.left (((s.channel r).withoutMember client).info users)
            ((s.channel r).recordOf users client)] } := by
  obtain ⟨henabled, n, hn⟩ := Channel.holds_iff.1 h
  rw [departure, Channel.recordOf, hn]
  exact if_pos henabled

/-! ## The server that a service is bound to -/

/-- To release a channel does not depend on what the service is bound to. -/
theorem release_rebind (s : ChannelService) (binding : Binding) (r : ChannelRef) :
    ({ s with binding } : ChannelService).release r = { s.release r with binding } := by
  dsimp only [release]
  split <;> rfl

/-- To leave a channel does not depend on what the service is bound to. -/
theorem part_rebind (s : ChannelService) (binding : Binding) (r : ChannelRef)
    (client : ClientId) :
    ({ s with binding } : ChannelService).part r client = { s.part r client with binding } := by
  unfold part
  dsimp only
  rw [show ({ s with binding } : ChannelService).channel r = s.channel r from rfl]
  split
  · exact release_rebind (s.update r _) binding r
  · rfl

/-- To retire from channels does not depend on what the service is bound to. -/
theorem retire_rebind (s : ChannelService) (binding : Binding) (client : ClientId)
    (refs : List ChannelRef) :
    ({ s with binding } : ChannelService).retire client refs =
      { s.retire client refs with binding } := by
  induction refs generalizing s with
  | nil => rfl
  | cons r refs ih =>
    have hfirst : ({ s with binding } : ChannelService).retireFrom client r =
        { s.retireFrom client r with binding } := by
      unfold retireFrom
      rw [show ({ s with binding } : ChannelService).channel r = s.channel r from rfl]
      split
      · exact part_rebind s binding r client
      · rfl
    show (retireFrom client { s with binding } r).retire client refs = _
    rw [hfirst]
    exact ih (s.retireFrom client r)

/-- Observers are told the same whether a server is bound or not. -/
theorem events_departure (bound bound' : Bool) :
    (departure bound users client s r).events = (departure bound' users client s r).events := by
  unfold departure
  split
  · rfl
  · split <;> rfl

/-- What a disconnect does and what observers are told of it does not depend on the binding. -/
theorem disconnect_rebind (servers servers' : Servers) (users : UserRef → User)
    (s : ChannelService) (binding : Binding) (client : ClientId) :
    let away : ChannelService := { s with binding }
    (away.disconnect servers' users client).1 =
        { (s.disconnect servers users client).1 with binding } ∧
      (away.disconnect servers' users client).2.events =
        (s.disconnect servers users client).2.events := by
  intro away
  rw [disconnect_eq, disconnect_eq]
  exact ⟨retire_rebind s binding client s.refs,
    List.flatMap_congr fun r _ => events_departure _ _⟩

/-! ## Tidy services -/

theorem Sound.tidy {config : ChannelConfig} (h : Sound config users s) : s.Tidy :=
  ⟨h.registered, h.vacant, fun _ _ n hn => ⟨n, h.member_of_operator hn⟩⟩

variable (h : s.Tidy)
include h

/-- Who is a member is so of a channel in use. -/
theorem Tidy.holds (member : (s.channel r).isMember client) : (s.channel r).Holds client := by
  obtain ⟨n, hn⟩ := Table.contains_iff.1 member
  refine ⟨?_, member⟩
  cases hopen : (s.channel r).enabled with
  | true => rfl
  | false =>
    rw [(h.vacant r hopen).members client] at hn
    cases hn

/-- In a tidy service a client is held by the channels that it is a member of. -/
theorem Tidy.mem_heldBy_iff : r ∈ s.heldBy client ↔ (s.channel r).isMember client := by
  rw [heldBy, List.mem_filter, mem_refs_iff]
  exact and_iff_right_of_imp fun hmember => h.registered r (h.holds hmember).1

/-- Who retires from all channels leaves those that it is a member of. -/
theorem Tidy.channel_retire (r : ChannelRef) :
    (s.retire client s.refs).channel r =
      if (s.channel r).isMember client then (s.channel r).withoutMember client
      else s.channel r := by
  have hiff : r ∈ s.refs ∧ (s.channel r).Holds client ↔ (s.channel r).isMember client := by
    rw [mem_refs_iff]
    exact ⟨fun hr => hr.2.2, fun hmember =>
      ⟨h.registered r (h.holds hmember).1, h.holds hmember⟩⟩
  rw [ChannelService.channel_retire s.nodup_refs]
  simp only [hiff]

/-- Of the channels left so, those stay registered that have somebody else in them. -/
theorem Tidy.isRegistered_retire :
    (s.retire client s.refs).IsRegistered r ↔
      s.IsRegistered r ∧ ((s.channel r).isMember client → (s.channel r).HasOther client) := by
  rw [ChannelService.isRegistered_retire s.nodup_refs, Channel.isEmpty_withoutMember_iff]
  refine and_congr_right fun hregistered => ?_
  exact ⟨fun hstays hmember => hstays (mem_refs_iff.2 hregistered) (h.holds hmember),
    fun hstays _ hholds => hstays hholds.2⟩

/-- A client that is gone is on no roster at all. -/
theorem Tidy.lacks_retire (client : ClientId) (r : ChannelRef) :
    ((s.retire client s.refs).channel r).Lacks client := by
  rw [h.channel_retire]
  split
  · exact ⟨(Channel.get?_withoutMember _ _ _).trans (if_pos rfl),
      (Table.get?_erase _ _ _).trans (if_pos rfl)⟩
  · next hnot =>
    have habsent := Table.contains_eq_false_iff.1 (Bool.eq_false_of_not_eq_true hnot)
    refine ⟨habsent, Option.eq_none_iff_forall_ne_some.2 fun n hn => ?_⟩
    -- who is an operator is a member
    obtain ⟨m, hm⟩ := h.belong r client n hn
    rw [habsent] at hm
    cases hm

/-- The other members of the channels of a client that is gone are told, if a server is bound. -/
theorem Tidy.messages_disconnect (servers : Servers) (users : UserRef → User)
    (client : ClientId) :
    (s.disconnect servers users client).2.messages =
      if (s.binding.get? servers).isSome then
        (s.heldBy client).flatMap fun r =>
          announceLeave r (Roster.recipients users (s.channel r).members (some client))
            ((s.channel r).recordOf users client)
      else [] := by
  have hnone : ∀ bound r, (s.channel r).isMember client = false →
      (departure bound users client s r).messages = [] := fun bound r hr => by
    rw [departure_of_not_isMember hr]
    rfl
  rw [disconnect_eq]
  dsimp only
  rw [← flatMap_heldBy (hnone _)]
  cases (s.binding.get? servers).isSome with
  | true =>
    exact List.flatMap_congr fun r hr =>
      congrArg Effects.messages (departure_of_holds (h.holds (h.mem_heldBy_iff.1 hr)))
  | false =>
    exact List.flatMap_eq_nil_iff.2 fun r hr =>
      congrArg Effects.messages (departure_of_holds (h.holds (h.mem_heldBy_iff.1 hr)))

/-- Observers are told once of each channel of a client that is gone. -/
theorem Tidy.events_disconnect (servers : Servers) (users : UserRef → User)
    (client : ClientId) :
    (s.disconnect servers users client).2.events =
      (s.heldBy client).map fun r =>
        .left (((s.channel r).withoutMember client).info users)
          ((s.channel r).recordOf users client) := by
  have hnone : ∀ bound r, (s.channel r).isMember client = false →
      (departure bound users client s r).events = [] := fun bound r hr => by
    rw [departure_of_not_isMember hr]
    rfl
  rw [disconnect_eq]
  dsimp only
  rw [← flatMap_heldBy (hnone _), List.map_eq_flatMap]
  exact List.flatMap_congr fun r hr =>
    congrArg Effects.events (departure_of_holds (h.holds (h.mem_heldBy_iff.1 hr)))

end ChannelService

end ChatServer
