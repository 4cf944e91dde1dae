import ChatServer.Proofs.Wire.Queue
import ChatServer.Proofs.Wire.Reading
import Mathlib.Data.List.Forall2

/-!
# Snapshots on the wire

Whatever a payload holds already and whatever is written to it later, a reader who has come to the
place where a snapshot was written reads its rosters from there, entry by entry, and stops where
they end. Only texts that are too long are not as they were. So a snapshot that fits on the wire can
be told from every other one by its bytes.
-/

namespace ChatServer

/-- An entry as it is when it is read: of a text that is too long, what fits. -/
def RosterEntry.trimmed (e : RosterEntry) : RosterEntry :=
  ⟨Utf8.cut maxStringLength e.username, Utf8.cut maxStringLength e.hostname⟩

/-- Both texts of an entry are cut to their longest beginnings that fit on the wire. -/
structure RosterEntry.IsCutTo (e e' : RosterEntry) : Prop where
  username : Utf8.IsLongestBeginning maxStringLength e.username e'.username
  hostname : Utf8.IsLongestBeginning maxStringLength e.hostname e'.hostname

namespace RosterEntry

/-- What is left of an entry is its strings as they are cut. -/
theorem isCutTo_trimmed (e : RosterEntry) : e.IsCutTo e.trimmed where
  username := Utf8.isLongestBeginning_cut maxStringLength e.username
  hostname := Utf8.isLongestBeginning_cut maxStringLength e.hostname

/-- What is left of an entry fits. -/
theorem entryFits_trimmed (e : RosterEntry) : Reader.EntryFits e.trimmed :=
  ⟨e.isCutTo_trimmed.username.length_le, e.isCutTo_trimmed.hostname.length_le⟩

/-- An entry that fits is not cut. -/
theorem trimmed_eq_self {e : RosterEntry} (h : Reader.EntryFits e) : e.trimmed = e := by
  have husername := e.isCutTo_trimmed.username.eq_of_le h.1
  have hhostname := e.isCutTo_trimmed.hostname.eq_of_le h.2
  obtain ⟨username, hostname⟩ := e
  simp only [trimmed] at husername hhostname ⊢
  rw [husername, hhostname]

end RosterEntry

namespace Snapshot

/-- A snapshot as it is when it is read. -/
def trimmed (s : Snapshot) : Snapshot :=
  ⟨s.operators.map RosterEntry.trimmed, s.members.map RosterEntry.trimmed⟩

/-- The bytes of a snapshot. -/
def encode (s : Snapshot) : List UInt8 :=
  (rosterValues s.operators).flatMap Value.encode ++ (rosterValues s.members).flatMap Value.encode

/-- A snapshot is written behind what is there. -/
theorem bytes_writeTo (s : Snapshot) (p : Payload) : (s.writeTo p).bytes = p.bytes ++ s.encode := by
  rw [writeTo, Payload.writeAll_eq, Payload.bytes, List.flatMap_append, ← List.append_assoc]
  rfl

theorem rosterValues_trimmed (es : List RosterEntry) :
    rosterValues (es.map RosterEntry.trimmed) = (rosterValues es).map Value.trimmed := by
  simp only [rosterValues, List.map_cons, List.length_map, List.flatMap_map, List.map_flatMap,
    List.map_nil]
  rfl

/-- A snapshot is written as what is left of it. -/
theorem encode_trimmed (s : Snapshot) : s.trimmed.encode = s.encode := by
  simp only [encode, trimmed, rosterValues_trimmed, Value.flatMap_encode_trimmed]

/-- A snapshot whose entries fit is not cut. -/
theorem trimmed_eq_self {s : Snapshot} (h : ∀ e ∈ s.operators ++ s.members, Reader.EntryFits e) :
    s.trimmed = s := by
  obtain ⟨operators, members⟩ := s
  obtain ⟨hoperators, hmembers⟩ := List.forall_mem_append.1 h
  have hmap : ∀ es : List RosterEntry, (∀ e ∈ es, Reader.EntryFits e) →
      es.map RosterEntry.trimmed = es := by
    intro es hes
    exact (List.map_congr_left fun e he => RosterEntry.trimmed_eq_self (hes e he)).trans
      (List.map_id es)
  rw [trimmed, hmap operators hoperators, hmap members hmembers]

/-- What is read from the bytes of a snapshot, with nothing left over or missing. -/
theorem takes_rosters (s : Snapshot) (operators : s.operators.length < 4294967296)
    (members : s.members.length < 4294967296) : Reader.Takes Reader.rosters s.trimmed s.encode := by
  have hfits : Reader.SnapshotFits s.trimmed := by
    refine ⟨?_, ?_, ?_⟩
    · simp only [trimmed, List.length_map]
      exact Nat.le_of_lt_succ operators
    · simp only [trimmed, List.length_map]
      exact Nat.le_of_lt_succ members
    · intro e he
      simp only [trimmed, ← List.map_append] at he
      obtain ⟨e', -, rfl⟩ := List.mem_map.1 he
      exact e'.entryFits_trimmed
  rw [← s.encode_trimmed]
  exact Reader.takes_rosters hfits

/-- Behind what a payload held before, the rosters are read up to what was written later. -/
theorem rosters_of_bytes (s : Snapshot) (operators : s.operators.length < 4294967296)
    (members : s.members.length < 4294967296) {p r : Payload} {later : List UInt8}
    (bytes : r.bytes = (s.writeTo p).bytes ++ later) (cursor : r.cursor = p.length) :
    Reader.rosters r = .ok (s.trimmed, ⟨(s.writeTo p).bytes, later⟩) := by
  rw [bytes_writeTo, List.append_assoc] at bytes
  have hlength : r.consumed.length = p.bytes.length := by
    rw [Payload.bytes, List.length_append]
    exact cursor
  obtain ⟨hconsumed, hunread⟩ := List.append_inj bytes hlength
  rw [s.takes_rosters operators members r later hunread, hconsumed, bytes_writeTo]

/-- A snapshot whose bytes stand at the same place is the same, if both fit on the wire. -/
theorem eq_of_bytes_eq {s s' : Snapshot} (fits : Reader.SnapshotFits s)
    (fits' : Reader.SnapshotFits s') {p : Payload} {later later' : List UInt8}
    (same : (s.writeTo p).bytes ++ later = (s'.writeTo p).bytes ++ later') : s = s' := by
  let r : Payload := ⟨p.bytes, s.encode ++ later⟩
  have hbytes : r.bytes = (s.writeTo p).bytes ++ later := by
    rw [bytes_writeTo, List.append_assoc]
    rfl
  have hcursor : r.cursor = p.length := List.length_append
  have hread := rosters_of_bytes s (Nat.lt_succ_of_le fits.operators)
    (Nat.lt_succ_of_le fits.members) hbytes hcursor
  have hread' := rosters_of_bytes s' (Nat.lt_succ_of_le fits'.operators)
    (Nat.lt_succ_of_le fits'.members) (hbytes.trans same) hcursor
  rw [hread] at hread'
  have htrimmed : s.trimmed = s'.trimmed := congrArg Prod.fst (Except.ok.inj hread')
  rwa [trimmed_eq_self fits.entries, trimmed_eq_self fits'.entries] at htrimmed

/-- Wherever a snapshot is written, with fewer than 2^32 entries in each roster, and whatever is
written to the payload later: from behind what was there before, its rosters are read in order, and
the read position is then in front of what was written later. Each text that is read is the longest
beginning of the one that was written that fits on the wire, which is all of it if that fits.
Another snapshot that fits on the wire has other bytes. -/
theorem snapshot_reads_back (s : Snapshot) (operators : s.operators.length < 4294967296)
    (members : s.members.length < 4294967296) :
    (∀ (p r : Payload) (later : List UInt8), r.bytes = (s.writeTo p).bytes ++ later →
      r.cursor = p.length →
      Reader.rosters r = .ok (s.trimmed, ⟨(s.writeTo p).bytes, later⟩)) ∧
    List.Forall₂ RosterEntry.IsCutTo s.operators s.trimmed.operators ∧
    List.Forall₂ RosterEntry.IsCutTo s.members s.trimmed.members ∧
    ((∀ e ∈ s.operators ++ s.members, Reader.EntryFits e) → s.trimmed = s ∧
      ∀ (s' : Snapshot) (p : Payload) (later later' : List UInt8), Reader.SnapshotFits s' →
        (s.writeTo p).bytes ++ later = (s'.writeTo p).bytes ++ later' →
        s = s' ∧ later = later') := by
  have hcut : ∀ es : List RosterEntry,
      List.Forall₂ RosterEntry.IsCutTo es (es.map RosterEntry.trimmed) := by
    intro es
    rw [List.forall₂_map_right_iff, List.forall₂_same]
    exact fun e _ => e.isCutTo_trimmed
  refine ⟨fun p r later => s.rosters_of_bytes operators members, hcut s.operators, hcut s.members,
    fun entries => ⟨trimmed_eq_self entries, ?_⟩⟩
  intro s' p later later' fits' same
  have hfits : Reader.SnapshotFits s :=
    ⟨Nat.le_of_lt_succ operators, Nat.le_of_lt_succ members, entries⟩
  obtain rfl := eq_of_bytes_eq hfits fits' same
  exact ⟨rfl, List.append_cancel_left same⟩

/-- Behind a result stand the rosters of a channel with an operator and one more member, and behind
them a flag that was written later. -/
theorem snapshot_reads_back_behind_result :
    let s : Snapshot := ⟨[⟨"Ann", "::1"⟩], [⟨"Ann", "::1"⟩, ⟨"Zoë", "host"⟩]⟩
    let p := Payload.ofValues [⟨.u16, 0⟩]
    let q := (s.writeTo p).write .bool true
    let r : Payload := (q.access (.read .u16)).1
    s.operators.length < 4294967296 ∧ s.members.length < 4294967296 ∧
      r.bytes = (s.writeTo p).bytes ++ [5, 1] ∧ r.cursor = p.length ∧
      Reader.rosters r = .ok (s, ⟨(s.writeTo p).bytes, [5, 1]⟩) := by
  intro s p q r
  have hoperators : s.operators.length < 4294967296 := by decide
  have hmembers : s.members.length < 4294967296 := by decide
  have hbytes : r.bytes = (s.writeTo p).bytes ++ [5, 1] := by decide +kernel
  have hcursor : r.cursor = p.length := by decide +kernel
  have hfits : ∀ e ∈ s.operators ++ s.members, Reader.EntryFits e := by decide +kernel
  obtain ⟨hread, -, -, hself⟩ := snapshot_reads_back s hoperators hmembers
  have hrosters := hread p r [5, 1] hbytes hcursor
  rw [(hself hfits).1] at hrosters
  exact ⟨hoperators, hmembers, hbytes, hcursor, hrosters⟩

end Snapshot

end ChatServer
