import ChatServer.Archive
import Mathlib.Data.List.Nodup

/-!
# Tables and archives as wholes

Facts about tables that are not about a single key: when a table is empty, how large it is, when a
change leaves it as it was, and when two tables differ only in the order in which they list their
entries.
-/

namespace ChatServer

namespace Table

variable {κ α : Type} [DecidableEq κ]

theorem contains_iff {t : Table κ α} {k : κ} : t.contains k ↔ ∃ a, t.get? k = some a := by
  rw [contains, Option.isSome_iff_exists]

theorem contains_eq_false_iff {t : Table κ α} {k : κ} : t.contains k = false ↔ t.get? k = none := by
  simp [contains]

theorem isEmpty_iff {t : Table κ α} : t.isEmpty ↔ ∀ k, t.get? k = none := by
  rw [isEmpty, List.isEmpty_iff, List.eq_nil_iff_forall_not_mem]
  constructor
  · intro h k
    refine Option.eq_none_iff_forall_ne_some.2 fun a ha => ?_
    exact h (k, a) (get?_eq_some_iff.1 ha)
  · intro h e he
    have hk := h e.1
    rw [get?_eq_some_iff.2 he] at hk
    cases hk

omit [DecidableEq κ] in
/-- A table is its list of entries. -/
theorem eq_of_entries {t t' : Table κ α} (h : t.entries = t'.entries) : t = t' := by
  rcases t with ⟨entries, nodup⟩
  subst h
  rfl

theorem eq_empty {t : Table κ α} (h : ∀ k, t.get? k = none) : t = ∅ :=
  eq_of_entries (List.isEmpty_iff.1 (isEmpty_iff.2 h))

theorem isEmpty_eq_false_iff {t : Table κ α} :
    t.isEmpty = false ↔ ∃ k a, t.get? k = some a := by
  rw [← Bool.not_eq_true, isEmpty_iff]
  simp [Option.eq_none_iff_forall_ne_some]

omit [DecidableEq κ] in
theorem size_eq_zero_iff {t : Table κ α} : t.size = 0 ↔ t.isEmpty :=
  List.length_eq_zero_iff.trans List.isEmpty_iff.symm

/-- A table does not grow when a key is erased. -/
theorem size_erase_le (t : Table κ α) (k : κ) : (t.erase k).size ≤ t.size := by
  simp only [size, erase, filter]
  exact List.length_filter_le _ _

/-- A table with at most one entry has at most one key. -/
theorem eq_of_size_le_one {t : Table κ α} {j k : κ} (h : t.size ≤ 1) (hj : t.contains j)
    (hk : t.contains k) : j = k := by
  obtain ⟨a, ha⟩ := contains_iff.1 hj
  obtain ⟨b, hb⟩ := contains_iff.1 hk
  rw [get?_eq_some_iff] at ha hb
  obtain ⟨e, he⟩ := List.length_eq_one_iff.1 (Nat.le_antisymm h (List.length_pos_of_mem ha))
  rw [he, List.mem_singleton] at ha hb
  exact congrArg Prod.fst (ha.trans hb.symm)

/-- To put in place what is there changes nothing. -/
theorem modify_eq_self {t : Table κ α} {k : κ} {f : α → α}
    (h : ∀ a, t.get? k = some a → f a = a) : t.modify k f = t := by
  rcases t with ⟨entries, nodup⟩
  simp only [modify, mapValues, Table.mk.injEq]
  refine (List.map_congr_left fun e he => ?_).trans (List.map_id _)
  split
  · next hk =>
    rw [h e.2 (get?_eq_some_iff.2 (hk ▸ he))]
    rfl
  · rfl

/-- At most one pair of a table has a key. -/
theorem filter_entries (t : Table κ α) (k : κ) :
    (t.entries.filter fun e => e.1 = k) = (t.get? k).toList.map fun a => (k, a) := by
  rcases t with ⟨entries, nodup⟩
  simp only [get?]
  induction entries with
  | nil => rfl
  | cons e rest ih =>
    rw [List.map_cons, List.nodup_cons] at nodup
    obtain ⟨j, a⟩ := e
    by_cases h : j = k
    · subst h
      -- no key occurs twice
      have hrest : rest.filter (fun e => e.1 = j) = [] := by
        refine List.filter_eq_nil_iff.2 fun e he hj => nodup.1 ?_
        exact List.mem_map.2 ⟨e, he, of_decide_eq_true hj⟩
      simp [hrest]
    · simpa [h] using ih nodup.2

/-! ## Changed values -/

section mapValues

variable {β : Type}

omit [DecidableEq κ] in
theorem size_mapValues (t : Table κ α) (f : κ → α → β) : (t.mapValues f).size = t.size :=
  List.length_map _

omit [DecidableEq κ] in
/-- Other values have the same keys. -/
theorem keys_mapValues (t : Table κ α) (f : κ → α → β) : (t.mapValues f).keys = t.keys := by
  rw [keys, keys, mapValues, List.map_map]
  rfl

/-- Of two values under one key the later one counts. -/
theorem insert_insert (t : Table κ α) (k : κ) (a b : α) :
    (t.insert k a).insert k b = t.insert k b := by
  have hmem : k ∈ (t.insert k a).keys :=
    mem_keys_iff.2 ⟨a, (get?_insert ..).trans (if_pos rfl)⟩
  have hentries : ((t.insert k a).modify k fun _ => b).entries = (t.insert k b).entries := by
    unfold insert
    split
    · simp only [modify, mapValues, List.map_map]
      refine List.map_congr_left fun e _ => ?_
      dsimp only [Function.comp_apply]
      split <;> rfl
    · next hnew =>
      -- the key stands at the end only
      have hold : ∀ e ∈ t.entries, ¬e.1 = k := fun e he hk => hnew (List.mem_map.2 ⟨e, he, hk⟩)
      simp only [modify, mapValues, List.map_append, List.map_cons, List.map_nil, if_pos]
      congr 1
      refine (List.map_congr_left fun e he => ?_).trans (List.map_id _)
      exact congrArg (Prod.mk e.1) (if_neg (hold e he))
  rw [insert, dif_pos hmem]
  exact eq_of_entries hentries

theorem mapValues_erase (t : Table κ α) (f : κ → α → β) (k : κ) :
    (t.erase k).mapValues f = (t.mapValues f).erase k := by
  simp only [erase, filter, mapValues, List.filter_map]
  rfl

/-- A value put into a changed table is one that was put in before and changed with the others. -/
theorem mapValues_insert (t : Table κ α) (f : κ → α → β) (k : κ) (a : α) :
    (t.insert k a).mapValues f = (t.mapValues f).insert k (f k a) := by
  have hkeys : k ∈ (t.mapValues f).keys ↔ k ∈ t.keys := by rw [keys_mapValues]
  by_cases h : k ∈ t.keys
  · rw [insert, insert, dif_pos h, dif_pos (hkeys.2 h)]
    simp only [modify, mapValues, List.map_map, Table.mk.injEq]
    refine List.map_congr_left fun e _ => ?_
    by_cases he : e.1 = k <;> simp [he]
  · rw [insert, insert, dif_neg h, dif_neg (mt hkeys.1 h)]
    simp [mapValues]

end mapValues

/-! ## Tables that list the same entries -/

/-- Two tables list the same entries, in whatever order. -/
def Relists (t t' : Table κ α) : Prop := t.entries.Perm t'.entries

/-- Tables list the same entries exactly if they have the same value under every key. -/
theorem relists_iff {t t' : Table κ α} : t.Relists t' ↔ ∀ k, t'.get? k = t.get? k := by
  rw [Relists, List.perm_ext_iff_of_nodup (t.nodup.of_map _) (t'.nodup.of_map _)]
  constructor
  · intro h k
    ext a
    rw [get?_eq_some_iff, get?_eq_some_iff, h]
  · intro h e
    rw [← get?_eq_some_iff, ← get?_eq_some_iff, h]

namespace Relists

variable {t t' : Table κ α}

omit [DecidableEq κ] in
theorem refl (t : Table κ α) : t.Relists t := List.Perm.refl _

theorem get?_eq (h : t.Relists t') (k : κ) : t'.get? k = t.get? k := relists_iff.1 h k

theorem contains_eq (h : t.Relists t') (k : κ) : t'.contains k = t.contains k := by
  rw [contains, contains, h.get?_eq]

omit [DecidableEq κ] in
theorem size_eq (h : t.Relists t') : t'.size = t.size := h.length_eq.symm

omit [DecidableEq κ] in
theorem isEmpty_eq (h : t.Relists t') : t'.isEmpty = t.isEmpty := (List.Perm.isEmpty_eq h).symm

theorem insert (h : t.Relists t') (k : κ) (a : α) : (t.insert k a).Relists (t'.insert k a) := by
  refine relists_iff.2 fun j => ?_
  rw [get?_insert, get?_insert, h.get?_eq]

theorem erase (h : t.Relists t') (k : κ) : (t.erase k).Relists (t'.erase k) := by
  refine relists_iff.2 fun j => ?_
  rw [get?_erase, get?_erase, h.get?_eq]

end Relists

/-- The table with its listing turned round. -/
def reverse (t : Table κ α) : Table κ α where
  entries := t.entries.reverse
  nodup := by
    rw [List.map_reverse, List.nodup_reverse]
    exact t.nodup

omit [DecidableEq κ] in
/-- The entries of a table can be listed backwards. -/
theorem relists_reverse (t : Table κ α) : t.Relists t.reverse := (List.reverse_perm _).symm

end Table

namespace Archive

variable {κ α : Type} [DecidableEq κ]

/-- A change of a record that leaves this record as it was leaves all as it was. -/
theorem update_eq_self {a : Archive κ α} {r : Ref κ} {f : α → α}
    (h : ∀ x, a.get? r = some x → f x = x) : a.update r f = a := by
  have hrecords : (a.records.modify r.owner fun xs => xs.modify r.number f) = a.records := by
    refine Table.modify_eq_self fun xs hxs => ?_
    refine List.ext_getElem? fun i => ?_
    rw [List.getElem?_modify]
    split
    · next hi =>
      have hx : a.get? r = xs[i]? := by rw [get?, history, hxs, hi]; rfl
      cases hxi : xs[i]? with
      | none => rfl
      | some x => rw [Option.map_eq_map, Option.map_some, h x (hx.trans hxi)]
    · simp
  rw [update, hrecords]

/-- All records ever made. -/
def all (a : Archive κ α) : List α := a.records.values.flatten

/-- All records with their names. -/
def listing (a : Archive κ α) : List (Ref κ × α) :=
  a.records.entries.flatMap fun e => e.2.zipIdx.map fun x => (⟨e.1, x.2⟩, x.1)

omit [DecidableEq κ] in
/-- A listing has all records of an archive, in order. -/
theorem map_snd_listing (a : Archive κ α) : a.listing.map Prod.snd = a.all := by
  rw [listing, all, Table.values, List.map_flatMap, ← List.flatMap_def]
  refine List.flatMap_congr fun e _ => ?_
  rw [List.map_map]
  exact List.zipIdx_map_fst 0 e.2

/-- A listing has each record with the name it is found by. -/
theorem mem_listing_iff {a : Archive κ α} {r : Ref κ} {x : α} :
    (r, x) ∈ a.listing ↔ a.get? r = some x := by
  rcases r with ⟨k, n⟩
  simp only [listing, List.mem_flatMap, List.mem_map, Prod.exists, List.mem_zipIdx_iff_getElem?,
    Prod.mk.injEq, Ref.mk.injEq, get?, history]
  constructor
  · intro h
    rcases h with ⟨j, xs, he, y, i, hy, ⟨hj, hi⟩, hx⟩
    subst hj hi hx
    rw [Table.get?_eq_some_iff.2 he]
    exact hy
  · intro h
    cases hxs : a.records.get? k with
    | none => simp [hxs] at h
    | some xs =>
      rw [hxs] at h
      exact ⟨k, xs, Table.get?_eq_some_iff.1 hxs, x, n, h, ⟨rfl, rfl⟩, rfl⟩

omit [DecidableEq κ] in
/-- No name is listed twice. -/
theorem nodup_map_fst_listing (a : Archive κ α) : (a.listing.map Prod.fst).Nodup := by
  rw [listing, List.map_flatMap, List.nodup_flatMap]
  constructor
  · intro e _
    rw [List.map_map, show (Prod.fst ∘ fun x : α × Nat => ((⟨e.1, x.2⟩ : Ref κ), x.1)) =
      (fun n => (⟨e.1, n⟩ : Ref κ)) ∘ Prod.snd from rfl, ← List.map_map, List.zipIdx_map_snd]
    refine List.Nodup.map (fun n m h => ?_) List.nodup_range'
    exact congrArg Ref.number h
  · -- records of different owners have different names
    refine (List.pairwise_map.1 a.records.nodup).imp fun {e e'} hne r hr hr' => hne ?_
    obtain ⟨_, hx, rfl⟩ := List.mem_map.1 hr
    obtain ⟨_, hx', h⟩ := List.mem_map.1 hr'
    obtain ⟨_, _, rfl⟩ := List.mem_map.1 hx
    obtain ⟨_, _, rfl⟩ := List.mem_map.1 hx'
    exact (congrArg Ref.owner h).symm

/-- A test that names pass exactly if they are on a list is passed by as many records. -/
theorem countP_all {a : Archive κ α} {p : α → Bool} {refs : List (Ref κ)} (nodup : refs.Nodup)
    (h : ∀ r, r ∈ refs ↔ ∃ x, a.get? r = some x ∧ p x) : a.all.countP p = refs.length := by
  have hnodup : ((a.listing.filter fun e => p e.2).map Prod.fst).Nodup :=
    a.nodup_map_fst_listing.sublist (List.filter_sublist.map _)
  have hperm : ((a.listing.filter fun e => p e.2).map Prod.fst).Perm refs := by
    rw [List.perm_ext_iff_of_nodup hnodup nodup]
    intro r
    rw [h r]
    simp [mem_listing_iff]
  rw [← hperm.length_eq, List.length_map, ← List.countP_eq_length_filter, ← map_snd_listing,
    List.countP_map]
  rfl

end Archive

end ChatServer
