import ChatServer.Table

/-!
# `Archive`: every record ever made

An archive keeps all records of an owner, the oldest first, and never drops one. A reference names
a record by its owner and its place among the owner's records, so two references are equal exactly
when they name the very same record.
-/

namespace ChatServer

/-- The name of one record: whose it is, and how many the owner had before. -/
structure Ref (κ : Type) where
  owner : κ
  number : Nat
deriving DecidableEq, Repr

/-- For each owner the owner's records, the oldest first. -/
structure Archive (κ α : Type) where
  records : Table κ (List α)
deriving Repr

namespace Archive

variable {κ α : Type}

/-- The archive without records. -/
def empty : Archive κ α := ⟨∅⟩

instance : EmptyCollection (Archive κ α) := ⟨empty⟩

instance : Inhabited (Archive κ α) := ⟨empty⟩

variable [DecidableEq κ]

/-- All records of an owner. -/
def history (a : Archive κ α) (k : κ) : List α := (a.records.get? k).getD []

/-- The record with a name. -/
def get? (a : Archive κ α) (r : Ref κ) : Option α := (a.history r.owner)[r.number]?

/-- The name that the owner's next record gets. -/
def next (a : Archive κ α) (k : κ) : Ref κ := ⟨k, (a.history k).length⟩

/-- Adds a record, under the name `next`. -/
def add (a : Archive κ α) (k : κ) (x : α) : Archive κ α :=
  ⟨a.records.insert k (a.history k ++ [x])⟩

/-- Changes the record with a name. -/
def update (a : Archive κ α) (r : Ref κ) (f : α → α) : Archive κ α :=
  ⟨a.records.modify r.owner fun xs => xs.modify r.number f⟩

/-! ## What the operations do to `get?` -/

theorem history_add (a : Archive κ α) (k : κ) (x : α) (j : κ) :
    (a.add k x).history j = if j = k then a.history k ++ [x] else a.history j := by
  simp only [history, add, Table.get?_insert]
  split <;> rfl

theorem history_update (a : Archive κ α) (r : Ref κ) (f : α → α) (j : κ) :
    (a.update r f).history j =
      if j = r.owner then (a.history j).modify r.number f else a.history j := by
  simp only [history, update, Table.get?_modify]
  split
  · cases a.records.get? j <;> simp
  · rfl

/-- A new record is found under the name `next`, every other one where it was. -/
theorem get?_add (a : Archive κ α) (k : κ) (x : α) (r : Ref κ) :
    (a.add k x).get? r = if r = a.next k then some x else a.get? r := by
  obtain ⟨j, n⟩ := r
  simp only [get?, history_add, next, Ref.mk.injEq]
  by_cases hj : j = k
  · subst hj
    grind
  · simp [hj]

/-- A change of one record leaves all others as they are. -/
theorem get?_update (a : Archive κ α) (r : Ref κ) (f : α → α) (q : Ref κ) :
    (a.update r f).get? q = if q = r then (a.get? q).map f else a.get? q := by
  obtain ⟨j, n⟩ := q
  obtain ⟨k, m⟩ := r
  simp only [get?, history_update, Ref.mk.injEq]
  by_cases hj : j = k <;> by_cases hn : n = m <;> simp_all [eq_comm]

/-- The next name is not in use. -/
theorem get?_next (a : Archive κ α) (k : κ) : a.get? (a.next k) = none := by
  simp [get?, next]

end Archive

end ChatServer
