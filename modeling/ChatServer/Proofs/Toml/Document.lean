import ChatServer.Proofs.Toml.Scan
import ChatServer.Toml.Document

/-!
# The integers of a document

Every integer of a document fits into 64 bits with a sign, however deep it is. That is so where an
integer is read, and nothing that builds the document from its lines makes another one.
-/

namespace ChatServer

namespace Toml

/-- Every integer of a value fits into 64 bits with a sign. -/
inductive Item.Fits : Item → Prop where
  | string (s : String) : Item.Fits (.string s)
  | integer {n : Int} (low : -integerBound ≤ n) (high : n < integerBound) : Item.Fits (.integer n)
  | float : Item.Fits .float
  | boolean (b : Bool) : Item.Fits (.boolean b)
  | datetime : Item.Fits .datetime
  | array {items : List Item} (h : ∀ v ∈ items, Item.Fits v) : Item.Fits (.array items)
  | table {origin : Origin} {es : Entries} (h : ∀ e ∈ es, Item.Fits e.2) :
      Item.Fits (.table origin es)
  | tables {each : List Entries} (h : ∀ es ∈ each, ∀ e ∈ es, Item.Fits e.2) :
      Item.Fits (.tables each)

/-! ## Tables -/

namespace Entries

variable {es : Entries} {k : String} {v : Item} {β : Type}

/-- Every integer of a table fits into 64 bits with a sign. -/
def Fits (es : Entries) : Prop := ∀ e ∈ es, e.2.Fits

theorem fits_nil : Fits [] := fun _ he => nomatch he

theorem fits_of_table {origin : Origin} (h : (Item.table origin es).Fits) : es.Fits := by
  cases h with
  | table h => exact h

theorem fits_of_tables {each : List Entries} (h : (Item.tables each).Fits) :
    ∀ es ∈ each, Fits es := by
  cases h with
  | tables h => exact h

/-- What is found in a table whose items fit does fit. -/
theorem Fits.get? (h : es.Fits) (hget : es.get? k = some v) : v.Fits := by
  induction es with
  | nil => cases hget
  | cons e es ih =>
    obtain ⟨hhead, htail⟩ := List.forall_mem_cons.1 h
    rw [Entries.get?, List.lookup_cons] at hget
    split at hget
    · obtain rfl := Option.some.inj hget
      exact hhead
    · exact ih htail hget

/-- The items of a table still fit when one that fits is put into it. -/
theorem Fits.put (h : es.Fits) (hv : v.Fits) : (es.put k v).Fits := by
  unfold Entries.put
  split
  · refine List.forall_mem_map.2 fun e he => ?_
    split
    · exact hv
    · exact h e he
  · exact List.forall_mem_append.2 ⟨h, List.forall_mem_singleton.2 hv⟩

theorem Fits.remove (h : es.Fits) : (es.remove k).Fits := fun e he =>
  h e (List.mem_filter.1 he).1

/-- A visit keeps the integers within their bounds if what it does at the end of the path does, and
what it brings along from there has the property that it has there. -/
theorem Fits.visit {byDots : Bool} {f : Origin → Entries → Option (β × Entries)} {p : β → Prop}
    (keeps : ∀ origin (es : Entries) r, es.Fits → f origin es = some r → p r.1 ∧ r.2.Fits) :
    ∀ (path : List String) (origin : Origin) {es : Entries} {r : β × Entries}, es.Fits →
      Entries.visit byDots f path origin es = some r → p r.1 ∧ r.2.Fits := by
  intro path
  induction path with
  | nil => exact fun origin es r h hvisit => keeps origin es r h hvisit
  | cons k path ih =>
    intro origin es r h hvisit
    rw [Entries.visit] at hvisit
    -- each way on goes through a table that fits: a new one, the one there, or the last of several
    split at hvisit
    · obtain ⟨inner, hinner, rfl⟩ := Option.map_eq_some_iff.1 hvisit
      obtain ⟨hbrought, hsub⟩ := ih _ fits_nil hinner
      exact ⟨hbrought, h.put (.table hsub)⟩
    · cases hvisit
    · next origin' sub _ hget =>
      have hsub : Fits sub := fits_of_table (h.get? hget)
      split at hvisit
      · cases hvisit
      · obtain ⟨inner, hinner, rfl⟩ := Option.map_eq_some_iff.1 hvisit
        obtain ⟨hbrought, hsub⟩ := ih _ hsub hinner
        exact ⟨hbrought, h.put (.table hsub)⟩
    · next each hget =>
      have heach : ∀ es ∈ each, Fits es := fits_of_tables (h.get? hget)
      split at hvisit
      · cases hvisit
      · next last hlast =>
        obtain ⟨inner, hinner, rfl⟩ := Option.map_eq_some_iff.1 hvisit
        obtain ⟨hbrought, hsub⟩ := ih _ (heach last (List.mem_of_getLast? hlast)) hinner
        refine ⟨hbrought, h.put (.tables (List.forall_mem_append.2 ⟨fun es hes => ?_, ?_⟩))⟩
        · exact heach es (List.dropLast_subset _ hes)
        · exact List.forall_mem_singleton.2 hsub
    · cases hvisit

/-- The items of a table still fit when one that fits is added, however deep. -/
theorem Fits.addAt {path : List String} {origin : Origin} {added : Entries} (h : es.Fits)
    (hv : v.Fits) (hadd : es.addAt path k v origin = some added) : added.Fits := by
  obtain ⟨r, hvisit, rfl⟩ := Option.map_eq_some_iff.1 hadd
  refine (Fits.visit (p := fun _ => True) (fun origin es r h hput => ?_) path origin h hvisit).2
  split at hput
  · cases hput
  · obtain rfl := Option.some.inj hput
    exact ⟨trivial, h.put hv⟩

end Entries

open Entries

theorem fits_addPair {origin : Origin} {es added : Entries} {entry : List String × Item}
    (h : es.Fits) (hv : entry.2.Fits) (hadd : addPair origin es entry = some added) :
    added.Fits := by
  unfold addPair at hadd
  split at hadd
  · cases hadd
  · exact h.addAt hv hadd

/-- What a fold that may fail starts with has a property, and each step keeps it. -/
theorem foldlM_keeps {α σ : Type} {p : σ → Prop} {f : σ → α → Option σ} {as : List α}
    (keeps : ∀ s s' a, a ∈ as → p s → f s a = some s' → p s') {s s' : σ} (h : p s)
    (hfold : as.foldlM f s = some s') : p s' := by
  induction as generalizing s with
  | nil =>
    obtain rfl := Option.some.inj hfold
    exact h
  | cons a as ih =>
    rw [List.foldlM_cons] at hfold
    obtain ⟨mid, hstep, hrest⟩ := Option.bind_eq_some_iff.1 hfold
    exact ih (fun s s' b hb => keeps s s' b (List.mem_cons_of_mem _ hb))
      (keeps s mid a List.mem_cons_self h hstep) hrest

/-! ## Values -/

namespace Scan

/-! Only where digits are read is an integer made, and there its size is checked. -/

/-- An integer of any base that a document has is one of 64 bits. -/
theorem yields_radixInteger (base : Nat) (mark : Char) :
    (radixInteger base mark).Yields fun n => (Item.integer n).Fits := by
  refine .after fun _ => .after fun ds => .after fun n => yields_guard.bind fun _ hn => ?_
  have hfits : (Item.integer n).Fits := .integer (by omega) (by omega)
  exact yields_pure hfits

theorem yields_decimalInteger : decimalInteger.Yields fun n => (Item.integer n).Fits := by
  refine .after fun sd => .after fun n => yields_guard.bind fun _ hn => yields_pure ?_
  rw [Bool.or_eq_true, Bool.and_eq_true, decide_eq_true_eq, decide_eq_true_eq] at hn
  have hbound : 0 < integerBound := by decide
  split
  · exact .integer (by omega) (by omega)
  · next hpositive =>
    have hlt : n < integerBound := hn.resolve_right fun hnegative => hpositive hnegative.1
    exact .integer (by omega) (by omega)

/-- Numerals fit. -/
theorem yields_numeral : numeral.Yields Item.Fits := by
  have hinteger : integer.Yields fun n => (Item.integer n).Fits :=
    (yields_radixInteger 16 'x').orElse <| (yields_radixInteger 8 'o').orElse <|
      (yields_radixInteger 2 'b').orElse yields_decimalInteger
  refine Yields.orElse (.after fun _ => yields_pure .datetime) ?_
  refine Yields.orElse (.after fun _ => yields_pure .float) ?_
  exact hinteger.bind fun n hn => yields_pure hn

theorem yields_scalar : scalar.Yields Item.Fits := by
  refine .after fun next => ?_
  split
  · exact .after fun s => yields_pure (.string s)
  · exact .after fun s => yields_pure (.string s)
  · exact .after fun _ => yields_pure (.boolean true)
  · exact .after fun _ => yields_pure (.boolean false)
  · exact yields_numeral

variable {value : Scan Item}

/-- An array fits if the values in it do. -/
theorem Yields.array (h : value.Yields Item.Fits) : (array value).Yields Item.Fits := by
  have hitem : (do gaps; let v ← value; gaps; pure v).Yields Item.Fits :=
    .after fun _ => h.bind fun v hv => .after fun _ => yields_pure hv
  refine .after fun _ => (hitem.separated _).bind fun items hitems => ?_
  split
  · exact .after fun _ => .after fun _ => .after fun _ => yields_pure (.array hitems)
  · exact .after fun _ => .after fun _ => yields_pure (.array hitems)

/-- A pair fits if its value does. -/
theorem Yields.pair (h : value.Yields Item.Fits) :
    (pair value).Yields fun entry => entry.2.Fits :=
  .after fun _ => .after fun _ => .after fun _ => h.bind fun _ hv => yields_pure hv

/-- A table in braces fits if the values in it do. -/
theorem Yields.braced (h : value.Yields Item.Fits) : (braced value).Yields Item.Fits := by
  have hpair : (do let p ← Toml.pair value; blanks; pure p).Yields fun entry => entry.2.Fits :=
    h.pair.bind fun entry hv => .after fun _ => yields_pure hv
  refine .after fun _ => (hpair.separated _).bind fun pairs hpairs => ?_
  refine .after fun _ => .after fun _ => ?_
  refine (yields_liftM fun es hes => ?_).bind fun es (h : es.Fits) => yields_pure (.table h)
  exact foldlM_keeps (fun _ _ entry hentry hes => fits_addPair hes (hpairs entry hentry))
    fits_nil hes

/-- Values fit, however deep they are nested. -/
theorem yields_value (levels : Nat) : (Toml.value levels).Yields Item.Fits := by
  induction levels with
  | zero => exact yields_scalar
  | succ levels ih =>
    refine .after fun next => ?_
    split
    · exact ih.array
    · exact ih.braced
    · exact yields_scalar

end Scan

/-! ## Documents -/

/-- Every integer of a line fits into 64 bits with a sign. -/
def Line.Fits : Line → Prop
  | pair _ v => v.Fits
  | _ => True

/-- Every line of a document fits. -/
theorem yields_line : line.Yields Line.Fits := by
  refine .after fun _ => .after fun cs => ?_
  split
  · exact .after fun _ => .after fun _ => Scan.yields_pure trivial
  · exact .after fun _ => .after fun _ => .after fun _ => .after fun _ => Scan.yields_pure trivial
  · exact .after fun _ => .after fun _ => .after fun _ => .after fun _ => Scan.yields_pure trivial
  · exact .after fun _ => Scan.yields_pure trivial
  · exact .after fun _ => Scan.yields_pure trivial
  · exact (Scan.yields_value _).pair.bind fun _ hv => .after fun _ => Scan.yields_pure hv

theorem yields_lines : lines.Yields fun ls => ∀ l ∈ ls, l.Fits :=
  .after fun _ => yields_line.many.bind fun _ hls => .after fun _ => .after fun _ =>
    Scan.yields_pure hls

namespace Draft

/-- Every integer of the lines so far fits into 64 bits with a sign. -/
structure Fits (d : Draft) : Prop where
  root : d.root.Fits
  current : d.current.Fits

variable {d : Draft}

/-- A draft that fits is finished with a table that fits. -/
theorem Fits.finish (h : d.Fits) {es : Entries} (hfinish : d.finish = some es) : es.Fits := by
  unfold Draft.finish at hfinish
  split at hfinish
  · obtain rfl := Option.some.inj hfinish
    exact h.current
  · next k _ =>
    obtain ⟨r, hvisit, rfl⟩ := Option.map_eq_some_iff.1 hfinish
    -- the place is new, holds an array of tables, or is written as a table
    refine (Fits.visit (p := fun _ => True) (fun origin es r hes hput => ?_) _ _ h.root hvisit).2
    split at hput
    · split at hput
      · obtain rfl := Option.some.inj hput
        exact ⟨trivial, hes.put (.tables (List.forall_mem_singleton.2 h.current))⟩
      · next each hget =>
        have heach : ∀ es ∈ each, Entries.Fits es := fits_of_tables (hes.get? hget)
        obtain rfl := Option.some.inj hput
        exact ⟨trivial, hes.put (.tables (List.forall_mem_append.2
          ⟨heach, List.forall_mem_singleton.2 h.current⟩))⟩
      · cases hput
    · obtain rfl := Option.some.inj hput
      exact ⟨trivial, hes.put (.table h.current)⟩

/-- A draft still fits when a table is begun. -/
theorem Fits.begin (h : d.Fits) {path : List String} {d' : Draft}
    (hbegin : d.begin path = some d') : d'.Fits := by
  obtain ⟨k, -, hbegin⟩ := Option.bind_eq_some_iff.1 hbegin
  obtain ⟨root, hroot, hbegin⟩ := Option.bind_eq_some_iff.1 hbegin
  obtain ⟨r, hvisit, hbegin⟩ := Option.bind_eq_some_iff.1 hbegin
  obtain rfl := Option.some.inj hbegin
  have hboth := Fits.visit (p := Entries.Fits) (fun origin es r hes htake => ?_) _ _
    (h.finish hroot) hvisit
  · exact ⟨hboth.2, hboth.1⟩
  · split at htake
    · obtain rfl := Option.some.inj htake
      exact ⟨fits_nil, hes⟩
    · next sub hget =>
      have hsub : Entries.Fits sub := fits_of_table (hes.get? hget)
      obtain rfl := Option.some.inj htake
      exact ⟨hsub, hes.remove⟩
    · cases htake

theorem Fits.beginNext (h : d.Fits) {path : List String} {d' : Draft}
    (hbegin : d.beginNext path = some d') : d'.Fits := by
  obtain ⟨k, -, hbegin⟩ := Option.bind_eq_some_iff.1 hbegin
  obtain ⟨root, hroot, hbegin⟩ := Option.bind_eq_some_iff.1 hbegin
  obtain ⟨r, hvisit, hbegin⟩ := Option.bind_eq_some_iff.1 hbegin
  obtain rfl := Option.some.inj hbegin
  have hboth := Fits.visit (p := fun _ => True) (fun origin es r hes htake => ?_) _ _
    (h.finish hroot) hvisit
  · exact ⟨hboth.2, fits_nil⟩
  · split at htake
    · obtain rfl := Option.some.inj htake
      exact ⟨trivial, hes⟩
    · obtain rfl := Option.some.inj htake
      exact ⟨trivial, hes⟩
    · cases htake

/-- A draft still fits after another line. -/
theorem Fits.add (h : d.Fits) {l : Line} (hl : l.Fits) {d' : Draft} (hadd : d.add l = some d') :
    d'.Fits := by
  cases l with
  | blank =>
    obtain rfl := Option.some.inj hadd
    exact h
  | pair path v =>
    obtain ⟨current, hcurrent, rfl⟩ := Option.map_eq_some_iff.1 hadd
    have hv : v.Fits := hl
    exact ⟨h.root, fits_addPair h.current hv hcurrent⟩
  | header path => exact h.begin hadd
  | arrayHeader path => exact h.beginNext hadd

end Draft

/-- Every integer of a document fits into 64 bits with a sign. -/
theorem fits_parse {text : String} {es : Entries} (h : parse text = some es) : es.Fits := by
  obtain ⟨⟨ls, rest⟩, hlines, h⟩ := Option.bind_eq_some_iff.1 h
  obtain ⟨draft, hdraft, hfinish⟩ := Option.bind_eq_some_iff.1 h
  have hls : ∀ l ∈ ls, l.Fits := yields_lines hlines
  have hstart : Draft.start.Fits := ⟨fits_nil, fits_nil⟩
  have hkept : draft.Fits :=
    foldlM_keeps (fun _ _ l hl hd => hd.add (hls l hl)) hstart hdraft
  exact hkept.finish hfinish

end Toml

end ChatServer
