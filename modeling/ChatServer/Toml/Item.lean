/-!
# `Item`: the values of a document

A table remembers how it came about, because that decides what may still be added to it: a table
that a header or braces defined is complete, one that only a longer header mentions can still get
its own header, and one made by dotted keys can get more dotted keys.
-/

namespace ChatServer.Toml

/-- How a table came about. -/
inductive Origin where
  /-- By a header of its own, or as the whole document. -/
  | header
  /-- By a longer header. -/
  | implied
  /-- By a dotted key. -/
  | dotted
  /-- By braces. -/
  | braces
deriving DecidableEq, Repr, Inhabited

/-- Whether a table was never written down itself. -/
def Origin.isImplicit : Origin → Bool
  | implied => true
  | dotted => true
  | _ => false

/-- A value, a table or an array of tables. -/
inductive Item where
  | string (s : String)
  | integer (n : Int)
  | float
  | boolean (b : Bool)
  | datetime
  | array (items : List Item)
  | table (origin : Origin) (entries : List (String × Item))
  | tables (each : List (List (String × Item)))
deriving Repr, Inhabited

/-- The keys of a table with their values. -/
abbrev Entries := List (String × Item)

namespace Entries

/-- The value under a key. -/
def get? (es : Entries) (k : String) : Option Item := es.lookup k

/-- Puts a value under a key: in place of the value that was there, else at the end. -/
def put (es : Entries) (k : String) (v : Item) : Entries :=
  if (es.get? k).isSome then es.map fun e => if e.1 = k then (k, v) else e else es ++ [(k, v)]

/-- Removes a key. -/
def remove (es : Entries) (k : String) : Entries := es.filter fun e => e.1 ≠ k

/-- Visits the table at a path, which is made where it is missing, and may change it. Dotted keys
reach neither into values nor into complete tables; headers reach into any table, and into the last
of several. -/
def visit {β : Type} (byDots : Bool) (f : Origin → Entries → Option (β × Entries)) :
    (path : List String) → Origin → Entries → Option (β × Entries)
  | [], origin, es => f origin es
  | k :: path, _, es =>
    match es.get? k with
    | none =>
      let origin := if byDots then .dotted else .implied
      (visit byDots f path origin []).map fun r => (r.1, es.put k (.table origin r.2))
    | some (.table .braces _) => none
    | some (.table origin sub) =>
      if byDots && !origin.isImplicit then none
      else (visit byDots f path origin sub).map fun r => (r.1, es.put k (.table origin r.2))
    | some (.tables each) =>
      match each.getLast? with
      | none => none
      | some last =>
        (visit byDots f path .header last).map fun r =>
          (r.1, es.put k (.tables (each.dropLast ++ [r.2])))
    | some _ => none

/-- Adds a value under a key that is not there yet, in the table that a dotted path leads to. Dots
add only to tables that dots made, and keys without dots only to others. -/
def addAt (path : List String) (k : String) (v : Item) (origin : Origin) (es : Entries) :
    Option Entries :=
  (visit true
      (fun origin es =>
        if (origin == .dotted) == path.isEmpty || (es.get? k).isSome then none
        else some ((), es.put k v))
      path origin es).map
    Prod.snd

end Entries

end ChatServer.Toml
