import ChatServer.Toml.Value

/-!
# `Document`: a whole text as a table

A document is a sequence of lines: pairs, headers of tables, and blank lines. The pairs that follow
a header go into its table, which is put into the document when the next header or the end comes.
-/

namespace ChatServer.Toml

open Scan

/-- What a line of a document says. -/
inductive Line where
  | blank
  | pair (path : List String) (value : Item)
  | header (path : List String)
  | arrayHeader (path : List String)
deriving Repr, Inhabited

/-- One line, with its line end; a value may run over several. -/
def line : Scan Line := do
  blanks
  match ← get with
  | '#' :: _ => comment; (newline <|> atEnd); pure .blank
  | '[' :: '[' :: _ => do
    chars ['[', '[']
    let path ← key
    chars [']', ']']
    lineRest
    pure (.arrayHeader path)
  | '[' :: _ => do
    char '['
    let path ← key
    char ']'
    lineRest
    pure (.header path)
  | '\n' :: _ => newline; pure .blank
  | '\x0d' :: _ => newline; pure .blank
  | _ => do
    let (path, v) ← pair (value (nestingLimit - 1))
    lineRest
    pure (.pair path v)

/-- The lines of a document. A mark of the byte order before the first one does not count. -/
def lines : Scan (List Line) := do
  let _ ← option (char '\uFEFF')
  let ls ← many line
  blanks
  atEnd
  pure ls

/-- A document while its lines are read: the finished part, and the table that the last header
began, with its path, whether it is one of several, and what it holds so far. -/
structure Draft where
  root : Entries
  path : List String
  several : Bool
  current : Entries
deriving Repr, Inhabited

namespace Draft

/-- The draft before the first line. -/
def start : Draft := ⟨[], [], false, []⟩

/-- The document with the current table put in its place. -/
def finish (d : Draft) : Option Entries :=
  match d.path.getLast? with
  | none => some d.current
  | some k =>
    (Entries.visit false
        (fun _ es =>
          if d.several then
            match es.get? k with
            | none => some ((), es.put k (.tables [d.current]))
            | some (.tables each) => some ((), es.put k (.tables (each ++ [d.current])))
            | some _ => none
          else some ((), es.put k (.table .header d.current)))
        d.path.dropLast .header d.root).map
      Prod.snd

/-- Begins the table of a header. It takes over a table that longer headers implied, and no
other. -/
def begin (d : Draft) (path : List String) : Option Draft := do
  let k ← path.getLast?
  let root ← d.finish
  let (current, root) ←
    Entries.visit false
      (fun _ es =>
        match es.get? k with
        | none => some ([], es)
        | some (.table .implied sub) => some (sub, es.remove k)
        | some _ => none)
      path.dropLast .header root
  some ⟨root, path, false, current⟩

/-- Begins the next table of an array of tables. -/
def beginNext (d : Draft) (path : List String) : Option Draft := do
  let k ← path.getLast?
  let root ← d.finish
  let (_, root) ←
    Entries.visit false
      (fun _ es =>
        match es.get? k with
        | none => some ((), es)
        | some (.tables _) => some ((), es)
        | some _ => none)
      path.dropLast .header root
  some ⟨root, path, true, []⟩

/-- Adds a line. -/
def add (d : Draft) : Line → Option Draft
  | .blank => some d
  | .pair path v => (addPair .header d.current (path, v)).map fun current => { d with current }
  | .header path => d.begin path
  | .arrayHeader path => d.beginNext path

end Draft

/-- The table that a text stands for, if it is a document. -/
def parse (text : String) : Option Entries := do
  let (ls, _) ← lines text.toList
  let draft ← ls.foldlM Draft.add .start
  draft.finish

end ChatServer.Toml
