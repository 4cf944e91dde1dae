import ChatServer.Toml.Date
import ChatServer.Toml.Item
import ChatServer.Toml.Number
import ChatServer.Toml.Quoted

/-!
# `Value`: what stands after an equals sign

Strings, numbers, flags, dates, arrays and tables in braces. Arrays and braces recur on how many
levels are left.
-/

namespace ChatServer.Toml

open Scan

/-- A value that starts like a number: dates go before floats, and floats before integers. -/
def numeral : Scan Item :=
  (do datetime; pure .datetime) <|> (do float; pure .float) <|> (do pure (.integer (← integer)))

/-- A value that holds no other values. -/
def scalar : Scan Item := do
  match ← peek with
  | some '"' => pure (.string (← quotedString))
  | some '\'' => pure (.string (← quotedString))
  | some 't' => chars ['t', 'r', 'u', 'e']; pure (.boolean true)
  | some 'f' => chars ['f', 'a', 'l', 's', 'e']; pure (.boolean false)
  | _ => numeral

/-- An array of values; a comma may follow the last one. -/
def array (value : Scan Item) : Scan Item := do
  char '['
  let items ← separated (do gaps; let v ← value; gaps; pure v) (char ',')
  if !items.isEmpty then
    let _ ← option (char ',')
  gaps
  char ']'
  pure (.array items)

/-- A key and its value. -/
def pair (value : Scan Item) : Scan (List String × Item) := do
  let k ← key
  char '='
  blanks
  let v ← value
  pure (k, v)

/-- Adds a pair to a table that came about as `origin` says. -/
def addPair (origin : Origin) (es : Entries) (p : List String × Item) : Option Entries :=
  match p.1.getLast? with
  | none => none
  | some k => es.addAt p.1.dropLast k p.2 origin

/-- A table in braces, on one line. -/
def braced (value : Scan Item) : Scan Item := do
  char '\x7b'
  let pairs ← separated (do let p ← pair value; blanks; pure p) (char ',')
  blanks
  char '\x7d'
  let es ← liftM (pairs.foldlM (addPair .braces) ([] : Entries))
  pure (.table .braces es)

/-- A value with at most `levels` levels of arrays and braces. -/
def value : (levels : Nat) → Scan Item
  | 0 => scalar
  | levels + 1 => do
    match ← peek with
    | some '[' => array (value levels)
    | some '\x7b' => braced (value levels)
    | _ => scalar

end ChatServer.Toml
