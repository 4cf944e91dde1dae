import ChatServer.Text.Digits
import ChatServer.Toml.Scan

/-!
# `Quoted`: strings and keys

A basic string stands between quotes and may hold escapes; a literal string stands between
apostrophes and holds none. Either may run over several lines between tripled marks. A key is a
string or a bare word, and a dotted key is a list of them.
-/

namespace ChatServer.Toml

open Scan

/-- The character that a letter after a backslash stands for. -/
def simpleEscape? : Char → Option Char
  | 'b' => some '\x08'
  | 't' => some '\t'
  | 'n' => some '\n'
  | 'f' => some '\x0c'
  | 'r' => some '\x0d'
  | '"' => some '"'
  | '\\' => some '\\'
  | _ => none

/-- The character with a number that is written in hexadecimal. -/
def scalar? (digits : List Char) : Option Char := do
  let n ← Text.number? 16 digits
  if n.isValidChar then some (Char.ofNat n) else none

/-- Whether a character stands for itself in a basic string. -/
def isBasicChar (c : Char) : Bool := isCommentChar c && c != '"' && c != '\\'

/-- Whether a character stands for itself in a literal string. -/
def isLiteralChar (c : Char) : Bool := isCommentChar c && c != '\''

/-- The rest of a basic string; `text` holds, reversed, what comes before. -/
def basicRest (text : List Char) : List Char → Option (String × List Char)
  | [] => none
  | c :: rest =>
    if c = '"' then some (String.ofList text.reverse, rest)
    else if c = '\\' then
      match rest with
      | 'u' :: a :: b :: c :: d :: rest =>
        match scalar? [a, b, c, d] with
        | some e => basicRest (e :: text) rest
        | none => none
      | 'U' :: a :: b :: c :: d :: e :: f :: g :: h :: rest =>
        match scalar? [a, b, c, d, e, f, g, h] with
        | some e => basicRest (e :: text) rest
        | none => none
      | e :: rest =>
        match simpleEscape? e with
        | some e => basicRest (e :: text) rest
        | none => none
      | [] => none
    else if isBasicChar c then basicRest (c :: text) rest
    else none

/-- If at least three marks come next, how many of them belong to the string, and what follows the
three that close it. -/
def closing? (mark : Char) (cs : List Char) : Option (Nat × List Char) :=
  let n := (cs.takeWhile (· == mark)).length
  if n < 3 then none else some (min (n - 3) 2, cs.drop (min n 5))

/-- Whether only blanks stand before the next line end. -/
def blankToLineEnd (cs : List Char) : Bool :=
  match cs.dropWhile isBlank with
  | '\n' :: _ => true
  | '\x0d' :: '\n' :: _ => true
  | _ => false

/-- The rest of a basic string of several lines. A backslash at the end of a line skips to the next
character that is not blank, which `skipping` says. -/
def multilineBasicRest (skipping : Bool) (text : List Char) :
    List Char → Option (String × List Char)
  | [] => none
  | c :: rest =>
    if skipping && (isBlank c || c == '\n' || (c == '\x0d' && rest.head? == some '\n')) then
      multilineBasicRest true text rest
    else if c = '"' then
      match closing? '"' (c :: rest) with
      | some (n, rest) => some (String.ofList (text.reverse ++ List.replicate n '"'), rest)
      | none => multilineBasicRest false (c :: text) rest
    else if c = '\\' then
      if blankToLineEnd rest then multilineBasicRest true text rest
      else
        match rest with
        | 'u' :: a :: b :: c :: d :: rest =>
          match scalar? [a, b, c, d] with
          | some e => multilineBasicRest false (e :: text) rest
          | none => none
        | 'U' :: a :: b :: c :: d :: e :: f :: g :: h :: rest =>
          match scalar? [a, b, c, d, e, f, g, h] with
          | some e => multilineBasicRest false (e :: text) rest
          | none => none
        | e :: rest =>
          match simpleEscape? e with
          | some e => multilineBasicRest false (e :: text) rest
          | none => none
        | [] => none
    else if c = '\x0d' then
      match rest with
      | '\n' :: rest => multilineBasicRest false ('\n' :: text) rest
      | _ => none
    else if c = '\n' || isBasicChar c then multilineBasicRest false (c :: text) rest
    else none

/-- The rest of a literal string of several lines. -/
def multilineLiteralRest (text : List Char) : List Char → Option (String × List Char)
  | [] => none
  | c :: rest =>
    if c = '\'' then
      match closing? '\'' (c :: rest) with
      | some (n, rest) => some (String.ofList (text.reverse ++ List.replicate n '\''), rest)
      | none => multilineLiteralRest (c :: text) rest
    else if c = '\x0d' then
      match rest with
      | '\n' :: rest => multilineLiteralRest ('\n' :: text) rest
      | _ => none
    else if c = '\n' || isLiteralChar c then multilineLiteralRest (c :: text) rest
    else none

/-- A basic string of one line. -/
def basicString : Scan String := do char '"'; basicRest []

/-- A literal string of one line. -/
def literalString : Scan String := do
  char '\''
  let text ← stretch isLiteralChar
  char '\''
  pure (String.ofList text)

/-- A basic string of several lines; a line end right after the opening does not count. -/
def multilineBasicString : Scan String := do
  chars ['"', '"', '"']
  let _ ← option newline
  multilineBasicRest false []

/-- A literal string of several lines; a line end right after the opening does not count. -/
def multilineLiteralString : Scan String := do
  chars ['\'', '\'', '\'']
  let _ ← option newline
  multilineLiteralRest []

/-- A string that opens with three marks is one of several lines. -/
def quotedString : Scan String := do
  match ← get with
  | '"' :: '"' :: '"' :: _ => multilineBasicString
  | '\'' :: '\'' :: '\'' :: _ => multilineLiteralString
  | '"' :: _ => basicString
  | '\'' :: _ => literalString
  | _ => failure

/-- Whether a character may stand in a bare key. -/
def isBareKeyChar (c : Char) : Bool :=
  ('a' ≤ c && c ≤ 'z') || ('A' ≤ c && c ≤ 'Z') || ('0' ≤ c && c ≤ '9') || c == '_' || c == '-'

/-- One part of a key. -/
def simpleKey : Scan String := do
  match ← peek with
  | some '"' => basicString
  | some '\'' => literalString
  | _ =>
    let name ← stretch isBareKeyChar
    guard (!name.isEmpty)
    pure (String.ofList name)

/-- The nesting at which a document is refused. -/
def nestingLimit : Nat := 80

/-- A key of one or more parts with points between them. -/
def key : Scan (List String) := do
  let parts ← separated₁ (do blanks; let k ← simpleKey; blanks; pure k) (char '.')
  guard (parts.length < nestingLimit)
  pure parts

end ChatServer.Toml
