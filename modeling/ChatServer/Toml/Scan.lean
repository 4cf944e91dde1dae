/-!
# `Scan`: reading a text from its front

A scan takes some characters from the front of a text, or fails. Scans of nested values recur on
how deep they may still go, and repetitions on the length of the text.
-/

namespace ChatServer.Toml

/-- A reader of the front of a text. -/
abbrev Scan := StateT (List Char) Option

namespace Scan

variable {α : Type}

/-- The next character, which stays. -/
def peek : Scan (Option Char) := fun cs => some (cs.head?, cs)

/-- Takes one character. -/
def char (c : Char) : Scan Unit := fun cs =>
  match cs with
  | d :: rest => if d = c then some ((), rest) else none
  | [] => none

/-- Takes some characters. -/
def chars : List Char → Scan Unit
  | [] => pure ()
  | c :: cs => do char c; chars cs

/-- Takes the longest stretch of characters that pass a test. -/
def stretch (p : Char → Bool) : Scan (List Char) := fun cs =>
  some (cs.takeWhile p, cs.dropWhile p)

/-- Succeeds at the end of the text. -/
def atEnd : Scan Unit := fun cs => if cs.isEmpty then some ((), cs) else none

/-- Takes what a scan takes, if it succeeds. -/
def option (s : Scan α) : Scan (Option α) := (some <$> s) <|> pure none

/-- Takes what a scan takes at most `n` times; `taken` holds, reversed, what comes before. -/
def repeated (s : Scan α) : Nat → List α → Scan (List α)
  | 0, taken => pure taken.reverse
  | n + 1, taken => do
    match ← option s with
    | some a => repeated s n (a :: taken)
    | none => pure taken.reverse

/-- Takes what a scan takes as often as it succeeds; it must take a character each time. -/
def many (s : Scan α) : Scan (List α) := do repeated s (← get).length []

/-- Takes items with separators between them, but at least one. -/
def separated₁ (item : Scan α) (separator : Scan Unit) : Scan (List α) := do
  let first ← item
  let others ← many do separator; item
  pure (first :: others)

/-- Takes items with separators between them, or none. -/
def separated (item : Scan α) (separator : Scan Unit) : Scan (List α) :=
  separated₁ item separator <|> pure []

end Scan

open Scan

/-! ## Blanks, line ends and comments -/

/-- Whether a character is a blank inside a line. -/
def isBlank (c : Char) : Bool := c == ' ' || c == '\t'

/-- Whether a character may stand in a comment. -/
def isCommentChar (c : Char) : Bool := c == '\t' || (' ' ≤ c && c ≤ '~') || '\u0080' ≤ c

/-- Skips blanks. -/
def blanks : Scan Unit := do let _ ← stretch isBlank

/-- Takes a line end. -/
def newline : Scan Unit := char '\n' <|> chars ['\x0d', '\n']

/-- Takes a comment, without its line end. -/
def comment : Scan Unit := do
  char '#'
  let _ ← stretch isCommentChar

/-- Takes what may stand between a value and the next line. -/
def lineRest : Scan Unit := do
  blanks
  let _ ← option comment
  newline <|> atEnd

/-- Skips blanks, line ends and comments between the parts of an array. -/
def gaps : Scan Unit := do
  let _ ← many (newline <|> (do comment; newline) <|> (do
    let taken ← stretch isBlank
    guard (!taken.isEmpty)))

end ChatServer.Toml
