import ChatServer.Text.CaseData

/-!
# `Lowercase`: full lower-case mapping

Each character is replaced by its lower-case form, which is one character, except that U+0130
becomes `i` with a dot above. A capital sigma is the only letter whose form depends on its
neighbours: it becomes a final sigma at the end of a word and a plain one elsewhere.
-/

namespace ChatServer.Text

/-- Whether a number lies in one of some closed ranges. -/
def inRanges (ranges : List (Nat × Nat)) (n : Nat) : Bool :=
  ranges.any fun r => r.1 ≤ n && n ≤ r.2

/-- Whether a character is a letter that has a case. -/
def isCased (c : Char) : Bool := inRanges casedRanges c.toNat

/-- Whether a character is skipped when the cased letter next to a sigma is looked for. -/
def isCaseIgnorable (c : Char) : Bool := inRanges caseIgnorableRanges c.toNat

/-- Whether a run says where the lower-case form of a character is. -/
def CaseRun.covers (r : CaseRun) (n : Nat) : Bool :=
  r.first ≤ n && n ≤ r.last && (n - r.first) % r.step == 0

/-- The lower-case form of a character, without regard to its neighbours. -/
def lowerChar (c : Char) : List Char :=
  if c = '\u0130' then ['i', '\u0307']
  else
    match caseRuns.find? (·.covers c.toNat) with
    | some r => [Char.ofNat (c.toNat + r.shift).toNat]
    | none => [c]

/-- Whether a cased letter comes next, when ignorable characters are skipped. -/
def meetsCased (cs : List Char) : Bool :=
  match cs.dropWhile isCaseIgnorable with
  | c :: _ => isCased c
  | [] => false

/-- Whether a letter between `before`, nearest first, and `after` ends a word. -/
def endsWord (before after : List Char) : Bool := meetsCased before && !meetsCased after

/-- The lower-case form of a character between `before`, nearest first, and `after`. -/
def lowerAt (before : List Char) (c : Char) (after : List Char) : List Char :=
  if c = 'Σ' then [if endsWord before after then 'ς' else 'σ'] else lowerChar c

/-- Lowers the characters after `before`; `lowered` holds, reversed, what they are added to. -/
def lowerAll (before lowered : List Char) : List Char → List Char
  | [] => lowered.reverse
  | c :: after => lowerAll (c :: before) ((lowerAt before c after).reverse ++ lowered) after

/-- The lower-case form of a text. -/
def lowercase (s : String) : String := String.ofList (lowerAll [] [] s.toList)

end ChatServer.Text
