import ChatServer.Text.IpAddress

/-!
# `Host`: finding the host of an address

A host is written as an internet address or as a name. Every machine knows the local host; any
other name has to be asked for over the network, and a text that cannot be a name is unknown
without asking.
-/

namespace ChatServer.Live

/-- Whether there is a network, over which names are asked for and clients reach the server. -/
inductive Network where
  | up
  | unreachable
deriving DecidableEq, Repr, Inhabited

/-- The reasons for which a host is not found. -/
inductive LookupError where
  /-- A character with the number zero ends the text too early. -/
  | zeroCharacter
  /-- Nothing has this name. -/
  | unknownName
  /-- Nobody can be asked for the name at the moment. -/
  | noAnswer
deriving DecidableEq, Repr, Inhabited

/-- The wording of the error. -/
def LookupError.message : LookupError → String
  | zeroCharacter => "file name contained an unexpected NUL byte"
  | unknownName => "failed to lookup address information: Name or service not known"
  | noAnswer => "failed to lookup address information: Temporary failure in name resolution"

/-! ## Addresses -/

/-- A part of an address of version 4: decimal, octal after a zero, or hexadecimal after `0x`. -/
def addressPart? (digits : List Char) : Option Nat :=
  match digits with
  | [] => none
  | '0' :: 'x' :: rest => if rest.isEmpty then none else Text.number? 16 rest
  | '0' :: 'X' :: rest => if rest.isEmpty then none else Text.number? 16 rest
  | '0' :: rest => Text.number? 8 rest
  | _ => Text.number? 10 digits

/-- Whether a text is an address of version 4. It has up to four parts, of which each is a byte
except that the last one also stands for the bytes that are missing. -/
def isAddressV4 (s : String) : Bool :=
  match (s.splitOn ".").mapM fun part => addressPart? part.toList with
  | none => false
  | some parts =>
    parts.length ≤ 4 && parts.dropLast.all (· < 256) &&
      parts.getLast?.any (· < Nat.pow 256 (5 - parts.length))

/-- Whether a text is the number of a scope. -/
def isScope (s : String) : Bool :=
  !s.isEmpty && (Text.number? 10 s.toList).any (· < 4294967296)

/-- Whether a text is an address of version 6, with or without a scope. -/
def isAddressV6 (s : String) : Bool :=
  match s.splitOn "%" with
  | [address] => (Text.IpAddress.v6? address).isSome
  | [address, scope] => (Text.IpAddress.v6? address).isSome && isScope scope
  | _ => false

/-! ## Names -/

/-- Whether a text can stand between the points of a name. -/
def isNameLabel (s : String) : Bool :=
  1 ≤ s.length && s.length ≤ 63 && s.all fun c => c.isAlphanum || c == '-' || c == '_'

/-- Whether a text can be the name of a host. A point may follow a name and may stand alone. -/
def isHostName (s : String) : Bool :=
  let cs := s.toList
  let name := if cs.getLast? = some '.' then cs.dropLast else cs
  cs == ['.'] ||
    (name.length ≤ 253 && name.head? != some '-' &&
      ((String.ofList name).splitOn ".").all isNameLabel)

/-- Whether a text is the name of the local host, in letters of either case. -/
def isLocalHost (s : String) : Bool := s.toList.map Char.toLower == "localhost".toList

/-- Looks for a host. -/
def lookUp (network : Network) (host : String) : Except LookupError Unit :=
  if host.toList.contains '\x00' then .error .zeroCharacter
  else if isAddressV4 host || isAddressV6 host || isLocalHost host then .ok ()
  else if network = .unreachable && isHostName host then .error .noAnswer
  else .error .unknownName

end ChatServer.Live
