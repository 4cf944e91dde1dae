import ChatServer.Live.Host

/-!
# `Address`: where a server listens

An address is a host and a port number with a colon between them, of which the last one counts. An
internet address that holds colons itself stands in brackets.
-/

namespace ChatServer.Live

/-- The reasons for which a server cannot listen at an address. -/
inductive AddressError where
  /-- There is no colon. -/
  | noColon
  /-- What follows the last colon is no port number. -/
  | badPort
  /-- The host is not found. -/
  | lookup (error : LookupError)
deriving DecidableEq, Repr, Inhabited

/-- The wording of the error. -/
def AddressError.message : AddressError → String
  | noColon => "invalid socket address"
  | badPort => "invalid port value"
  | lookup error => error.message

/-- The port number written in decimal, which a plus may precede. -/
def portNumber? (s : List Char) : Option Nat := do
  let digits := if s.head? = some '+' then s.tail else s
  guard (!digits.isEmpty)
  let n ← Text.number? 10 digits
  if n < 65536 then some n else none

/-- What stands before and after the last colon of a text. -/
def splitAtLastColon? (s : List Char) : Option (List Char × List Char) :=
  if s.contains ':' then
    let back := s.reverse
    some ((back.dropWhile (· != ':')).tail.reverse, (back.takeWhile (· != ':')).reverse)
  else none

/-- Whether a host is an internet address in brackets. -/
def isBracketed (host : List Char) : Bool :=
  match host with
  | '[' :: rest => rest.getLast? == some ']' && isAddressV6 (String.ofList rest.dropLast)
  | _ => false

/-- Refuses an address without a port number, or whose host is not found. Nothing may precede the
port number that follows brackets. -/
def checkAddress (network : Network) (address : String) : Except AddressError Unit :=
  match splitAtLastColon? address.toList with
  | none => .error .noColon
  | some (host, port) =>
    if (portNumber? port).isNone then .error .badPort
    else if isBracketed host && port.head? != some '+' then .ok ()
    else (lookUp network (String.ofList host)).mapError .lookup

end ChatServer.Live
