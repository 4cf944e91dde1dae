/-!
# `Handshake`: the request that opens a connection

A connection opens with a request head: a request line, header lines and an empty line. As long as
the head is incomplete but can still become one, the connection waits. Clients that speak the
protocol open their connections outside this module, so a complete head is refused.
-/

namespace ChatServer.Live

/-- Whether a byte may stand in a method or in a header name. -/
def isTokenByte (b : UInt8) : Bool :=
  let c := Char.ofNat b.toNat
  c.isAlphanum || "!#$%&'*+-.^_|~".toList.contains c || b == 0x60

/-- Whether a byte may stand in the target of a request. -/
def isTargetByte (b : UInt8) : Bool := 0x21 ≤ b && b != 0x7F

/-- Whether a byte may stand in the value of a header. -/
def isFieldByte (b : UInt8) : Bool := b == 0x09 || (0x20 ≤ b && b != 0x7F)

/-- Whether some bytes are a request line or the start of one. -/
def opensRequestLine (line : List UInt8) : Bool :=
  let version := "HTTP/1.1".toUTF8.data.toList
  let rest := line.dropWhile isTokenByte
  match rest with
  | [] => true
  | 0x20 :: target =>
    rest.length < line.length &&
      match target.dropWhile isTargetByte with
      | [] => true
      | 0x20 :: v => v.isPrefixOf version || v == "HTTP/1.0".toUTF8.data.toList
      | _ => false
  | _ => false

/-- Whether some bytes are a header line or the start of one. -/
def opensHeaderLine (line : List UInt8) : Bool :=
  let rest := line.dropWhile isTokenByte
  match rest with
  | [] => true
  | 0x3A :: value => rest.length < line.length && value.all isFieldByte
  | _ => false

/-- The lines of some bytes, each without its end, and the start of the last one. -/
def splitLines (line : List UInt8) (lines : List (List UInt8)) :
    List UInt8 → List (List UInt8) × List UInt8
  | [] => (lines.reverse, line.reverse)
  | 0x0A :: rest =>
    let done := match line with
      | 0x0D :: l => l
      | l => l
    splitLines [] (done.reverse :: lines) rest
  | b :: rest => splitLines (b :: line) lines rest

/-- Whether a connection that sent these bytes waits for more of its request. -/
def awaitsRequest (bytes : List UInt8) : Bool :=
  let (whole, last) := splitLines [] [] bytes
  let lines := whole.dropWhile List.isEmpty
  let lastOpen := if last.getLast? = some 0x0D then last.dropLast else last
  match lines with
  | [] => opensRequestLine lastOpen
  | request :: headers =>
    opensRequestLine request && headers.all (fun l => !l.isEmpty && opensHeaderLine l) &&
      opensHeaderLine lastOpen

end ChatServer.Live
