import ChatServer.Proofs.Wire.RoundTrip
import ChatServer.Text.IpAddress
import Mathlib.Data.Nat.Digits.Defs

/-!
# Texts of addresses are short

An address of version 4 has four bytes of at most three digits, one of version 6 eight groups of at
most five. So the text of an address is far from the limit that the wire has for texts.
-/

namespace ChatServer

/-- No character takes more than four bytes. -/
theorem length_encode_le (s : String) : (Utf8.encode s).length ≤ 4 * s.length := by
  have hchars : ∀ cs : List Char, (String.ofList cs).utf8ByteSize ≤ 4 * cs.length := by
    intro cs
    induction cs with
    | nil => simp
    | cons c cs ih =>
      have hc := c.utf8Size_le_four
      rw [String.ofList_cons, String.utf8ByteSize_append, String.utf8ByteSize_singleton,
        List.length_cons]
      omega
  have hs := hchars s.toList
  rwa [String.ofList_toList, String.length_toList] at hs

namespace Text

/-- Pieces of a limited length with a separator between them. -/
theorem length_intercalate_le (separator : String) {n : Nat} {pieces : List String}
    (h : ∀ piece ∈ pieces, piece.length ≤ n) :
    (separator.intercalate pieces).length ≤ pieces.length * (n + separator.length) := by
  induction pieces with
  | nil => simp
  | cons piece pieces ih =>
    obtain ⟨hpiece, h⟩ := List.forall_mem_cons.1 h
    have hrest := ih h
    rw [List.length_cons, Nat.succ_mul]
    cases pieces with
    | nil =>
      rw [String.intercalate_singleton]
      omega
    | cons next pieces =>
      rw [String.intercalate_cons_cons, String.length_append, String.length_append]
      omega

namespace IpAddress

/-- An address has four bytes, or eight groups. -/
def WellFormed : IpAddress → Prop
  | v4 octets => octets.length = 4
  | v6 groups => groups.length = 8

instance : DecidablePred WellFormed
  | v4 _ => inferInstanceAs (Decidable (_ = _))
  | v6 _ => inferInstanceAs (Decidable (_ = _))

/-- Bytes with dots in between take up to four characters each. -/
theorem length_dotted_le (octets : List UInt8) : (dotted octets).length ≤ octets.length * 4 := by
  have hoctet : ∀ piece ∈ octets.map fun b => toString b.toNat, piece.length ≤ 3 := by
    intro piece hpiece
    obtain ⟨b, -, rfl⟩ := List.mem_map.1 hpiece
    exact Nat.repr_length b.toNat 3 (by decide) (b.toNat_lt.trans (by decide))
  have h := length_intercalate_le "." hoctet
  rwa [List.length_map] at h

/-- Groups with colons in between take up to five characters each. -/
theorem length_colons_le (groups : List UInt16) : (colons groups).length ≤ groups.length * 5 := by
  have hgroup : ∀ piece ∈ groups.map hexText, piece.length ≤ 4 := by
    intro piece hpiece
    obtain ⟨n, -, rfl⟩ := List.mem_map.1 hpiece
    rw [hexText, String.length_ofList]
    exact Nat.toDigits_length 16 n.toNat 4 (by decide) (n.toNat_lt.trans_le (by decide))
  have h := length_intercalate_le ":" hgroup
  rwa [List.length_map] at h

/-- No address is longer than 42 characters. -/
theorem length_text_le {a : IpAddress} (h : a.WellFormed) : a.text.length ≤ 42 := by
  unfold text
  split
  · next octets =>
    have hdotted := length_dotted_le octets
    rw [show octets.length = 4 from h] at hdotted
    exact hdotted.trans (by decide)
  · next high low =>
    have hdotted := length_dotted_le
      [(high >>> 8).toUInt8, high.toUInt8, (low >>> 8).toUInt8, low.toUInt8]
    have hprefix : "::ffff:".length = 7 := rfl
    rw [String.length_append, hprefix]
    exact Nat.le_trans (Nat.add_le_add_left hdotted 7) (by simp)
  · next groups _ =>
    have hlength : groups.length = 8 := h
    -- both sides of the gap together have no more groups than the address
    have htake := length_colons_le (groups.take (longestZeros groups).1)
    have hdrop := length_colons_le
      (groups.drop ((longestZeros groups).1 + (longestZeros groups).2))
    rw [List.length_take] at htake
    rw [List.length_drop] at hdrop
    dsimp only
    split
    · exact (length_colons_le groups).trans (by omega)
    · have hcolons : "::".length = 2 := rfl
      rw [String.length_append, String.length_append, hcolons]
      omega

/-- Every address fits where a string is written. -/
theorem fitsOnWire_text {a : IpAddress} (h : a.WellFormed) : FitsOnWire a.text := by
  have hbytes := length_encode_le a.text
  have hlength := length_text_le h
  have hmax : 4 * 42 ≤ maxStringLength := by decide
  rw [FitsOnWire]
  omega

end IpAddress

end Text

end ChatServer
