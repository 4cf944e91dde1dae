import ChatServer.Proofs.Wire.Queue
import Mathlib.Order.Bounds.Defs

/-!
# The last boundary that fits

Writing a text that is too long looks for a place to cut it: from the limit it goes back, byte by
byte, to the nearest boundary. `Search` is this search with its steps counted. The boundaries are
the ends of the beginnings of the text in whole characters, and no character has more than four
bytes, so the search is over after three steps and what is cut off is less than a character.
-/

namespace ChatServer.Utf8

/-- The search that starts at a place takes this many steps back and stops at a boundary. Only from
behind another byte is there a step back. -/
inductive Search (bytes : List UInt8) : (start steps stop : Nat) → Prop where
  | found {n : Nat} (boundary : isBoundary bytes n) : Search bytes n 0 n
  | back {n steps stop : Nat} (inside : isBoundary bytes (n + 1) = false)
      (rest : Search bytes n steps stop) : Search bytes (n + 1) (steps + 1) stop

/-- A place with whole characters of the text before it. -/
def IsCharBoundary (s : String) (n : Nat) : Prop :=
  ∃ front : String, front.toList <+: s.toList ∧ (encode front).length = n

variable {bytes : List UInt8} {n m start steps stop : Nat}

/-! ## Searches in any bytes -/

/-- Every search comes to an end. -/
theorem search_floorBoundary (bytes : List UInt8) (n : Nat) :
    ∃ steps, Search bytes n steps (floorBoundary bytes n) := by
  induction n with
  | zero => exact ⟨0, .found rfl⟩
  | succ n ih =>
    rw [floorBoundary]
    split
    · next h => exact ⟨0, .found h⟩
    · next h =>
      obtain ⟨steps, hsteps⟩ := ih
      exact ⟨steps + 1, .back (Bool.eq_false_iff.2 h) hsteps⟩

namespace Search

/-- Each step goes back by one byte. -/
theorem start_eq (h : Search bytes start steps stop) : start = stop + steps := by
  induction h with
  | found boundary => rfl
  | back inside rest ih => omega

/-- A search stops at a boundary. -/
theorem isBoundary_stop (h : Search bytes start steps stop) : isBoundary bytes stop := by
  induction h with
  | found boundary => exact boundary
  | back inside rest ih => exact ih

/-- No boundary is passed on the way. -/
theorem le_stop (h : Search bytes start steps stop) (le : n ≤ start)
    (boundary : isBoundary bytes n) : n ≤ stop := by
  induction h with
  | found _ => exact le
  | @back k steps stop inside rest ih =>
    have hne : n ≠ k + 1 := by
      rintro rfl
      rw [inside] at boundary
      cases boundary
    exact ih (by omega)

end Search

/-! ## Searches in the bytes of a text -/

/-- The boundaries are the ends of the beginnings of a text. -/
theorem isBoundary_encodeChars_iff (cs : List Char) (n : Nat) :
    isBoundary (encodeChars cs) n ↔ ∃ front, front <+: cs ∧ (encodeChars front).length = n := by
  induction cs generalizing n with
  | nil =>
    have hempty : isBoundary (encodeChars []) n ↔ n = 0 := by simp [isBoundary, encodeChars]
    rw [hempty]
    constructor
    · rintro rfl
      exact ⟨[], List.nil_prefix, rfl⟩
    · rintro ⟨front, hfront, rfl⟩
      rw [List.prefix_nil.1 hfront]
      rfl
  | cons c cs ih =>
    have hpos := c.utf8Size_pos
    -- a beginning is empty, or holds all of the first character
    have hcons : (∃ front, front <+: c :: cs ∧ (encodeChars front).length = n) ↔
        n = 0 ∨ ∃ front, front <+: cs ∧ c.utf8Size + (encodeChars front).length = n := by
      constructor
      · rintro ⟨front, hfront, rfl⟩
        cases front with
        | nil => exact .inl rfl
        | cons d front =>
          obtain ⟨rfl, hrest⟩ := List.cons_prefix_cons.1 hfront
          exact .inr ⟨front, hrest, (length_encodeChars_cons d front).symm⟩
      · rintro (rfl | ⟨front, hfront, rfl⟩)
        · exact ⟨[], List.nil_prefix, rfl⟩
        · exact ⟨c :: front, List.cons_prefix_cons.2 ⟨rfl, hfront⟩,
            length_encodeChars_cons c front⟩
    rw [hcons]
    by_cases hn : n < c.utf8Size
    · rcases Nat.eq_zero_or_pos n with rfl | hn0
      · exact iff_of_true rfl (.inl rfl)
      · rw [isBoundary_inside hn0 hn]
        refine iff_of_false Bool.false_ne_true ?_
        rintro (hzero | ⟨front, -, hlength⟩) <;> omega
    · obtain ⟨k, rfl⟩ := Nat.exists_eq_add_of_le (Nat.le_of_not_lt hn)
      rw [isBoundary_cons, ih, or_iff_right (by omega)]
      simp

/-- From anywhere in a text a boundary is at most three bytes back. -/
theorem le_floorBoundary_add (cs : List Char) (le : n ≤ (encodeChars cs).length) :
    n ≤ floorBoundary (encodeChars cs) n + 3 := by
  induction cs generalizing n with
  | nil =>
    have hzero : (encodeChars []).length = 0 := rfl
    omega
  | cons c cs ih =>
    have hfour := c.utf8Size_le_four
    -- the offset lies within the first character, or in one of the rest
    by_cases hn : n < c.utf8Size
    · rw [floorBoundary_inside hn]
      omega
    · obtain ⟨k, rfl⟩ := Nat.exists_eq_add_of_le (Nat.le_of_not_lt hn)
      rw [length_encodeChars_cons] at le
      rw [floorBoundary_cons]
      have hk := ih (n := k) (by omega)
      omega

/-- In the bytes of a text a search takes three steps at most. -/
theorem search_encode (s : String) (le : n ≤ (encode s).length) :
    ∃ steps ≤ 3, Search (encode s) n steps (floorBoundary (encode s) n) := by
  obtain ⟨steps, hsearch⟩ := search_floorBoundary (encode s) n
  refine ⟨steps, ?_, hsearch⟩
  rw [encode_eq_encodeChars] at le hsearch
  have hback := le_floorBoundary_add s.toList le
  have hstart := hsearch.start_eq
  omega

/-- The boundaries among the bytes of a text are those between its characters. -/
theorem isBoundary_encode_iff (s : String) (n : Nat) :
    isBoundary (encode s) n ↔ IsCharBoundary s n := by
  rw [encode_eq_encodeChars, isBoundary_encodeChars_iff]
  constructor
  · rintro ⟨front, hfront, hlength⟩
    exact ⟨String.ofList front, by rwa [String.toList_ofList], by rwa [encode_ofList]⟩
  · rintro ⟨front, hfront, hlength⟩
    exact ⟨front.toList, hfront, by rwa [← encode_eq_encodeChars]⟩

/-- Where the search stops is the last boundary that it could have stopped at. -/
theorem isGreatest_floorBoundary (s : String) (start : Nat) :
    IsGreatest {n | n ≤ start ∧ IsCharBoundary s n} (floorBoundary (encode s) start) := by
  obtain ⟨steps, hsearch⟩ := search_floorBoundary (encode s) start
  refine ⟨⟨?_, (isBoundary_encode_iff s _).1 hsearch.isBoundary_stop⟩, ?_⟩
  · have hstart := hsearch.start_eq
    omega
  · rintro n ⟨hle, hboundary⟩
    exact hsearch.le_stop hle ((isBoundary_encode_iff s n).2 hboundary)

/-! ## What is written -/

/-- The search for the place to cut stops at the end of what is left. -/
theorem length_cut (limit : Nat) (s : String) :
    (encode (cut limit s)).length =
      floorBoundary (encode s) (min (encode s).length limit) := by
  rw [cut, encode_ofList, encode_eq_encodeChars s, floorBoundary_eq]

/-- A text is cut exactly if its bytes are more than the limit. -/
theorem cut_eq_self_iff {limit : Nat} {s : String} :
    cut limit s = s ↔ (encode s).length ≤ limit := by
  constructor
  · intro h
    rw [← h]
    exact (isLongestBeginning_cut limit s).length_le
  · exact (isLongestBeginning_cut limit s).eq_of_le

end ChatServer.Utf8

namespace ChatServer

/-- Writing a text looks for the place to cut it by at most three steps back from its end or from
the limit, and stops at the last place there that has whole characters before it. What is written
are the bytes of the longest beginning that fits. That is the whole text if it fits, and else no
more than three bytes are missing to the limit. Reading gives back this beginning, and writing it
again gives the same bytes. -/
theorem written_up_to_last_boundary (s : String) :
    let bytes := Utf8.encode s
    let start := min bytes.length maxStringLength
    let stop := Utf8.floorBoundary bytes start
    (∃ steps ≤ 3, Utf8.Search bytes start steps stop) ∧
    IsGreatest {n | n ≤ start ∧ Utf8.IsCharBoundary s n} stop ∧
    ∃ t : String, Utf8.IsLongestBeginning 65536 s t ∧ bytes.take stop = Utf8.encode t ∧
      (t = s ↔ bytes.length ≤ 65536) ∧
      (65536 < bytes.length → 65532 < (Utf8.encode t).length) ∧
      (∀ p : Payload, p.write .string s =
        ⟨p.consumed, p.unread ++
          ValueType.string.tag :: (littleEndian 4 (Utf8.encode t).length ++ Utf8.encode t)⟩) ∧
      (∀ p : Payload, p.write .string t = p.write .string s) ∧
      ∀ consumed rest : List UInt8,
        (⟨consumed, Value.encode ⟨.string, s⟩ ++ rest⟩ : Payload).read .string =
          .ok (t, ⟨consumed ++ Value.encode ⟨.string, s⟩, rest⟩) := by
  intro bytes start stop
  let t := Utf8.cut maxStringLength s
  have hsearch : ∃ steps ≤ 3, Utf8.Search bytes start steps stop :=
    Utf8.search_encode s (Nat.min_le_left bytes.length maxStringLength)
  have hstop : (Utf8.encode t).length = stop := Utf8.length_cut maxStringLength s
  have hagain : Value.encode ⟨.string, t⟩ = Value.encode ⟨.string, s⟩ :=
    Value.encode_trimmed ⟨.string, s⟩
  refine ⟨hsearch, Utf8.isGreatest_floorBoundary s start, t,
    Utf8.isLongestBeginning_cut maxStringLength s, Utf8.truncate_eq maxStringLength s,
    Utf8.cut_eq_self_iff, ?_, fun p => ?_, fun p => ?_, fun consumed rest => ?_⟩
  · intro long
    -- three steps back from 65536 at the most
    obtain ⟨steps, hsteps, hback⟩ := hsearch
    have hstart : start = 65536 := Nat.min_eq_right (Nat.le_of_lt long)
    have hlength := hback.start_eq
    omega
  · simp only [Payload.write, Value.encode, Value.encodeBody, Utf8.truncate_eq]
    rfl
  · simp only [Payload.write, hagain]
  · have hread : (⟨consumed, Value.encode ⟨.string, t⟩ ++ rest⟩ : Payload).read .string =
        .ok (t, ⟨consumed ++ Value.encode ⟨.string, t⟩, rest⟩) :=
      Payload.read_of_unread (Value.fits_trimmed ⟨.string, s⟩) rfl
    rwa [hagain] at hread

end ChatServer
