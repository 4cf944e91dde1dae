import ChatServer.Proofs.Wire.RoundTrip
import Mathlib.Tactic.SplitIfs

/-!
# Texts that are cut between two characters

Writing steps back from the limit of the wire to a byte with which a character starts. What it
leaves of a text is `cut`: as many whole characters from the front as the limit has room for. In the
bytes of a text every character is one byte that starts it and some bytes that continue it, so
stepping back ends in front of the first character that does not fit.
-/

namespace ChatServer.Utf8

/-! ## Characters and their bytes -/

/-- The bytes that continue a character have the binary form `10xxxxxx`. -/
theorem isContinuation_iff (b : UInt8) : isContinuation b ↔ 128 ≤ b.toNat ∧ b.toNat < 192 := by
  have hall : ∀ n : Fin 256, isContinuation (UInt8.ofNat n.val) ↔ 128 ≤ n.val ∧ n.val < 192 := by
    decide +kernel
  have hb := hall ⟨b.toNat, b.toNat_lt⟩
  rwa [UInt8.ofNat_toNat] at hb

/-- A character is written as one byte that starts it, and bytes that continue it. -/
theorem exists_utf8EncodeChar_eq (c : Char) :
    ∃ first rest, String.utf8EncodeChar c = first :: rest ∧ isContinuation first = false ∧
      ∀ b ∈ rest, isContinuation b := by
  unfold String.utf8EncodeChar
  dsimp only
  split_ifs
  all_goals
    refine ⟨_, _, rfl, ?_, ?_⟩
    · rw [← Bool.not_eq_true, isContinuation_iff, UInt8.toNat_ofNat']
      omega
    · simp only [List.mem_cons, List.not_mem_nil, or_false, forall_eq_or_imp, forall_eq,
        isContinuation_iff, UInt8.toNat_ofNat']
      grind

/-- The bytes of several characters. -/
def encodeChars (cs : List Char) : List UInt8 := cs.flatMap String.utf8EncodeChar

theorem encode_ofList (cs : List Char) : encode (String.ofList cs) = encodeChars cs := by
  simp [encode, encodeChars, List.utf8Encode]

theorem encodeChars_append (before after : List Char) :
    encodeChars (before ++ after) = encodeChars before ++ encodeChars after :=
  List.flatMap_append

theorem encode_eq_encodeChars (s : String) : encode s = encodeChars s.toList := by
  rw [← encode_ofList, String.ofList_toList]

/-! ## Boundaries -/

/-- Behind the first character the boundaries are those of the other characters. -/
theorem isBoundary_cons (c : Char) (cs : List Char) (k : Nat) :
    isBoundary (encodeChars (c :: cs)) (c.utf8Size + k) = isBoundary (encodeChars cs) k := by
  have hpos := c.utf8Size_pos
  have hbytes : encodeChars (c :: cs) = String.utf8EncodeChar c ++ encodeChars cs := rfl
  have hlength := String.length_utf8EncodeChar c
  have hnext : (encodeChars (c :: cs))[c.utf8Size + k]? = (encodeChars cs)[k]? := by
    rw [hbytes, List.getElem?_append_right (by omega), hlength, Nat.add_sub_cancel_left]
  cases k with
  | zero =>
    -- the next character starts here, or the text ends
    unfold isBoundary
    rw [hnext]
    cases cs with
    | nil => simp [encodeChars]
    | cons d cs =>
      obtain ⟨first, rest, hd, hfirst, -⟩ := exists_utf8EncodeChar_eq d
      have hhead : (encodeChars (d :: cs))[0]? = some first := by
        rw [encodeChars, List.flatMap_cons, hd]
        rfl
      simp [hhead, hfirst]
  | succ k =>
    unfold isBoundary
    rw [hnext, hbytes, List.length_append, hlength]
    cases (encodeChars cs)[k + 1]? with
    | none =>
      rw [Bool.eq_iff_iff]
      simp only [Bool.or_eq_true, beq_iff_eq]
      omega
    | some b => simp

/-- There is no boundary inside a character. -/
theorem isBoundary_inside {c : Char} {n : Nat} (pos : 0 < n) (lt : n < c.utf8Size)
    (cs : List Char) : isBoundary (encodeChars (c :: cs)) n = false := by
  obtain ⟨first, rest, hc, -, hrest⟩ := exists_utf8EncodeChar_eq c
  have hlength := String.length_utf8EncodeChar c
  rw [hc, List.length_cons] at hlength
  obtain ⟨m, rfl⟩ : ∃ m, n = m + 1 := ⟨n - 1, by omega⟩
  have hm : m < rest.length := by omega
  have hbyte : (encodeChars (c :: cs))[m + 1]? = some rest[m] := by
    rw [encodeChars, List.flatMap_cons, hc, List.cons_append, List.getElem?_cons_succ,
      List.getElem?_append_left hm, List.getElem?_eq_getElem hm]
  rw [isBoundary, hbyte]
  simp [hrest rest[m] (List.getElem_mem hm)]

/-- Stepping back inside the first character ends at the front. -/
theorem floorBoundary_inside {c : Char} {n : Nat} (lt : n < c.utf8Size) (cs : List Char) :
    floorBoundary (encodeChars (c :: cs)) n = 0 := by
  induction n with
  | zero => rfl
  | succ n ih =>
    have hnot : ¬isBoundary (encodeChars (c :: cs)) (n + 1) := by
      rw [isBoundary_inside (Nat.succ_pos n) lt]
      exact Bool.false_ne_true
    rw [floorBoundary, if_neg hnot]
    exact ih (Nat.lt_of_succ_lt lt)

/-- Stepping back from behind the first character never goes past its end. -/
theorem floorBoundary_cons (c : Char) (cs : List Char) (k : Nat) :
    floorBoundary (encodeChars (c :: cs)) (c.utf8Size + k) =
      c.utf8Size + floorBoundary (encodeChars cs) k := by
  induction k with
  | zero =>
    have hboundary : isBoundary (encodeChars (c :: cs)) c.utf8Size :=
      (isBoundary_cons c cs 0).trans rfl
    obtain ⟨m, hm⟩ := Nat.exists_eq_succ_of_ne_zero c.utf8Size_pos.ne'
    rw [hm] at hboundary
    rw [Nat.add_zero, hm]
    exact if_pos hboundary
  | succ k ih =>
    rw [← Nat.add_assoc, floorBoundary, floorBoundary, Nat.add_assoc, isBoundary_cons]
    split
    · rfl
    · exact ih

/-! ## The characters that fit -/

/-- As many whole characters from the front as fit into `limit` bytes. -/
def fitting : (limit : Nat) → List Char → List Char
  | _, [] => []
  | limit, c :: cs =>
    if c.utf8Size ≤ limit then c :: fitting (limit - c.utf8Size) cs else []

/-- The characters that fit are a beginning of all. -/
theorem fitting_prefix (limit : Nat) (cs : List Char) : fitting limit cs <+: cs := by
  induction cs generalizing limit with
  | nil => exact List.nil_prefix
  | cons c cs ih =>
    rw [fitting]
    split
    · exact List.cons_prefix_cons.2 ⟨rfl, ih _⟩
    · exact List.nil_prefix

theorem length_encodeChars_cons (c : Char) (cs : List Char) :
    (encodeChars (c :: cs)).length = c.utf8Size + (encodeChars cs).length := by
  rw [encodeChars, List.flatMap_cons, List.length_append, String.length_utf8EncodeChar]
  rfl

theorem length_fitting_le (limit : Nat) (cs : List Char) :
    (encodeChars (fitting limit cs)).length ≤ limit := by
  induction cs generalizing limit with
  | nil => exact Nat.zero_le limit
  | cons c cs ih =>
    rw [fitting]
    split
    · have hrest := ih (limit - c.utf8Size)
      rw [length_encodeChars_cons]
      omega
    · exact Nat.zero_le limit

/-- No other beginning that fits has more characters. -/
theorem prefix_fitting {limit : Nat} {cs front : List Char} (beginning : front <+: cs)
    (fits : (encodeChars front).length ≤ limit) : front <+: fitting limit cs := by
  induction cs generalizing limit front with
  | nil => exact beginning
  | cons c cs ih =>
    cases front with
    | nil => exact List.nil_prefix
    | cons d front =>
      obtain ⟨rfl, hfront⟩ := List.cons_prefix_cons.1 beginning
      rw [length_encodeChars_cons] at fits
      have hd : d.utf8Size ≤ limit := by omega
      rw [fitting, if_pos hd]
      exact List.cons_prefix_cons.2 ⟨rfl, ih hfront (by omega)⟩

/-- Stepping back from the limit ends behind the characters that fit. -/
theorem floorBoundary_eq (limit : Nat) (cs : List Char) :
    floorBoundary (encodeChars cs) (min (encodeChars cs).length limit) =
      (encodeChars (fitting limit cs)).length := by
  induction cs generalizing limit with
  | nil => rfl
  | cons c cs ih =>
    rw [length_encodeChars_cons, fitting]
    split
    · next hc =>
      have hmin : min (c.utf8Size + (encodeChars cs).length) limit =
          c.utf8Size + min (encodeChars cs).length (limit - c.utf8Size) := by omega
      rw [hmin, floorBoundary_cons, ih, length_encodeChars_cons]
    · next hc =>
      have hinside : min (c.utf8Size + (encodeChars cs).length) limit < c.utf8Size := by omega
      rw [floorBoundary_inside hinside]
      rfl

/-! ## Cut texts -/

/-- A text, cut to the whole characters that fit into `limit` bytes. -/
def cut (limit : Nat) (s : String) : String := String.ofList (fitting limit s.toList)

/-- Of all beginnings of a text, in whole characters, that have at most `limit` bytes, `t` is the
longest. -/
structure IsLongestBeginning (limit : Nat) (s t : String) : Prop where
  beginning : t.toList <+: s.toList
  length_le : (encode t).length ≤ limit
  longest : ∀ u : String, u.toList <+: s.toList → (encode u).length ≤ limit → u.toList <+: t.toList

/-- A cut leaves the longest beginning that fits. -/
theorem isLongestBeginning_cut (limit : Nat) (s : String) :
    IsLongestBeginning limit s (cut limit s) where
  beginning := by
    rw [cut, String.toList_ofList]
    exact fitting_prefix limit s.toList
  length_le := by
    rw [cut, encode_ofList]
    exact length_fitting_le limit s.toList
  longest u hu hlength := by
    rw [encode_eq_encodeChars] at hlength
    rw [cut, String.toList_ofList]
    exact prefix_fitting hu hlength

/-- Nothing is cut off a text that fits. -/
theorem IsLongestBeginning.eq_of_le {limit : Nat} {s t : String} (h : IsLongestBeginning limit s t)
    (fits : (encode s).length ≤ limit) : t = s := by
  have hall := h.longest s List.prefix_rfl fits
  exact String.toList_inj.1 (h.beginning.eq_of_length_le hall.length_le)

/-- What writing leaves of a text are the whole characters that fit. -/
theorem truncate_eq (limit : Nat) (s : String) : truncate limit s = encode (cut limit s) := by
  obtain ⟨rest, hrest⟩ := fitting_prefix limit s.toList
  have hbytes : encodeChars s.toList =
      encodeChars (fitting limit s.toList) ++ encodeChars rest := by
    rw [← encodeChars_append, hrest]
  rw [truncate, cut, encode_ofList, encode_eq_encodeChars, floorBoundary_eq, hbytes, List.take_left]

end ChatServer.Utf8
