import ChatServer.Proofs.Toml.Scan
import ChatServer.Toml.Document
import Mathlib.Data.List.Basic
import Mathlib.Data.Nat.Digits.Defs

/-!
# A document of one line

A line that puts a value under a name is a document with just this entry. The digits of a number are
such a value, for every number that fits into 64 bits with a sign.
-/

namespace ChatServer

namespace Text

/-! ## Digits and their number -/

/-- A decimal digit stands for its distance from zero. -/
theorem digit?_of_isDigit {c : Char} (h : c.isDigit) : digit? c = some (c.toNat - '0'.toNat) := by
  rw [Char.isDigit, Bool.and_eq_true, decide_eq_true_eq, decide_eq_true_eq] at h
  have hbounds : '0' ≤ c ∧ c ≤ '9' := h
  exact if_pos hbounds

theorem isDigit_ten {c : Char} (h : c.isDigit) : isDigit 10 c := by
  have hbounds : '0'.toNat ≤ c.toNat ∧ c.toNat ≤ '9'.toNat := Char.isDigit_iff_toNat.1 h
  have hlt : c.toNat - '0'.toNat < 10 := by
    have hzero : '0'.toNat = 48 := rfl
    have hnine : '9'.toNat = 57 := rfl
    omega
  rw [isDigit, digit?_of_isDigit h]
  exact decide_eq_true hlt

/-- A number is read off its digits. -/
theorem number?_eq_ofDigitChars {ds : List Char} (h : ∀ c ∈ ds, c.isDigit) :
    number? 10 ds = some (Nat.ofDigitChars 10 ds 0) := by
  unfold number? Nat.ofDigitChars
  -- both fold over the digits, from any number that was read before
  generalize 0 = n
  induction ds generalizing n with
  | nil => rfl
  | cons c ds ih =>
    obtain ⟨hc, hds⟩ := List.forall_mem_cons.1 h
    have hten : (digit? c).filter (· < 10) = some (c.toNat - '0'.toNat) := by
      have hdigit := isDigit_ten hc
      rw [isDigit, digit?_of_isDigit hc] at hdigit
      rw [digit?_of_isDigit hc]
      exact if_pos hdigit
    rw [List.foldlM_cons, hten]
    exact ih hds _

/-- The digits of a number read back. -/
theorem number?_toDigits (n : Nat) : number? 10 (Nat.toDigits 10 n) = some n := by
  rw [number?_eq_ofDigitChars fun c hc => Nat.isDigit_of_mem_toDigits (by decide) (by decide) hc,
    Nat.ofDigitChars_ten_toDigits]

/-- The digits of a number other than zero do not start with a zero. -/
theorem head?_toDigits {n : Nat} (h : 0 < n) : (Nat.toDigits 10 n).head? ≠ some '0' := by
  induction n using Nat.strong_induction_on with
  | _ n ih =>
    rcases lt_or_ge n 10 with hlt | hge
    · rw [Nat.toDigits_of_lt_base hlt]
      intro heq
      have hzero : n.digitChar = '0' := Option.some.inj heq
      have hdigit : n.digitChar.toNat = 48 + n := Nat.toNat_digitChar_of_lt_ten hlt
      have hcode : '0'.toNat = 48 := rfl
      rw [hzero] at hdigit
      omega
    · rw [Nat.toDigits_of_base_le (by decide) hge,
        List.head?_append_of_ne_nil _ Nat.toDigits_ne_nil]
      exact ih (n / 10) (by omega) (by omega)

end Text

namespace Toml

open Scan

/-! ## Blanks -/

theorem blanks_append {front rest : List Char} (passes : ∀ c ∈ front, isBlank c)
    (stops : ∀ c ∈ rest.head?, isBlank c = false) : blanks (front ++ rest) = some ((), rest) := by
  rw [blanks, bind_apply, stretch_append passes stops]
  rfl

/-- Where there is no blank nothing is passed over. -/
theorem blanks_of_head {rest : List Char} (stops : ∀ c ∈ rest.head?, isBlank c = false) :
    blanks rest = some ((), rest) := by
  show blanks ([] ++ rest) = some ((), rest)
  exact blanks_append nofun stops

/-- Spaces and tabs are the only blanks of a document. -/
theorem isBlank_of_ne {c : Char} (space : c ≠ ' ') (tab : c ≠ '\t') : isBlank c = false := by
  rw [isBlank, beq_false_of_ne space, beq_false_of_ne tab, Bool.or_false]

/-! ## Numbers -/

/-- Digits without a leading zero. -/
structure IsDecimal (ds : List Char) : Prop where
  digits : ∀ c ∈ ds, c.isDigit
  ne_nil : ds ≠ []
  lead : ds.length = 1 ∨ ds.head? ≠ some '0'

/-- The digits of a number are decimal, and lead with a zero only if this is all. -/
theorem isDecimal_toDigits (n : Nat) : IsDecimal (Nat.toDigits 10 n) where
  digits c hc := Nat.isDigit_of_mem_toDigits (by decide) (by decide) hc
  ne_nil := Nat.toDigits_ne_nil
  lead := by
    rcases Nat.eq_zero_or_pos n with rfl | hpos
    · exact .inl rfl
    · exact .inr (Text.head?_toDigits hpos)

variable {ds : List Char} {n : Nat}

/-- After a number of a fixed width comes what is behind it. -/
theorem rest_of_fixed {width low high : Nat} {rest : List Char}
    (h : fixed width low high ds = some (n, rest)) : rest = ds.drop width := by
  simp only [fixed, bind_apply, get_apply, guard_apply, set_apply, liftM_apply, pure_apply,
    Option.bind_some, Option.bind_eq_some_iff, Option.map_eq_some_iff,
    Option.ite_none_right_eq_some, Option.some.injEq] at h
  obtain ⟨_, ⟨-, rfl⟩, _, ⟨m, -, rfl⟩, _, ⟨-, rfl⟩, hpair⟩ := h
  exact (Prod.mk.inj hpair).2.symm

namespace IsDecimal

theorem not_mem {c : Char} (h : IsDecimal ds) (hc : c.isDigit = false) : c ∉ ds := fun hmem =>
  Bool.false_ne_true (hc.symm.trans (h.digits c hmem))

theorem ne {c d : Char} (h : IsDecimal (c :: ds)) (hd : d.isDigit = false) : c ≠ d :=
  fun heq => h.not_mem hd (heq ▸ List.mem_cons_self)

/-- A decimal does not begin with a blank. -/
theorem isBlank_head (h : IsDecimal ds) : ∀ c ∈ ds.head?, isBlank c = false := by
  obtain ⟨c, cs, rfl⟩ := List.exists_cons_of_ne_nil h.ne_nil
  intro d hd
  obtain rfl := Option.some.inj hd
  exact isBlank_of_ne (h.ne rfl) (h.ne rfl)

/-- Where a number is followed by a character that is no digit, plain digits do not do. -/
theorem fixed_char {width low high : Nat} {c : Char} {α : Type} {f : Nat → Unit → Scan α}
    (h : IsDecimal ds) (hc : c.isDigit = false) :
    (fixed width low high >>= fun m => char c >>= f m) ds = none := by
  rw [bind_apply, Option.bind_eq_none_iff]
  rintro ⟨m, rest⟩ hfixed
  have hrest : c ∉ rest := fun hmem =>
    h.not_mem hc (List.mem_of_mem_drop (rest_of_fixed hfixed ▸ hmem))
  rw [bind_apply, char_of_not_mem hrest]
  rfl

/-- A year is followed by a line and an hour by a colon. -/
theorem datetime (h : IsDecimal ds) : Toml.datetime ds = none := by
  have hday : calendarDay ds = none := h.fixed_char rfl
  have htime : timeOfDay ds = none := h.fixed_char rfl
  rw [Toml.datetime, orElse_apply, bind_apply, hday, htime]
  rfl

/-- A decimal has no sign. -/
theorem sign (h : IsDecimal ds) : Toml.sign ds = some (false, ds) := by
  cases ds with
  | nil => rfl
  | cons c ds =>
    have hminus : c ≠ '-' := h.ne rfl
    have hplus : c ≠ '+' := h.ne rfl
    simp [Toml.sign, peek, hminus, hplus]

/-- A decimal is read to its end. -/
theorem all_digits (h : IsDecimal ds) : Toml.digits 10 ds = some (ds, []) := by
  have hund : '_' ∉ ds := h.not_mem rfl
  have hall : ∀ c ∈ ds, (Text.isDigit 10 c || c == '_') = true := fun c hc => by
    rw [Text.isDigit_ten (h.digits c hc), Bool.true_or]
  have hne : ∀ c ∈ ds, (c != '_') = true := fun c hc => bne_iff_ne.2 fun heq => hund (heq ▸ hc)
  -- without an underscore there is none at an end and no two side by side
  have hwell : digits.separatedWell ds = true := by
    have hhead := hne _ (List.head_mem h.ne_nil)
    have hlast := hne _ (List.getLast_mem h.ne_nil)
    have hpairs : (ds.zip ds.tail).all (fun p => !(p.1 == '_' && p.2 == '_')) = true :=
      List.all_eq_true.2 fun p hp => by
        have hfirst := hne p.1 (List.of_mem_zip hp).1
        simp [bne_iff_ne.1 hfirst]
    rw [digits.separatedWell, List.head?_eq_some_head h.ne_nil,
      List.getLast?_eq_some_getLast h.ne_nil]
    simp only [Option.any_some, hhead, hlast, hpairs, Bool.and_true]
  have hfilter : ds.filter (· != '_') = ds :=
    List.filter_eq_self.2 hne
  unfold Toml.digits
  rw [bind_apply]
  have hstretch : stretch (fun c => Text.isDigit 10 c || c == '_') (ds ++ []) = some (ds, []) :=
    stretch_append hall nofun
  rw [List.append_nil] at hstretch
  rw [hstretch]
  simp only [Option.bind_some, bind_apply, guard_apply, if_pos hwell, hfilter, pure_apply]

theorem signedDigits (h : IsDecimal ds) : Toml.signedDigits ds = some ((false, ds), []) := by
  have hlead : (decide (ds.length = 1) || ds.head? != some '0') = true := by
    rw [Bool.or_eq_true, decide_eq_true_eq, bne_iff_ne]
    exact h.lead
  simp only [Toml.signedDigits, bind_apply, h.sign, h.all_digits, Option.bind_some, guard_apply,
    if_pos hlead, pure_apply]

/-- Neither a point nor an exponent follows. -/
theorem float (h : IsDecimal ds) : Toml.float ds = none := by
  have hdecimal : decimalFloat ds = none := by
    rw [decimalFloat, bind_apply, h.signedDigits]
    rfl
  have hspecial : specialFloat ds = none := by
    have hinf : chars ['i', 'n', 'f'] ds = none :=
      chars_of_not_mem List.mem_cons_self (h.not_mem rfl)
    have hnan : chars ['n', 'a', 'n'] ds = none :=
      chars_of_not_mem List.mem_cons_self (h.not_mem rfl)
    rw [specialFloat, bind_apply, h.sign, Option.bind_some, orElse_apply, hinf, hnan]
    rfl
  rw [Toml.float, orElse_apply, hdecimal, hspecial]
  rfl

/-- A decimal is no integer of another base. -/
theorem radixInteger (h : IsDecimal ds) (base : Nat) (mark : Char)
    (hmark : mark.isDigit = false) : Toml.radixInteger base mark ds = none := by
  have hchars : chars ['0', mark] ds = none :=
    chars_of_not_mem (List.mem_cons_of_mem _ List.mem_cons_self) (h.not_mem hmark)
  rw [Toml.radixInteger, bind_apply, hchars]
  rfl

theorem integer (h : IsDecimal ds) (hn : Text.number? 10 ds = some n) (hlt : n < integerBound) :
    Toml.integer ds = some ((n : Int), []) := by
  have hdecimal : decimalInteger ds = some ((n : Int), []) := by
    have hfits : (decide (n < integerBound) || (false && decide (n = integerBound))) = true := by
      rw [decide_eq_true hlt, Bool.true_or]
    rw [decimalInteger, bind_apply, h.signedDigits, Option.bind_some]
    simp only [bind_apply, liftM_apply, hn, Option.map_some, Option.bind_some, guard_apply,
      if_pos hfits, pure_apply]
    rfl
  simp only [Toml.integer, orElse_apply, h.radixInteger 16 'x' rfl, h.radixInteger 8 'o' rfl,
    h.radixInteger 2 'b' rfl, hdecimal]
  rfl

/-- A decimal is read as an integer, whatever else a value can be. -/
theorem value (h : IsDecimal ds) (hn : Text.number? 10 ds = some n) (hlt : n < integerBound)
    (levels : Nat) : Toml.value levels ds = some (.integer n, []) := by
  have hnumeral : numeral ds = some (.integer n, []) := by
    simp only [numeral, orElse_apply, bind_apply, h.datetime, h.float, h.integer hn hlt,
      Option.bind_none, Option.bind_some, pure_apply]
    rfl
  obtain ⟨c, cs, rfl⟩ := List.exists_cons_of_ne_nil h.ne_nil
  -- the first character is a digit, so no other kind of value is tried
  have hscalar : scalar (c :: cs) = some (.integer n, []) := by
    have hquote : c ≠ '"' := h.ne rfl
    have hapostrophe : c ≠ '\'' := h.ne rfl
    have htrue : c ≠ 't' := h.ne rfl
    have hfalse : c ≠ 'f' := h.ne rfl
    simp [scalar, peek, hquote, hapostrophe, htrue, hfalse, hnumeral]
  cases levels with
  | zero => exact hscalar
  | succ levels =>
    have harray : c ≠ '[' := h.ne rfl
    have hbraces : c ≠ '\x7b' := h.ne rfl
    simp [Toml.value, peek, harray, hbraces, hscalar]

end IsDecimal

/-! ## Names -/

/-- Characters that make a key without quotes. -/
structure IsBare (name : List Char) : Prop where
  bare : ∀ c ∈ name, isBareKeyChar c
  ne_nil : name ≠ []

variable {name rest : List Char}

namespace IsBare

theorem ne {c d : Char} (h : IsBare (c :: name)) (hd : isBareKeyChar d = false) : c ≠ d :=
  fun heq => Bool.false_ne_true (hd.symm.trans (heq ▸ h.bare c List.mem_cons_self))

theorem blanks (h : IsBare name) (rest : List Char) :
    Toml.blanks (name ++ rest) = some ((), name ++ rest) := by
  obtain ⟨c, cs, rfl⟩ := List.exists_cons_of_ne_nil h.ne_nil
  refine blanks_of_head fun d hd => ?_
  obtain rfl := Option.some.inj hd
  exact isBlank_of_ne (h.ne rfl) (h.ne rfl)

/-- A bare name is a key. -/
theorem simpleKey (h : IsBare name) (stops : ∀ c ∈ rest.head?, isBareKeyChar c = false) :
    Toml.simpleKey (name ++ rest) = some (String.ofList name, rest) := by
  have hstretch := stretch_append h.bare stops
  obtain ⟨c, cs, rfl⟩ := List.exists_cons_of_ne_nil h.ne_nil
  have hquote : c ≠ '"' := h.ne rfl
  have hapostrophe : c ≠ '\'' := h.ne rfl
  rw [List.cons_append] at hstretch ⊢
  simp [Toml.simpleKey, peek, hquote, hapostrophe, hstretch, -String.ofList_cons]

/-- A bare name in front of an equals sign is all of a key. -/
theorem key (h : IsBare name) (rest : List Char) :
    Toml.key (name ++ ' ' :: '=' :: rest) = some ([String.ofList name], '=' :: rest) := by
  have hname : Toml.simpleKey (name ++ ' ' :: '=' :: rest) =
      some (String.ofList name, ' ' :: '=' :: rest) :=
    h.simpleKey fun c hc => Option.some.inj hc ▸ rfl
  have hitem : (do Toml.blanks; let k ← Toml.simpleKey; Toml.blanks; pure k)
      (name ++ ' ' :: '=' :: rest) = some (String.ofList name, '=' :: rest) := by
    rw [bind_apply, h.blanks, Option.bind_some, bind_apply, hname]
    rfl
  rw [Toml.key, bind_apply, separated₁, bind_apply, hitem]
  rfl

/-- A name and what reads as a value make a pair. -/
theorem pair (h : IsBare name) {value : Scan Item} {v : Item} (read : value rest = some (v, []))
    (stops : ∀ c ∈ rest.head?, isBlank c = false) :
    Toml.pair value (name ++ ' ' :: '=' :: ' ' :: rest) = some (([String.ofList name], v), []) := by
  have hblank : Toml.blanks (' ' :: rest) = some ((), rest) := by
    show Toml.blanks ([' '] ++ rest) = some ((), rest)
    refine blanks_append (fun c hc => ?_) stops
    obtain rfl := List.mem_singleton.1 hc
    rfl
  rw [Toml.pair, bind_apply, h.key, Option.bind_some, bind_apply, char_cons_self, Option.bind_some,
    bind_apply, hblank, Option.bind_some, bind_apply, read]
  rfl

/-- A bare name, an equals sign and a value make a line. -/
theorem line (h : IsBare name) {v : Item} (read : value (nestingLimit - 1) rest = some (v, []))
    (stops : ∀ c ∈ rest.head?, isBlank c = false) :
    Toml.line (name ++ ' ' :: '=' :: ' ' :: rest) = some (.pair [String.ofList name] v, []) := by
  have hpair := h.pair read stops
  obtain ⟨c, cs, rfl⟩ := List.exists_cons_of_ne_nil h.ne_nil
  rw [Toml.line, bind_apply, h.blanks, Option.bind_some, bind_apply, get_apply, Option.bind_some]
  simp only [List.cons_append] at hpair ⊢
  -- the line is a pair, because its first character begins nothing else
  have hcomment : c ≠ '#' := h.ne rfl
  have hheader : c ≠ '[' := h.ne rfl
  have hnewline : c ≠ '\n' := h.ne rfl
  have hreturn : c ≠ '\x0d' := h.ne rfl
  have hrest : lineRest [] = some ((), []) := rfl
  simp [hcomment, hheader, hnewline, hreturn, hpair, hrest]

end IsBare

/-! ## The document -/

/-- A line with a setting is a document. -/
theorem parse_setting {name text : String} {v : Item} (h : IsBare name.toList)
    (read : value (nestingLimit - 1) text.toList = some (v, []))
    (stops : ∀ c ∈ text.toList.head?, isBlank c = false) :
    parse (name ++ " = " ++ text) = some [(name, v)] := by
  have htext :
      (name ++ " = " ++ text).toList = name.toList ++ ' ' :: '=' :: ' ' :: text.toList := by
    rw [String.toList_append, String.toList_append, List.append_assoc]
    rfl
  have hmany : many line (name.toList ++ ' ' :: '=' :: ' ' :: text.toList) =
      some ([.pair [name] v], []) := by
    have hline := h.line read stops
    rw [String.ofList_toList] at hline
    exact many_of_once (List.append_ne_nil_of_left_ne_nil h.ne_nil _) hline rfl
  -- the text does not start with a byte order mark
  have hmark : char '\uFEFF' (name.toList ++ ' ' :: '=' :: ' ' :: text.toList) = none := by
    obtain ⟨c, cs, hname⟩ := List.exists_cons_of_ne_nil h.ne_nil
    rw [hname] at h ⊢
    exact if_neg (h.ne rfl)
  have hlines : lines (name.toList ++ ' ' :: '=' :: ' ' :: text.toList) =
      some ([.pair [name] v], []) := by
    rw [lines, bind_apply, option_of_none hmark, Option.bind_some, bind_apply, hmany]
    rfl
  rw [parse, htext, hlines]
  rfl

/-- A document can set a bare name to any integer. -/
theorem parse_number {name : String} (h : IsBare name.toList) (hlt : n < integerBound) :
    parse (name ++ " = " ++ toString n) = some [(name, .integer n)] := by
  have hdigits : (toString n).toList = Nat.toDigits 10 n := by
    rw [Nat.toString_eq_ofList_toDigits, String.toList_ofList]
  have hdecimal := isDecimal_toDigits n
  rw [← hdigits] at hdecimal
  have hnumber : Text.number? 10 (toString n).toList = some n := by
    rw [hdigits, Text.number?_toDigits]
  exact parse_setting h (hdecimal.value hnumber hlt _) hdecimal.isBlank_head

end Toml

end ChatServer
