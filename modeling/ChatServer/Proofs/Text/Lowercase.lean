import ChatServer.Text.Lowercase

/-!
# Texts in lower case

A character is in lower case if it is its own lower-case form wherever it stands. All characters of
a lower-case form are, because no run of the table leads into another one; so a text that was
lowered stays as it is. Lowering does not tell capital ASCII letters from small ones, not even next
to a sigma, and it neither adds nor removes a `#`.
-/

namespace ChatServer.Text

/-! ## The table -/

namespace CaseRun

/-- The number of the lower-case form of a character of a run. -/
def target (r : CaseRun) (n : Nat) : Nat := (n + r.shift).toNat

/-- Whether the lower-case forms of `r` reach into the range of `q`. -/
def overlaps (r q : CaseRun) : Bool :=
  Nat.ble q.first (r.target r.last) && Nat.ble (r.target r.first) q.last

/-- The lower-case forms of `r` are between the characters of `q`, of which only every second one
belongs to it. -/
def Interleaves (r q : CaseRun) : Prop :=
  q.step = 2 ∧ (r.step = 2 ∨ r.first = r.last) ∧ (r.target r.first + q.first) % 2 = 1

instance (r q : CaseRun) : Decidable (r.Interleaves q) := inferInstanceAs (Decidable (_ ∧ _ ∧ _))

/-- The lower-case forms are characters, and like the characters of the run they are above `#`. None
of them is U+0130. -/
structure Proper (r : CaseRun) : Prop where
  first : 0x23 < r.first
  target_first : 0x23 < r.target r.first
  isChar : r.target r.last < 0xD800 ∨ 0xDFFF < r.target r.first ∧ r.target r.last < 0x110000
  plain : r.target r.last < 0x130 ∨ 0x130 < r.target r.first

instance (r : CaseRun) : Decidable r.Proper :=
  decidable_of_iff (0x23 < r.first ∧ 0x23 < r.target r.first ∧
      (r.target r.last < 0xD800 ∨ 0xDFFF < r.target r.first ∧ r.target r.last < 0x110000) ∧
      (r.target r.last < 0x130 ∨ 0x130 < r.target r.first))
    ⟨fun ⟨h₁, h₂, h₃, h₄⟩ => ⟨h₁, h₂, h₃, h₄⟩, fun ⟨h₁, h₂, h₃, h₄⟩ => ⟨h₁, h₂, h₃, h₄⟩⟩

/-- Where the lower-case forms of a run reach into the range of another one, or of the run itself,
they miss its characters. -/
theorem all_interleave :
    caseRuns.all fun r => (caseRuns.filter r.overlaps).all fun q => decide (r.Interleaves q) := by
  decide +kernel

theorem all_proper : caseRuns.all fun r => decide r.Proper := by
  decide +kernel

variable {r q : CaseRun} {n : Nat}

theorem proper_of_mem (hr : r ∈ caseRuns) : r.Proper :=
  of_decide_eq_true (List.all_eq_true.1 all_proper r hr)

theorem covers_iff : r.covers n ↔ r.first ≤ n ∧ n ≤ r.last ∧ (n - r.first) % r.step = 0 := by
  simp [covers, and_assoc]

/-- Lower-case forms are in the same order as the characters. -/
theorem target_bounds (h : r.covers n) :
    r.target r.first ≤ r.target n ∧ r.target n ≤ r.target r.last := by
  obtain ⟨hfirst, hlast, -⟩ := covers_iff.1 h
  unfold target
  omega

/-- A proper run moves characters to characters. -/
theorem Proper.toNat_target (h : r.Proper) (hn : r.covers n) :
    (Char.ofNat (r.target n)).toNat = r.target n := by
  obtain ⟨hlow, hhigh⟩ := target_bounds hn
  have hvalid : (r.target n).isValidChar := by
    rcases h.isChar with hbelow | habove
    · exact .inl (by omega)
    · exact .inr ⟨by omega, by omega⟩
  rw [Char.ofNat, dif_pos hvalid]
  exact UInt32.toNat_ofNatLT

/-- No run leads into another one. -/
theorem not_covers_target (hr : r ∈ caseRuns) (hq : q ∈ caseRuns) (hn : r.covers n) :
    ¬q.covers (r.target n) := by
  intro htarget
  obtain ⟨hfirst, hlast, hstep⟩ := covers_iff.1 hn
  obtain ⟨hfirst', hlast', hstep'⟩ := covers_iff.1 htarget
  obtain ⟨hlow, hhigh⟩ := target_bounds hn
  have hoverlaps : r.overlaps q := by
    simp only [overlaps, Bool.and_eq_true, Nat.ble_eq]
    omega
  have hall := List.all_eq_true.1 all_interleave r hr
  have hinterleaves := List.all_eq_true.1 hall q (List.mem_filter.2 ⟨hq, hoverlaps⟩)
  obtain ⟨htwo, halike, hodd⟩ := of_decide_eq_true hinterleaves
  -- all lower-case forms of the run are odd distances away from the first character of `q`
  have heven : (n - r.first) % 2 = 0 := by
    rcases halike with hr | hr
    · rwa [hr] at hstep
    · omega
  have hpos := (proper_of_mem hr).target_first
  rw [htwo] at hstep'
  unfold target at *
  omega

end CaseRun

/-! ## Characters -/

variable {before after : List Char} {c d : Char}

/-- What the lower-case form of a character other than a sigma can be. -/
inductive Lowering (c : Char) : List Char → Prop
  | dotted (eq : c = '\u0130') : Lowering c ['i', '\u0307']
  | moved {r : CaseRun} (mem : r ∈ caseRuns) (covers : r.covers c.toNat) :
    Lowering c [Char.ofNat (r.target c.toNat)]
  | same (ne : c ≠ '\u0130') (uncovered : ∀ r ∈ caseRuns, ¬r.covers c.toNat) : Lowering c [c]

/-- What a character comes to is one of a few things. -/
theorem lowering (c : Char) : Lowering c (lowerChar c) := by
  unfold lowerChar
  split
  · next hdotted => exact .dotted hdotted
  · next hdotted =>
    split
    · next r hr =>
      have hcovers : r.covers c.toNat := List.find?_some (p := (CaseRun.covers · c.toNat)) hr
      exact .moved (List.mem_of_find?_eq_some hr) hcovers
    · next hnone => exact .same hdotted (List.find?_eq_none.1 hnone)

/-- The character is its own lower-case form wherever it stands. -/
def IsLower (c : Char) : Prop := ∀ before after, lowerAt before c after = [c]

/-- A character that comes to itself is in lower case, unless it is the one that depends on what is
around it. -/
theorem isLower_of_lowerChar (h : lowerChar c = [c]) (sigma : c ≠ 'Σ') : IsLower c := by
  intro before after
  rw [lowerAt, if_neg sigma, h]

theorem lowerChar_eq_self (dotted : c ≠ '\u0130')
    (uncovered : ∀ r ∈ caseRuns, ¬r.covers c.toNat) : lowerChar c = [c] := by
  rw [lowerChar, if_neg dotted, List.find?_eq_none.2 uncovered]

/-- The table has a run for the capital sigma, though what it says of it is never used. -/
theorem sigma_covered : ∃ r ∈ caseRuns, r.covers 'Σ'.toNat :=
  List.any_eq_true.1 (by decide +kernel : caseRuns.any (·.covers 'Σ'.toNat))

/-- What a character is moved to is a character that is not moved. -/
theorem isLower_moved {r : CaseRun} (mem : r ∈ caseRuns) (covers : r.covers c.toNat) :
    IsLower (Char.ofNat (r.target c.toNat)) := by
  have hproper := CaseRun.proper_of_mem mem
  have htoNat := hproper.toNat_target covers
  have huncovered : ∀ q ∈ caseRuns, ¬q.covers (Char.ofNat (r.target c.toNat)).toNat := by
    intro q hq
    rw [htoNat]
    exact CaseRun.not_covers_target mem hq covers
  -- the two characters with rules of their own are no images of the table
  refine isLower_of_lowerChar (lowerChar_eq_self ?_ huncovered) ?_
  · intro hdotted
    have hnumber : r.target c.toNat = 0x130 := htoNat.symm.trans (congrArg Char.toNat hdotted)
    have hbounds := CaseRun.target_bounds covers
    have hplain := hproper.plain
    omega
  · intro hsigma
    obtain ⟨q, hq, hcovers⟩ := sigma_covered
    rw [← hsigma] at hcovers
    exact huncovered q hq hcovers

/-- What a character comes to is in lower case. -/
theorem isLower_of_mem_lowerChar (h : d ∈ lowerChar c) (sigma : c ≠ 'Σ') : IsLower d := by
  have hlowering := lowering c
  generalize lowerChar c = form at h hlowering
  cases hlowering with
  | dotted eq =>
    obtain rfl | rfl : d = 'i' ∨ d = '\u0307' := by simpa using h
    · exact isLower_of_lowerChar (by decide +kernel) (by decide)
    · exact isLower_of_lowerChar (by decide +kernel) (by decide)
  | moved mem covers =>
    rw [List.mem_singleton.1 h]
    exact isLower_moved mem covers
  | same ne uncovered =>
    rw [List.mem_singleton.1 h]
    exact isLower_of_lowerChar (lowerChar_eq_self ne uncovered) sigma

/-- What a character comes to at its place in a text is in lower case. -/
theorem isLower_of_mem_lowerAt (h : d ∈ lowerAt before c after) : IsLower d := by
  unfold lowerAt at h
  split at h
  · rw [List.mem_singleton.1 h]
    split
    · exact isLower_of_lowerChar (by decide +kernel) (by decide)
    · exact isLower_of_lowerChar (by decide +kernel) (by decide)
  · next hsigma => exact isLower_of_mem_lowerChar h hsigma

/-! ## Texts -/

/-- The lower-case form of the characters that stand behind others, of which the nearest is the
first of `before`. -/
def lowerAfter (before : List Char) : List Char → List Char
  | [] => []
  | c :: after => lowerAt before c after ++ lowerAfter (c :: before) after

/-- A text is put in lower case from left to right, each character by what was before it and comes
after it. -/
theorem lowerAll_eq (before lowered cs : List Char) :
    lowerAll before lowered cs = lowered.reverse ++ lowerAfter before cs := by
  induction cs generalizing before lowered with
  | nil => simp [lowerAll, lowerAfter]
  | cons c after ih => simp [lowerAll, lowerAfter, ih]

theorem toList_lowercase (s : String) : (lowercase s).toList = lowerAfter [] s.toList := by
  rw [lowercase, String.toList_ofList, lowerAll_eq, List.reverse_nil, List.nil_append]

/-- All characters of a text that was put in lower case are in lower case. -/
theorem isLower_of_mem_lowerAfter {cs : List Char} (h : d ∈ lowerAfter before cs) : IsLower d := by
  induction cs generalizing before with
  | nil => cases h
  | cons c after ih =>
    rcases List.mem_append.1 h with h | h
    · exact isLower_of_mem_lowerAt h
    · exact ih h

/-- A text of such characters stays as it is. -/
theorem lowerAfter_eq_self {cs : List Char} (h : ∀ c ∈ cs, IsLower c) (before : List Char) :
    lowerAfter before cs = cs := by
  induction cs generalizing before with
  | nil => rfl
  | cons c after ih =>
    obtain ⟨hc, hafter⟩ := List.forall_mem_cons.1 h
    rw [lowerAfter, hc, ih hafter]
    rfl

/-- To put a text in lower case twice is to do it once. -/
theorem lowercase_lowercase (s : String) : lowercase (lowercase s) = lowercase s := by
  apply String.toList_injective
  rw [toList_lowercase, toList_lowercase]
  exact lowerAfter_eq_self (fun _ hd => isLower_of_mem_lowerAfter hd) []

/-! ## ASCII letters -/

/-- What does not tell a capital ASCII letter from the small one does not see their case at all. -/
theorem apply_toLower {α : Type} {f : Char → α}
    (h : ∀ n < 26, f (Char.ofNat (0x41 + n)).toLower = f (Char.ofNat (0x41 + n))) (c : Char) :
    f c.toLower = f c := by
  by_cases hupper : c.val ≥ 'A'.val ∧ c.val ≤ 'Z'.val
  · have hlow : 0x41 ≤ c.toNat := UInt32.le_iff_toNat_le.1 hupper.1
    have hhigh : c.toNat ≤ 0x5A := UInt32.le_iff_toNat_le.1 hupper.2
    have hletter := h (c.toNat - 0x41) (by omega)
    rwa [Nat.add_sub_cancel' hlow, Char.ofNat_toNat] at hletter
  · have hsame : c.toLower = c := dif_neg hupper
    rw [hsame]

@[simp]
theorem isCased_toLower (c : Char) : isCased c.toLower = isCased c :=
  apply_toLower (by decide +kernel) c

@[simp]
theorem isCaseIgnorable_toLower (c : Char) : isCaseIgnorable c.toLower = isCaseIgnorable c :=
  apply_toLower (by decide +kernel) c

/-- The case of ASCII letters does not matter for what they come to. -/
theorem lowerChar_toLower (c : Char) : lowerChar c.toLower = lowerChar c :=
  apply_toLower (by decide +kernel) c

theorem toLower_eq_sigma_iff : c.toLower = 'Σ' ↔ c = 'Σ' := by
  have hsigma : (c.toLower == 'Σ') = (c == 'Σ') :=
    apply_toLower (f := fun c => c == 'Σ') (by decide +kernel) c
  rw [← beq_iff_eq, hsigma, beq_iff_eq]

theorem meetsCased_map_toLower (cs : List Char) :
    meetsCased (cs.map Char.toLower) = meetsCased cs := by
  have hskip : isCaseIgnorable ∘ Char.toLower = isCaseIgnorable := funext isCaseIgnorable_toLower
  unfold meetsCased
  rw [List.dropWhile_map, hskip]
  cases cs.dropWhile isCaseIgnorable <;> simp

/-- A sigma is lowered alike whichever ASCII letters in the text are capital. -/
theorem lowerAt_toLower (before : List Char) (c : Char) (after : List Char) :
    lowerAt (before.map Char.toLower) c.toLower (after.map Char.toLower) =
      lowerAt before c after := by
  unfold lowerAt endsWord
  rw [meetsCased_map_toLower, meetsCased_map_toLower, lowerChar_toLower]
  by_cases hsigma : c = 'Σ'
  · rw [if_pos hsigma, if_pos (toLower_eq_sigma_iff.2 hsigma)]
  · rw [if_neg hsigma, if_neg (hsigma ∘ toLower_eq_sigma_iff.1)]

theorem lowerAfter_toLower (before cs : List Char) :
    lowerAfter (before.map Char.toLower) (cs.map Char.toLower) = lowerAfter before cs := by
  induction cs generalizing before with
  | nil => rfl
  | cons c after ih =>
    rw [List.map_cons, lowerAfter, lowerAt_toLower, ← List.map_cons, ih]
    rfl

/-- The case of ASCII letters does not matter for what a text is in lower case. -/
theorem lowercase_toLower (s : String) : lowercase s.toLower = lowercase s := by
  have htoList : s.toLower.toList = s.toList.map Char.toLower := String.toList_map
  apply String.toList_injective
  rw [toList_lowercase, toList_lowercase, htoList]
  exact lowerAfter_toLower [] s.toList

/-- Behind a capital letter a sigma ends the word as it does behind a small one. -/
example : lowercase "#AΣ" = "#aς" ∧ lowercase "#aΣ" = "#aς" ∧ lowercase "#AΣB" = "#aσb" := by
  decide +kernel

/-! ## The sign of a channel -/

/-- Nothing comes to a `#` but a `#`. -/
theorem hash_mem_lowerChar_iff : '#' ∈ lowerChar c ↔ c = '#' := by
  have hlowering := lowering c
  generalize lowerChar c = form at hlowering
  cases hlowering with
  | dotted eq =>
    rw [eq]
    decide
  | @moved r mem covers =>
    -- the character and its lower-case form are both above the sign
    have hproper := CaseRun.proper_of_mem mem
    have hfirst := hproper.first
    have htarget := hproper.target_first
    refine iff_of_false (fun hmem => ?_) ?_
    · have hnumber : (Char.ofNat (r.target c.toNat)).toNat = 0x23 :=
        congrArg Char.toNat (List.mem_singleton.1 hmem).symm
      rw [hproper.toNat_target covers] at hnumber
      have hbounds := CaseRun.target_bounds covers
      omega
    · rintro rfl
      have hcovers := (CaseRun.covers_iff.1 covers).1
      exact absurd hfirst (Nat.not_lt.2 hcovers)
  | same ne uncovered => rw [List.mem_singleton, eq_comm]

theorem hash_mem_lowerAt_iff : '#' ∈ lowerAt before c after ↔ c = '#' := by
  unfold lowerAt
  split
  · next hsigma =>
    refine iff_of_false ?_ (by rw [hsigma]; decide)
    rw [List.mem_singleton]
    split <;> decide
  · exact hash_mem_lowerChar_iff

theorem hash_mem_lowerAfter_iff {cs : List Char} : '#' ∈ lowerAfter before cs ↔ '#' ∈ cs := by
  induction cs generalizing before with
  | nil => rfl
  | cons c after ih =>
    rw [lowerAfter, List.mem_append, hash_mem_lowerAt_iff, ih, List.mem_cons, eq_comm]

/-- A text in lower case has a `#` exactly if the text has one. -/
theorem hash_mem_lowercase_iff {s : String} : '#' ∈ (lowercase s).toList ↔ '#' ∈ s.toList := by
  rw [toList_lowercase, hash_mem_lowerAfter_iff]

end ChatServer.Text
