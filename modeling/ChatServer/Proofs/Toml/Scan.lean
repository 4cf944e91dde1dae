import ChatServer.Toml.Scan

/-!
# What scans yield

A scan yields a property if whatever it reads has it, from any text. The property of a scan that is
made of others follows from theirs, and so a property of values needs to be looked at only where a
value is made.
-/

namespace ChatServer

namespace Toml

namespace Scan

variable {α β : Type} {s t : Scan α} {p : α → Prop}

/-- Whatever the scan reads has the property. -/
def Yields (s : Scan α) (p : α → Prop) : Prop := ∀ ⦃cs a rest⦄, s cs = some (a, rest) → p a

@[simp]
theorem bind_apply (s : Scan α) (f : α → Scan β) (cs : List Char) :
    (s >>= f) cs = (s cs).bind fun r => f r.1 r.2 := rfl

@[simp]
theorem map_apply (f : α → β) (s : Scan α) (cs : List Char) :
    (f <$> s) cs = (s cs).map fun r => (f r.1, r.2) := by
  cases h : s cs <;> simp [Functor.map, StateT.map, h]

@[simp]
theorem orElse_apply (s t : Scan α) (cs : List Char) : (s <|> t) cs = (s cs <|> t cs) := rfl

@[simp]
theorem pure_apply (a : α) (cs : List Char) : (pure a : Scan α) cs = some (a, cs) := rfl

@[simp]
theorem get_apply (cs : List Char) : (get : Scan (List Char)) cs = some (cs, cs) := rfl

@[simp]
theorem set_apply (rest cs : List Char) : (set rest : Scan Unit) cs = some ((), rest) := rfl

@[simp]
theorem guard_apply (c : Prop) [Decidable c] (cs : List Char) :
    (guard c : Scan Unit) cs = if c then some ((), cs) else none := by
  unfold guard
  split <;> rfl

@[simp]
theorem liftM_apply (o : Option α) (cs : List Char) :
    (liftM o : Scan α) cs = o.map fun a => (a, cs) := by
  cases o <;> rfl

theorem option_of_some {cs : List Char} {r : α × List Char} (h : s cs = some r) :
    option s cs = some (some r.1, r.2) := by
  rw [option, orElse_apply, map_apply, h]
  rfl

theorem option_of_none {cs : List Char} (h : s cs = none) : option s cs = some (none, cs) := by
  rw [option, orElse_apply, map_apply, h]
  rfl

/-- What succeeds just once is taken once. -/
theorem many_of_once {cs rest : List Char} {a : α} (nonempty : cs ≠ [])
    (once : s cs = some (a, rest)) (no_more : s rest = none) : many s cs = some ([a], rest) := by
  obtain ⟨c, cs, rfl⟩ := List.exists_cons_of_ne_nil nonempty
  have hlength : (c :: cs).length = cs.length + 1 := rfl
  rw [many, bind_apply, get_apply, Option.bind_some, hlength, repeated, bind_apply,
    option_of_some once, Option.bind_some]
  cases cs.length with
  | zero => rfl
  | succ n =>
    show repeated s (n + 1) [a] rest = _
    rw [repeated, bind_apply, option_of_none no_more]
    rfl

/-! ## Scans and properties -/

theorem yields_true (s : Scan α) : s.Yields fun _ => True := fun _ _ _ _ => trivial

theorem yields_pure {a : α} (h : p a) : (pure a : Scan α).Yields p := by
  intro cs b rest hread
  obtain ⟨rfl, -⟩ := Prod.mk.inj (Option.some.inj hread)
  exact h

/-- What comes second may rely on what was read first. -/
theorem Yields.bind {f : α → Scan β} {q : β → Prop} (h : s.Yields p)
    (next : ∀ a, p a → (f a).Yields q) : (s >>= f).Yields q := by
  intro cs b rest hread
  rw [bind_apply] at hread
  obtain ⟨⟨a, mid⟩, hfirst, hsecond⟩ := Option.bind_eq_some_iff.1 hread
  exact next a (h hfirst) hsecond

/-- What comes second need not rely on what was read first. -/
theorem Yields.after {f : α → Scan β} {q : β → Prop} (h : ∀ a, (f a).Yields q) :
    (s >>= f).Yields q :=
  (yields_true s).bind fun a _ => h a

/-- A scan that tries one thing and then another yields what both do. -/
theorem Yields.orElse (hs : s.Yields p) (ht : t.Yields p) : (s <|> t).Yields p := by
  intro cs a rest hread
  rw [orElse_apply] at hread
  cases hfirst : s cs with
  | none =>
    rw [hfirst] at hread
    exact ht hread
  | some r =>
    rw [hfirst] at hread
    obtain rfl := Option.some.inj hread
    exact hs hfirst

theorem Yields.map {f : α → β} {q : β → Prop} (h : s.Yields p) (maps : ∀ a, p a → q (f a)) :
    (f <$> s).Yields q :=
  h.bind fun a ha => yields_pure (maps a ha)

/-- What may be read has the property if it is read. -/
theorem Yields.option (h : s.Yields p) : (option s).Yields fun o => ∀ a ∈ o, p a := by
  refine Yields.orElse (h.map fun a ha b hb => ?_) (yields_pure fun b hb => nomatch hb)
  obtain rfl := Option.some.inj hb
  exact ha

/-- What is read again and again has the property each time. -/
theorem Yields.repeated (h : s.Yields p) (n : Nat) {taken : List α} (before : ∀ a ∈ taken, p a) :
    (repeated s n taken).Yields fun as => ∀ a ∈ as, p a := by
  have hreverse : (pure taken.reverse : Scan (List α)).Yields fun as => ∀ a ∈ as, p a :=
    yields_pure fun a ha => before a (List.mem_reverse.1 ha)
  induction n generalizing taken with
  | zero => exact hreverse
  | succ n ih =>
    refine h.option.bind fun o ho => ?_
    cases o with
    | none => exact hreverse
    | some a =>
      have htaken : ∀ b ∈ a :: taken, p b := List.forall_mem_cons.2 ⟨ho a rfl, before⟩
      exact ih htaken (yields_pure fun b hb => htaken b (List.mem_reverse.1 hb))

theorem Yields.many (h : s.Yields p) : (many s).Yields fun as => ∀ a ∈ as, p a :=
  Yields.after fun _ => h.repeated _ fun _ ha => nomatch ha

/-- All of several with separators have the property. -/
theorem Yields.separated₁ (h : s.Yields p) (separator : Scan Unit) :
    (separated₁ s separator).Yields fun as => ∀ a ∈ as, p a :=
  h.bind fun _ ha => (Yields.many (Yields.after fun _ => h)).bind fun _ hothers =>
    yields_pure (List.forall_mem_cons.2 ⟨ha, hothers⟩)

theorem Yields.separated (h : s.Yields p) (separator : Scan Unit) :
    (separated s separator).Yields fun as => ∀ a ∈ as, p a :=
  (h.separated₁ separator).orElse (yields_pure fun _ ha => nomatch ha)

/-- What comes after a guard may count on it. -/
theorem yields_guard {c : Prop} [Decidable c] : (guard c : Scan Unit).Yields fun _ => c := by
  intro cs a rest hread
  rw [guard_apply] at hread
  split at hread
  · assumption
  · cases hread

/-- What was worked out of something that was read has a property if success says so. -/
theorem yields_liftM {o : Option α} (h : ∀ a, o = some a → p a) : (liftM o : Scan α).Yields p := by
  intro cs a rest hread
  rw [liftM_apply] at hread
  obtain ⟨b, hb, hpair⟩ := Option.map_eq_some_iff.1 hread
  obtain ⟨rfl, -⟩ := Prod.mk.inj hpair
  exact h b hb

/-! ## Characters -/

@[simp]
theorem char_cons_self (c : Char) (cs : List Char) : char c (c :: cs) = some ((), cs) := if_pos rfl

/-- A character is read exactly where it comes next. -/
theorem char_eq_some_iff {c : Char} {cs : List Char} {r : Unit × List Char} :
    char c cs = some r ↔ cs = c :: r.2 := by
  cases cs with
  | nil => exact ⟨nofun, nofun⟩
  | cons d cs =>
    show (if d = c then some ((), cs) else none) = some r ↔ _
    rw [Option.ite_none_right_eq_some, List.cons.injEq, Option.some.injEq, Prod.ext_iff]
    exact and_congr_right fun _ => ⟨And.right, fun h => ⟨rfl, h⟩⟩

/-- A character that does not come at all is not read. -/
theorem char_of_not_mem {c : Char} {cs : List Char} (h : c ∉ cs) : char c cs = none := by
  rw [Option.eq_none_iff_forall_ne_some]
  intro r hread
  exact h (char_eq_some_iff.1 hread ▸ List.mem_cons_self)

theorem chars_of_not_mem {text cs : List Char} {c : Char} (hc : c ∈ text) (h : c ∉ cs) :
    chars text cs = none := by
  induction text generalizing cs with
  | nil => cases hc
  | cons d text ih =>
    rw [chars, bind_apply, Option.bind_eq_none_iff]
    intro r hread
    obtain rfl := char_eq_some_iff.1 hread
    obtain ⟨hne, hrest⟩ := not_or.1 (mt List.mem_cons.2 h)
    exact ih ((List.mem_cons.1 hc).resolve_left hne) hrest

/-- A stretch ends before the first character that does not pass. -/
theorem stretch_append {test : Char → Bool} {front rest : List Char} (passes : ∀ c ∈ front, test c)
    (stops : ∀ c ∈ rest.head?, test c = false) :
    stretch test (front ++ rest) = some (front, rest) := by
  have hrest : rest.takeWhile test = [] ∧ rest.dropWhile test = rest := by
    cases rest with
    | nil => exact ⟨rfl, rfl⟩
    | cons c rest =>
      have hc : ¬ test c := Bool.eq_false_iff.1 (stops c rfl)
      exact ⟨List.takeWhile_cons_of_neg hc, List.dropWhile_cons_of_neg hc⟩
  rw [stretch, List.takeWhile_append_of_pos passes, List.dropWhile_append_of_pos passes, hrest.1,
    hrest.2, List.append_nil]

end Scan

end Toml

end ChatServer
