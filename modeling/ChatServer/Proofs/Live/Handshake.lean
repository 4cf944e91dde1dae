import ChatServer.Proofs.Live.Machine

/-!
# Requests that arrive in pieces

A connection waits for more of its request as long as what came can still become one. Bytes that can
become a request could do so before the last of them came (`awaitsRequest_of_append`). So it makes
no difference into which pieces a client cuts what it sends before its connection is open.
-/

namespace ChatServer

namespace Live

/-! ## Lines -/

/-- A line that is not complete, apart from a return at its end, which may belong to the end of the
line. -/
def withoutReturn (line : List UInt8) : List UInt8 :=
  if line.getLast? = some 0x0D then line.dropLast else line

theorem withoutReturn_concat_return (line : List UInt8) :
    withoutReturn (line ++ [0x0D]) = line := by
  rw [withoutReturn, List.getLast?_concat, if_pos rfl, List.dropLast_concat]

theorem withoutReturn_concat {b : UInt8} (h : b ≠ 0x0D) (line : List UInt8) :
    withoutReturn (line ++ [b]) = line ++ [b] := by
  rw [withoutReturn, List.getLast?_concat, if_neg fun heq => h (Option.some.inj heq)]

theorem withoutReturn_prefix_self (line : List UInt8) : withoutReturn line <+: line := by
  unfold withoutReturn
  split
  · exact List.dropLast_prefix line
  · exact List.prefix_rfl

/-- One more byte leaves the start of the line as it is. -/
theorem withoutReturn_prefix_concat (line : List UInt8) (b : UInt8) :
    withoutReturn line <+: withoutReturn (line ++ [b]) := by
  by_cases hb : b = 0x0D
  · rw [hb, withoutReturn_concat_return]
    exact withoutReturn_prefix_self line
  · rw [withoutReturn_concat hb]
    exact (withoutReturn_prefix_self line).trans (List.prefix_append _ _)

/-- An end of line ends the line and is not part of it. -/
theorem splitLines_end (line : List UInt8) (lines : List (List UInt8)) (rest : List UInt8) :
    splitLines line lines (0x0A :: rest) =
      splitLines [] (withoutReturn line.reverse :: lines) rest := by
  cases line with
  | nil => rfl
  | cons b line =>
    rw [List.reverse_cons]
    by_cases hb : b = 0x0D
    · rw [hb, withoutReturn_concat_return]
      rfl
    · rw [withoutReturn_concat hb]
      simp [splitLines, hb]

/-- Any other byte belongs to the line. -/
theorem splitLines_byte {b : UInt8} (h : b ≠ 0x0A) (line : List UInt8) (lines : List (List UInt8))
    (rest : List UInt8) :
    splitLines line lines (b :: rest) = splitLines (b :: line) lines rest := by
  simp [splitLines]

/-- To split some bytes and then some more is to split them all. -/
theorem splitLines_append (xs ys line : List UInt8) (lines : List (List UInt8)) :
    splitLines line lines (xs ++ ys) =
      splitLines (splitLines line lines xs).2.reverse (splitLines line lines xs).1.reverse ys := by
  induction xs generalizing line lines with
  | nil => simp only [splitLines, List.nil_append, List.reverse_reverse]
  | cons b xs ih =>
    rw [List.cons_append]
    by_cases hb : b = 0x0A
    · rw [hb, splitLines_end, splitLines_end, ih]
    · rw [splitLines_byte hb, splitLines_byte hb, ih]

/-- A byte ends the last line, or belongs to it. -/
theorem splitLines_concat (xs : List UInt8) (b : UInt8) :
    splitLines [] [] (xs ++ [b]) =
      if b = 0x0A then
        ((splitLines [] [] xs).1 ++ [withoutReturn (splitLines [] [] xs).2], [])
      else ((splitLines [] [] xs).1, (splitLines [] [] xs).2 ++ [b]) := by
  rw [splitLines_append]
  split
  · next hb =>
    rw [hb, splitLines_end, List.reverse_reverse, splitLines, List.reverse_cons,
      List.reverse_reverse]
    rfl
  · next hb =>
    rw [splitLines_byte hb, splitLines, List.reverse_cons, List.reverse_reverse,
      List.reverse_reverse]

/-! ## Beginnings -/

/-- What comes after the bytes of one kind comes there in a longer line too. -/
theorem dropWhile_append_of_cons {p : UInt8 → Bool} {xs rest : List UInt8} {b : UInt8}
    (h : xs.dropWhile p = b :: rest) (ys : List UInt8) :
    (xs ++ ys).dropWhile p = b :: (rest ++ ys) := by
  rw [List.dropWhile_append, h]
  rfl

/-- A line that goes beyond a name is a header line if a colon and a value come next. -/
theorem opensHeaderLine_iff {line value : List UInt8} {b : UInt8}
    (h : line.dropWhile isTokenByte = b :: value) :
    opensHeaderLine line ↔
      b = 0x3A ∧ (b :: value).length < line.length ∧ value.all isFieldByte := by
  rw [opensHeaderLine, h]
  by_cases hb : b = 0x3A
  · rw [hb]
    simp
  · simp [hb]

/-- The beginning of a header line is the start of one. -/
theorem opensHeaderLine_of_append {xs ys : List UInt8} (h : opensHeaderLine (xs ++ ys)) :
    opensHeaderLine xs := by
  cases hrest : xs.dropWhile isTokenByte with
  | nil => rw [opensHeaderLine, hrest]
  | cons b value =>
    obtain ⟨hb, hlength, hall⟩ := (opensHeaderLine_iff (dropWhile_append_of_cons hrest ys)).1 h
    rw [List.all_append, Bool.and_eq_true] at hall
    refine (opensHeaderLine_iff hrest).2 ⟨hb, ?_, hall.1⟩
    simp only [List.length_cons, List.length_append] at hlength ⊢
    omega

/-- What may come after the target of a request: a blank and the version, or the start of it. -/
def OpensVersion (rest : List UInt8) : Prop :=
  ∀ b v, rest = b :: v →
    b = 0x20 ∧ (v <+: "HTTP/1.1".toUTF8.data.toList ∨ v = "HTTP/1.0".toUTF8.data.toList)

/-- The two versions differ in their last byte only. -/
theorem beginning_of_version {v : List UInt8} (h : v <+: "HTTP/1.0".toUTF8.data.toList) :
    v <+: "HTTP/1.1".toUTF8.data.toList ∨ v = "HTTP/1.0".toUTF8.data.toList := by
  have hall : ∀ v ∈ "HTTP/1.0".toUTF8.data.toList.inits,
      v <+: "HTTP/1.1".toUTF8.data.toList ∨ v = "HTTP/1.0".toUTF8.data.toList := by
    decide +kernel
  exact hall v ((List.mem_inits _ _).2 h)

theorem OpensVersion.of_append {xs ys : List UInt8} (h : OpensVersion (xs ++ ys)) :
    OpensVersion xs := by
  intro b v hxs
  obtain ⟨hb, hv⟩ := h b (v ++ ys) (by rw [hxs, List.cons_append])
  refine ⟨hb, ?_⟩
  rcases hv with hnew | hold
  · exact .inl ((List.prefix_append v ys).trans hnew)
  · exact beginning_of_version (hold ▸ List.prefix_append v ys)

/-- A line that goes beyond a method is a request line if a blank, a target and a version come
next. -/
theorem opensRequestLine_iff {line target : List UInt8} {b : UInt8}
    (h : line.dropWhile isTokenByte = b :: target) :
    opensRequestLine line ↔ b = 0x20 ∧ (b :: target).length < line.length ∧
      OpensVersion (target.dropWhile isTargetByte) := by
  rw [opensRequestLine, h]
  by_cases hb : b = 0x20
  · rw [hb]
    cases htarget : target.dropWhile isTargetByte with
    | nil => simp [OpensVersion, htarget]
    | cons c v =>
      by_cases hc : c = 0x20 <;> simp [OpensVersion, htarget, hc]
  · simp [hb]

/-- The beginning of a request line is the start of one. -/
theorem opensRequestLine_of_append {xs ys : List UInt8} (h : opensRequestLine (xs ++ ys)) :
    opensRequestLine xs := by
  cases hrest : xs.dropWhile isTokenByte with
  | nil => rw [opensRequestLine, hrest]
  | cons b target =>
    obtain ⟨hb, hlength, hversion⟩ := (opensRequestLine_iff (dropWhile_append_of_cons hrest ys)).1 h
    refine (opensRequestLine_iff hrest).2 ⟨hb, ?_, ?_⟩
    · simp only [List.length_cons, List.length_append] at hlength ⊢
      omega
    · rw [List.dropWhile_append] at hversion
      split at hversion
      · next hempty =>
        rw [List.isEmpty_iff.1 hempty]
        exact fun _ _ hnil => by cases hnil
      · exact hversion.of_append

/-! ## What can become a request -/

/-- Whether lines that are complete, blank ones in front apart, and the line that comes after them
are the start of a request. -/
structure CanOpen (lines : List (List UInt8)) (last : List UInt8) : Prop where
  first : lines = [] → opensRequestLine last
  request : ∀ request headers, lines = request :: headers → opensRequestLine request ∧
    (∀ l ∈ headers, l ≠ [] ∧ opensHeaderLine l) ∧ opensHeaderLine last

/-- A connection waits for more as long as what came is the start of a request. -/
theorem awaitsRequest_iff (bytes : List UInt8) :
    awaitsRequest bytes ↔ CanOpen ((splitLines [] [] bytes).1.dropWhile List.isEmpty)
      (withoutReturn (splitLines [] [] bytes).2) := by
  unfold awaitsRequest withoutReturn
  dsimp only
  cases hlines : (splitLines [] [] bytes).1.dropWhile List.isEmpty with
  | nil => exact ⟨fun h => ⟨fun _ => h, fun _ _ hnil => by cases hnil⟩, fun h => h.first rfl⟩
  | cons request headers =>
    simp only [Bool.and_eq_true, List.all_eq_true, Bool.not_eq_true', List.isEmpty_eq_false_iff,
      and_assoc]
    constructor
    · intro h
      refine ⟨fun hnil => (List.cons_ne_nil _ _ hnil).elim, fun _ _ heq => ?_⟩
      cases heq
      exact h
    · exact fun h => h.request request headers rfl

/-- The last line can be shorter. -/
theorem CanOpen.of_prefix {lines : List (List UInt8)} {line last : List UInt8}
    (h : CanOpen lines last) (short : line <+: last) : CanOpen lines line := by
  obtain ⟨rest, rfl⟩ := short
  refine ⟨fun hnil => opensRequestLine_of_append (h.first hnil), fun request headers hlines => ?_⟩
  obtain ⟨hrequest, hheaders, hlast⟩ := h.request request headers hlines
  exact ⟨hrequest, hheaders, opensHeaderLine_of_append hlast⟩

/-- A line that is complete could be the start of it before. -/
theorem CanOpen.of_complete {whole : List (List UInt8)} {line : List UInt8}
    (h : CanOpen ((whole ++ [line]).dropWhile List.isEmpty) []) :
    CanOpen (whole.dropWhile List.isEmpty) line := by
  rw [List.dropWhile_append] at h
  cases hwhole : whole.dropWhile List.isEmpty with
  | nil =>
    rw [hwhole] at h
    refine ⟨fun _ => ?_, fun _ _ hnil => by cases hnil⟩
    -- the line is the first that is not blank, or it is blank too
    cases line with
    | nil => rfl
    | cons b line => exact (h.request (b :: line) [] rfl).1
  | cons request headers =>
    rw [hwhole] at h
    refine ⟨fun hnil => (List.cons_ne_nil _ _ hnil).elim, fun _ _ heq => ?_⟩
    cases heq
    obtain ⟨hrequest, hheaders, -⟩ := h.request request (headers ++ [line]) rfl
    exact ⟨hrequest, fun l hl => hheaders l (List.mem_append_left _ hl),
      (hheaders line List.mem_concat_self).2⟩

/-- What can become a request could do so before its last byte came. -/
theorem awaitsRequest_of_concat {xs : List UInt8} {b : UInt8} (h : awaitsRequest (xs ++ [b])) :
    awaitsRequest xs := by
  rw [awaitsRequest_iff, splitLines_concat] at h
  rw [awaitsRequest_iff]
  split at h
  · exact h.of_complete
  · exact h.of_prefix (withoutReturn_prefix_concat _ b)

theorem awaitsRequest_of_append {xs : List UInt8} (ys : List UInt8)
    (h : awaitsRequest (xs ++ ys)) : awaitsRequest xs := by
  induction ys using List.reverseRecOn with
  | nil => rwa [List.append_nil] at h
  | append_singleton ys b ih =>
    rw [← List.append_assoc] at h
    exact ih (awaitsRequest_of_concat h)

/-! ## Pieces -/

namespace Machine

variable {m : Machine} {label : Label}

theorem withLink_withLink (m : Machine) (label : Label) (old new : Link) :
    (m.withLink label old).withLink label new = m.withLink label new :=
  congrArg (fun links => { m with links }) (Table.insert_insert m.links label old new)

theorem get?_withLink (m : Machine) (label : Label) (link : Link) :
    (m.withLink label link).links.get? label = some link :=
  (Table.get?_insert ..).trans (if_pos rfl)

/-- More bytes of a request let the connection wait on, or close it. -/
theorem perform_sendRaw {since : Nat} {received : List UInt8}
    (h : m.links.get? label = some (.opening since received)) (suffix : String)
    (bytes : List UInt8) :
    m.perform (suffix, .sendRaw label bytes) =
      m.withLink label
        (if awaitsRequest (received ++ bytes) then .opening since (received ++ bytes)
        else .closed) := by
  simp only [perform, step, withClient, h]
  split <;> rfl

/-- Bytes outside of a request do nothing. -/
theorem perform_sendRaw_eq_self
    (h : ∀ since received, m.links.get? label ≠ some (.opening since received)) (suffix : String)
    (bytes : List UInt8) : m.perform (suffix, .sendRaw label bytes) = m := by
  unfold perform
  dsimp only [step, withClient]
  cases hlink : m.links.get? label with
  | none => rfl
  | some link =>
    cases link with
    | opening since received => exact absurd hlink (h since received)
    | _ => rfl

/-- Two pieces come to the same as both in one. -/
theorem perform_sendRaw_append (m : Machine) (label : Label) (suffix : String)
    (xs ys : List UInt8) :
    (m.perform (suffix, .sendRaw label xs)).perform (suffix, .sendRaw label ys) =
      m.perform (suffix, .sendRaw label (xs ++ ys)) := by
  by_cases h : ∃ since received, m.links.get? label = some (.opening since received)
  · obtain ⟨since, received, hlink⟩ := h
    rw [perform_sendRaw hlink, perform_sendRaw hlink, ← List.append_assoc]
    split
    · rw [perform_sendRaw (get?_withLink ..), withLink_withLink]
    · next hno =>
      have hclosed : ∀ since received,
          (m.withLink label .closed).links.get? label ≠ some (.opening since received) := by
        intro since received heq
        rw [get?_withLink] at heq
        cases heq
      -- what was no start of a request is none with more bytes
      have hneither : ¬awaitsRequest (received ++ xs ++ ys) := mt (awaitsRequest_of_append ys) hno
      rw [perform_sendRaw_eq_self hclosed, if_neg hneither]
  · have hnot : ∀ since received, m.links.get? label ≠ some (.opening since received) :=
      fun since received heq => h ⟨since, received, heq⟩
    rw [perform_sendRaw_eq_self hnot, perform_sendRaw_eq_self hnot, perform_sendRaw_eq_self hnot]

/-- However the bytes are cut into pieces, the machine ends where it does if they come in one. -/
theorem run_sendRaw (m : Machine) (label : Label) (suffix : String) (piece : List UInt8)
    (pieces : List (List UInt8)) :
    m.run ((piece :: pieces).map fun bytes => (suffix, .sendRaw label bytes)) =
      m.perform (suffix, .sendRaw label (piece :: pieces).flatten) := by
  induction pieces generalizing m piece with
  | nil => rw [List.flatten_cons, List.flatten_nil, List.append_nil]; rfl
  | cons next pieces ih =>
    rw [List.flatten_cons, ← perform_sendRaw_append]
    exact ih (m.perform (suffix, .sendRaw label piece)) next

end Machine

end Live

end ChatServer
