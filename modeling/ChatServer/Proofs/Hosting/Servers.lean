import ChatServer.Hosting.Server

/-!
# Servers that come, go and get components

What creating and ending servers and giving them components do to the two questions that components
ask: whether a server runs, and which component it has of a type.
-/

namespace ChatServer

namespace Servers

variable {servers : Servers} {i j : ServerId}

/-! ## Which servers run -/

theorem isLive_iff : servers.isLive i ↔ ∃ s, servers[i]? = some s ∧ s.live := by
  unfold isLive
  cases servers[i]? with
  | none => simp
  | some s => simp

/-- A new server runs, and the others go on as before. -/
theorem isLive_create : servers.create.isLive i ↔ i = servers.length ∨ servers.isLive i := by
  rw [isLive_iff, isLive_iff, create]
  rcases Nat.lt_trichotomy i servers.length with hlt | rfl | hgt
  · rw [List.getElem?_append_left hlt, or_iff_right (Nat.ne_of_lt hlt)]
  · simp
  · have hlength : servers.create.length ≤ i := by
      rw [create, List.length_append]
      exact hgt
    rw [← create, List.getElem?_eq_none hlength, List.getElem?_eq_none (Nat.le_of_lt hgt)]
    simp [Nat.ne_of_gt hgt]

/-- A server that is dropped no longer runs, and nothing happens to the others. -/
theorem isLive_drop : (servers.drop j).isLive i ↔ servers.isLive i ∧ i ≠ j := by
  rw [isLive_iff, isLive_iff, drop, List.getElem?_modify]
  by_cases hij : j = i
  · simp [hij]
  · simp [hij, Ne.symm hij]

/-- To give a server a component neither starts nor stops any. -/
theorem isLive_place (servers : Servers) (i : ServerId) (c : ComponentId) :
    (servers.place i c).isLive = servers.isLive := by
  funext j
  simp only [isLive, place, List.getElem?_modify]
  cases servers[j]? with
  | none => rfl
  | some s => by_cases hij : i = j <;> simp [hij]

/-! ## Which components they have -/

theorem length_place (servers : Servers) (i : ServerId) (c : ComponentId) :
    (servers.place i c).length = servers.length := List.length_modify _ _ _

/-- A server finds a component that it was given under the type of it. -/
theorem component?_place (h : i < servers.length) (c : ComponentId) (type : ComponentType) :
    (servers.place i c).component? i type =
      if type = c.type then some c else servers.component? i type := by
  simp only [component?, place, List.getElem?_modify, List.getElem?_eq_getElem h, if_true]
  exact Table.get?_insert _ _ _ _

/-- A component is placed in one server only. -/
theorem component?_place_of_ne (servers : Servers) (h : j ≠ i) (c : ComponentId) :
    (servers.place i c).component? j = servers.component? j := by
  funext type
  simp [component?, place, Ne.symm h]

/-- A new server has no components, and the others keep theirs. -/
theorem component?_create (servers : Servers) (i : ServerId) :
    servers.create.component? i = servers.component? i := by
  funext type
  simp only [component?, create]
  rcases Nat.lt_trichotomy i servers.length with hlt | rfl | hgt
  · rw [List.getElem?_append_left hlt]
  · simp
  · have hlength : servers.create.length ≤ i := by
      rw [create, List.length_append]
      exact hgt
    rw [← create, List.getElem?_eq_none hlength, List.getElem?_eq_none (Nat.le_of_lt hgt)]

/-- A server that is dropped still has its components, for as long as somebody holds it. -/
theorem component?_drop (servers : Servers) (i j : ServerId) :
    (servers.drop j).component? i = servers.component? i := by
  funext type
  simp only [component?, drop, List.getElem?_modify]
  cases servers[i]? with
  | none => rfl
  | some s => by_cases hij : j = i <;> simp [hij]

end Servers

end ChatServer
