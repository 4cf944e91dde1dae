import Mathlib.Data.List.Induction

/-!
# What happened last

A history is a list of events, each judged by what came before it. Something happened at one event
and nothing was against it since: whether that is so is settled from one event to the next.
-/

namespace ChatServer

variable {α : Type} {p q : List α → α → Prop} {events : List α} {e : α}

/-- At some event `p` held, and at every later event `q` held. An event is judged together with the
events before it. -/
def Lasting (p q : List α → α → Prop) (events : List α) : Prop :=
  ∃ before e after, events = before ++ e :: after ∧ p before e ∧
    ∀ earlier e' later, after = earlier ++ e' :: later → q (before ++ e :: earlier) e'

/-- Before anything happened nothing lasts. -/
theorem not_lasting_nil (p q : List α → α → Prop) : ¬Lasting p q [] := by
  intro h
  obtain ⟨before, e, after, hsplit, -⟩ := h
  exact List.append_ne_nil_of_right_ne_nil before (List.cons_ne_nil e after) hsplit.symm

/-- What has been the case since some event either starts with the last event or goes on with it. -/
theorem lasting_snoc :
    Lasting p q (events ++ [e]) ↔ p events e ∨ Lasting p q events ∧ q events e := by
  constructor
  · intro h
    obtain ⟨before, first, after, hsplit, hp, hq⟩ := h
    rcases List.eq_nil_or_concat after with rfl | ⟨after, last, rfl⟩
    · obtain ⟨rfl, hlast⟩ := List.append_inj' hsplit rfl
      cases hlast
      exact .inl hp
    · rw [List.concat_eq_append, ← List.cons_append, ← List.append_assoc] at hsplit
      obtain ⟨rfl, hlast⟩ := List.append_inj' hsplit rfl
      cases hlast
      refine .inr ⟨⟨before, first, after, rfl, hp, ?_⟩, hq after e [] List.concat_eq_append⟩
      intro earlier e' later hafter
      exact hq earlier e' (later ++ [e]) (by rw [hafter, List.concat_eq_append]; simp)
  · intro h
    rcases h with hp | ⟨⟨before, first, after, rfl, hp, hq⟩, hlast⟩
    · refine ⟨events, e, [], rfl, hp, fun earlier e' later hnil => ?_⟩
      exact absurd hnil.symm (List.append_ne_nil_of_right_ne_nil _ (List.cons_ne_nil _ _))
    · refine ⟨before, first, after ++ [e], by simp, hp, ?_⟩
      intro earlier e' later hafter
      rcases List.eq_nil_or_concat later with rfl | ⟨later, last, rfl⟩
      · obtain ⟨rfl, he⟩ := List.append_inj' hafter rfl
        cases he
        exact hlast
      · rw [List.concat_eq_append, ← List.cons_append, ← List.append_assoc] at hafter
        obtain ⟨rfl, -⟩ := List.append_inj' hafter rfl
        exact hq earlier e' later rfl

end ChatServer
