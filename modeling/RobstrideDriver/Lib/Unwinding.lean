/-
Noninterference of deterministic machines, by unwinding.

A machine takes one action after another; each makes an event, of which an observer
sees a part or nothing. The actions that are none of the observer's business can be
deleted from a run without a trace if there is a relation between states such that a
kept action, taken in related states, is seen alike and keeps them related, and a
deleted action is not seen and keeps the states related (`Unwinding`).
-/
import Mathlib

set_option autoImplicit false

/-- A deterministic machine: what an action makes of a state, and the state after it. -/
structure Machine (A S E : Type*) where
  run : A → S → E
  after : E → S

namespace Machine

variable {A S E V : Type*}

/-- A run, one event for each action. -/
def session (m : Machine A S E) : List A → S → List E
  | [], _ => []
  | a :: actions, s => m.run a s :: m.session actions (m.after (m.run a s))

/-- `R` unwinds: on the actions of `P`, the observer of `observe` is told nothing of
those `keep` leaves out. -/
structure Unwinding (m : Machine A S E) (P : A → Prop) (keep : A → Bool)
    (observe : E → Option V) (R : S → S → Prop) : Prop where
  kept : ∀ a s t, P a → keep a = true → R s t →
    observe (m.run a s) = observe (m.run a t) ∧ R (m.after (m.run a s)) (m.after (m.run a t))
  dropped : ∀ a s t, P a → keep a = false → R s t →
    observe (m.run a s) = none ∧ R (m.after (m.run a s)) t

variable {m : Machine A S E} {P : A → Prop} {keep : A → Bool} {observe : E → Option V}
  {R : S → S → Prop}

/-- **Deleting the actions of the others changes nothing the observer sees.** -/
theorem Unwinding.filterMap_session (h : m.Unwinding P keep observe R) {actions : List A}
    (hactions : ∀ a ∈ actions, P a) {s t : S} (hst : R s t) :
    (m.session actions s).filterMap observe
      = (m.session (actions.filter keep) t).filterMap observe := by
  induction actions generalizing s t with
  | nil => rfl
  | cons a actions ih =>
    have ha := hactions a List.mem_cons_self
    have hrest : ∀ b ∈ actions, P b := fun b hb => hactions b (List.mem_cons_of_mem _ hb)
    cases hkeep : keep a with
    | true =>
      obtain ⟨hseen, hrel⟩ := h.kept a s t ha hkeep hst
      rw [List.filter_cons_of_pos hkeep, session, session, List.filterMap_cons,
        List.filterMap_cons, hseen, ih hrest hrel]
    | false =>
      obtain ⟨hseen, hrel⟩ := h.dropped a s t ha hkeep hst
      rw [List.filter_cons_of_neg (Bool.not_eq_true _ ▸ hkeep), session,
        List.filterMap_cons_none hseen, ih hrest hrel]

end Machine
