/-
Histories and the registers they write.

A register is a part of a state that some events set and all others leave alone.
What it holds after a history is what the last event that sets it wrote
(`foldl_register`), whatever else the events do to the rest of the state. So a
read-your-last-write law is one statement about a single event per register.
-/
import Mathlib

set_option autoImplicit false

namespace History

variable {Event σ α : Type*}

/-- What the last of the events that `writes` sees wrote. -/
def latest (writes : Event → Option α) (events : List Event) : Option α :=
  (events.filterMap writes).getLast?

@[simp] theorem latest_nil (writes : Event → Option α) : latest writes [] = none := rfl

/-- What was last written in two histories one after the other: the last of the second, if it wrote
at all, or else the last of the first. -/
theorem latest_append (writes : Event → Option α) (xs ys : List Event) :
    latest writes (xs ++ ys) = (latest writes ys).or (latest writes xs) := by
  rw [latest, latest, latest, List.filterMap_append, List.getLast?_append]

/-- One event more: what it writes is the latest, and if it writes nothing all stays as it was. -/
theorem latest_concat (writes : Event → Option α) (events : List Event) (e : Event) :
    latest writes (events ++ [e]) = (writes e).or (latest writes events) := by
  rw [latest_append]
  congr 1
  cases h : writes e <;> simp [latest, h]

/-- Events may be renamed before or after looking for the last that wrote. -/
theorem latest_map {Event' : Type*} (f : Event → Event') (writes : Event' → Option α)
    (events : List Event) :
    latest writes (events.map f) = latest (fun e => writes (f e)) events := by
  rw [latest, latest, List.filterMap_map]
  rfl

/-- Reading part of what was written: the part of the latest is the latest of the parts. -/
theorem latest_option_map {β : Type*} (f : α → β) (writes : Event → Option α)
    (events : List Event) :
    latest (fun e => (writes e).map f) events = (latest writes events).map f := by
  rw [latest, latest, ← List.map_filterMap, List.getLast?_map]

/-- An event that writes nothing may be forgotten. -/
theorem latest_concat_none {writes : Event → Option α} {e : Event} (h : writes e = none)
    (events : List Event) : latest writes (events ++ [e]) = latest writes events := by
  rw [latest_concat, h, Option.none_or]

/-- What has just been written is the latest. -/
theorem latest_concat_some {writes : Event → Option α} {e : Event} {a : α}
    (h : writes e = some a) (events : List Event) :
    latest writes (events ++ [e]) = some a := by
  rw [latest_concat, h, Option.some_or]

/-- **Registers.** A part of the state that every event sets to what it writes, if it
writes anything, holds what the last of them wrote. -/
theorem foldl_register (get : σ → α) {step : σ → Event → σ} {writes : Event → Option α}
    (hstep : ∀ s e, get (step s e) = (writes e).getD (get s)) (events : List Event) (s : σ) :
    get (events.foldl step s) = (latest writes events).getD (get s) := by
  induction events using List.reverseRecOn with
  | nil => rfl
  | append_singleton events e ih =>
    rw [List.foldl_append, List.foldl_cons, List.foldl_nil, hstep, ih, latest_concat]
    cases writes e <;> simp

end History
