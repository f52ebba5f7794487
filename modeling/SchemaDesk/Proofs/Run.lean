import Mathlib.Data.List.Induction

/-!
# Runs

A run is what a list of events makes of a state, one event after the other. What
every step keeps, every run keeps. A property that a run has brought about came
up at one of its events and has held since.
-/

namespace SchemaDesk.Run

variable {σ ε β : Type} (step : σ → ε → σ) (start : σ)

/-- The state after some events. -/
def after (events : List ε) : σ :=
  events.foldl step start

/-- What the events of a run bring forth, in order. -/
def outputs (emit : σ → ε → List β) : σ → List ε → List β
  | _, [] => []
  | state, event :: rest => emit state event ++ outputs emit (step state event) rest

@[simp]
theorem after_nil : after step start [] = start := rfl

theorem after_append (first second : List ε) :
    after step start (first ++ second) = after step (after step start first) second :=
  List.foldl_append

@[simp]
theorem after_concat (events : List ε) (event : ε) :
    after step start (events ++ [event]) = step (after step start events) event := by
  simp [after, List.foldl_append]

@[simp]
theorem outputs_concat (emit : σ → ε → List β) (events : List ε) (event : ε) :
    outputs step emit start (events ++ [event]) =
      outputs step emit start events ++ emit (after step start events) event := by
  induction events generalizing start with
  | nil => simp [outputs]
  | cons first rest ih => simp [outputs, ih, after]

/-- Runs whose events bring forth the same do so as a whole. -/
theorem outputs_map_congr {γ δ : Type} {emit : σ → ε → List β} {other : σ → ε → List γ}
    {f : β → δ} {g : γ → δ}
    (hsame : ∀ state event, (emit state event).map f = (other state event).map g)
    (events : List ε) :
    (outputs step emit start events).map f = (outputs step other start events).map g := by
  induction events generalizing start with
  | nil => rfl
  | cons first rest ih => simp only [outputs, List.map_append, hsame, ih]

/-- What holds at the start and is kept by every step holds after every run. The
property may speak of the events that led to the state. -/
theorem after_induction (property : List ε → σ → Prop) (hstart : property [] start)
    (hstep : ∀ events event, property events (after step start events) →
      property (events ++ [event]) (step (after step start events) event))
    (events : List ε) : property events (after step start events) := by
  induction events using List.reverseRecOn with
  | nil => exact hstart
  | append_singleton events event ih =>
      rw [after_concat]
      exact hstep events event ih

/-- What does not hold at the start and holds at the end came up at an event and has
held since. -/
theorem exists_onset (property : σ → Prop) (hstart : ¬ property start) (events : List ε)
    (hend : property (after step start events)) :
    ∃ before event since, events = before ++ event :: since ∧
      ¬ property (after step start before) ∧
      ∀ part, part <+: since → property (after step start (before ++ event :: part)) := by
  induction events using List.reverseRecOn with
  | nil => exact absurd hend hstart
  | append_singleton events last ih =>
      -- Held before the last event already, it came up earlier; else this event brought it.
      by_cases hearlier : property (after step start events)
      · obtain ⟨before, event, since, rfl, hbefore, hsince⟩ := ih hearlier
        refine ⟨before, event, since ++ [last], by simp, hbefore, ?_⟩
        intro part hpart
        rcases List.prefix_concat_iff.mp hpart with rfl | hpart
        · simpa using hend
        · exact hsince part hpart
      · refine ⟨events, last, [], rfl, hearlier, ?_⟩
        intro part hpart
        rw [List.prefix_nil.mp hpart]
        exact hend

end SchemaDesk.Run
