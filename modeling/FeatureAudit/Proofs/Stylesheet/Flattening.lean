import FeatureAudit.Proofs.Stylesheet.CandidateTokens

/-!
# Every component is visited once

Flattening a list goes through the addresses of its components in order and leaves none out, at whatever depth, and so it
finds every token and meets every fault once.

* **`fault?_eq_some_iff`** — the fault that a component marks.
* **`preorderOf_append`** — the pre-order of lists that are put together.
* **`each_component_is_visited_once`** — tokens, faults and conditions, and lists put together.
-/
namespace FeatureAudit.Stylesheet

open FeatureAudit.Text

/-- A fault is read off a component exactly if the component is that fault at that place. -/
theorem fault?_eq_some_iff {c : Component} {found : Position × Fault} :
    c.fault? = some found ↔ c = .leaf found.1 (.error found.2) := by
  constructor
  · intro h
    cases c with
    | leaf pos l =>
      cases l with
      | error fault =>
        obtain rfl := Option.some.inj h
        rfl
      | _ => exact absurd h (by simp [Component.fault?])
    | nest pos n content => exact absurd h (by simp [Component.fault?])
  · rintro rfl
    rfl

/-- The pre-order of two lists in a row is the pre-order of the one and then of the other: components of a list do not
reach into each other. -/
theorem preorderOf_append (xs ys : List Component) :
    Component.preorderOf (xs ++ ys) = Component.preorderOf xs ++ Component.preorderOf ys := by
  induction xs with
  | nil => rfl
  | cons c rest ih =>
    rw [List.cons_append, Component.preorderOf, Component.preorderOf, ih, List.append_assoc]

/-- **Every component is visited once.** Of the components at all depths, each before what it holds, flattening lists
those that are neither whitespace nor comments nor faults, and the faults are those that the others of them mark; a walk
that comes to a value adds these to the faults that it has met. The properties that a prelude asks for are those of the
conditions in it. In lists that are put together each is what it is in the one list and then in the other. -/
theorem each_component_is_visited_once (r : Registry) (target : Tier) (file : String) :
    (∀ cs : List Component,
      Visits (fun c d => c.isToken = true ∧ d = c) cs (flattened cs) ∧
        Visits (fun c (found : Position × Fault) => c = .leaf found.1 (.error found.2)) cs (faultsIn cs) ∧
        (∀ (w : Walk) pos name important,
          ((Node.declaration pos name cs important).walk r target file w).faults = w.faults ++ faultsIn cs) ∧
        Visits Component.AsksFor cs (preludeTokens "supports" cs)) ∧
      ∀ xs ys : List Component,
        flattened (xs ++ ys) = flattened xs ++ flattened ys ∧
          faultsIn (xs ++ ys) = faultsIn xs ++ faultsIn ys ∧
          preludeTokens "supports" (xs ++ ys) = preludeTokens "supports" xs ++ preludeTokens "supports" ys := by
  refine ⟨fun cs => ⟨?_, ?_, fun w pos name important => ?_, ?_⟩, fun xs ys => ⟨?_, ?_, ?_⟩⟩
  · rw [flattened_eq_filter, ← List.filterMap_eq_filter]
    exact visits_filterMap (fun c d => by rw [Option.guard_eq_some_iff, and_comm, @eq_comm _ c d]) cs
  · rw [faultsIn_eq_filterMap]
    exact visits_filterMap (fun c found => fault?_eq_some_iff) cs
  · rw [Node.walk]
    rfl
  · rw [preludeTokens_supports]
    exact visits_filterMap (fun c name => conditionProperty?_eq_some_iff) cs
  · -- in a row of two lists the addresses of the second are moved on, and nothing else is changed
    rw [flattened_eq_filter, preorderOf_append, List.filter_append, ← flattened_eq_filter, ← flattened_eq_filter]
  · rw [faultsIn_eq_filterMap, preorderOf_append, List.filterMap_append, ← faultsIn_eq_filterMap,
      ← faultsIn_eq_filterMap]
  · rw [preludeTokens_supports, preorderOf_append, List.filterMap_append, ← preludeTokens_supports,
      ← preludeTokens_supports]

end FeatureAudit.Stylesheet
