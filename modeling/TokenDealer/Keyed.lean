import Mathlib.Data.List.Basic
import Mathlib.Logic.Function.Basic

set_option autoImplicit true

namespace Keyed

/-- The answers of a family of cells to events that each are of one cell. -/
def serve [DecidableEq κ] (step : σ → ε → α × σ) : (κ → σ) → List (κ × ε) → List (κ × α)
  | _, [] => []
  | cells, (k, e) :: rest =>
    (k, (step (cells k) e).1) :: serve step (Function.update cells k (step (cells k) e).2) rest

variable [DecidableEq κ] {step : σ → ε → α × σ} {cells : κ → σ} {k : κ}

/-- The answers of a cell are the ones it gives when it is asked alone. -/
theorem serve_filter (cells cells' : κ → σ) (h : cells k = cells' k) (events : List (κ × ε)) :
    (serve step cells events).filter (fun a => a.1 = k) =
      serve step cells' (events.filter fun e => e.1 = k) := by
  induction events generalizing cells cells' with
  | nil => rfl
  | cons event rest ih =>
    obtain ⟨j, e⟩ := event
    by_cases hj : j = k
    · subst hj
      have hrest := ih (Function.update cells j (step (cells' j) e).2)
        (Function.update cells' j (step (cells' j) e).2)
        (by rw [Function.update_self, Function.update_self])
      simp only [serve, List.filter_cons, decide_true, if_true, h, hrest]
    · have hrest := ih (Function.update cells j (step (cells j) e).2) cells'
        (by rw [Function.update_of_ne (Ne.symm hj), h])
      simp only [serve, List.filter_cons, hj, decide_false, Bool.false_eq_true, if_false, hrest]

/-- Two runs with the same events of a cell get the same answers from it. -/
theorem serve_filter_congr {events events' : List (κ × ε)}
    (h : events.filter (fun e => e.1 = k) = events'.filter fun e => e.1 = k) :
    (serve step cells events).filter (fun a => a.1 = k) =
      (serve step cells events').filter fun a => a.1 = k := by
  rw [serve_filter cells cells rfl events, h, serve_filter cells cells rfl]

/-- The events of a cell among items that may be of no cell. -/
theorem filter_tagged (key : β → Option κ) (f : β → ε) (items : List β) (k : κ) :
    (items.filterMap fun x => (key x).map fun j => (j, f x)).filter (fun e => e.1 = k) =
      (items.filter fun x => key x = some k).map fun x => (k, f x) := by
  induction items with
  | nil => rfl
  | cons x rest ih =>
    cases hx : key x with
    | none => simp only [List.filterMap_cons, hx, Option.map_none, ih, List.filter_cons,
        reduceCtorEq, decide_false, Bool.false_eq_true, if_false]
    | some j =>
      by_cases hj : j = k
      · subst hj
        simp only [List.filterMap_cons, hx, Option.map_some, List.filter_cons, decide_true, if_true,
          ih, List.map_cons]
      · simp only [List.filterMap_cons, hx, Option.map_some, List.filter_cons, hj, decide_false,
          Bool.false_eq_true, if_false, ih, Option.some.injEq]

end Keyed
