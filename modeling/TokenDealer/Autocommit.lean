set_option autoImplicit true

namespace Autocommit

/-- Statements one after the other, up to the first that fails. Each takes effect by itself; one
that fails, by what it finds or by a fault from outside, has none. -/
def run (faults : Nat → Except ε Unit) : List (σ → Except ε σ) → σ → Except ε Unit × σ
  | [], s => (.ok (), s)
  | statement :: rest, s =>
    match (faults 0).bind fun _ => statement s with
    | .error e => (.error e, s)
    | .ok s => run (fun i => faults (i + 1)) rest s

/-- No fault comes from outside. -/
def noFaults : Nat → Except ε Unit := fun _ => .ok ()

variable {faults : Nat → Except ε Unit} {statements : List (σ → Except ε σ)} {s s' : σ} {e : ε}

theorem run_cons_ok {statement : σ → Except ε σ} (hfault : faults 0 = .ok ())
    (h : statement s = .ok s') :
    run faults (statement :: statements) s = run (fun i => faults (i + 1)) statements s' := by
  rw [run, hfault]
  simp only [Except.bind, h]

/-- What is left after a failure is what the statements before the one that failed have made. -/
theorem run_error (h : run faults statements s = (.error e, s')) :
    ∃ front failed rest, statements = front ++ failed :: rest ∧
      run noFaults front s = (.ok (), s') := by
  induction statements generalizing faults s with
  | nil => cases h
  | cons statement statements ih =>
    rw [run] at h
    cases hfault : faults 0 with
    | error e' =>
      rw [hfault] at h
      cases h
      exact ⟨[], statement, statements, rfl, rfl⟩
    | ok u =>
      rw [hfault] at h
      cases hstatement : statement s with
      | error e' =>
        simp only [Except.bind, hstatement] at h
        cases h
        exact ⟨[], statement, statements, rfl, rfl⟩
      | ok next =>
        simp only [Except.bind, hstatement] at h
        obtain ⟨front, failed, rest, rfl, hfront⟩ := ih h
        exact ⟨statement :: front, failed, rest, rfl, (run_cons_ok rfl hstatement).trans hfront⟩

/-- The statements before the one that failed, by their number. -/
theorem run_error_take (h : run faults statements s = (.error e, s')) :
    ∃ i < statements.length, run noFaults (statements.take i) s = (.ok (), s') := by
  obtain ⟨front, failed, rest, rfl, hfront⟩ := run_error h
  refine ⟨front.length, ?_, ?_⟩
  · rw [List.length_append, List.length_cons]
    omega
  · rw [List.take_left]
    exact hfront

/-- Statements that cannot fail by what they find. -/
theorem run_pure (f : α → σ → σ) (items : List α) (s : σ) :
    run (ε := ε) noFaults (items.map fun a s => .ok (f a s)) s =
      (.ok (), items.foldl (fun s a => f a s) s) := by
  induction items generalizing s with
  | nil => rfl
  | cons a items ih =>
    rw [List.map_cons, List.foldl_cons, ← ih (f a s)]
    exact run_cons_ok rfl rfl

/-- How many of so many statements are run before a fault. -/
def reached (faults : Nat → Except ε Unit) : Nat → Nat
  | 0 => 0
  | n + 1 =>
    match faults 0 with
    | .error _ => 0
    | .ok _ => reached (fun i => faults (i + 1)) n + 1

/-- Under faults, such statements take effect up to the first fault. -/
theorem run_pure_reached (f : α → σ → σ) (items : List α) (s : σ) :
    (run faults (items.map fun a s => .ok (f a s)) s).2 =
        (items.take (reached faults items.length)).foldl (fun s a => f a s) s ∧
      ((run faults (items.map fun a s => .ok (f a s)) s).1.isOk = true ↔
        reached faults items.length = items.length) := by
  induction items generalizing faults s with
  | nil => exact ⟨rfl, iff_of_true rfl rfl⟩
  | cons a items ih =>
    rw [List.map_cons, List.length_cons, reached]
    cases hfault : faults 0 with
    | error e =>
      have hstopped : run faults ((fun s => .ok (f a s)) ::
          items.map fun a s => .ok (f a s)) s = (.error e, s) := by
        rw [run, hfault]
        rfl
      rw [hstopped]
      exact ⟨rfl, iff_of_false Bool.false_ne_true (Nat.zero_ne_add_one _)⟩
    | ok u =>
      have hrest : run faults ((fun s => .ok (f a s)) :: items.map fun a s => .ok (f a s)) s =
          run (fun i => faults (i + 1)) (items.map fun a s => .ok (f a s)) (f a s) :=
        run_cons_ok hfault rfl
      dsimp only
      rw [hrest, List.take_succ_cons, List.foldl_cons, Nat.add_right_cancel_iff]
      exact ih (f a s)

end Autocommit
