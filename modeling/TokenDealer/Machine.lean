set_option autoImplicit true

namespace Machine

variable {σ : Type u} {ε : Type v} (step : σ → ε → σ)

def run (s : σ) (events : List ε) : σ := events.foldl step s

/-- Every event of a run meets a condition in the state that it finds. -/
def Throughout (P : σ → ε → Prop) : σ → List ε → Prop
  | _, [] => True
  | s, e :: events => P s e ∧ Throughout P (step s e) events

variable {step} {P : σ → ε → Prop} {s : σ} {events front back : List ε} {e : ε}

theorem run_cons (s : σ) (e : ε) (events : List ε) :
    run step s (e :: events) = run step (step s e) events := rfl

theorem run_append (s : σ) (front back : List ε) :
    run step s (front ++ back) = run step (run step s front) back :=
  List.foldl_append

theorem throughout_append :
    Throughout step P s (front ++ back) ↔
      Throughout step P s front ∧ Throughout step P (run step s front) back := by
  induction front generalizing s with
  | nil => exact (iff_of_eq (true_and _)).symm
  | cons e front ih =>
    have hrest := @ih (step s e)
    exact (and_congr_right fun _ => hrest).trans and_assoc.symm

theorem Throughout.and {Q : σ → ε → Prop} (hP : Throughout step P s events)
    (hQ : Throughout step Q s events) : Throughout step (fun s e => P s e ∧ Q s e) s events := by
  induction events generalizing s with
  | nil => trivial
  | cons e events ih => exact ⟨⟨hP.1, hQ.1⟩, ih hP.2 hQ.2⟩

theorem throughout_of_forall {Q : ε → Prop} (h : ∀ e ∈ events, Q e) (s : σ) :
    Throughout step (fun _ e => Q e) s events := by
  induction events generalizing s with
  | nil => trivial
  | cons e events ih =>
    obtain ⟨he, hrest⟩ := List.forall_mem_cons.mp h
    exact ⟨he, ih hrest (step s e)⟩

theorem throughout_true (s : σ) (events : List ε) :
    Throughout step (fun _ _ => True) s events := by
  induction events generalizing s with
  | nil => trivial
  | cons e events ih => exact ⟨trivial, ih (step s e)⟩

/-- What every step preserves where the condition holds is preserved by the run. -/
theorem run_invariant {I : σ → Prop} (hstep : ∀ s e, I s → P s e → I (step s e))
    (hs : I s) (hrun : Throughout step P s events) : I (run step s events) := by
  induction events generalizing s with
  | nil => exact hs
  | cons e events ih =>
    obtain ⟨he, hrest⟩ := hrun
    exact ih (hstep s e hs he) hrest

/-- What every step preserves is there for every event of the run. -/
theorem throughout_invariant {I : σ → Prop} (hstep : ∀ s e, I s → P s e → I (step s e))
    (hs : I s) (hrun : Throughout step P s events) :
    Throughout step (fun s e => I s ∧ P s e) s events := by
  induction events generalizing s with
  | nil => trivial
  | cons e events ih =>
    obtain ⟨he, hrest⟩ := hrun
    exact ⟨⟨hs, he⟩, ih (hstep s e hs he) hrest⟩

/-- Where a condition on the next event decides whether an invariant lasts, it is met throughout a
run exactly when the invariant holds after every front of it. -/
theorem throughout_iff_fronts {I J : σ → Prop} (hJ : ∀ s e, J s → J (step s e))
    (hstep : ∀ s e, J s → I s → (I (step s e) ↔ P s e)) (hsJ : J s) (hs : I s)
    (events : List ε) : Throughout step P s events ↔
      ∀ front back, events = front ++ back → I (run step s front) := by
  induction events generalizing s with
  | nil =>
    apply iff_of_true trivial
    intro front back hevents
    rw [(List.append_eq_nil_iff.mp hevents.symm).1]
    exact hs
  | cons e events ih =>
    rw [Throughout, ← hstep s e hsJ hs]
    constructor
    · rintro ⟨he, hrest⟩ front back hevents
      cases front with
      | nil => exact hs
      | cons first front =>
        cases hevents
        exact (ih (hJ s e hsJ) he).mp hrest front back rfl
    · intro hall
      have he := hall [e] events rfl
      refine ⟨he, (ih (hJ s e hsJ) he).mpr ?_⟩
      intro front back hevents
      exact hall (e :: front) back (by rw [hevents]; rfl)

/-- An event that leaves a state as it is does so any number of times. -/
theorem run_replicate (h : step s e = s) (n : Nat) : run step s (List.replicate n e) = s := by
  induction n with
  | zero => rfl
  | succ n ih =>
    change run step (step s e) (List.replicate n e) = s
    rw [h, ih]

end Machine
