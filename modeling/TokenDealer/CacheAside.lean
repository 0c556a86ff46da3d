import Mathlib.Data.List.Perm.Basic
import Mathlib.Logic.Function.Basic
import TokenDealer.Machine

set_option autoImplicit true

namespace CacheAside

/-- What a call still has to do: look a key up at the source, put a value into the cache, take one
out. -/
inductive Call (κ : Type u) (ν : Type v) where
  | look (key : κ)
  | keep (key : κ) (value : ν)
  | drop (key : κ)

/-- A source with a cache aside and the calls that are under way, in no order. -/
structure State (κ : Type u) (ν : Type v) where
  source : κ → Option ν
  cached : κ → Option ν
  calls : List (Call κ ν)

/-- A call begins, and has then changed the source or found nothing in the cache; or one goes on. -/
inductive Event (κ : Type u) (ν : Type v) where
  | put (key : κ) (value : ν)
  | remove (key : κ)
  | lookup (key : κ)
  | advance (i : Nat)

variable {κ : Type u} {ν : Type v}

namespace State

/-- What is cached under a key is what the source has. -/
def CoherentAt (s : State κ ν) (key : κ) : Prop :=
  ∀ value, s.cached key = some value → s.source key = some value

/-- A call that is going to leave the cache as the source has it. -/
def Mends (s : State κ ν) (key : κ) : Call κ ν → Prop
  | .look k => k = key ∧ ∃ value, s.source key = some value
  | .keep k value => k = key ∧ s.source key = some value
  | .drop k => k = key

def Settling (s : State κ ν) (key : κ) : Prop :=
  s.CoherentAt key ∨ ∃ c ∈ s.calls, s.Mends key c

/-- A value that the source no longer has is only put into the cache while another call is under
way that is going to mend it. -/
def Orderly (s : State κ ν) : Event κ ν → Prop
  | .advance i => ∀ key value, s.calls[i]? = some (.keep key value) →
      s.source key = some value ∨ ∃ c ∈ s.calls.eraseIdx i, s.Mends key c
  | _ => True

variable [DecidableEq κ]

def begin (s : State κ ν) (c : Call κ ν) : State κ ν := { s with calls := s.calls ++ [c] }

/-- The next step of one call, the others being those given. -/
def advance (s : State κ ν) (others : List (Call κ ν)) : Call κ ν → State κ ν
  | .look key =>
    match s.source key with
    | some value => { s with calls := others ++ [.keep key value] }
    | none => { s with calls := others }
  | .keep key value =>
    { s with cached := Function.update s.cached key (some value), calls := others }
  | .drop key => { s with cached := Function.update s.cached key none, calls := others }

def step (s : State κ ν) : Event κ ν → State κ ν
  | .put key value =>
    { s with source := Function.update s.source key (some value) }.begin (.keep key value)
  | .remove key => { s with source := Function.update s.source key none }.begin (.drop key)
  | .lookup key =>
    match s.cached key with
    | some _ => s
    | none => s.begin (.look key)
  | .advance i =>
    match s.calls[i]? with
    | none => s
    | some c => s.advance (s.calls.eraseIdx i) c

end State

open State

theorem mem_iff_of_getElem? {l : List α} (h : l[i]? = some a) :
    x ∈ l ↔ x = a ∨ x ∈ l.eraseIdx i := by
  obtain ⟨hi, ha⟩ := List.getElem?_eq_some_iff.mp h
  have hperm : (l[i] :: l.eraseIdx i).Perm l := List.getElem_cons_eraseIdx_perm hi
  rw [← hperm.mem_iff, List.mem_cons, ha]

/-- The calls and what counts for a key are the same in two states. -/
theorem settling_congr {s t : State κ ν} (hsource : t.source key = s.source key)
    (hcached : t.cached key = s.cached key)
    (hcalls : (∃ c ∈ t.calls, s.Mends key c) ↔ ∃ c ∈ s.calls, s.Mends key c) :
    t.Settling key ↔ s.Settling key := by
  have hmends : ∀ c, t.Mends key c ↔ s.Mends key c := by
    intro c
    cases c <;> simp only [Mends, hsource]
  simp only [Settling, CoherentAt, hsource, hcached, hmends, hcalls]

/-- Where every call has finished, what settles has settled. -/
theorem coherentAt_of_settling {s : State κ ν} (hs : s.Settling key) (hcalls : s.calls = []) :
    s.CoherentAt key := by
  cases hs with
  | inl h => exact h
  | inr h =>
    obtain ⟨c, hc, -⟩ := h
    rw [hcalls] at hc
    cases hc

variable [DecidableEq κ] {s : State κ ν} {key : κ} {others : List (Call κ ν)} {c : Call κ ν}

/-- The last step of a call that puts a value into the cache. -/
theorem settling_advance_keep (s : State κ ν) (key : κ) (value : ν) :
    (s.advance others (.keep key value)).Settling key ↔
      s.source key = some value ∨ ∃ c ∈ others, s.Mends key c := by
  have hmends : ∀ c, (s.advance others (.keep key value)).Mends key c ↔ s.Mends key c := by
    intro c
    cases c <;> rfl
  have hcoherent : (s.advance others (.keep key value)).CoherentAt key ↔
      s.source key = some value := by
    simp only [CoherentAt, advance, Function.update_self, Option.some.injEq, forall_eq']
  simp only [Settling, hcoherent, hmends]
  rfl

/-- Any other step of a call that is under way. -/
theorem settling_advance_other (hcalls : ∀ x, x ∈ s.calls ↔ x = c ∨ x ∈ others)
    (hc : ∀ value, c ≠ .keep key value) :
    (s.advance others c).Settling key ↔ s.Settling key := by
  have hgone : ¬ s.Mends key c →
      ((∃ x ∈ others, s.Mends key x) ↔ ∃ x ∈ s.calls, s.Mends key x) := by
    intro hnot
    simp only [hcalls, or_and_right, exists_or, exists_eq_left, hnot, false_or]
  cases c with
  | look k =>
    cases hk : s.source k with
    | none =>
      simp only [advance, hk]
      refine settling_congr (s := s) rfl rfl (hgone ?_)
      rintro ⟨rfl, value, hvalue⟩
      rw [hk] at hvalue
      cases hvalue
    | some value =>
      simp only [advance, hk]
      refine settling_congr (s := s) rfl rfl ?_
      have hsame : s.Mends key (.keep k value) ↔ s.Mends key (.look k) := by
        apply and_congr_right
        rintro rfl
        exact iff_of_true hk ⟨value, hk⟩
      simp only [hcalls, List.mem_append, List.mem_singleton, or_and_right, exists_or,
        exists_eq_left, hsame]
      exact or_comm
  | keep k value =>
    have hk : key ≠ k := fun he => hc value (by rw [he])
    exact settling_congr rfl (Function.update_of_ne hk _ _) (hgone fun h => hk h.1.symm)
  | drop k =>
    by_cases hk : key = k
    · subst hk
      apply iff_of_true
      · left
        intro value hvalue
        simp only [advance, Function.update_self, reduceCtorEq] at hvalue
      · exact .inr ⟨.drop key, (hcalls _).mpr (.inl rfl), rfl⟩
    · exact settling_congr rfl (Function.update_of_ne hk _ _) (hgone fun h => hk h.symm)

/-- A step that is orderly keeps every key settling. -/
theorem settling_step {e : Event κ ν} (he : s.Orderly e) (hs : ∀ key, s.Settling key) (key : κ) :
    (s.step e).Settling key := by
  cases e with
  | put k value =>
    by_cases hk : key = k
    · subst hk
      refine .inr ⟨.keep key value, List.mem_append_right _ (List.mem_singleton_self _), rfl, ?_⟩
      exact Function.update_self ..
    · apply Iff.mpr _ (hs key)
      refine settling_congr (s := s) (Function.update_of_ne hk _ _) rfl ?_
      simp only [step, begin, List.mem_append, List.mem_singleton, or_and_right, exists_or,
        exists_eq_left, or_iff_left_iff_imp]
      rintro ⟨rfl, -⟩
      exact (hk rfl).elim
  | remove k =>
    by_cases hk : key = k
    · subst hk
      exact .inr ⟨.drop key, List.mem_append_right _ (List.mem_singleton_self _), rfl⟩
    · apply Iff.mpr _ (hs key)
      refine settling_congr (s := s) (Function.update_of_ne hk _ _) rfl ?_
      simp only [step, begin, List.mem_append, List.mem_singleton, or_and_right, exists_or,
        exists_eq_left, or_iff_left_iff_imp]
      rintro rfl
      exact (hk rfl).elim
  | lookup k =>
    rw [step]
    split
    · exact hs key
    · cases hs key with
      | inl hcoherent => exact .inl hcoherent
      | inr hmends =>
        obtain ⟨c, hc, hm⟩ := hmends
        refine .inr ⟨c, List.mem_append_left _ hc, ?_⟩
        cases c <;> exact hm
  | advance i =>
    rw [step]
    split
    · exact hs key
    · next c hc =>
      by_cases hkeep : ∃ value, c = .keep key value
      · obtain ⟨value, rfl⟩ := hkeep
        exact (settling_advance_keep s key value).mpr (he key value hc)
      · rw [not_exists] at hkeep
        exact (settling_advance_other (fun x => mem_iff_of_getElem? hc) hkeep).mpr (hs key)

/-- A step that is not leaves a key that no call under way is going to mend. -/
theorem exists_not_settling {e : Event κ ν} (he : ¬ s.Orderly e) :
    ∃ key, ¬ (s.step e).Settling key := by
  cases e with
  | put key value => exact (he trivial).elim
  | remove key => exact (he trivial).elim
  | lookup key => exact (he trivial).elim
  | advance i =>
    simp only [Orderly, not_forall] at he
    obtain ⟨key, value, hc, hstale⟩ := he
    refine ⟨key, ?_⟩
    rw [step, hc]
    exact fun h => hstale ((settling_advance_keep s key value).mp h)

/-- What is not settling does not become so while the calls that have begun go on. -/
theorem not_settling_advance (h : ¬ s.Settling key) (i : Nat) :
    ¬ (s.step (.advance i)).Settling key := by
  intro hafter
  apply h
  rw [step] at hafter
  split at hafter
  · exact hafter
  · next c hc =>
    by_cases hkeep : ∃ value, c = .keep key value
    · obtain ⟨value, rfl⟩ := hkeep
      have hmem := fun x => mem_iff_of_getElem? (x := x) hc
      cases (settling_advance_keep s key value).mp hafter with
      | inl hsource => exact .inr ⟨_, (hmem _).mpr (.inl rfl), rfl, hsource⟩
      | inr hmends =>
        obtain ⟨x, hx, hm⟩ := hmends
        exact .inr ⟨x, (hmem x).mpr (.inr hx), hm⟩
    · rw [not_exists] at hkeep
      exact (settling_advance_other (fun x => mem_iff_of_getElem? hc) hkeep).mp hafter

theorem not_settling_run (h : ¬ s.Settling key) (order : List Nat) :
    ¬ (Machine.run step s (order.map Event.advance)).Settling key := by
  induction order generalizing s with
  | nil => exact h
  | cons i order ih => exact ih (not_settling_advance h i)

end CacheAside
