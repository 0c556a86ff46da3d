import Mathlib.Logic.IsEmpty.Basic
import Mathlib.Logic.Function.Basic

set_option autoImplicit true

namespace WriteBehind

/-- A call changes a value in memory and stores what it made of it in a second step, when other
calls may have changed it again. -/
inductive Call (α : Type) where
  | idle
  | pending (snapshot : α)
  | finished (ok : Bool)
  deriving DecidableEq, Repr

/-- The latest call is the one that changed the value last. -/
structure State (ι α β : Type) where
  memory : α
  disk : β
  calls : ι → Call α
  latest : Option ι

inductive Action (ι ω : Type) where
  | swap (i : ι)
  | write (i : ι) (outcome : ω)

def start (ι : Type) (memory : α) (disk : β) : State ι α β := ⟨memory, disk, fun _ => .idle, none⟩

/-- The value in memory is stored, or its call has yet to store it, or has failed to. Where there
are calls to come, it does not matter what is stored before the first one. -/
def Sound (Stored : β → α → Prop) (s : State ι α β) : Prop :=
  match s.latest with
  | none => (∀ i, s.calls i = .idle) ∧ (IsEmpty ι → Stored s.disk s.memory)
  | some i =>
    s.calls i = .pending s.memory ∨ s.calls i = .finished false ∨
      s.calls i = .finished true ∧ Stored s.disk s.memory

theorem sound_start {Stored : β → α → Prop} {memory : α} {disk : β}
    (h : IsEmpty ι → Stored disk memory) : Sound Stored (start ι memory disk) :=
  ⟨fun _ => rfl, h⟩

/-- When all calls are through, the value in memory is the one that is stored. -/
theorem Sound.stored {Stored : β → α → Prop} {s : State ι α β} (h : Sound Stored s)
    (hdone : ∀ i, s.calls i = .finished true) : Stored s.disk s.memory := by
  rw [Sound] at h
  cases hlatest : s.latest with
  | none =>
    rw [hlatest] at h
    obtain ⟨hidle, hstored⟩ := h
    apply hstored
    constructor
    intro i
    have hcall := hdone i
    rw [hidle i] at hcall
    cases hcall
  | some i =>
    rw [hlatest] at h
    dsimp only at h
    rw [hdone i] at h
    rcases h with h | h | h
    · cases h
    · cases h
    · exact h.2

section

variable {ι α β ω : Type} [DecidableEq ι] (change : ι → α → α) (save : ω → α → β → Bool × β)

/-- The next step of a call, if it has one. -/
def step (s : State ι α β) : Action ι ω → Option (State ι α β)
  | .swap i =>
    match s.calls i with
    | .idle =>
      let next := change i s.memory
      some ⟨next, s.disk, Function.update s.calls i (.pending next), some i⟩
    | _ => none
  | .write i outcome =>
    match s.calls i with
    | .pending snapshot =>
      let (ok, disk) := save outcome snapshot s.disk
      some { s with disk := disk, calls := Function.update s.calls i (.finished ok) }
    | _ => none

def run : State ι α β → List (Action ι ω) → Option (State ι α β)
  | s, [] => some s
  | s, action :: rest => (step change save s action).bind fun t => run t rest

/-- Nobody stores a value after the call that changed it last has stored its own. -/
def InOrder (s : State ι α β) : Action ι ω → Prop
  | .swap _ => True
  | .write j _ => ∀ i, s.latest = some i → i = j ∨ ∃ snapshot, s.calls i = .pending snapshot

/-- Every step of a run is in order. -/
def AllInOrder : State ι α β → List (Action ι ω) → Prop
  | _, [] => True
  | s, action :: rest =>
    InOrder s action ∧ ∀ t, step change save s action = some t → AllInOrder t rest

variable {change : ι → α → α} {save : ω → α → β → Bool × β}

theorem step_swap {s t : State ι α β} (h : step change save s (.swap i) = some t) :
    s.calls i = .idle ∧ t = ⟨change i s.memory, s.disk,
      Function.update s.calls i (.pending (change i s.memory)), some i⟩ := by
  rw [step] at h
  cases hcall : s.calls i with
  | idle =>
    rw [hcall] at h
    cases h
    exact ⟨rfl, rfl⟩
  | _ =>
    rw [hcall] at h
    cases h

theorem step_write {s t : State ι α β} (h : step change save s (.write i outcome) = some t) :
    ∃ snapshot, s.calls i = .pending snapshot ∧
      t = { s with
        disk := (save outcome snapshot s.disk).2
        calls := Function.update s.calls i (.finished (save outcome snapshot s.disk).1) } := by
  rw [step] at h
  cases hcall : s.calls i with
  | pending snapshot =>
    rw [hcall] at h
    cases h
    exact ⟨snapshot, rfl, rfl⟩
  | _ =>
    rw [hcall] at h
    cases h

/-- A call that nobody interferes with. -/
theorem run_alone (i : ι) (outcome : ω) (memory : α) (disk : β) :
    ∃ t, run change save (start ι memory disk) [.swap i, .write i outcome] = some t ∧
      t.memory = change i memory ∧ t.disk = (save outcome (change i memory) disk).2 ∧
      t.calls i = .finished (save outcome (change i memory) disk).1 := by
  let swapped : State ι α β :=
    ⟨change i memory, disk, Function.update (fun _ => .idle) i (.pending (change i memory)), some i⟩
  let stored : State ι α β :=
    { swapped with
      disk := (save outcome (change i memory) disk).2
      calls := Function.update swapped.calls i (.finished (save outcome (change i memory) disk).1) }
  have hswap : step change save (start ι memory disk) (.swap i : Action ι ω) = some swapped := rfl
  have hcall : swapped.calls i = .pending (change i memory) := by
    dsimp only [swapped]
    rw [Function.update_self]
  have hwrite : step change save swapped (.write i outcome) = some stored := by
    rw [step, hcall]
  have hdone : stored.calls i = .finished (save outcome (change i memory) disk).1 := by
    dsimp only [stored]
    rw [Function.update_self]
  refine ⟨stored, ?_, rfl, rfl, hdone⟩
  rw [run, hswap, Option.bind_some, run, hwrite]
  rfl

/-- One step in order. The latest call stores what is in memory; any other one stores while the
latest is still to come. -/
theorem sound_step {Stored : β → α → Prop}
    (hsave : ∀ outcome snapshot disk, (save outcome snapshot disk).1 = true →
      Stored (save outcome snapshot disk).2 snapshot)
    {s t : State ι α β} {action : Action ι ω} (h : Sound Stored s) (horder : InOrder s action)
    (hstep : step change save s action = some t) : Sound Stored t := by
  cases action with
  | swap i =>
    obtain ⟨-, rfl⟩ := step_swap hstep
    exact .inl (Function.update_self _ _ _)
  | write j outcome =>
    obtain ⟨snapshot, hcall, rfl⟩ := step_write hstep
    cases hlatest : s.latest with
    | none =>
      rw [Sound, hlatest] at h
      rw [h.1 j] at hcall
      cases hcall
    | some i =>
      rw [Sound, hlatest] at h
      rw [Sound]
      dsimp only at h ⊢
      by_cases hij : i = j
      · subst hij
        rw [hcall] at h
        rcases h with h | h | h
        · cases h
          rw [Function.update_self]
          cases hok : (save outcome s.memory s.disk).1 with
          | false => exact .inr (.inl rfl)
          | true => exact .inr (.inr ⟨rfl, hsave _ _ _ hok⟩)
        · cases h
        · cases h.1
      · obtain ⟨other, hother⟩ := (horder i hlatest).resolve_left hij
        rw [Function.update_of_ne hij]
        rw [hother] at h ⊢
        rcases h with h | h | h
        · exact .inl h
        · cases h
        · cases h.1

theorem sound_run {Stored : β → α → Prop}
    (hsave : ∀ outcome snapshot disk, (save outcome snapshot disk).1 = true →
      Stored (save outcome snapshot disk).2 snapshot)
    {s t : State ι α β} {actions : List (Action ι ω)} (h : Sound Stored s)
    (horder : AllInOrder change save s actions) (hrun : run change save s actions = some t) :
    Sound Stored t := by
  induction actions generalizing s with
  | nil =>
    cases hrun
    exact h
  | cons action rest ih =>
    rw [run, Option.bind_eq_some_iff] at hrun
    obtain ⟨u, hstep, hrest⟩ := hrun
    exact ih (sound_step hsave h horder.1 hstep) (horder.2 u hstep) hrest

end

end WriteBehind
