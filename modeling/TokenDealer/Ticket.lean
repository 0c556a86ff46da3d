import Mathlib.Data.List.Induction
import Mathlib.Data.List.Nodup
import Mathlib.Logic.Function.Basic
import TokenDealer.History

set_option autoImplicit true

namespace Ticket

/-- A ticket is issued to an owner; when it is shown for one, it is taken and passes or not. -/
inductive Act (τ : Type u) (ω : Type v) where
  | issue (t : τ) (owner : ω)
  | pass (t : τ) (owner : ω)
  | refuse (t : τ) (owner : ω)

variable {τ : Type u} {ω : Type v}

namespace Act

def ticket : Act τ ω → τ
  | issue t _ => t
  | pass t _ => t
  | refuse t _ => t

def issued : Act τ ω → Option τ
  | issue t _ => some t
  | _ => none

def passed : Act τ ω → Option τ
  | pass t _ => some t
  | _ => none

/-- Who a ticket is out to afterwards. -/
def owner : Act τ ω → Option ω
  | issue _ owner => some owner
  | _ => none

end Act

variable [DecidableEq τ]

/-- The tickets that are out, and their owners. -/
def holder (log : List (Act τ ω)) : τ → Option ω :=
  log.foldl (fun h a => Function.update h a.ticket a.owner) fun _ => none

theorem holder_concat (log : List (Act τ ω)) (a : Act τ ω) :
    holder (log ++ [a]) = Function.update (holder log) a.ticket a.owner := by
  rw [holder, List.foldl_append]
  rfl

/-- A ticket is out to an owner when it has been issued to them and nothing has been done with it
since. -/
theorem holder_iff (log : List (Act τ ω)) :
    holder log t = some o ↔
      History.Since (fun _ a => a = .issue t o) (fun a => a.ticket = t) log := by
  refine History.holds_iff_since (fun h : τ → Option ω => h t = some o)
    (Option.some_ne_none o).symm ?_ log
  intro history a
  rw [holder_concat]
  by_cases ha : a.ticket = t
  · subst ha
    rw [Function.update_self]
    simp only [not_true_eq_false, and_false, or_false]
    cases a <;> simp [Act.owner, Act.ticket]
  · rw [Function.update_of_ne (Ne.symm ha)]
    simp only [ha, not_false_eq_true, and_true, iff_or_self]
    rintro rfl
    exact (ha rfl).elim

theorem issue_mem_of_holder {log : List (Act τ ω)} (h : holder log t = some o) :
    Act.issue t o ∈ log := by
  obtain ⟨front, a, back, rfl, rfl, -⟩ := (holder_iff log).mp h
  exact List.mem_append_right front List.mem_cons_self

/-- What can be said of the tickets after these acts: one that passes is out to its owner, one that
is refused is not. -/
def Admits (log : List (Act τ ω)) : Act τ ω → Prop
  | .issue _ _ => True
  | .pass t o => holder log t = some o
  | .refuse t o => holder log t ≠ some o

def Truthful : List (Act τ ω) → Prop := History.Always Admits

theorem Truthful.issue_mem {log : List (Act τ ω)} (h : Truthful log)
    (hlog : log = front ++ .pass t o :: back) : Act.issue t o ∈ front :=
  issue_mem_of_holder (h front _ back hlog)

/-- Where no ticket is issued twice, none passes twice. -/
theorem Truthful.nodup_passed {log : List (Act τ ω)} (h : Truthful log)
    (hissued : (log.filterMap Act.issued).Nodup) : (log.filterMap Act.passed).Nodup := by
  induction log using List.reverseRecOn with
  | nil => exact .nil
  | append_singleton log a ih =>
    obtain ⟨hlog, ha⟩ := History.always_concat.mp h
    change Truthful log at hlog
    rw [List.filterMap_append] at hissued ⊢
    have hrest := ih hlog hissued.of_append_left
    cases a with
    | issue t o => simpa only [List.filterMap_cons, Act.passed, List.filterMap_nil, List.append_nil]
    | refuse t o =>
      simpa only [List.filterMap_cons, Act.passed, List.filterMap_nil, List.append_nil]
    | pass t o =>
      refine hrest.append (List.nodup_singleton t) ?_
      intro t' hfirst hsecond
      obtain ⟨b, hb, hpassed⟩ := List.mem_filterMap.mp hfirst
      cases List.mem_singleton.mp hsecond
      cases b with
      | issue t' o' => cases hpassed
      | refuse t' o' => cases hpassed
      | pass t' o' =>
        cases hpassed
        -- Shown before, the ticket must have been issued again since.
        obtain ⟨front, back, rfl⟩ := List.append_of_mem hb
        obtain ⟨c, e, d, rfl, rfl⟩ := ((holder_iff _).mp ha).started_after rfl nofun
        have hissuedFirst : t ∈ front.filterMap Act.issued :=
          List.mem_filterMap.mpr ⟨_, hlog.issue_mem rfl, rfl⟩
        have hissuedAgain : t ∈ (Act.pass t o' :: (c ++ .issue t o :: d)).filterMap Act.issued :=
          List.mem_filterMap.mpr ⟨.issue t o,
            List.mem_cons_of_mem _ (List.mem_append_right c List.mem_cons_self), rfl⟩
        have hnodup := hissued.of_append_left
        rw [List.filterMap_append] at hnodup
        exact (List.disjoint_of_nodup_append hnodup hissuedFirst hissuedAgain).elim

end Ticket
