import TokenDealer.History

set_option autoImplicit true

namespace Lineage

/-- A new value begins; a value is traded in for a product and for the value that takes its place;
a product is used. -/
inductive Act (α : Type u) (β : Type v) where
  | fresh (value : α)
  | traded (source : α) (product : β) (next : α)
  | used (product : β)

variable {α : Type u} {β : Type v}

namespace Act

def value : Act α β → Option α
  | fresh a => some a
  | _ => none

end Act

/-- The new values, in the order in which they began. -/
def values (log : List (Act α β)) : List α := log.filterMap Act.value

/-- How many new values there have been. -/
def age (log : List (Act α β)) : Nat := (values log).length

def newest (log : List (Act α β)) : Option α := (values log).getLast?

/-- A value is the given one, or has taken the place of one that is derived from it. -/
inductive Derives (log : List (Act α β)) (n : α) : α → Prop where
  | refl : Derives log n n
  | trade (h : Derives log n a) (htraded : .traded a b next ∈ log) : Derives log n next

/-- A product that a value derived from the given one was traded in for. -/
def Obtained (log : List (Act α β)) (n : α) (b : β) : Prop :=
  ∃ a next, Derives log n a ∧ .traded a b next ∈ log

/-- A value is derived from the one that was the newest when there were `g`. -/
def Descends (log : List (Act α β)) (g : Nat) (a : α) : Prop :=
  g ≤ age log ∧ ∀ n, ((values log).take g).getLast? = some n → Derives log n a

def ObtainedAt (log : List (Act α β)) (g : Nat) (b : β) : Prop :=
  g ≤ age log ∧ ∀ n, ((values log).take g).getLast? = some n → Obtained log n b

variable {log rest : List (Act α β)}

theorem values_append : values (log ++ rest) = values log ++ values rest :=
  List.filterMap_append

theorem age_append : age (log ++ rest) = age log + age rest := by
  rw [age, values_append, List.length_append]
  rfl

theorem Derives.append (h : Derives log n a) : Derives (log ++ rest) n a := by
  induction h with
  | refl => exact .refl
  | trade _ htraded ih => exact .trade ih (List.mem_append_left rest htraded)

theorem Descends.append (h : Descends log g a) : Descends (log ++ rest) g a := by
  refine ⟨?_, ?_⟩
  · rw [age_append]
    exact Nat.le_add_right_of_le h.1
  · intro n hn
    rw [values_append, List.take_append_of_le_length h.1] at hn
    exact (h.2 n hn).append

theorem Obtained.append (h : Obtained log n b) : Obtained (log ++ rest) n b := by
  obtain ⟨a, next, ha, htraded⟩ := h
  exact ⟨a, next, ha.append, List.mem_append_left rest htraded⟩

theorem ObtainedAt.append (h : ObtainedAt log g b) : ObtainedAt (log ++ rest) g b := by
  refine ⟨?_, ?_⟩
  · rw [age_append]
    exact Nat.le_add_right_of_le h.1
  · intro n hn
    rw [values_append, List.take_append_of_le_length h.1] at hn
    exact (h.2 n hn).append

theorem Descends.trade (h : Descends log g a) (htraded : .traded a b next ∈ log) :
    Descends log g next :=
  ⟨h.1, fun n hn => .trade (h.2 n hn) htraded⟩

theorem Descends.obtained (h : Descends log g a) (htraded : .traded a b next ∈ log) :
    ObtainedAt log g b :=
  ⟨h.1, fun n hn => ⟨a, next, h.2 n hn, htraded⟩⟩

/-- What there was before the first new value. -/
theorem descends_zero (log : List (Act α β)) (a : α) : Descends log 0 a :=
  ⟨Nat.zero_le _, nofun⟩

theorem obtainedAt_zero (log : List (Act α β)) (b : β) : ObtainedAt log 0 b :=
  ⟨Nat.zero_le _, nofun⟩

/-- A new value is the newest. -/
theorem descends_fresh (log : List (Act α β)) (a : α) :
    Descends (log ++ [.fresh a]) (age (log ++ [.fresh a])) a := by
  refine ⟨Nat.le_refl _, ?_⟩
  intro n hn
  rw [age, List.take_length, values_append] at hn
  have hlast : (values log ++ values [Act.fresh (β := β) a]).getLast? = some a :=
    List.getLast?_concat
  cases hlast.symm.trans hn
  exact .refl

theorem Descends.newest (h : Descends log (age log) a) (hn : newest log = some n) :
    Derives log n a := by
  apply h.2
  rw [age, List.take_length]
  exact hn

theorem ObtainedAt.newest (h : ObtainedAt log (age log) b) (hn : newest log = some n) :
    Obtained log n b := by
  apply h.2
  rw [age, List.take_length]
  exact hn

/-- A product is used while the value that it was traded in for is derived from the newest. -/
def UsesNewest (log : List (Act α β)) : Act α β → Prop
  | .used b => ∀ n, newest log = some n → Obtained log n b
  | _ => True

/-- Where no trade starts at the newest value, nothing but itself is derived from it. -/
theorem eq_of_derives (h : Derives log n a) (hnone : ∀ b next, .traded n b next ∉ log) : a = n := by
  induction h with
  | refl => rfl
  | trade _ htraded ih =>
    cases ih
    exact (hnone _ _ htraded).elim

end Lineage
