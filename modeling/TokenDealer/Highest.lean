set_option autoImplicit true

namespace Highest

/-- A value of the greatest rank among those that satisfy a predicate. -/
def IsHighest (rank : α → Nat) (p : α → Prop) (a : α) : Prop := p a ∧ ∀ b, p b → rank b ≤ rank a

theorem IsHighest.unique {rank : α → Nat} (hrank : ∀ a b, rank a = rank b → a = b)
    (ha : IsHighest rank p a) (hb : IsHighest rank p b) : a = b :=
  hrank a b (Nat.le_antisymm (hb.2 a ha.1) (ha.2 b hb.1))

theorem IsHighest.congr {rank : α → Nat} (h : ∀ a, p a ↔ q a) (ha : IsHighest rank p a) :
    IsHighest rank q a := by
  obtain ⟨hmem, hle⟩ := ha
  exact ⟨(h a).mp hmem, fun b hb => hle b ((h b).mpr hb)⟩

theorem IsHighest.mono {rank : α → Nat} (ha : IsHighest rank p a) (hb : IsHighest rank q b)
    (h : ∀ c, p c → q c) : rank a ≤ rank b :=
  hb.2 a (h a ha.1)

/-- What a predicate asks for is outranked by what another one asks for. -/
def Within (rank : α → Nat) (p q : α → Prop) : Prop := ∀ a, p a → ∃ b, q b ∧ rank a ≤ rank b

/-- Two predicates have the same highest value when neither reaches above the other. -/
theorem IsHighest.eq_iff {rank : α → Nat} (hrank : ∀ a b, rank a = rank b → a = b)
    (ha : IsHighest rank p a) (hb : IsHighest rank q b) :
    a = b ↔ Within rank p q ∧ Within rank q p := by
  constructor
  · rintro rfl
    exact ⟨fun c hc => ⟨a, hb.1, ha.2 c hc⟩, fun c hc => ⟨a, ha.1, hb.2 c hc⟩⟩
  · intro h
    obtain ⟨hpq, hqp⟩ := h
    obtain ⟨c, hc, hac⟩ := hpq a ha.1
    obtain ⟨d, hd, hbd⟩ := hqp b hb.1
    exact hrank a b (Nat.le_antisymm (Nat.le_trans hac (hb.2 c hc)) (Nat.le_trans hbd (ha.2 d hd)))

/-- Go through a list and take every value that outranks the one at hand. -/
def raise (rank : α → Nat) (start : α) (values : List α) : α :=
  values.foldl (fun best a => if rank best < rank a then a else best) start

theorem raise_cons (rank : α → Nat) (start a : α) (values : List α) :
    raise rank start (a :: values) =
      raise rank (if rank start < rank a then a else start) values := rfl

/-- What is left in the end is of the highest rank met on the way. -/
theorem isHighest_raise (rank : α → Nat) (start : α) (values : List α) :
    IsHighest rank (fun a => a = start ∨ a ∈ values) (raise rank start values) := by
  induction values generalizing start with
  | nil =>
    refine ⟨.inl rfl, ?_⟩
    rintro b (rfl | hb)
    · exact Nat.le_refl _
    · exact absurd hb List.not_mem_nil
  | cons a values ih =>
    rw [raise_cons]
    by_cases h : rank start < rank a
    · rw [if_pos h]
      obtain ⟨hmem, hle⟩ := ih a
      refine ⟨.inr (List.mem_cons.mpr hmem), ?_⟩
      rintro b (rfl | hb)
      · exact Nat.le_trans (Nat.le_of_lt h) (hle a (.inl rfl))
      · exact hle b (List.mem_cons.mp hb)
    · rw [if_neg h]
      obtain ⟨hmem, hle⟩ := ih start
      refine ⟨hmem.imp_right (List.mem_cons_of_mem a), ?_⟩
      rintro b (rfl | hb)
      · exact hle _ (.inl rfl)
      · rcases List.mem_cons.mp hb with rfl | hb
        · exact Nat.le_trans (Nat.le_of_not_lt h) (hle start (.inl rfl))
        · exact hle b (.inr hb)

end Highest
