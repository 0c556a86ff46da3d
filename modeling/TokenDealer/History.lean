set_option autoImplicit true

namespace History

/-- Something was started in a history, and nothing after it has stopped it. Whether an event
starts it may depend on what went before. -/
def Since (start : List ε → ε → Prop) (stop : ε → Prop) (history : List ε) : Prop :=
  ∃ front e back, history = front ++ e :: back ∧ start front e ∧ ∀ later ∈ back, ¬ stop later

theorem not_since_nil {start : List ε → ε → Prop} {stop : ε → Prop} : ¬ Since start stop [] := by
  intro hsince
  obtain ⟨front, e, back, h, -⟩ := hsince
  exact List.append_ne_nil_of_right_ne_nil front (List.cons_ne_nil e back) h.symm

/-- One more event starts it, or leaves it as it was unless it stops it. -/
theorem since_concat {start : List ε → ε → Prop} {stop : ε → Prop} :
    Since start stop (history ++ [e]) ↔
      start history e ∨ Since start stop history ∧ ¬ stop e := by
  constructor
  · intro hsince
    obtain ⟨front, e', back, h, hstart, hback⟩ := hsince
    rcases List.eq_nil_or_concat back with rfl | ⟨back, last, rfl⟩
    · obtain ⟨hfront, he⟩ := List.append_inj' h rfl
      cases he
      exact .inl (hfront ▸ hstart)
    · rw [List.concat_eq_append] at h hback
      rw [← List.cons_append, ← List.append_assoc] at h
      obtain ⟨hfront, he⟩ := List.append_inj' h rfl
      cases he
      refine .inr ⟨⟨front, e', back, hfront, hstart, ?_⟩, ?_⟩
      · intro later hlater
        exact hback later (List.mem_append_left _ hlater)
      · exact hback e (List.mem_append_right back List.mem_cons_self)
  · rintro (hstart | ⟨⟨front, e', back, rfl, hstart, hback⟩, hstop⟩)
    · exact ⟨history, e, [], rfl, hstart, fun later hlater => absurd hlater List.not_mem_nil⟩
    · refine ⟨front, e', back ++ [e], ?_, hstart, ?_⟩
      · rw [List.append_assoc, List.cons_append]
      · intro later hlater
        rcases List.mem_append.mp hlater with hlater | hlater
        · exact hback later hlater
        · exact List.mem_singleton.mp hlater ▸ hstop

theorem Since.imp_stop {start : List ε → ε → Prop} {stop stop' : ε → Prop}
    (himp : ∀ e, stop' e → stop e) (h : Since start stop history) : Since start stop' history := by
  obtain ⟨front, e, back, heq, hstart, hback⟩ := h
  refine ⟨front, e, back, heq, hstart, ?_⟩
  exact fun later hlater hstop => hback later hlater (himp later hstop)

/-- Behind an event that stops it, it has been started again. -/
theorem Since.started_after {start : List ε → ε → Prop} {stop : ε → Prop}
    (h : Since start stop (front ++ e :: back)) (hstop : stop e) (hstart : ∀ f, ¬ start f e) :
    ∃ a e' b, back = a ++ e' :: b ∧ start (front ++ e :: a) e' := by
  obtain ⟨front', e', back', heq, hstart', hback⟩ := h
  rcases List.append_eq_append_iff.mp heq with ⟨a, rfl, hrest⟩ | ⟨a, rfl, hrest⟩
  · cases a with
    | nil =>
      cases hrest
      exact absurd hstart' (hstart _)
    | cons first a =>
      cases hrest
      exact ⟨a, e', back', rfl, hstart'⟩
  · cases a with
    | nil =>
      cases hrest
      exact absurd hstart' (hstart _)
    | cons first a =>
      cases hrest
      exact absurd hstop (hback e (List.mem_append_right a List.mem_cons_self))

/-- Every event of a history is one that may come after those before it. -/
def Always (admits : List ε → ε → Prop) (history : List ε) : Prop :=
  ∀ front e back, history = front ++ e :: back → admits front e

theorem always_nil {admits : List ε → ε → Prop} : Always admits [] := by
  intro front e back h
  exact (List.append_ne_nil_of_right_ne_nil front (List.cons_ne_nil e back) h.symm).elim

theorem Always.front {admits : List ε → ε → Prop} (h : Always admits (history ++ rest)) :
    Always admits history := by
  rintro front e back rfl
  exact h front e (back ++ rest) (by rw [List.append_assoc, List.cons_append])

theorem always_concat {admits : List ε → ε → Prop} :
    Always admits (history ++ [e]) ↔ Always admits history ∧ admits history e := by
  constructor
  · intro h
    exact ⟨h.front, h history e [] rfl⟩
  · rintro ⟨hhistory, he⟩ front e' back h
    rcases List.eq_nil_or_concat back with rfl | ⟨back, last, rfl⟩
    · obtain ⟨rfl, he'⟩ := List.append_inj' h rfl
      cases he'
      exact he
    · rw [List.concat_eq_append, ← List.cons_append, ← List.append_assoc] at h
      exact hhistory front e' back (List.append_inj' h rfl).1

/-- What every event starts, keeps or stops holds of the state after a history exactly when it has
been started since it was last stopped. -/
theorem holds_iff_since {run : List ε → σ} (holds : σ → Prop) {start : List ε → ε → Prop}
    {stop : ε → Prop} (hempty : ¬ holds (run []))
    (hstep : ∀ history e, holds (run (history ++ [e])) ↔
      start history e ∨ holds (run history) ∧ ¬ stop e) (history : List ε) :
    holds (run history) ↔ Since start stop history := by
  induction hlen : history.length generalizing history with
  | zero =>
    rw [List.eq_nil_of_length_eq_zero hlen]
    exact iff_of_false hempty not_since_nil
  | succ n ih =>
    rcases List.eq_nil_or_concat history with rfl | ⟨front, last, rfl⟩
    · cases hlen
    · rw [List.concat_eq_append, List.length_append] at hlen
      rw [List.concat_eq_append, hstep, since_concat, ih front (Nat.succ.inj hlen)]

/-- The same over the histories that are allowed. -/
theorem allowed_iff_since {run : List ε → σ} (holds : σ → Prop) {start : List ε → ε → Prop}
    {stop : ε → Prop} {allowed : List ε → Prop}
    (hfront : ∀ history e, allowed (history ++ [e]) → allowed history) (hempty : ¬ holds (run []))
    (hstep : ∀ history e, allowed (history ++ [e]) → (holds (run (history ++ [e])) ↔
      start history e ∨ holds (run history) ∧ ¬ stop e)) {history : List ε}
    (h : allowed history) : holds (run history) ↔ Since start stop history := by
  induction hlen : history.length generalizing history with
  | zero =>
    rw [List.eq_nil_of_length_eq_zero hlen]
    exact iff_of_false hempty not_since_nil
  | succ n ih =>
    rcases List.eq_nil_or_concat history with rfl | ⟨front, last, rfl⟩
    · cases hlen
    · rw [List.concat_eq_append] at h hlen ⊢
      rw [List.length_append] at hlen
      rw [hstep front last h, since_concat, ih (hfront front last h) (Nat.succ.inj hlen)]

end History
