import TokenDealer.Reader

set_option autoImplicit true

/-- The operations of a slice that are checked when they run. Nothing comes out of one that
panics. -/
def Slice.index (xs : List α) (i : Nat) : Option α := xs[i]?

namespace Slice

def range (xs : List α) (a b : Nat) : Option (List α) :=
  if a ≤ b ∧ b ≤ xs.length then some (xs.extract a b) else none

/-- What is left when a front of the given length was taken out. -/
def drainTo (xs : List α) (n : Nat) : Option (List α) :=
  if n ≤ xs.length then some (xs.drop n) else none

/-- A subtraction of unsigned numbers. -/
def sub (a b : Nat) : Option Nat := if b ≤ a then some (a - b) else none

theorem index_of_lt {xs : List α} (h : i < xs.length) : index xs i = some xs[i] :=
  List.getElem?_eq_getElem h

theorem range_of_le {xs : List α} (hab : a ≤ b) (hb : b ≤ xs.length) :
    range xs a b = some (xs.extract a b) := if_pos ⟨hab, hb⟩

theorem range_of_lt (h : b < a) (xs : List α) : range xs a b = none :=
  if_neg fun hab => Nat.not_le.mpr h hab.1

theorem drainTo_of_le {xs : List α} (h : n ≤ xs.length) : drainTo xs n = some (xs.drop n) :=
  if_pos h

theorem sub_of_le (h : b ≤ a) : sub a b = some (a - b) := if_pos h

theorem extract_one {xs : List α} (h : i < xs.length) : xs.extract i (i + 1) = [xs[i]] := by
  rw [List.extract_eq_take_drop, Nat.add_sub_cancel_left, List.drop_eq_getElem_cons h]
  rfl

theorem extract_cons {xs : List α} (h : i < xs.length) (hb : i < b) :
    xs.extract i b = xs[i] :: xs.extract (i + 1) b := by
  rw [List.extract_eq_take_drop, List.extract_eq_take_drop, List.drop_eq_getElem_cons h,
    show b - i = b - (i + 1) + 1 by omega, List.take_succ_cons]

end Slice

namespace Incremental

/-- A reader put at a position of a slice gives the value and the position behind it. -/
def Reader.readAt (r : Reader α β) (xs : List α) (i : Nat) : Option (β × Nat) :=
  (r.read (xs.drop i)).map fun p => (p.1, xs.length - p.2.length)

namespace Reader

variable {α β γ : Type} {xs : List α}

theorem readAt_pure (h : i ≤ xs.length) (b : β) :
    (Pure.pure b : Reader α β).readAt xs i = some (b, i) := by
  have hlen : xs.length - (xs.drop i).length = i := by
    rw [List.length_drop]
    omega
  exact congrArg (fun j => some (b, j)) hlen

theorem readAt_fail (xs : List α) (i : Nat) : (fail : Reader α β).readAt xs i = none := rfl

theorem readAt_item_of_lt (h : i < xs.length) : item.readAt xs i = some (xs[i], i + 1) := by
  have hlen : xs.length - (xs.drop (i + 1)).length = i + 1 := by
    rw [List.length_drop]
    omega
  rw [readAt, List.drop_eq_getElem_cons h]
  exact congrArg (fun j => some (xs[i], j)) hlen

theorem readAt_item_of_le (h : xs.length ≤ i) : item.readAt xs i = none := by
  rw [readAt, List.drop_eq_nil_of_le h]
  rfl

theorem readAt_take (h : i ≤ xs.length) (n : Nat) : (take n).readAt xs i =
    if i + n ≤ xs.length then some (xs.extract i (i + n), i + n) else none := by
  by_cases hn : i + n ≤ xs.length
  · have hread : n ≤ (xs.drop i).length := by
      rw [List.length_drop]
      omega
    have hlen : xs.length - ((xs.drop i).drop n).length = i + n := by
      rw [List.length_drop, List.length_drop]
      omega
    have htake : (take n).read (xs.drop i) = some ((xs.drop i).take n, (xs.drop i).drop n) :=
      if_pos hread
    rw [if_pos hn, readAt, htake, Option.map_some, hlen, List.extract_eq_take_drop,
      Nat.add_sub_cancel_left]
  · have hread : ¬ n ≤ (xs.drop i).length := by
      rw [List.length_drop]
      omega
    have htake : (take n).read (xs.drop i) = none := if_neg hread
    rw [if_neg hn, readAt, htake]
    rfl

/-- What a reader leaves over is the end of the slice. -/
theorem drop_of_read {r : Reader α β} (h : r.read (xs.drop i) = some (b, rest)) :
    xs.drop (xs.length - rest.length) = rest := by
  obtain ⟨front, hfront, -⟩ := r.taken h
  have hsuffix : rest <:+ xs := by
    apply List.IsSuffix.trans _ (List.drop_suffix i xs)
    rw [hfront]
    exact List.suffix_append front rest
  exact (List.suffix_iff_eq_drop.mp hsuffix).symm

theorem readAt_bind (r : Reader α β) (f : β → Reader α γ) (xs : List α) (i : Nat) :
    (r >>= f).readAt xs i = (r.readAt xs i).bind fun p => (f p.1).readAt xs p.2 := by
  rw [readAt, read_bind, readAt]
  cases hread : r.read (xs.drop i) with
  | none => rfl
  | some p =>
    obtain ⟨b, rest⟩ := p
    rw [Option.bind_some, Option.map_some, Option.bind_some, readAt, drop_of_read hread]

theorem readAt_le {r : Reader α β} (h : r.readAt xs i = some (b, j)) : j ≤ xs.length := by
  obtain ⟨⟨b', rest⟩, hread, he⟩ := Option.map_eq_some_iff.mp h
  cases he
  exact Nat.sub_le _ _

theorem readAt_eq_none {r : Reader α β} (h : r.readAt xs i = none) :
    r.read (xs.drop i) = none := Option.map_eq_none_iff.mp h

theorem readAt_eq_some {r : Reader α β} (h : r.readAt xs i = some (b, j)) :
    r.read (xs.drop i) = some (b, xs.drop j) := by
  obtain ⟨⟨b', rest⟩, hread, he⟩ := Option.map_eq_some_iff.mp h
  cases he
  rw [hread, drop_of_read hread]

end Reader

end Incremental
