set_option autoImplicit true

namespace Base64

/-- The character of a six-bit group. -/
def digit (n : Nat) : Char :=
  if n < 26 then Char.ofNat (65 + n)
  else if n < 52 then Char.ofNat (71 + n)
  else if n < 62 then Char.ofNat (n - 4)
  else if n = 62 then '+'
  else '/'

def value (c : Char) : Option Nat :=
  let n := c.toNat
  if 65 ≤ n ∧ n ≤ 90 then some (n - 65)
  else if 97 ≤ n ∧ n ≤ 122 then some (n - 71)
  else if 48 ≤ n ∧ n ≤ 57 then some (n + 4)
  else if c = '+' then some 62
  else if c = '/' then some 63
  else none

def encode : List UInt8 → List Char
  | [] => []
  | [a] => [digit (a.toNat / 4), digit (a.toNat % 4 * 16), '=', '=']
  | [a, b] =>
    [digit (a.toNat / 4), digit (a.toNat % 4 * 16 + b.toNat / 16), digit (b.toNat % 16 * 4), '=']
  | a :: b :: c :: rest =>
    digit (a.toNat / 4) :: digit (a.toNat % 4 * 16 + b.toNat / 16) ::
      digit (b.toNat % 16 * 4 + c.toNat / 64) :: digit (c.toNat % 64) :: encode rest

/-- The padding is required, and the bits under it have to be zero. -/
def decode : List Char → Option (List UInt8)
  | [] => some []
  | [w, x, '=', '='] =>
    match value w, value x with
    | some w, some x => if x % 16 = 0 then some [UInt8.ofNat (w * 4 + x / 16)] else none
    | _, _ => none
  | [w, x, y, '='] =>
    match value w, value x, value y with
    | some w, some x, some y =>
      if y % 4 = 0 then
        some [UInt8.ofNat (w * 4 + x / 16), UInt8.ofNat (x % 16 * 16 + y / 4)]
      else none
    | _, _, _ => none
  | w :: x :: y :: z :: rest =>
    match value w, value x, value y, value z, decode rest with
    | some w, some x, some y, some z, some bytes =>
      some (UInt8.ofNat (w * 4 + x / 16) :: UInt8.ofNat (x % 16 * 16 + y / 4) ::
        UInt8.ofNat (y % 4 * 64 + z) :: bytes)
    | _, _, _, _, _ => none
  | _ => none

example : decode (encode [1, 2, 254, 255]) = some [1, 2, 254, 255] := by decide

theorem value_digit : ∀ n < 64, value (digit n) = some n := by decide

theorem digit_ne_pad : ∀ n < 64, digit n ≠ '=' := by decide

theorem ofNat_eq (a : UInt8) (h : n = a.toNat) : UInt8.ofNat n = a := by
  rw [h, UInt8.ofNat_toNat]

/-- Each group of bytes reads back from its digits. -/
theorem decode_encode (bytes : List UInt8) : decode (encode bytes) = some bytes := by
  induction bytes using encode.induct with
  | case1 => rfl
  | case2 a =>
    have ha := a.toNat_lt
    rw [encode, decode, value_digit _ (by omega), value_digit _ (by omega)]
    dsimp only
    rw [if_pos (by omega), ofNat_eq a (by omega)]
  | case3 a b =>
    have ha := a.toNat_lt
    have hb := b.toNat_lt
    rw [encode, decode]
    · rw [value_digit _ (by omega), value_digit _ (by omega), value_digit _ (by omega)]
      dsimp only
      rw [if_pos (by omega), ofNat_eq a (by omega), ofNat_eq b (by omega)]
    · exact fun h => digit_ne_pad _ (by omega) h
  | case4 a b c rest ih =>
    have ha := a.toNat_lt
    have hb := b.toNat_lt
    have hc := c.toNat_lt
    have hlast : digit (c.toNat % 64) ≠ '=' := digit_ne_pad _ (by omega)
    rw [encode, decode]
    · rw [value_digit _ (by omega), value_digit _ (by omega), value_digit _ (by omega),
        value_digit _ (by omega), ih]
      dsimp only
      rw [ofNat_eq a (by omega), ofNat_eq b (by omega), ofNat_eq c (by omega)]
    · exact fun _ h _ => hlast h
    · exact fun h _ => hlast h

/-- Four characters stand for three bytes, or up to two fewer at the end. -/
theorem length_of_decode (h : decode cs = some bytes) :
    ∃ groups, cs.length = 4 * groups ∧ bytes.length ≤ 3 * groups ∧
      3 * groups ≤ bytes.length + 2 := by
  fun_induction decode cs generalizing bytes with
  | case1 =>
    cases h
    exact ⟨0, rfl, Nat.le_refl 0, by decide⟩
  | case2 | case5 =>
    cases h
    exact ⟨1, rfl, Nat.le_of_ble_eq_true rfl, Nat.le_of_ble_eq_true rfl⟩
  | case8 w x y z rest _ _ _ _ _ _ _ hrest _ _ _ _ ih =>
    cases h
    obtain ⟨groups, hlength, hlower, hupper⟩ := ih hrest
    refine ⟨groups + 1, ?_, ?_, ?_⟩
    · simp only [List.length_cons, hlength]
      omega
    · simp only [List.length_cons]
      omega
    · simp only [List.length_cons]
      omega
  | _ => cases h

theorem mem_encode (h : c ∈ encode bytes) : c = '=' ∨ ∃ n < 64, c = digit n := by
  induction bytes using encode.induct with
  | case1 => cases h
  | case2 a =>
    have ha := a.toNat_lt
    simp only [encode, List.mem_cons, List.not_mem_nil, or_false] at h
    rcases h with rfl | rfl | rfl | rfl
    · exact .inr ⟨_, by omega, rfl⟩
    · exact .inr ⟨_, by omega, rfl⟩
    · exact .inl rfl
    · exact .inl rfl
  | case3 a b =>
    have ha := a.toNat_lt
    have hb := b.toNat_lt
    simp only [encode, List.mem_cons, List.not_mem_nil, or_false] at h
    rcases h with rfl | rfl | rfl | rfl
    · exact .inr ⟨_, by omega, rfl⟩
    · exact .inr ⟨_, by omega, rfl⟩
    · exact .inr ⟨_, by omega, rfl⟩
    · exact .inl rfl
  | case4 a b c rest ih =>
    have ha := a.toNat_lt
    have hb := b.toNat_lt
    have hc := c.toNat_lt
    simp only [encode, List.mem_cons] at h
    rcases h with rfl | rfl | rfl | rfl | h
    · exact .inr ⟨_, by omega, rfl⟩
    · exact .inr ⟨_, by omega, rfl⟩
    · exact .inr ⟨_, by omega, rfl⟩
    · exact .inr ⟨_, by omega, rfl⟩
    · exact ih h

end Base64
