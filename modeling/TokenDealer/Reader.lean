import Mathlib.Tactic.Ring
import TokenDealer.Incremental

set_option autoImplicit true

namespace Incremental

/-- A reader takes a value off the front of its input or finds the input wanting. The value
depends on nothing but what was taken. -/
structure Reader (α β : Type) where
  read : List α → Option (β × List α)
  taken : ∀ {xs b rest}, read xs = some (b, rest) →
    ∃ front, xs = front ++ rest ∧ ∀ more, read (front ++ more) = some (b, more)

namespace Reader

variable {α β γ : Type}

def pure (b : β) : Reader α β where
  read xs := some (b, xs)
  taken h := by
    cases h
    exact ⟨[], rfl, fun _ => rfl⟩

def fail : Reader α β where
  read _ := none
  taken h := by cases h

def bind (r : Reader α β) (f : β → Reader α γ) : Reader α γ where
  read xs := (r.read xs).bind fun p => (f p.1).read p.2
  taken {xs c rest} h := by
    obtain ⟨⟨b, mid⟩, hr, hf⟩ := Option.bind_eq_some_iff.mp h
    obtain ⟨front, hxs, hfront⟩ := r.taken hr
    obtain ⟨front', rfl, hfront'⟩ := (f b).taken hf
    refine ⟨front ++ front', by rw [hxs, List.append_assoc], ?_⟩
    intro more
    rw [List.append_assoc, hfront, Option.bind_some, hfront']

instance : Monad (Reader α) where
  pure := pure
  bind := bind

theorem read_bind (r : Reader α β) (f : β → Reader α γ) (xs : List α) :
    (r >>= f).read xs = (r.read xs).bind fun p => (f p.1).read p.2 := rfl

def item : Reader α α where
  read
    | [] => none
    | x :: xs => some (x, xs)
  taken {xs b rest} h := by
    cases xs with
    | nil => cases h
    | cons x xs =>
      cases h
      exact ⟨[_], rfl, fun _ => rfl⟩

def take (n : Nat) : Reader α (List α) where
  read xs := if n ≤ xs.length then some (xs.take n, xs.drop n) else none
  taken {xs b rest} h := by
    split at h
    · next hn =>
      cases h
      have hlen : (xs.take n).length = n := List.length_take_of_le hn
      refine ⟨xs.take n, (List.take_append_drop n xs).symm, ?_⟩
      intro more
      rw [if_pos (by rw [List.length_append, hlen]; omega), List.take_left' hlen,
        List.drop_left' hlen]
    · cases h

/-- The reader takes the input `xs` for the value `b`, whatever comes behind. -/
def Reads (r : Reader α β) (xs : List α) (b : β) : Prop :=
  ∀ rest, r.read (xs ++ rest) = some (b, rest)

theorem reads_pure (b : β) : (Pure.pure b : Reader α β).Reads [] b := fun _ => rfl

theorem reads_item (x : α) : item.Reads [x] x := fun _ => rfl

theorem reads_take {xs : List α} (h : xs.length = n) : (take n).Reads xs xs := by
  intro rest
  have hle : n ≤ (xs ++ rest).length := by rw [List.length_append, h]; omega
  simp only [take, if_pos hle, List.take_left' h, List.drop_left' h]

theorem Reads.bind {r : Reader α β} {f : β → Reader α γ} (h : r.Reads xs b)
    (hf : (f b).Reads ys c) : (r >>= f).Reads (xs ++ ys) c := by
  intro rest
  rw [read_bind, List.append_assoc, h, Option.bind_some, hf]

theorem Reads.map {r : Reader α β} (h : r.Reads xs b) (g : β → γ) :
    (r >>= fun b => Pure.pure (g b)).Reads xs (g b) := by
  have hbind := h.bind (f := fun b => Pure.pure (g b)) (reads_pure (g b))
  rwa [List.append_nil] at hbind

theorem read_pure_eq_some {b c : β} {xs rest : List α}
    (h : (Pure.pure b : Reader α β).read xs = some (c, rest)) : c = b ∧ xs = rest := by
  cases h
  exact ⟨rfl, rfl⟩

theorem read_bind_eq_some {r : Reader α β} {f : β → Reader α γ}
    (h : (r >>= f).read xs = some (c, rest)) :
    ∃ b mid, r.read xs = some (b, mid) ∧ (f b).read mid = some (c, rest) := by
  obtain ⟨⟨b, mid⟩, hr, hf⟩ := Option.bind_eq_some_iff.mp h
  exact ⟨b, mid, hr, hf⟩

theorem read_item_eq_some {x : α} (h : item.read xs = some (x, rest)) : xs = x :: rest := by
  cases xs with
  | nil => cases h
  | cons y ys =>
    cases h
    rfl

theorem read_take_eq_some {ys : List α} (h : (take n).read xs = some (ys, rest)) :
    xs = ys ++ rest ∧ ys.length = n := by
  rw [take] at h
  dsimp only at h
  split at h
  · next hn =>
    cases h
    exact ⟨(List.take_append_drop n xs).symm, List.length_take_of_le hn⟩
  · cases h

/-- More input behind a value that was read stays behind it. -/
theorem read_append {r : Reader α β} (h : r.read xs = some (b, rest)) (more : List α) :
    r.read (xs ++ more) = some (b, rest ++ more) := by
  obtain ⟨front, hxs, hfront⟩ := r.taken h
  rw [hxs, List.append_assoc, hfront]

theorem length_read_le {r : Reader α β} (h : r.read xs = some (b, rest)) :
    rest.length ≤ xs.length := by
  obtain ⟨front, hxs, -⟩ := r.taken h
  rw [hxs, List.length_append]
  exact Nat.le_add_left _ _

theorem length_item_bind_lt {f : α → Reader α β} (h : (item >>= f).read xs = some (b, rest)) :
    rest.length < xs.length := by
  obtain ⟨⟨x, tail⟩, hitem, hf⟩ := Option.bind_eq_some_iff.mp h
  cases xs with
  | nil => cases hitem
  | cons y ys =>
    cases hitem
    exact Nat.lt_succ_of_le (length_read_le hf)

end Reader

/-- Values one after the other, each of them at least one symbol long. -/
def Cutter.ofReader (r : Reader α β)
    (shorter : ∀ {xs b rest}, r.read xs = some (b, rest) → rest.length < xs.length) :
    Cutter α β where
  cut xs :=
    match r.read xs with
    | none => .more
    | some (b, rest) => .frame b rest
  shrinks {buf b rest} h := by
    split at h
    · cases h
    · next hread =>
      cases h
      exact shorter hread
  frame_append {buf b rest} more h := by
    split at h
    · cases h
    · next hread =>
      cases h
      rw [Reader.read_append hread]
  refuse_append {buf} more h := by
    split at h <;> cases h

theorem Cutter.ofReader_more {r : Reader α β} {shorter} (h : r.read xs = none) :
    (Cutter.ofReader r shorter).cut xs = .more := by
  rw [ofReader]
  dsimp only
  rw [h]

theorem Cutter.ofReader_frame {r : Reader α β} {shorter} (h : r.read xs = some (b, rest)) :
    (Cutter.ofReader r shorter).cut xs = .frame b rest := by
  rw [ofReader]
  dsimp only
  rw [h]

theorem Cutter.ofReader_ne_refuse {r : Reader α β} {shorter} (xs : List α) :
    (Cutter.ofReader r shorter).cut xs ≠ .refuse := by
  intro h
  cases hread : r.read xs with
  | none =>
    rw [ofReader_more hread] at h
    cases h
  | some p =>
    obtain ⟨b, rest⟩ := p
    rw [ofReader_frame hread] at h
    cases h

theorem Cutter.ofReader_reads {r : Reader α β} {shorter} (h : r.Reads xs b) (rest : List α) :
    (Cutter.ofReader r shorter).cut (xs ++ rest) = .frame b rest :=
  Cutter.ofReader_frame (h rest)

/-- A reader that reads the words of an encoding, and nothing else. -/
theorem Cutter.ofReader_words {r : Reader α β} {shorter} {enc : γ → List α} {dec : γ → β}
    (hreads : ∀ g, r.Reads (enc g) (dec g))
    (hsound : ∀ {xs b rest}, r.read xs = some (b, rest) → ∃ g, xs = enc g ++ rest ∧ b = dec g) :
    (Cutter.ofReader r shorter).Words enc dec where
  cut_enc g rest := Cutter.ofReader_reads (hreads g) rest
  sound {buf b rest} h := by
    cases hread : r.read buf with
    | none =>
      rw [ofReader_more hread] at h
      cases h
    | some p =>
      rw [ofReader_frame hread] at h
      cases h
      exact hsound hread

end Incremental

/-- Numbers of a fixed width in bytes, the most significant byte first. -/
def BigEndian.encode : Nat → Nat → List UInt8
  | 0, _ => []
  | w + 1, n => UInt8.ofNat (n / 256 ^ w) :: BigEndian.encode w n

namespace BigEndian

def decode (bytes : List UInt8) : Nat := bytes.foldl (fun n b => n * 256 + b.toNat) 0

@[simp] theorem length_encode (w n : Nat) : (encode w n).length = w := by
  induction w with
  | zero => rfl
  | succ w ih => rw [encode, List.length_cons, ih]

theorem foldl_encode (w n m : Nat) :
    (encode w n).foldl (fun n b => n * 256 + b.toNat) m = m * 256 ^ w + n % 256 ^ w := by
  induction w generalizing m with
  | zero => simp only [encode, List.foldl_nil, Nat.pow_zero, Nat.mul_one, Nat.mod_one, Nat.add_zero]
  | succ w ih =>
    have hbyte : (UInt8.ofNat (n / 256 ^ w)).toNat = n / 256 ^ w % 256 := UInt8.toNat_ofNat'
    rw [encode, List.foldl_cons, ih, hbyte, Nat.pow_succ, Nat.mod_mul]
    ring

theorem decode_encode (h : n < 256 ^ w) : decode (encode w n) = n := by
  rw [decode, foldl_encode, Nat.zero_mul, Nat.zero_add, Nat.mod_eq_of_lt h]

theorem foldl_decode (bytes : List UInt8) (m : Nat) :
    bytes.foldl (fun n b => n * 256 + b.toNat) m = m * 256 ^ bytes.length + decode bytes := by
  induction bytes generalizing m with
  | nil => exact (Nat.mul_one m).symm
  | cons b bytes ih =>
    rw [decode, List.foldl_cons, List.foldl_cons, ih, ih (0 * 256 + b.toNat), List.length_cons,
      Nat.pow_succ]
    ring

theorem decode_cons (b : UInt8) (bytes : List UInt8) :
    decode (b :: bytes) = b.toNat * 256 ^ bytes.length + decode bytes := by
  rw [decode, List.foldl_cons, foldl_decode, Nat.zero_mul, Nat.zero_add]

theorem decode_lt (bytes : List UInt8) : decode bytes < 256 ^ bytes.length := by
  induction bytes with
  | nil => exact Nat.one_pos
  | cons b bytes ih =>
    have hb := b.toNat_lt
    rw [decode_cons, List.length_cons, Nat.pow_succ]
    calc b.toNat * 256 ^ bytes.length + decode bytes
        < b.toNat * 256 ^ bytes.length + 256 ^ bytes.length := Nat.add_lt_add_left ih _
      _ = (b.toNat + 1) * 256 ^ bytes.length := (Nat.succ_mul _ _).symm
      _ ≤ 256 * 256 ^ bytes.length := Nat.mul_le_mul_right _ hb
      _ = 256 ^ bytes.length * 256 := Nat.mul_comm _ _

/-- Only the digits of the width count. -/
theorem encode_add_mul (w m n : Nat) : encode w (m * 256 ^ w + n) = encode w n := by
  induction w generalizing m with
  | zero => rfl
  | succ w ih =>
    have hshift : m * 256 ^ (w + 1) + n = m * 256 * 256 ^ w + n := by
      rw [Nat.pow_succ, Nat.mul_assoc, Nat.mul_comm (256 ^ w) 256, ← Nat.mul_assoc]
    have hdigit : (m * 256 * 256 ^ w + n) / 256 ^ w = n / 256 ^ w + 256 * m := by
      rw [Nat.add_comm, Nat.add_mul_div_right _ _ (Nat.pow_pos (by decide)), Nat.mul_comm m]
    rw [encode, encode, hshift, ih, hdigit]
    congr 1
    apply UInt8.toNat_inj.mp
    rw [UInt8.toNat_ofNat', UInt8.toNat_ofNat']
    exact Nat.add_mul_mod_self_left _ 256 m

/-- Bytes are the number that they write. -/
theorem encode_decode (bytes : List UInt8) : encode bytes.length (decode bytes) = bytes := by
  induction bytes with
  | nil => rfl
  | cons b bytes ih =>
    have hdigit : (b.toNat * 256 ^ bytes.length + decode bytes) / 256 ^ bytes.length =
        b.toNat := by
      rw [Nat.add_comm, Nat.add_mul_div_right _ _ (Nat.pow_pos (by decide)),
        Nat.div_eq_of_lt (decode_lt bytes), Nat.zero_add]
    rw [decode_cons, List.length_cons, encode, encode_add_mul, ih, hdigit, UInt8.ofNat_toNat]

end BigEndian
