set_option autoImplicit true

namespace Utf8

def replacement : Char := '\uFFFD'

/-- A decoder inside a character: how many bytes it still owes, what it has read of it, and the
range its next byte must lie in. -/
structure State where
  owed : Nat
  read : Nat
  low : Nat
  high : Nat

def State.idle : State := ⟨0, 0, 0x80, 0xBF⟩

/-- The first byte of a character. The narrowed ranges after E0, ED, F0 and F4 keep out
overlong forms, surrogates and what lies beyond the last character. -/
def lead (b : Nat) : List Char × State :=
  if b < 0x80 then ([Char.ofNat b], .idle)
  else if 0xC2 ≤ b ∧ b ≤ 0xDF then ([], ⟨1, b - 0xC0, 0x80, 0xBF⟩)
  else if 0xE0 ≤ b ∧ b ≤ 0xEF then
    ([], ⟨2, b - 0xE0, if b = 0xE0 then 0xA0 else 0x80, if b = 0xED then 0x9F else 0xBF⟩)
  else if 0xF0 ≤ b ∧ b ≤ 0xF4 then
    ([], ⟨3, b - 0xF0, if b = 0xF0 then 0x90 else 0x80, if b = 0xF4 then 0x8F else 0xBF⟩)
  else ([replacement], .idle)

def step (s : State) (b : Nat) : List Char × State :=
  if s.owed = 0 then lead b
  else if s.low ≤ b ∧ b ≤ s.high then
    if s.owed = 1 then ([Char.ofNat (s.read * 64 + b % 64)], .idle)
    else ([], ⟨s.owed - 1, s.read * 64 + b % 64, 0x80, 0xBF⟩)
  else
    -- the broken character becomes one replacement, and its byte is read again as a first one
    (replacement :: (lead b).1, (lead b).2)

def run : State → List UInt8 → List Char
  | s, [] => if s.owed = 0 then [] else [replacement]
  | s, b :: bs => (step s b.toNat).1 ++ run (step s b.toNat).2 bs

/-- Decoding that puts one replacement character for each broken character. -/
def decodeLossy (bs : List UInt8) : List Char := run .idle bs

def encode (cs : List Char) : List UInt8 := cs.flatMap String.utf8EncodeChar

@[simp] theorem encode_cons (c : Char) (cs : List Char) :
    encode (c :: cs) = String.utf8EncodeChar c ++ encode cs := rfl

theorem encode_append (cs ds : List Char) : encode (cs ++ ds) = encode cs ++ encode ds :=
  List.flatMap_append

theorem toNat_of_mem_encodeChar {c : Char} {b : UInt8} (h : b ∈ String.utf8EncodeChar c)
    (hb : b.toNat < 0x80) : c.toNat = b.toNat := by
  have hv : c.val.toNat = c.toNat := rfl
  simp only [String.utf8EncodeChar, hv] at h
  split at h
  · rw [List.mem_singleton.mp h, UInt8.toNat_ofNat']
    omega
  · -- every byte of a longer form has its highest bit set
    exfalso
    split at h
    · simp only [List.mem_cons, List.not_mem_nil, or_false] at h
      obtain rfl | rfl := h <;> rw [UInt8.toNat_ofNat'] at hb <;> omega
    · split at h
      · simp only [List.mem_cons, List.not_mem_nil, or_false] at h
        obtain rfl | rfl | rfl := h <;> rw [UInt8.toNat_ofNat'] at hb <;> omega
      · simp only [List.mem_cons, List.not_mem_nil, or_false] at h
        obtain rfl | rfl | rfl | rfl := h <;> rw [UInt8.toNat_ofNat'] at hb <;> omega

/-- An ASCII byte stands for its own character only. -/
theorem mem_of_mem_encode {cs : List Char} {b : UInt8} (h : b ∈ encode cs) (hb : b.toNat < 0x80) :
    Char.ofNat b.toNat ∈ cs := by
  obtain ⟨c, hc, hbc⟩ := List.mem_flatMap.mp h
  rw [← toNat_of_mem_encodeChar hbc hb, Char.ofNat_toNat]
  exact hc

theorem step_idle (b : Nat) : step .idle b = lead b := by
  simp only [step, State.idle, ↓reduceIte]

theorem step_last (hl : low ≤ b) (hh : b ≤ high) :
    step ⟨1, r, low, high⟩ b = ([Char.ofNat (r * 64 + b % 64)], .idle) := by
  simp only [step, Nat.one_ne_zero, hl, hh, and_self, ↓reduceIte]

theorem step_more (hl : low ≤ b) (hh : b ≤ high) :
    step ⟨n + 2, r, low, high⟩ b = ([], ⟨n + 1, r * 64 + b % 64, 0x80, 0xBF⟩) := by
  have h0 : n + 2 ≠ 0 := by omega
  have h1 : n + 2 ≠ 1 := by omega
  simp only [step, if_neg h0, if_neg h1, hl, hh, and_self, ↓reduceIte]
  rfl

theorem lead_one (h : b < 0x80) : lead b = ([Char.ofNat b], .idle) := by
  simp only [lead, if_pos h]

theorem lead_two (hl : 0xC2 ≤ b) (hh : b ≤ 0xDF) : lead b = ([], ⟨1, b - 0xC0, 0x80, 0xBF⟩) := by
  have h : ¬ b < 0x80 := by omega
  simp only [lead, if_neg h, hl, hh, and_self, ↓reduceIte]

theorem lead_three (hl : 0xE0 ≤ b) (hh : b ≤ 0xEF) :
    lead b = ([], ⟨2, b - 0xE0, if b = 0xE0 then 0xA0 else 0x80,
      if b = 0xED then 0x9F else 0xBF⟩) := by
  have h : ¬ b < 0x80 := by omega
  have h' : ¬ (0xC2 ≤ b ∧ b ≤ 0xDF) := by omega
  simp only [lead, if_neg h, if_neg h', hl, hh, and_self, ↓reduceIte]

theorem lead_four (hl : 0xF0 ≤ b) (hh : b ≤ 0xF4) :
    lead b = ([], ⟨3, b - 0xF0, if b = 0xF0 then 0x90 else 0x80,
      if b = 0xF4 then 0x8F else 0xBF⟩) := by
  have h : ¬ b < 0x80 := by omega
  have h' : ¬ (0xC2 ≤ b ∧ b ≤ 0xDF) := by omega
  have h'' : ¬ (0xE0 ≤ b ∧ b ≤ 0xEF) := by omega
  simp only [lead, if_neg h, if_neg h', if_neg h'', hl, hh, and_self, ↓reduceIte]

theorem char_range (c : Char) : c.toNat < 0xD800 ∨ 0xDFFF < c.toNat ∧ c.toNat < 0x110000 :=
  c.valid

/-- A well-formed character at the front of the input is decoded to itself. -/
theorem run_encodeChar (c : Char) (rest : List UInt8) :
    run .idle (String.utf8EncodeChar c ++ rest) = c :: run .idle rest := by
  have hr := char_range c
  have hc : Char.ofNat c.toNat = c := Char.ofNat_toNat c
  generalize hv : c.toNat = v at hr hc
  have hv' : c.val.toNat = v := hv
  simp only [String.utf8EncodeChar, hv']
  by_cases h1 : v ≤ 127
  · simp only [if_pos h1, List.cons_append, List.nil_append, run, UInt8.toNat_ofNat']
    have hb : v % 2 ^ 8 = v := by omega
    rw [hb, step_idle, lead_one (by omega), hc]
    rfl
  by_cases h2 : v ≤ 2047
  · simp only [if_neg h1, if_pos h2, List.cons_append, List.nil_append, run, UInt8.toNat_ofNat']
    rw [step_idle, lead_two (by omega) (by omega), step_last (by omega) (by omega)]
    have hread : ((v / 64 % 32 + 192) % 2 ^ 8 - 0xC0) * 64 + (v % 64 + 128) % 2 ^ 8 % 64 = v := by
      omega
    rw [hread, hc]
    rfl
  by_cases h3 : v ≤ 65535
  · simp only [if_neg h1, if_neg h2, if_pos h3, List.cons_append, List.nil_append, run,
      UInt8.toNat_ofNat']
    rw [step_idle, lead_three (by omega) (by omega),
      step_more (by split <;> omega) (by split <;> omega), step_last (by omega) (by omega)]
    have hread : (((v / 4096 % 16 + 224) % 2 ^ 8 - 0xE0) * 64 +
        (v / 64 % 64 + 128) % 2 ^ 8 % 64) * 64 + (v % 64 + 128) % 2 ^ 8 % 64 = v := by omega
    rw [hread, hc]
    rfl
  · simp only [if_neg h1, if_neg h2, if_neg h3, List.cons_append, List.nil_append, run,
      UInt8.toNat_ofNat']
    rw [step_idle, lead_four (by omega) (by omega),
      step_more (by split <;> omega) (by split <;> omega), step_more (by omega) (by omega),
      step_last (by omega) (by omega)]
    have hread : ((((v / 262144 % 8 + 240) % 2 ^ 8 - 0xF0) * 64 +
        (v / 4096 % 64 + 128) % 2 ^ 8 % 64) * 64 + (v / 64 % 64 + 128) % 2 ^ 8 % 64) * 64 +
        (v % 64 + 128) % 2 ^ 8 % 64 = v := by omega
    rw [hread, hc]
    rfl

theorem decodeLossy_encode_append (cs : List Char) (rest : List UInt8) :
    decodeLossy (encode cs ++ rest) = cs ++ decodeLossy rest := by
  induction cs with
  | nil => rfl
  | cons c cs ih =>
    rw [encode_cons, List.append_assoc, decodeLossy, run_encodeChar]
    exact congrArg (c :: ·) ih

/-- Lossy decoding loses nothing on text that was encoded. -/
theorem decodeLossy_encode (cs : List Char) : decodeLossy (encode cs) = cs := by
  have h := decodeLossy_encode_append cs []
  simpa only [List.append_nil, decodeLossy, run, State.idle, ↓reduceIte] using h

def lossyString (bytes : List UInt8) : String := String.ofList (decodeLossy bytes)

theorem lossyString_encode (s : String) : lossyString (encode s.toList) = s := by
  rw [lossyString, decodeLossy_encode, String.ofList_toList]

example : decodeLossy [0xE2, 0x82, 0x41] = [replacement, 'A'] := by decide

end Utf8
