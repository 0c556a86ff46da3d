import Mathlib.Data.List.Perm.Basic
import TokenDealer.CaseMapping
import TokenDealer.Keystore

set_option autoImplicit true

namespace TokenDealer

/-- One of the two digits of a number below sixteen. -/
def IsHexDigit (n : Nat) (c : Char) : Prop :=
  "0123456789abcdef".toList[n]? = some c ∨ "0123456789ABCDEF".toList[n]? = some c

/-- Two digits for every byte. -/
inductive IsHex : List UInt8 → List Char → Prop
  | nil : IsHex [] []
  | cons {b : UInt8} (hhigh : IsHexDigit (b.toNat / 16) c) (hlow : IsHexDigit (b.toNat % 16) d)
    (hrest : IsHex bytes cs) : IsHex (b :: bytes) (c :: d :: cs)

def Blank (cs : List Char) : Prop := ∀ c ∈ cs, Str.isWhitespace c = true

/-- The texts that a key is written as. -/
inductive KeyText (key : MasterKey) : String → Prop
  | hex (hfront : Blank front) (hback : Blank back) (h : IsHex key.bytes cs) :
    KeyText key (String.ofList (front ++ cs ++ back))
  | base64 (hfront : Blank front) (hback : Blank back) :
    KeyText key (String.ofList (front ++ Base64.encode key.bytes ++ back))
  | raw (h : Utf8.encode s.toList = key.bytes) : KeyText key s

section Digits

theorem isHexDigit_read (hn : n < 16) (h : IsHexDigit n c) :
    hexDigit c = some n ∧ Str.isWhitespace c = false := by
  have hdigits : ∀ digits ∈ ["0123456789abcdef".toList, "0123456789ABCDEF".toList], ∀ n < 16,
      (digits[n]?.all fun c => hexDigit c = some n && !Str.isWhitespace c) = true := by
    decide +kernel
  rcases h with h | h
  · have hread := hdigits _ List.mem_cons_self n hn
    rw [h] at hread
    simpa using hread
  · have hread := hdigits _ (List.mem_cons_of_mem _ List.mem_cons_self) n hn
    rw [h] at hread
    simpa using hread

theorem IsHex.decode (h : IsHex bytes cs) :
    hexDecode cs = some bytes ∧ ∀ c ∈ cs, Str.isWhitespace c = false := by
  induction h with
  | nil => exact ⟨rfl, fun c hc => absurd hc List.not_mem_nil⟩
  | @cons c d bytes cs b hhigh hlow _ ih =>
    have hb := b.toNat_lt
    obtain ⟨hc, hcblank⟩ := isHexDigit_read (by omega) hhigh
    obtain ⟨hd, hdblank⟩ := isHexDigit_read (by omega) hlow
    obtain ⟨hrest, hblank⟩ := ih
    constructor
    · rw [hexDecode, hc, hd, hrest]
      dsimp only
      rw [Base64.ofNat_eq b (by omega)]
    · intro e he
      rcases List.mem_cons.mp he with rfl | he
      · exact hcblank
      · rcases List.mem_cons.mp he with rfl | he
        · exact hdblank
        · exact hblank e he

theorem length_of_hexDecode (h : hexDecode cs = some bytes) : cs.length = 2 * bytes.length := by
  fun_induction hexDecode cs generalizing bytes with
  | case1 =>
    cases h
    rfl
  | case3 a b rest _ _ _ hrest _ _ ih =>
    cases h
    have hlength := ih hrest
    simp only [List.length_cons]
    omega
  | _ => cases h

theorem dropWhile_blank (hfront : Blank front) (cs : List Char) :
    (front ++ cs).dropWhile Str.isWhitespace = cs.dropWhile Str.isWhitespace := by
  induction front with
  | nil => rfl
  | cons c front ih =>
    obtain ⟨hc, hrest⟩ := List.forall_mem_cons.mp hfront
    rw [List.cons_append, List.dropWhile_cons_of_pos hc, ih hrest]

/-- What stands around a text without blanks is trimmed. -/
theorem trimList_surrounded (hfront : Blank front) (hback : Blank back)
    (hcs : ∀ c ∈ cs, Str.isWhitespace c = false) :
    Str.trimList (front ++ cs ++ back) = cs := by
  have hreverse : Blank back.reverse := fun c hc => hback c (List.mem_reverse.mp hc)
  have hcsReverse : ∀ c ∈ cs.reverse, Str.isWhitespace c = false :=
    fun c hc => hcs c (List.mem_reverse.mp hc)
  rw [Str.trimList, List.append_assoc, dropWhile_blank hfront]
  cases cs with
  | nil =>
    have hnone := dropWhile_blank hback []
    rw [List.append_nil, List.dropWhile_nil] at hnone
    rw [List.nil_append, hnone]
    rfl
  | cons c rest =>
    have hc : ¬ Str.isWhitespace c = true := by
      rw [hcs c List.mem_cons_self]
      exact Bool.false_ne_true
    rw [List.cons_append, List.dropWhile_cons_of_neg hc, ← List.cons_append, List.reverse_append,
      dropWhile_blank hreverse, Str.dropWhile_isWhitespace hcsReverse, List.reverse_reverse]

theorem length_le_encode (cs : List Char) : cs.length ≤ (Utf8.encode cs).length := by
  induction cs with
  | nil => exact Nat.le_refl 0
  | cons c cs ih =>
    have hsize := c.utf8Size_pos
    rw [Utf8.encode_cons, List.length_append, List.length_cons, String.length_utf8EncodeChar]
    omega

end Digits

namespace MasterKey

def fromText (s : String) : Option MasterKey := fromSlice (Utf8.encode s.toList)

theorem fromSlice_bytes (key : MasterKey) : fromSlice key.bytes = some key :=
  dif_pos key.length_bytes

theorem length_of_fromSlice {b : List UInt8} {key : MasterKey} (h : fromSlice b = some key) :
    b.length = 32 := by
  rw [fromSlice] at h
  split at h
  · assumption
  · cases h

section Lengths

variable {s : String} {key : MasterKey}

theorem length_of_fromHex (h : fromHex s = some key) : (Str.trimList s.toList).length = 64 := by
  obtain ⟨bytes, hbytes, hkey⟩ := Option.bind_eq_some_iff.mp h
  rw [length_of_hexDecode hbytes, length_of_fromSlice hkey]

theorem length_of_fromBase64 (h : fromBase64 s = some key) :
    (Str.trimList s.toList).length = 44 := by
  obtain ⟨bytes, hbytes, hkey⟩ := Option.bind_eq_some_iff.mp h
  have hlength := length_of_fromSlice hkey
  obtain ⟨groups, hgroups, hlower, hupper⟩ := Base64.length_of_decode hbytes
  omega

theorem length_of_fromText (h : fromText s = some key) : (Str.trimList s.toList).length ≤ 32 := by
  have hbytes := length_of_fromSlice h
  have hchars := length_le_encode s.toList
  have htrimmed := (CaseTable.trimList_sublist s.toList).length_le
  omega

end Lengths

/-- The decoders in the order in which they are tried. -/
def decoders : List (String → Option MasterKey) := [fromHex, fromBase64, fromText]

theorem fromEnvStrict_eq (hfile : env "ROUTER_MASTER_KEY_FILE" = none)
    (hkey : env "ROUTER_MASTER_KEY" = some s) (readFile : String → Option (List UInt8)) :
    fromEnvStrict env readFile =
      match decoders.findSome? fun decoder => decoder s with
      | some key => .ok key
      | none => .error .badFormat := by
  rw [fromEnvStrict, hfile, hkey, decoders]
  simp only [List.findSome?_cons, List.findSome?_nil, fromText]
  cases fromHex s with
  | some key => rfl
  | none =>
    cases fromBase64 s with
    | some key => rfl
    | none => cases fromSlice (Utf8.encode s.toList) <;> rfl

/-- The three are told apart by the length of what is left of the text without the blanks around
it. -/
theorem fromHex_fromBase64 (h : fromHex s = some key) : fromBase64 s = none := by
  cases hother : fromBase64 s with
  | none => rfl
  | some other =>
    have hhex := length_of_fromHex h
    have hbase64 := length_of_fromBase64 hother
    omega

theorem fromText_none (h : 32 < (Str.trimList s.toList).length) : fromText s = none := by
  cases hother : fromText s with
  | none => rfl
  | some other =>
    have htext := length_of_fromText hother
    omega

theorem fromHex_fromText (h : fromHex s = some key) : fromText s = none :=
  fromText_none (by rw [length_of_fromHex h]; decide)

theorem fromBase64_fromText (h : fromBase64 s = some key) : fromText s = none :=
  fromText_none (by rw [length_of_fromBase64 h]; decide)

/-- No text is read by two of the decoders. -/
theorem length_decoded_le_one (s : String) :
    (decoders.filterMap fun decoder => decoder s).length ≤ 1 := by
  rw [decoders]
  cases hhex : fromHex s with
  | some key => simp [hhex, fromHex_fromBase64 hhex, fromHex_fromText hhex]
  | none =>
    cases hbase64 : fromBase64 s with
    | some key => simp [hhex, hbase64, fromBase64_fromText hbase64]
    | none => cases hraw : fromText s <;> simp [hhex, hbase64, hraw]

section Single

variable {f : α → Option β} {l l' : List α}

/-- Where one value is found at most, what any element gives is the one that is found. -/
theorem findSome?_of_mem (hone : (l.filterMap f).length ≤ 1) (ha : a ∈ l) (hb : f a = some b) :
    l.findSome? f = some b := by
  have hmem : b ∈ l.filterMap f := List.mem_filterMap.mpr ⟨a, ha, hb⟩
  rw [← List.head?_filterMap]
  cases hfound : l.filterMap f with
  | nil =>
    rw [hfound] at hmem
    cases hmem
  | cons first rest =>
    rw [hfound] at hmem hone
    have hrest : rest = [] :=
      List.eq_nil_of_length_eq_zero (Nat.le_zero.mp (Nat.le_of_succ_le_succ hone))
    subst hrest
    rw [List.mem_singleton.mp hmem]
    rfl

theorem findSome?_perm (hone : (l.filterMap f).length ≤ 1) (h : l.Perm l') :
    l.findSome? f = l'.findSome? f := by
  cases hfound : l'.findSome? f with
  | none =>
    rw [List.findSome?_eq_none_iff] at hfound ⊢
    intro a ha
    exact hfound a (h.mem_iff.mp ha)
  | some b =>
    obtain ⟨a, ha, hb⟩ := List.exists_of_findSome?_eq_some hfound
    exact findSome?_of_mem hone (h.mem_iff.mpr ha) hb

end Single

/-- What one of them reads is what is read. -/
theorem findSome?_decoders {key : MasterKey} (hmem : decoder ∈ decoders)
    (h : decoder s = some key) : decoders.findSome? (fun decoder => decoder s) = some key :=
  findSome?_of_mem (length_decoded_le_one s) hmem h

theorem fromHex_surrounded {key : MasterKey} (hfront : Blank front) (hback : Blank back)
    (h : IsHex key.bytes cs) : fromHex (String.ofList (front ++ cs ++ back)) = some key := by
  obtain ⟨hread, hblank⟩ := h.decode
  rw [fromHex, String.toList_ofList, trimList_surrounded hfront hback hblank, hread]
  exact fromSlice_bytes key

theorem fromBase64_surrounded {key : MasterKey} (hfront : Blank front) (hback : Blank back) :
    fromBase64 (String.ofList (front ++ Base64.encode key.bytes ++ back)) = some key := by
  rw [fromBase64, String.toList_ofList, trimList_surrounded hfront hback
    (not_blank_encode key.bytes), Base64.decode_encode]
  exact fromSlice_bytes key

/-- A text of a key is read as that key. -/
theorem findSome?_keyText {key : MasterKey} (h : KeyText key s) :
    decoders.findSome? (fun decoder => decoder s) = some key := by
  cases h with
  | hex hfront hback h =>
    exact findSome?_decoders List.mem_cons_self (fromHex_surrounded hfront hback h)
  | base64 hfront hback =>
    exact findSome?_decoders (List.mem_cons_of_mem _ List.mem_cons_self)
      (fromBase64_surrounded hfront hback)
  | raw h =>
    have hread : fromText s = some key := by
      rw [fromText, h]
      exact fromSlice_bytes key
    exact findSome?_decoders (by simp [decoders]) hread

/-- Without a key file, each text of a key in the variable gives that key, and whatever a text says,
no two decoders read it, so that they could be tried in any order. -/
theorem fromEnvStrict_unambiguous (env : String → Option String)
    (readFile : String → Option (List UInt8)) (hfile : env "ROUTER_MASTER_KEY_FILE" = none) :
    (∀ key s, env "ROUTER_MASTER_KEY" = some s → KeyText key s →
      fromEnvStrict env readFile = .ok key) ∧
    ∀ s, (decoders.filterMap fun decoder => decoder s).length ≤ 1 ∧
      ∀ order, decoders.Perm order →
        decoders.findSome? (fun decoder => decoder s) =
          order.findSome? fun decoder => decoder s := by
  refine ⟨?_, ?_⟩
  · intro key s hkey h
    rw [fromEnvStrict_eq hfile hkey, findSome?_keyText h]
  · intro s
    exact ⟨length_decoded_le_one s, fun order h => findSome?_perm (length_decoded_le_one s) h⟩

def sampleMaster : MasterKey := ⟨List.replicate 32 0x42, rfl⟩

/-- The key in base64, with a blank before it and a line feed behind. -/
def sampleMasterText : String :=
  String.ofList ([' '] ++ Base64.encode sampleMaster.bytes ++ ['\n'])

theorem fromEnvStrict_unambiguous_sample :
    fromEnvStrict (fun name => if name = "ROUTER_MASTER_KEY" then some sampleMasterText else none)
      (fun _ => none) = .ok sampleMaster :=
  (fromEnvStrict_unambiguous _ _ rfl).1 sampleMaster sampleMasterText rfl
    (.base64 (List.forall_mem_singleton.mpr rfl) (List.forall_mem_singleton.mpr rfl))

end MasterKey

end TokenDealer
