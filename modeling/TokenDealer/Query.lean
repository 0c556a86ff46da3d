import TokenDealer.Str
import TokenDealer.Utf8

set_option autoImplicit true

namespace Query

def hexDigit (n : Nat) : Char := if n < 10 then Char.ofNat (48 + n) else Char.ofNat (55 + n)

def hexValue (c : Char) : Option Nat :=
  let n := c.toNat
  if 48 ≤ n ∧ n ≤ 57 then some (n - 48)
  else if 65 ≤ n ∧ n ≤ 70 then some (n - 55)
  else if 97 ≤ n ∧ n ≤ 102 then some (n - 87)
  else none

theorem hexValue_hexDigit (h : n < 16) : hexValue (hexDigit n) = some n := by
  revert n
  decide

theorem hexDigit_not_mem (h : n < 16) : hexDigit n ∉ ['&', '='] := by
  revert n
  decide

/-- The bytes of an escaped text. A plus stands for a blank, and a percent sign without two digits
for itself. -/
def unescape : List Char → List UInt8
  | '%' :: h :: l :: rest =>
    match hexValue h, hexValue l with
    | some a, some b => UInt8.ofNat (16 * a + b) :: unescape rest
    | _, _ => 0x25 :: unescape (h :: l :: rest)
  | '+' :: rest => 0x20 :: unescape rest
  | c :: rest => String.utf8EncodeChar c ++ unescape rest
  | [] => []

theorem unescape_cons (hpercent : c ≠ '%') (hplus : c ≠ '+') (rest : List Char) :
    unescape (c :: rest) = String.utf8EncodeChar c ++ unescape rest := by
  rw [unescape]
  · rintro h l rest' rfl
    exact (hpercent rfl).elim
  · exact hplus

theorem utf8EncodeChar_ofNat {b : UInt8} (hb : b.toNat < 0x80) :
    String.utf8EncodeChar (Char.ofNat b.toNat) = [b] := by
  have hvalid : b.toNat.isValidChar := .inl (by omega)
  have hval : (Char.ofNat b.toNat).val.toNat = b.toNat := by
    rw [Char.ofNat, dif_pos hvalid]
    exact UInt32.toNat_ofNatLT ..
  rw [String.utf8EncodeChar, hval, if_pos (by omega), UInt8.ofNat_toNat]

/-- Bytes that may stand for themselves in a query. -/
structure Unescaped where
  mem : UInt8 → Bool
  ascii : ∀ b, mem b = true → b.toNat < 0x80
  plain : ∀ b, mem b = true → Char.ofNat b.toNat ∉ ['%', '+', '&', '=']

namespace Unescaped

variable (safe : Unescaped)

def escapeByte (b : UInt8) : List Char :=
  if safe.mem b then [Char.ofNat b.toNat]
  else ['%', hexDigit (b.toNat / 16), hexDigit (b.toNat % 16)]

def escape (s : String) : String := String.ofList ((Utf8.encode s.toList).flatMap safe.escapeByte)

theorem unescape_escapeByte (b : UInt8) (rest : List Char) :
    unescape (safe.escapeByte b ++ rest) = b :: unescape rest := by
  rw [escapeByte]
  split
  · next hb =>
    have hplain := safe.plain b hb
    rw [List.cons_append, List.nil_append, unescape_cons, utf8EncodeChar_ofNat (safe.ascii b hb)]
    · rfl
    · exact fun h => hplain (by rw [h]; decide)
    · exact fun h => hplain (by rw [h]; decide)
  · have hdiv : b.toNat / 16 < 16 := by
      have hlt := b.toNat_lt
      omega
    have hmod : b.toNat % 16 < 16 := Nat.mod_lt _ (by decide)
    simp only [List.cons_append, List.nil_append, unescape, hexValue_hexDigit hdiv,
      hexValue_hexDigit hmod, Nat.div_add_mod, UInt8.ofNat_toNat]

theorem unescape_escapeBytes (bytes : List UInt8) :
    unescape (bytes.flatMap safe.escapeByte) = bytes := by
  induction bytes with
  | nil => rfl
  | cons b bytes ih => rw [List.flatMap_cons, unescape_escapeByte, ih]

theorem unescape_escape (s : String) : unescape (safe.escape s).toList = Utf8.encode s.toList := by
  rw [escape, String.toList_ofList, unescape_escapeBytes]

/-- A character that is not let through does not stand in an escaped text. -/
theorem not_mem_escape (hplain : ∀ b, safe.mem b = true → Char.ofNat b.toNat ≠ c)
    (hpercent : c ≠ '%') (hdigit : ∀ n < 16, hexDigit n ≠ c) (s : String) :
    c ∉ (safe.escape s).toList := by
  rw [escape, String.toList_ofList]
  intro hmem
  obtain ⟨b, -, hb⟩ := List.mem_flatMap.mp hmem
  rw [escapeByte] at hb
  split at hb
  · next hsafe => exact hplain b hsafe (List.mem_singleton.mp hb).symm
  · have hlt := b.toNat_lt
    simp only [List.mem_cons, List.not_mem_nil, or_false] at hb
    rcases hb with hb | hb | hb
    · exact hpercent hb
    · exact hdigit _ (by omega) hb.symm
    · exact hdigit _ (by omega) hb.symm

/-- What separates the members of a query does not stand in an escaped text. -/
theorem separator_not_mem_escape (hc : c ∈ ['&', '=']) (s : String) :
    c ∉ (safe.escape s).toList := by
  apply safe.not_mem_escape
  · rintro b hb rfl
    exact safe.plain b hb (List.mem_cons_of_mem _ (List.mem_cons_of_mem _ hc))
  · rintro rfl
    revert hc
    decide
  · rintro n hn rfl
    exact hexDigit_not_mem hn hc

end Unescaped

/-- The members of a query, in pieces. -/
def members (query : List Char) : List (String × String) :=
  (Str.split '&' query).map fun piece =>
    let (key, value) := (Str.cutAt '=' piece).getD (piece, [])
    (Utf8.lossyString (unescape key), Utf8.lossyString (unescape value))

/-- What is asked with an address. -/
def params (url : String) : List (String × String) :=
  match Str.splitOnce '?' url with
  | none => []
  | some (_, query) => members query.toList

def formMember (piece : List Char) : String × String :=
  let (key, value) := (Str.cutAt '=' piece).getD (piece, [])
  (Utf8.lossyString (unescape key), Utf8.lossyString (unescape value))

/-- The members as a form is read: an empty piece is none. -/
def formMembers (query : List Char) : List (String × String) :=
  ((Str.split '&' query).filter fun piece => piece ≠ []).map formMember

def formParams (url : String) : List (String × String) :=
  match Str.splitOnce '?' url with
  | none => []
  | some (_, query) => formMembers query.toList

/-- The first member of a name. -/
def param (key : String) (url : String) : Option String :=
  ((params url).find? fun p => p.1 = key).map Prod.snd

namespace Unescaped

variable (safe : Unescaped)

def member (p : String × String) : String := safe.escape p.1 ++ "=" ++ safe.escape p.2

def render (ps : List (String × String)) : String := Str.join "&" (ps.map safe.member)

theorem render_cons (p : String × String) (ps : List (String × String)) :
    safe.render (p :: ps) = safe.member p ++ Str.concat (ps.map fun q => "&" ++ safe.member q) := by
  induction ps generalizing p with
  | nil => exact String.append_empty.symm
  | cons q ps ih =>
    have hcons : safe.render (p :: q :: ps) = safe.member p ++ "&" ++ safe.render (q :: ps) := rfl
    rw [hcons, ih, List.map_cons, Str.concat_cons]
    simp only [String.append_assoc]

theorem toList_member (p : String × String) :
    (safe.member p).toList = (safe.escape p.1).toList ++ '=' :: (safe.escape p.2).toList :=
  Str.toList_append_singleton _ '=' _

theorem separator_not_mem_member (p : String × String) : '&' ∉ (safe.member p).toList := by
  have hescape : ∀ s, '&' ∉ (safe.escape s).toList :=
    fun s => safe.separator_not_mem_escape (by decide) s
  rw [toList_member, List.mem_append, List.mem_cons, not_or, not_or]
  exact ⟨hescape p.1, by decide, hescape p.2⟩

theorem read_member (p : String × String) :
    (let (key, value) :=
      (Str.cutAt '=' (safe.member p).toList).getD ((safe.member p).toList, [])
    (Utf8.lossyString (unescape key), Utf8.lossyString (unescape value))) = p := by
  rw [toList_member, Str.cutAt_append (safe.separator_not_mem_escape (by decide) p.1)]
  dsimp only [Option.getD_some]
  rw [unescape_escape, unescape_escape, Utf8.lossyString_encode, Utf8.lossyString_encode]

theorem members_render (p : String × String) (ps : List (String × String)) :
    members (safe.render (p :: ps)).toList = p :: ps := by
  induction ps generalizing p with
  | nil =>
    change members (safe.member p).toList = [p]
    rw [members, Str.split_of_not_mem (safe.separator_not_mem_member p), List.map_singleton,
      read_member]
  | cons q ps ih =>
    have htoList : (safe.render (p :: q :: ps)).toList =
        (safe.member p).toList ++ '&' :: (safe.render (q :: ps)).toList :=
      Str.toList_append_singleton _ '&' _
    rw [members, htoList, Str.split_append (safe.separator_not_mem_member p), List.map_cons,
      read_member]
    exact congrArg (p :: ·) (ih q)

/-- The members of a query are read back as they were put in. -/
theorem params_render {base : String} (hbase : '?' ∉ base.toList) (p : String × String)
    (ps : List (String × String)) : params (base ++ "?" ++ safe.render (p :: ps)) = p :: ps := by
  have hsplit : Str.splitOnce '?' (base ++ "?" ++ safe.render (p :: ps)) =
      some (base, safe.render (p :: ps)) := Str.splitOnce_append hbase _
  rw [params, hsplit]
  exact safe.members_render p ps

end Unescaped

end Query
