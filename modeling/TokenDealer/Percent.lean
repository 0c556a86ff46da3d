import Mathlib.Logic.Function.Basic
import TokenDealer.Query

set_option autoImplicit true

namespace Percent

open Query

/-- The bytes of an escaped text, whatever it is a part of: a plus stands for itself. -/
def decode : List Char → List UInt8
  | '%' :: h :: l :: rest =>
    match hexValue h, hexValue l with
    | some a, some b => UInt8.ofNat (16 * a + b) :: decode rest
    | _, _ => 0x25 :: decode (h :: l :: rest)
  | c :: rest => String.utf8EncodeChar c ++ decode rest
  | [] => []

example : decode "a%20b+%C3%A9%".toList = [0x61, 0x20, 0x62, 0x2B, 0xC3, 0xA9, 0x25] := by decide

/-- A text without a percent sign stands for itself. -/
theorem decode_plain (hpercent : '%' ∉ cs) : decode cs = Utf8.encode cs := by
  induction cs with
  | nil => rfl
  | cons c cs ih =>
    rw [List.mem_cons, not_or] at hpercent
    rw [decode, ih hpercent.2]
    · rfl
    · rintro h l rest rfl
      exact absurd rfl hpercent.1

/-- Without a plus, a form is read in the same way. -/
theorem decode_eq_unescape (hplus : '+' ∉ cs) : decode cs = unescape cs := by
  fun_induction decode cs with
  | case1 h l rest a b ha hb ih =>
    have hrest : '+' ∉ rest := fun hmem =>
      hplus (List.mem_cons_of_mem _ (List.mem_cons_of_mem _ (List.mem_cons_of_mem _ hmem)))
    rw [ih hrest]
    simp only [unescape, ha, hb]
  | case2 h l rest hnone ih =>
    rw [ih fun hmem => hplus (List.mem_cons_of_mem _ hmem)]
    cases ha : hexValue h with
    | none => simp only [unescape, ha]
    | some a =>
      cases hb : hexValue l with
      | none => simp only [unescape, ha, hb]
      | some b => exact (hnone a b ha hb).elim
  | case3 c rest htriple ih =>
    rw [ih fun hmem => hplus (List.mem_cons_of_mem _ hmem), unescape]
    · exact htriple
    · rintro rfl
      exact hplus List.mem_cons_self
  | case4 => rfl

def IsHexDigit (c : Char) : Prop := ('0' ≤ c ∧ c ≤ '9') ∨ ('A' ≤ c ∧ c ≤ 'F')

instance : DecidablePred IsHexDigit := fun _ => inferInstanceAs (Decidable (_ ∨ _))

theorem isHexDigit_hexDigit : ∀ n < 16, IsHexDigit (hexDigit n) := by decide

/-- A text of plain characters and of percent signs with two digits each. -/
inductive Escaped (Plain : Char → Prop) : List Char → Prop where
  | nil : Escaped Plain []
  | plain : Plain c → Escaped Plain rest → Escaped Plain (c :: rest)
  | triple : IsHexDigit h → IsHexDigit l → Escaped Plain rest →
    Escaped Plain ('%' :: h :: l :: rest)

section Escaped

variable {Plain : Char → Prop}

theorem Escaped.append (hcs : Escaped Plain cs) (hds : Escaped Plain ds) :
    Escaped Plain (cs ++ ds) := by
  induction hcs with
  | nil => exact hds
  | plain hc _ ih => exact .plain hc ih
  | triple hh hl _ ih => exact .triple hh hl ih

theorem Escaped.not_mem (h : Escaped Plain cs) (hplain : ¬ Plain c) (hpercent : c ≠ '%')
    (hdigit : ¬ IsHexDigit c) : c ∉ cs := by
  induction h with
  | nil => exact List.not_mem_nil
  | plain hc _ ih =>
    rw [List.mem_cons, not_or]
    refine ⟨?_, ih⟩
    rintro rfl
    exact hplain hc
  | triple hh hl _ ih =>
    rw [List.mem_cons, List.mem_cons, List.mem_cons, not_or, not_or, not_or]
    refine ⟨hpercent, ?_, ?_, ih⟩
    · rintro rfl
      exact hdigit hh
    · rintro rfl
      exact hdigit hl

end Escaped

variable (safe : Unescaped)

theorem escaped_escapeByte {Plain : Char → Prop}
    (hplain : ∀ b, safe.mem b = true → Plain (Char.ofNat b.toNat)) (b : UInt8) :
    Escaped Plain (safe.escapeByte b) := by
  rw [Unescaped.escapeByte]
  split
  · next hb => exact .plain (hplain b hb) .nil
  · have hlt := b.toNat_lt
    exact .triple (isHexDigit_hexDigit _ (by omega)) (isHexDigit_hexDigit _ (by omega)) .nil

theorem escaped_escapeBytes {Plain : Char → Prop}
    (hplain : ∀ b, safe.mem b = true → Plain (Char.ofNat b.toNat)) (bytes : List UInt8) :
    Escaped Plain (bytes.flatMap safe.escapeByte) := by
  induction bytes with
  | nil => exact .nil
  | cons b bytes ih =>
    rw [List.flatMap_cons]
    exact (escaped_escapeByte safe hplain b).append ih

theorem plus_not_mem_escapeBytes (bytes : List UInt8) : '+' ∉ bytes.flatMap safe.escapeByte := by
  have hescaped : Escaped (fun c => c ∉ ['%', '+', '&', '=']) (bytes.flatMap safe.escapeByte) :=
    escaped_escapeBytes safe safe.plain bytes
  exact hescaped.not_mem (by decide) (by decide) (by decide)

/-- Every sequence of bytes is read back. -/
theorem decode_escapeBytes (bytes : List UInt8) :
    decode (bytes.flatMap safe.escapeByte) = bytes := by
  rw [decode_eq_unescape (plus_not_mem_escapeBytes safe bytes), safe.unescape_escapeBytes]

theorem escape_append (a b : String) : safe.escape (a ++ b) = safe.escape a ++ safe.escape b := by
  rw [Unescaped.escape, String.toList_append, Utf8.encode_append, List.flatMap_append,
    String.ofList_append]
  rfl

theorem escape_injective : Function.Injective safe.escape := by
  intro a b h
  have hbytes : unescape (safe.escape a).toList = unescape (safe.escape b).toList := by rw [h]
  rw [safe.unescape_escape, safe.unescape_escape] at hbytes
  rw [← Utf8.lossyString_encode a, hbytes, Utf8.lossyString_encode]

end Percent
