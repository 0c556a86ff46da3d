import Mathlib.Algebra.GroupWithZero.Nat
import Mathlib.Data.List.DropRight
import Mathlib.Data.List.Forall2
import TokenDealer.Str

set_option autoImplicit true

/-- Case data of the characters, as the Unicode tables give them. -/
structure CaseTable where
  lower : Char → List Char
  cased : Char → Bool
  caseIgnorable : Char → Bool

namespace CaseTable

section Mapping

variable (table : CaseTable)

def caseIgnorableThenCased (cs : List Char) : Bool :=
  match cs.dropWhile table.caseIgnorable with
  | [] => false
  | c :: _ => table.cased c

/-- Does a word end between these two? The characters before come nearest first. -/
def isWordFinal (before after : List Char) : Bool :=
  table.caseIgnorableThenCased before && !table.caseIgnorableThenCased after

def mapUppercaseSigma (before after : List Char) : Char :=
  if table.isWordFinal before after then 'ς' else 'σ'

/-- The lower case of a character in its place. Only the capital sigma looks around. -/
def lowerAt (before after : List Char) (c : Char) : List Char :=
  if c = 'Σ' then [table.mapUppercaseSigma before after] else table.lower c

def lowerFrom (before : List Char) : List Char → List Char
  | [] => []
  | c :: cs => table.lowerAt before cs c ++ lowerFrom (c :: before) cs

def toLowercase (s : String) : String := String.ofList (table.lowerFrom [] s.toList)

/-- How many characters the lower case of a character has, wherever it stands. -/
def width (c : Char) : Nat := if c = 'Σ' then 1 else (table.lower c).length

end Mapping

/-- What the Unicode tables say in every version. -/
structure IsUnicode (table : CaseTable) : Prop where
  lower_ne_nil : ∀ c, table.lower c ≠ []
  lower_capital_sigma : table.lower 'Σ' = ['σ']
  lower_sigma : table.lower 'σ' = ['σ']
  cased_whitespace : ∀ c, Str.isWhitespace c = true → table.cased c = false
  cased_ascii : ∀ c, c.toNat < 128 → table.cased c = c.isAlpha
  mem_lower_ascii : ∀ x, x.toNat < 128 → table.cased x = false → ∀ c, x ∈ table.lower c ↔ c = x

/-- A reading of "the same letter, but for its case": wide enough for all characters with one lower
case, and between characters of one kind only. -/
structure IsCasing (table : CaseTable) (Same : Char → Char → Prop) : Prop where
  of_lower_eq : ∀ c d, table.lower c = table.lower d → Same c d
  cased : ∀ c d, Same c d → table.cased c = table.cased d
  caseIgnorable : ∀ c d, Same c d → table.caseIgnorable c = table.caseIgnorable d
  eq_of_not_cased : ∀ c d, Same c d → table.cased c = false → d = c

/-- The narrowest reading: the characters have one lower case. -/
abbrev SameLower (table : CaseTable) (c d : Char) : Prop := table.lower c = table.lower d

/-- No character has, in its place, another lower case than a character of the same letter. -/
def Steady (table : CaseTable) (Same : Char → Char → Prop) (cs : List Char) : Prop :=
  ∀ p c q, cs = p ++ c :: q → ∀ d, Same c d →
    table.lowerAt p.reverse q d = table.lowerAt p.reverse q c

section Lengths

variable {table : CaseTable}

theorem length_lowerAt (before after : List Char) (c : Char) :
    (table.lowerAt before after c).length = table.width c := by
  rw [lowerAt, width]
  split <;> rfl

theorem length_lowerFrom (before cs : List Char) :
    (table.lowerFrom before cs).length = (cs.map table.width).sum := by
  induction cs generalizing before with
  | nil => rfl
  | cons c cs ih =>
    rw [lowerFrom, List.length_append, length_lowerAt, ih, List.map_cons, List.sum_cons]

theorem width_pos (htable : table.IsUnicode) (c : Char) : 0 < table.width c := by
  rw [width]
  split
  · exact Nat.one_pos
  · exact List.length_pos_iff.mpr (htable.lower_ne_nil c)

/-- Every character that is left out shortens the lower case. -/
theorem length_add_le (htable : table.IsUnicode) (h : List.Sublist ds cs) :
    (ds.map table.width).sum + cs.length ≤ (cs.map table.width).sum + ds.length := by
  induction h with
  | slnil => exact Nat.le_refl _
  | cons c _ ih =>
    have hpos := width_pos htable c
    rw [List.map_cons, List.sum_cons, List.length_cons]
    omega
  | cons_cons c _ ih =>
    rw [List.map_cons, List.sum_cons, List.length_cons, List.map_cons, List.sum_cons,
      List.length_cons]
    omega

theorem eq_of_lowerFrom_eq_of_sublist (htable : table.IsUnicode) (hsub : List.Sublist ds cs)
    (h : table.lowerFrom [] ds = table.lowerFrom [] cs) : ds = cs := by
  have hwidths : (ds.map table.width).sum = (cs.map table.width).sum := by
    rw [← length_lowerFrom [], ← length_lowerFrom [], h]
  have hlength := length_add_le htable hsub
  rw [hwidths] at hlength
  exact hsub.eq_of_length_le (by omega)

/-- The lower case of a character stands behind that of the characters before it. -/
theorem exists_lowerFrom_split (table : CaseTable) (before p : List Char) (c : Char)
    (q : List Char) :
    ∃ front, front.length = (p.map table.width).sum ∧
      table.lowerFrom before (p ++ c :: q) =
        front ++ (table.lowerAt (p.reverse ++ before) q c ++
          table.lowerFrom (c :: (p.reverse ++ before)) q) := by
  induction p generalizing before with
  | nil => exact ⟨[], rfl, rfl⟩
  | cons x p ih =>
    obtain ⟨front, hlength, hfront⟩ := ih (x :: before)
    refine ⟨table.lowerAt before (p ++ c :: q) x ++ front, ?_, ?_⟩
    · rw [List.length_append, length_lowerAt, hlength, List.map_cons, List.sum_cons]
    · rw [List.cons_append, lowerFrom, hfront, List.reverse_cons, List.append_assoc,
        List.append_assoc, List.singleton_append]

/-- Texts that differ in one character have one lower case only when the character has. -/
theorem lowerAt_eq_of_lowerFrom_eq
    (h : table.lowerFrom [] (p ++ d :: q) = table.lowerFrom [] (p ++ c :: q)) :
    table.lowerAt p.reverse q d = table.lowerAt p.reverse q c := by
  obtain ⟨front, hlength, hfront⟩ := exists_lowerFrom_split table [] p d q
  obtain ⟨front', hlength', hfront'⟩ := exists_lowerFrom_split table [] p c q
  rw [hfront, hfront', List.append_nil] at h
  obtain ⟨-, hrest⟩ := List.append_inj h (hlength.trans hlength'.symm)
  refine (List.append_inj' hrest ?_).1
  rw [length_lowerFrom, length_lowerFrom]

end Lengths

section Casing

variable {table : CaseTable} {Same : Char → Char → Prop}

theorem IsCasing.refl (hsame : table.IsCasing Same) (c : Char) : Same c c :=
  hsame.of_lower_eq c c rfl

theorem caseIgnorableThenCased_congr (hsame : table.IsCasing Same) (h : List.Forall₂ Same cs ds) :
    table.caseIgnorableThenCased cs = table.caseIgnorableThenCased ds := by
  induction h with
  | nil => rfl
  | @cons c d cs ds hcd _ ih =>
    have hignorable := hsame.caseIgnorable c d hcd
    rw [caseIgnorableThenCased, caseIgnorableThenCased]
    cases hd : table.caseIgnorable d with
    | true =>
      rw [List.dropWhile_cons_of_pos (hignorable.trans hd), List.dropWhile_cons_of_pos hd]
      exact ih
    | false =>
      have hc : ¬ table.caseIgnorable c = true := by
        rw [hignorable, hd]
        exact Bool.false_ne_true
      rw [List.dropWhile_cons_of_neg hc, List.dropWhile_cons_of_neg (by rw [hd]; decide)]
      exact hsame.cased c d hcd

theorem lowerAt_congr (hsame : table.IsCasing Same) (hbefore : List.Forall₂ Same before before')
    (hafter : List.Forall₂ Same after after') (c : Char) :
    table.lowerAt before after c = table.lowerAt before' after' c := by
  rw [lowerAt, lowerAt, mapUppercaseSigma, mapUppercaseSigma, isWordFinal, isWordFinal,
    caseIgnorableThenCased_congr hsame hbefore, caseIgnorableThenCased_congr hsame hafter]

/-- Along the two texts: the characters before are of the same letters all the time. -/
theorem lowerFrom_congr (hsame : table.IsCasing Same) (h : List.Forall₂ Same cs ds)
    (hbefore : List.Forall₂ Same before before')
    (hsteady : ∀ p c q, cs = p ++ c :: q → ∀ d, Same c d →
      table.lowerAt (p.reverse ++ before) q d = table.lowerAt (p.reverse ++ before) q c) :
    table.lowerFrom before cs = table.lowerFrom before' ds := by
  induction h generalizing before before' with
  | nil => rfl
  | @cons c d cs ds hcd hrest ih =>
    have hhead : table.lowerAt before cs c = table.lowerAt before' ds d := by
      rw [← lowerAt_congr hsame hbefore hrest d]
      exact (hsteady [] c cs rfl d hcd).symm
    have htail : table.lowerFrom (c :: before) cs = table.lowerFrom (d :: before') ds := by
      apply ih (.cons hcd hbefore)
      intro p x q hcs y hxy
      have hx := hsteady (c :: p) x q (by rw [hcs, List.cons_append]) y hxy
      rwa [List.reverse_cons, List.append_assoc] at hx
    rw [lowerFrom, lowerFrom, hhead, htail]

theorem forall₂_replace (hsame : table.IsCasing Same) (h : Same c d) (p q : List Char) :
    List.Forall₂ Same (p ++ c :: q) (p ++ d :: q) := by
  have hrefl : ∀ cs : List Char, List.Forall₂ Same cs cs :=
    fun cs => List.forall₂_same.mpr fun x _ => hsame.refl x
  exact List.rel_append (hrefl p) (.cons h (hrefl q))

/-- All variants of a text have its lower case just when each of its characters is steady. -/
theorem forall_lowerFrom_eq_iff (hsame : table.IsCasing Same) :
    (∀ ds, List.Forall₂ Same cs ds → table.lowerFrom [] ds = table.lowerFrom [] cs) ↔
      table.Steady Same cs := by
  constructor
  · intro hvariants p c q hcs d hcd
    subst hcs
    exact lowerAt_eq_of_lowerFrom_eq (hvariants _ (forall₂_replace hsame hcd p q))
  · intro hsteady ds h
    refine (lowerFrom_congr hsame h .nil ?_).symm
    intro p c q hcs d hcd
    rw [List.append_nil]
    exact hsteady p c q hcs d hcd

/-- When the same letter means one lower case, only a sigma at the end of a word is not steady. -/
theorem steady_iff_no_final_sigma (htable : table.IsUnicode) :
    table.Steady table.SameLower cs ↔ ∀ p c q, cs = p ++ c :: q →
      table.lower c = ['σ'] → table.isWordFinal p.reverse q = false := by
  constructor
  · intro hsteady p c q hcs hc
    have hcapital := hsteady p c q hcs 'Σ' (hc.trans htable.lower_capital_sigma.symm)
    have hsmall := hsteady p c q hcs 'σ' (hc.trans htable.lower_sigma.symm)
    rw [← hsmall, lowerAt, lowerAt, if_pos rfl, if_neg (by decide), htable.lower_sigma,
      mapUppercaseSigma] at hcapital
    cases hfinal : table.isWordFinal p.reverse q with
    | false => rfl
    | true =>
      rw [hfinal, if_pos rfl] at hcapital
      exact absurd hcapital (by decide)
  · intro hsigma p c q hcs d hcd
    have hlower : ∀ x, table.lower x = table.lower c →
        table.lowerAt p.reverse q x = table.lower c := by
      intro x hx
      rw [lowerAt]
      split
      · rename_i hcapital
        rw [hcapital, htable.lower_capital_sigma] at hx
        rw [mapUppercaseSigma, hsigma p c q hcs hx.symm, ← hx]
        rfl
      · exact hx
    rw [hlower d hcd.symm, hlower c rfl]

end Casing

section Members

variable {table : CaseTable} {Same : Char → Char → Prop}

/-- A sign of ASCII that is no letter is in the lower case of a text only when in the text. -/
theorem mem_lowerFrom (htable : table.IsUnicode) (hascii : x.toNat < 128)
    (hx : table.cased x = false) : x ∈ table.lowerFrom before cs ↔ x ∈ cs := by
  induction cs generalizing before with
  | nil => rfl
  | cons c cs ih =>
    have hhead : x ∈ table.lowerAt before cs c ↔ c = x := by
      rw [lowerAt]
      split
      · rename_i hcapital
        subst hcapital
        have hne : ∀ y : Char, 128 ≤ y.toNat → x ≠ y := by
          rintro y hy rfl
          omega
        rw [List.mem_singleton, mapUppercaseSigma]
        split
        · exact iff_of_false (hne 'ς' (by decide)) (hne 'Σ' (by decide)).symm
        · exact iff_of_false (hne 'σ' (by decide)) (hne 'Σ' (by decide)).symm
      · exact htable.mem_lower_ascii x hascii hx c
    rw [lowerFrom, List.mem_append, hhead, ih, List.mem_cons, eq_comm]

theorem IsCasing.mem_iff (hsame : table.IsCasing Same) (hx : table.cased x = false)
    (h : List.Forall₂ Same cs ds) : x ∈ cs ↔ x ∈ ds := by
  induction h with
  | nil => exact Iff.rfl
  | @cons c d cs ds hcd _ ih =>
    have hhead : x = c ↔ x = d := by
      constructor
      · rintro rfl
        exact (hsame.eq_of_not_cased x d hcd hx).symm
      · rintro rfl
        exact hsame.eq_of_not_cased c x hcd ((hsame.cased c x hcd).trans hx)
    rw [List.mem_cons, List.mem_cons, hhead, ih]

/-- Whitespace has no case. -/
theorem IsCasing.isWhitespace_eq (htable : table.IsUnicode) (hsame : table.IsCasing Same)
    (h : Same c d) : Str.isWhitespace c = Str.isWhitespace d := by
  have hkeeps : ∀ {x y}, Same x y → Str.isWhitespace x = true → y = x := fun hxy hx =>
    hsame.eq_of_not_cased _ _ hxy (htable.cased_whitespace _ hx)
  cases hc : Str.isWhitespace c with
  | true => rw [hkeeps h hc, hc]
  | false =>
    cases hd : Str.isWhitespace d with
    | false => rfl
    | true =>
      have hcased : table.cased c = false :=
        (hsame.cased c d h).trans (htable.cased_whitespace d hd)
      rw [← hc, ← hd, hsame.eq_of_not_cased c d h hcased]

end Members

section Trimming

variable {R : α → β → Prop} {p : α → Bool} {q : β → Bool}

theorem forall₂_dropWhile (hpq : ∀ a b, R a b → p a = q b) (h : List.Forall₂ R as bs) :
    List.Forall₂ R (as.dropWhile p) (bs.dropWhile q) := by
  induction h with
  | nil => exact .nil
  | @cons a b as bs hab hrest ih =>
    have hp := hpq a b hab
    cases hq : q b with
    | true =>
      rw [List.dropWhile_cons_of_pos (hp.trans hq), List.dropWhile_cons_of_pos hq]
      exact ih
    | false =>
      have ha : ¬ p a = true := by
        rw [hp, hq]
        exact Bool.false_ne_true
      rw [List.dropWhile_cons_of_neg ha, List.dropWhile_cons_of_neg (by rw [← hp]; exact ha)]
      exact .cons hab hrest

theorem trimList_sublist (cs : List Char) : List.Sublist (Str.trimList cs) cs :=
  (List.rdropWhile_prefix Str.isWhitespace _).sublist.trans (List.dropWhile_sublist _)

/-- Nothing is left to trim of a text of the same letters. -/
theorem trimList_eq_self_of_forall₂ {table : CaseTable} {Same : Char → Char → Prop}
    (htable : table.IsUnicode) (hsame : table.IsCasing Same) (hcs : Str.trimList cs = cs)
    (h : List.Forall₂ Same cs ds) : Str.trimList ds = ds := by
  have hspace : ∀ c d, Same c d → Str.isWhitespace c = Str.isWhitespace d :=
    fun c d hcd => hsame.isWhitespace_eq htable hcd
  have htrim : List.Forall₂ Same (Str.trimList cs) (Str.trimList ds) :=
    List.rel_reverse
      (forall₂_dropWhile hspace (List.rel_reverse (forall₂_dropWhile hspace h)))
  refine (trimList_sublist ds).eq_of_length ?_
  rw [← htrim.length_eq, hcs, h.length_eq]

theorem dropWhile_eq_self_of_prefix {p : α → Bool} (hself : as.dropWhile p = as)
    (h : bs <+: as) : bs.dropWhile p = bs := by
  cases bs with
  | nil => rfl
  | cons b bs =>
    obtain ⟨rest, rfl⟩ := h
    apply List.dropWhile_cons_of_neg
    intro hb
    rw [List.cons_append, List.dropWhile_cons_of_pos hb] at hself
    have hlength := (List.dropWhile_sublist (l := bs ++ rest) p).length_le
    rw [hself, List.length_cons] at hlength
    omega

theorem trimList_trimList (cs : List Char) :
    Str.trimList (Str.trimList cs) = Str.trimList cs := by
  have hfront : (Str.trimList cs).dropWhile Str.isWhitespace = Str.trimList cs :=
    dropWhile_eq_self_of_prefix (List.dropWhile_idempotent _ cs)
      (List.rdropWhile_prefix Str.isWhitespace _)
  rw [Str.trimList, hfront]
  exact List.rdropWhile_idempotent Str.isWhitespace _

end Trimming

end CaseTable
