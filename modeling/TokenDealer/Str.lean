set_option autoImplicit true

namespace Str

/-- The rest of a list behind a given front. -/
def dropFront [DecidableEq α] : List α → List α → Option (List α)
  | [], xs => some xs
  | _ :: _, [] => none
  | p :: ps, x :: xs => if p = x then dropFront ps xs else none

/-- Does the first list occur somewhere in the second? -/
def occurs [DecidableEq α] (ps : List α) : List α → Bool
  | [] => (dropFront ps []).isSome
  | x :: xs => (dropFront ps (x :: xs)).isSome || occurs ps xs

/-- What stands before and behind the first separator. -/
def cutAt [DecidableEq α] (sep : α) : List α → Option (List α × List α)
  | [] => none
  | x :: xs => if x = sep then some ([], xs) else (cutAt sep xs).map fun p => (x :: p.1, p.2)

/-- Every piece between separators, the empty ones too. -/
def split [DecidableEq α] (sep : α) : List α → List (List α)
  | [] => [[]]
  | x :: xs =>
    if x = sep then [] :: split sep xs
    else
      match split sep xs with
      | [] => [[x]]
      | piece :: pieces => (x :: piece) :: pieces

/-- At most so many pieces, the last of which keeps the separators left over. -/
def splitUpTo [DecidableEq α] (sep : α) : Nat → List α → List (List α)
  | 0, _ => []
  | 1, xs => [xs]
  | n + 2, xs =>
    match cutAt sep xs with
    | none => [xs]
    | some (front, rest) => front :: splitUpTo sep (n + 1) rest

def stripPrefix (front s : String) : Option String :=
  (dropFront front.toList s.toList).map String.ofList

def startsWith (s front : String) : Bool := (dropFront front.toList s.toList).isSome

def stripSuffix (back s : String) : Option String :=
  (dropFront back.toList.reverse s.toList.reverse).map fun rest => String.ofList rest.reverse

def contains (s needle : String) : Bool := occurs needle.toList s.toList

def splitOnce (sep : Char) (s : String) : Option (String × String) :=
  (cutAt sep s.toList).map fun p => (String.ofList p.1, String.ofList p.2)

def splitn (n : Nat) (sep : Char) (s : String) : List String :=
  (splitUpTo sep n s.toList).map String.ofList

def join (sep : String) : List String → String
  | [] => ""
  | [s] => s
  | s :: t :: rest => s ++ sep ++ join sep (t :: rest)

def concat (pieces : List String) : String := join "" pieces

/-- The Unicode White_Space characters. -/
def isWhitespace (c : Char) : Bool :=
  let n := c.toNat
  (9 ≤ n && n ≤ 13) || n = 0x20 || n = 0x85 || n = 0xA0 || n = 0x1680 ||
    (0x2000 ≤ n && n ≤ 0x200A) || n = 0x2028 || n = 0x2029 || n = 0x202F || n = 0x205F ||
    n = 0x3000

def trimList (cs : List Char) : List Char :=
  ((cs.dropWhile isWhitespace).reverse.dropWhile isWhitespace).reverse

def trim (s : String) : String := String.ofList (trimList s.toList)

def splitWhitespace (s : String) : List String :=
  ((split ' ' (s.toList.map fun c => if isWhitespace c then ' ' else c)).filter
    fun word => !word.isEmpty).map String.ofList

/-- Lower case as far as ASCII can tell: outside ASCII only the Kelvin sign and the dotted
capital I have a lower case with an ASCII letter in it, all others stay outside ASCII. -/
def lowerChar (c : Char) : List Char :=
  if 'A' ≤ c ∧ c ≤ 'Z' then [Char.ofNat (c.toNat + 32)]
  else if c = '\u212A' then ['k']
  else if c = '\u0130' then ['i', '\u0307']
  else [c]

def toLowercase (s : String) : String := String.ofList (s.toList.flatMap lowerChar)

def asciiLower (c : Char) : Char := if 'A' ≤ c ∧ c ≤ 'Z' then Char.ofNat (c.toNat + 32) else c

def toAsciiLowercase (s : String) : String := String.ofList (s.toList.map asciiLower)

/-- A line feed ends a line, together with a carriage return right before it. What stands
behind the last line feed is a line too, unless it is empty. -/
def lineList : List Char → List (List Char)
  | [] => []
  | c :: cs =>
    if c = '\n' then [] :: lineList cs
    else if c = '\r' ∧ cs.head? = some '\n' then lineList cs
    else
      match lineList cs with
      | [] => [[c]]
      | line :: lines => (c :: line) :: lines

def lines (s : String) : List String := (lineList s.toList).map String.ofList

example : lines "a\r\n\nb\rc\r" = ["a", "", "b\rc\r"] := by decide

/-- The order of texts: character by character, a text before its continuations. -/
def lexBefore : List Char → List Char → Bool
  | _, [] => false
  | [], _ :: _ => true
  | c :: cs, d :: ds => if c = d then lexBefore cs ds else c.toNat < d.toNat

def before (s t : String) : Bool := lexBefore s.toList t.toList

theorem dropFront_append [DecidableEq α] (ps xs : List α) : dropFront ps (ps ++ xs) = some xs := by
  induction ps with
  | nil => rfl
  | cons p ps ih => simpa only [List.cons_append, dropFront, ↓reduceIte] using ih

theorem dropFront_append_front [DecidableEq α] (ps qs xs : List α) :
    dropFront (ps ++ qs) xs = (dropFront ps xs).bind (dropFront qs) := by
  induction ps generalizing xs with
  | nil => rfl
  | cons p ps ih =>
    cases xs with
    | nil => rfl
    | cons x xs =>
      rw [List.cons_append, dropFront, dropFront, ih]
      split <;> rfl

theorem dropFront_singleton [DecidableEq α] {c : α} {xs : List α} (h : xs.head? ≠ some c) :
    dropFront [c] xs = none := by
  cases xs with
  | nil => rfl
  | cons x xs => exact if_neg fun he : c = x => h (congrArg some he.symm)

/-- A symbol behind a list that a front does not have is no part of the front. -/
theorem dropFront_concat [DecidableEq α] {ps : List α} {c : α} (h : c ∉ ps) (xs : List α) :
    dropFront ps (xs ++ [c]) = (dropFront ps xs).map (· ++ [c]) := by
  induction ps generalizing xs with
  | nil => rfl
  | cons p ps ih =>
    rw [List.mem_cons, not_or] at h
    cases xs with
    | nil =>
      exact if_neg fun he : p = c => h.1 he.symm
    | cons x xs =>
      rw [List.cons_append, dropFront, dropFront]
      split
      · exact ih h.2 xs
      · rfl

theorem startsWith_append (front s : String) : startsWith (front ++ s) front = true := by
  simp only [startsWith, String.toList_append, dropFront_append, Option.isSome_some]

theorem stripPrefix_append (front s : String) : stripPrefix front (front ++ s) = some s := by
  simp only [stripPrefix, String.toList_append, dropFront_append, Option.map_some,
    String.ofList_toList]

theorem cutAt_append [DecidableEq α] {sep : α} {xs : List α} (h : sep ∉ xs) (ys : List α) :
    cutAt sep (xs ++ sep :: ys) = some (xs, ys) := by
  induction xs with
  | nil => simp only [List.nil_append, cutAt, ↓reduceIte]
  | cons x xs ih =>
    have hx : x ≠ sep := fun he => h (he ▸ List.mem_cons_self)
    have hxs : sep ∉ xs := fun hm => h (List.mem_cons_of_mem _ hm)
    simp only [List.cons_append, cutAt, if_neg hx, ih hxs, Option.map_some]

theorem cutAt_eq_some [DecidableEq α] {sep : α} {xs a b : List α} (h : cutAt sep xs = some (a, b)) :
    xs = a ++ sep :: b ∧ sep ∉ a := by
  induction xs generalizing a with
  | nil => cases h
  | cons x xs ih =>
    by_cases hx : x = sep
    · simp only [cutAt, if_pos hx] at h
      cases h
      exact ⟨by rw [hx]; rfl, List.not_mem_nil⟩
    · simp only [cutAt, if_neg hx] at h
      cases hc : cutAt sep xs with
      | none =>
        rw [hc] at h
        cases h
      | some p =>
        rw [hc] at h
        cases h
        obtain ⟨he, hn⟩ := ih hc
        refine ⟨congrArg (x :: ·) he, ?_⟩
        rw [List.mem_cons, not_or]
        exact ⟨fun hs => hx hs.symm, hn⟩

theorem cutAt_eq_none [DecidableEq α] {sep : α} {xs : List α} (h : sep ∉ xs) :
    cutAt sep xs = none := by
  cases hc : cutAt sep xs with
  | none => rfl
  | some p =>
    obtain ⟨front, rest⟩ := p
    have hxs := (cutAt_eq_some hc).1
    exact absurd (hxs ▸ List.mem_append_right _ List.mem_cons_self) h

theorem toList_append_singleton (a : String) (sep : Char) (b : String) :
    (a ++ String.singleton sep ++ b).toList = a.toList ++ sep :: b.toList := by
  simp only [String.toList_append, String.toList_singleton, List.append_assoc,
    List.singleton_append]

theorem splitOnce_append {sep : Char} {a : String} (h : sep ∉ a.toList) (b : String) :
    splitOnce sep (a ++ String.singleton sep ++ b) = some (a, b) := by
  simp only [splitOnce, toList_append_singleton, cutAt_append h, Option.map_some,
    String.ofList_toList]

theorem splitOnce_not_mem {sep : Char} {s a b : String} (h : splitOnce sep s = some (a, b)) :
    sep ∉ a.toList := by
  cases hc : cutAt sep s.toList with
  | none =>
    rw [splitOnce, hc] at h
    cases h
  | some p =>
    rw [splitOnce, hc] at h
    cases h
    rw [String.toList_ofList]
    exact (cutAt_eq_some hc).2

theorem eq_append_of_splitOnce {sep : Char} {s a b : String} (h : splitOnce sep s = some (a, b)) :
    s = a ++ String.singleton sep ++ b := by
  cases hc : cutAt sep s.toList with
  | none =>
    rw [splitOnce, hc] at h
    cases h
  | some p =>
    rw [splitOnce, hc] at h
    cases h
    rw [← String.toList_inj, toList_append_singleton, String.toList_ofList, String.toList_ofList]
    exact (cutAt_eq_some hc).1

theorem splitOnce_eq_none {sep : Char} {s : String} (h : splitOnce sep s = none) :
    sep ∉ s.toList := by
  intro hmem
  obtain ⟨front, rest, hs, hfront⟩ := List.eq_append_cons_of_mem hmem
  rw [splitOnce, hs, cutAt_append hfront] at h
  cases h

theorem split_of_not_mem [DecidableEq α] {sep : α} {xs : List α} (h : sep ∉ xs) :
    split sep xs = [xs] := by
  induction xs with
  | nil => rfl
  | cons x xs ih =>
    rw [List.mem_cons, not_or] at h
    obtain ⟨hx, hxs⟩ := h
    rw [split, if_neg (Ne.symm hx), ih hxs]

theorem split_append [DecidableEq α] {sep : α} {xs : List α} (h : sep ∉ xs) (ys : List α) :
    split sep (xs ++ sep :: ys) = xs :: split sep ys := by
  induction xs with
  | nil => rw [List.nil_append, split, if_pos rfl]
  | cons x xs ih =>
    rw [List.mem_cons, not_or] at h
    obtain ⟨hx, hxs⟩ := h
    rw [List.cons_append, split, if_neg (Ne.symm hx), ih hxs]

theorem splitn_one (sep : Char) (s : String) : splitn 1 sep s = [s] := by
  simp only [splitn, splitUpTo, List.map_cons, List.map_nil, String.ofList_toList]

theorem splitn_append {sep : Char} {a : String} (h : sep ∉ a.toList) (n : Nat) (b : String) :
    splitn (n + 2) sep (a ++ String.singleton sep ++ b) = a :: splitn (n + 1) sep b := by
  simp only [splitn, toList_append_singleton, splitUpTo, cutAt_append h, List.map_cons,
    String.ofList_toList]

theorem splitn_of_not_mem {sep : Char} {s : String} (h : sep ∉ s.toList) (n : Nat) :
    splitn (n + 2) sep s = [s] := by
  simp only [splitn, splitUpTo, cutAt_eq_none h, List.map_cons, List.map_nil,
    String.ofList_toList]

/-- A text with a separator in it is cut at the first one. -/
theorem exists_append_of_mem {sep : Char} {s : String} (h : sep ∈ s.toList) :
    ∃ a b, s = a ++ String.singleton sep ++ b ∧ sep ∉ a.toList := by
  obtain ⟨front, rest, hs, hfront⟩ := List.eq_append_cons_of_mem h
  refine ⟨String.ofList front, String.ofList rest, ?_, ?_⟩
  · rw [← String.toList_inj, toList_append_singleton, String.toList_ofList, String.toList_ofList]
    exact hs
  · rw [String.toList_ofList]
    exact hfront

theorem dropWhile_isWhitespace {cs : List Char} (h : ∀ c ∈ cs, isWhitespace c = false) :
    cs.dropWhile isWhitespace = cs := by
  cases cs with
  | nil => rfl
  | cons c cs =>
    rw [List.dropWhile_cons_of_neg]
    rw [h c List.mem_cons_self]
    exact Bool.false_ne_true

theorem trimList_eq_self {cs : List Char} (h : ∀ c ∈ cs, isWhitespace c = false) :
    trimList cs = cs := by
  have hreverse : ∀ c ∈ cs.reverse, isWhitespace c = false :=
    fun c hc => h c (List.mem_reverse.mp hc)
  rw [trimList, dropWhile_isWhitespace h, dropWhile_isWhitespace hreverse, List.reverse_reverse]

theorem lexBefore_asymm (h : lexBefore cs ds = true) : lexBefore ds cs = false := by
  induction cs generalizing ds with
  | nil => rw [lexBefore.eq_def]
  | cons c cs ih =>
    cases ds with
    | nil => cases h
    | cons d ds =>
      rw [lexBefore] at h ⊢
      by_cases hcd : c = d
      · rw [if_pos hcd] at h
        rw [if_pos hcd.symm]
        exact ih h
      · rw [if_neg hcd, decide_eq_true_eq] at h
        rw [if_neg (Ne.symm hcd), decide_eq_false_iff_not]
        exact Nat.lt_asymm h

theorem lexBefore_trans (h : lexBefore cs ds = false) (h' : lexBefore bs cs = false) :
    lexBefore bs ds = false := by
  induction bs generalizing cs ds with
  | nil =>
    cases cs with
    | nil => exact h
    | cons c cs => cases h'
  | cons b bs ih =>
    cases ds with
    | nil => rw [lexBefore]
    | cons d ds =>
      cases cs with
      | nil => cases h
      | cons c cs =>
        rw [lexBefore] at h h' ⊢
        by_cases hbc : b = c
        · rw [if_pos hbc] at h'
          by_cases hcd : c = d
          · rw [if_pos hcd] at h
            rw [if_pos (hbc.trans hcd)]
            exact ih h h'
          · rw [if_neg hcd] at h
            rw [hbc, if_neg hcd]
            exact h
        · rw [if_neg hbc] at h'
          by_cases hcd : c = d
          · rw [← hcd, if_neg hbc]
            exact h'
          · have hlt : d.toNat < b.toNat := by
              rw [if_neg hcd, decide_eq_false_iff_not] at h
              rw [decide_eq_false_iff_not] at h'
              have hne : d.toNat ≠ c.toNat := fun he => hcd (Char.toNat_inj.mp he).symm
              omega
            have hbd : b ≠ d := fun he => Nat.lt_irrefl _ (he ▸ hlt)
            rw [if_neg hbd, decide_eq_false_iff_not]
            exact Nat.lt_asymm hlt

theorem before_asymm (h : before s t = true) : before t s = false := lexBefore_asymm h

/-- Not to be before is transitive. -/
theorem before_trans (h : before s t = false) (h' : before r s = false) : before r t = false :=
  lexBefore_trans h h'

theorem concat_nil : concat [] = "" := rfl

theorem concat_cons (s : String) (rest : List String) : concat (s :: rest) = s ++ concat rest := by
  cases rest with
  | nil => exact String.append_empty.symm
  | cons t rest => rw [concat, join, String.append_empty, concat]

theorem concat_append (xs ys : List String) : concat (xs ++ ys) = concat xs ++ concat ys := by
  induction xs with
  | nil => exact String.empty_append.symm
  | cons x xs ih => rw [List.cons_append, concat_cons, concat_cons, ih, String.append_assoc]

/-- Joining with one more piece at the end. -/
theorem join_concat (sep : String) (s : String) (rest : List String) (t : String) :
    join sep ((s :: rest) ++ [t]) = join sep (s :: rest) ++ sep ++ t := by
  induction rest generalizing s with
  | nil => rfl
  | cons r rest ih =>
    have h := ih r
    simp only [List.cons_append, join] at h ⊢
    rw [h]
    simp only [String.append_assoc]

theorem contains_empty {needle : String} (h : needle ≠ "") : contains "" needle = false := by
  rw [contains]
  cases hneedle : needle.toList with
  | nil => exact absurd (String.toList_eq_nil_iff.mp hneedle) h
  | cons c rest => rfl

end Str
