import TokenDealer.StrEdit

set_option autoImplicit true

namespace Str

section Lists

variable {sep a b xs rest : List α}

/-- No occurrence of the first list in the other two together begins in the second. -/
def Free (sep a rest : List α) : Prop := ∀ t, t <:+ a → t ≠ [] → ¬ sep <+: t ++ rest

theorem free_nil (sep rest : List α) : Free sep [] rest :=
  fun _ ht hne => absurd (List.suffix_nil.mp ht) hne

theorem free_cons : Free sep (x :: a) rest ↔ ¬ sep <+: x :: (a ++ rest) ∧ Free sep a rest := by
  constructor
  · intro h
    refine ⟨h (x :: a) (List.suffix_refl _) (List.cons_ne_nil x a), ?_⟩
    intro t ht hne
    exact h t (ht.trans (List.suffix_cons x a)) hne
  · rintro ⟨hhead, htail⟩ t ht hne
    rcases List.suffix_cons_iff.mp ht with rfl | ht
    · exact hhead
    · exact htail t ht hne

theorem free_append : Free sep (a ++ b) rest ↔ Free sep a (b ++ rest) ∧ Free sep b rest := by
  induction a with
  | nil => exact (and_iff_right (free_nil sep _)).symm
  | cons x a ih => rw [List.cons_append, free_cons, free_cons, ih, List.append_assoc, and_assoc]

/-- A separator begins only where its first symbol stands. -/
theorem free_of_head_not_mem (h : o ∉ a) (ps rest : List α) : Free (o :: ps) a rest := by
  rintro t ⟨front, rfl⟩ hne hprefix
  cases t with
  | nil => exact hne rfl
  | cons x t =>
    obtain ⟨rfl, -⟩ := List.cons_prefix_cons.mp hprefix
    exact h (List.mem_append_right front List.mem_cons_self)

theorem Free.not_infix (h : Free sep a rest) (hne : sep ≠ []) : ¬ sep <:+: a := by
  rintro ⟨front, back, rfl⟩
  have hsuffix : sep ++ back <:+ front ++ sep ++ back := ⟨front, (List.append_assoc ..).symm⟩
  apply h (sep ++ back) hsuffix (List.append_ne_nil_of_left_ne_nil hne back)
  exact ⟨back ++ rest, (List.append_assoc ..).symm⟩

/-- A separator whose first symbol does not come again in it overlaps no other occurrence. -/
theorem free_of_absent (hhead : o ∉ ps) (h : ¬ (o :: ps) <:+: a) (rest : List α) :
    Free (o :: ps) a (o :: rest) := by
  rintro t ⟨front, rfl⟩ hne ⟨back, hback⟩
  rcases List.append_eq_append_iff.mp hback with ⟨as, hinside, -⟩ | ⟨bs, houtside, hbs⟩
  · apply h
    exact ⟨front, as, by rw [List.append_assoc, hinside]⟩
  · cases bs with
    | nil =>
      rw [List.append_nil] at houtside
      apply h
      exact ⟨front, [], by rw [List.append_nil, houtside]⟩
    | cons p bs =>
      cases hbs
      cases t with
      | nil => exact hne rfl
      | cons x t =>
        cases houtside
        exact hhead (List.mem_append_right t List.mem_cons_self)

theorem free_end (h : ¬ sep <:+: a) : Free sep a [] := by
  rintro t ⟨front, rfl⟩ - ⟨back, hback⟩
  rw [List.append_nil] at hback
  apply h
  exact ⟨front, back, by rw [List.append_assoc, hback]⟩

/-- What ends with a symbol that the second list does not have lies in the first. -/
theorem infix_of_infix_append (hlast : z ∉ b) (h : xs ++ [z] <:+: a ++ b) : xs ++ [z] <:+: a := by
  obtain ⟨front, back, hfound⟩ := h
  rcases List.append_eq_append_iff.mp hfound with ⟨as, ha, -⟩ | ⟨bs, hacross, hb⟩
  · exact ⟨front, as, ha.symm⟩
  · rcases List.eq_nil_or_concat bs with rfl | ⟨bs, w, rfl⟩
    · rw [List.append_nil] at hacross
      exact ⟨front, [], by rw [List.append_nil, hacross]⟩
    · rw [List.concat_eq_append, ← List.append_assoc, ← List.append_assoc] at hacross
      obtain ⟨-, hw⟩ := List.append_inj' hacross rfl
      cases hw
      apply absurd _ hlast
      rw [hb, List.concat_eq_append]
      exact List.mem_append_left _ (List.mem_append_right _ List.mem_cons_self)

variable [DecidableEq α]

theorem dropFront_eq_some : dropFront sep xs = some rest ↔ xs = sep ++ rest := by
  constructor
  · intro h
    induction sep generalizing xs with
    | nil => exact Option.some.inj h
    | cons p ps ih =>
      cases xs with
      | nil => cases h
      | cons x xs =>
        by_cases hp : p = x
        · rw [dropFront, if_pos hp] at h
          rw [hp, ih h, List.cons_append]
        · rw [dropFront, if_neg hp] at h
          cases h
  · rintro rfl
    exact dropFront_append sep rest

/-- Two lists are cut alike at their first separators. -/
theorem prefix_of_prefix_append {c : α} (ha : c ∉ a) (hb : c ∉ b)
    (h : a ++ c :: xs <+: b ++ c :: rest) : a = b ∧ xs <+: rest := by
  obtain ⟨back, hback⟩ := h
  have hcut := cutAt_append ha (xs ++ back)
  rw [← List.cons_append, ← List.append_assoc, hback, cutAt_append hb] at hcut
  cases hcut
  exact ⟨rfl, back, rfl⟩

theorem isSome_dropFront : (dropFront sep xs).isSome = true ↔ sep <+: xs := by
  rw [Option.isSome_iff_exists]
  constructor
  · rintro ⟨rest, h⟩
    exact ⟨rest, (dropFront_eq_some.mp h).symm⟩
  · rintro ⟨rest, h⟩
    exact ⟨rest, dropFront_eq_some.mpr h.symm⟩

theorem dropFront_eq_none : dropFront sep xs = none ↔ ¬ sep <+: xs := by
  rw [← isSome_dropFront, Bool.not_eq_true, Option.isSome_eq_false_iff, Option.isNone_iff_eq_none]

theorem occurs_iff : occurs sep xs = true ↔ sep <:+: xs := by
  induction xs with
  | nil => rw [occurs, isSome_dropFront, List.prefix_nil, List.infix_nil]
  | cons x xs ih => rw [occurs, Bool.or_eq_true, isSome_dropFront, ih, List.infix_cons_iff]

theorem cutAtList_append (h : Free sep a (sep ++ b)) :
    cutAtList sep (a ++ (sep ++ b)) = some (a, b) := by
  induction a with
  | nil =>
    cases hsep : sep ++ b with
    | nil =>
      obtain ⟨rfl, rfl⟩ := List.append_eq_nil_iff.mp hsep
      rfl
    | cons x xs =>
      have hcut : dropFront sep (x :: xs) = some b := dropFront_eq_some.mpr hsep.symm
      rw [List.nil_append, cutAtList, hcut]
  | cons x a ih =>
    obtain ⟨hhead, htail⟩ := free_cons.mp h
    rw [List.cons_append, cutAtList, dropFront_eq_none.mpr hhead]
    dsimp only
    rw [ih htail]
    rfl

theorem cutAtList_eq_some (h : cutAtList sep xs = some (a, b)) :
    xs = a ++ (sep ++ b) ∧ Free sep a (sep ++ b) := by
  induction xs generalizing a with
  | nil =>
    rw [cutAtList] at h
    split at h
    · next hsep =>
      cases h
      exact ⟨by rw [hsep]; rfl, free_nil _ _⟩
    · cases h
  | cons x xs ih =>
    rw [cutAtList] at h
    cases hfront : dropFront sep (x :: xs) with
    | some rest =>
      rw [hfront] at h
      have hxs := dropFront_eq_some.mp hfront
      cases h
      exact ⟨hxs, free_nil _ _⟩
    | none =>
      rw [hfront] at h
      obtain ⟨⟨a', b'⟩, hcut, hp⟩ := Option.map_eq_some_iff.mp h
      cases hp
      obtain ⟨hxs, hfree⟩ := ih hcut
      refine ⟨congrArg (x :: ·) hxs, free_cons.mpr ⟨?_, hfree⟩⟩
      rw [← hxs]
      exact dropFront_eq_none.mp hfront

theorem cutAtList_eq_none (h : cutAtList sep xs = none) : ¬ sep <:+: xs := by
  induction xs with
  | nil =>
    rw [cutAtList] at h
    split at h
    · cases h
    · next hsep => rwa [List.infix_nil]
  | cons x xs ih =>
    rw [cutAtList] at h
    cases hfront : dropFront sep (x :: xs) with
    | some rest =>
      rw [hfront] at h
      cases h
    | none =>
      rw [hfront] at h
      have hcut : cutAtList sep xs = none := Option.map_eq_none_iff.mp h
      rw [List.infix_cons_iff, not_or]
      exact ⟨dropFront_eq_none.mp hfront, ih hcut⟩

theorem replaceList_free (by' : List α) (h : Free sep a rest) :
    replaceList sep by' 0 (a ++ rest) = a ++ replaceList sep by' 0 rest := by
  induction a with
  | nil => rfl
  | cons x a ih =>
    obtain ⟨hhead, htail⟩ := free_cons.mp h
    have hskip : ¬ (dropFront sep (x :: (a ++ rest))).isSome = true := by rwa [isSome_dropFront]
    rw [List.cons_append, replaceList, if_neg hskip, ih htail, List.cons_append]

theorem replaceList_skip (sep by' : List α) (skipped rest : List α) :
    replaceList sep by' skipped.length (skipped ++ rest) = replaceList sep by' 0 rest := by
  induction skipped with
  | nil => rfl
  | cons x skipped ih => rw [List.length_cons, List.cons_append, replaceList, ih]

theorem replaceList_found (o : α) (ps by' rest : List α) :
    replaceList (o :: ps) by' 0 ((o :: ps) ++ rest) = by' ++ replaceList (o :: ps) by' 0 rest := by
  have hfound : (dropFront (o :: ps) (o :: (ps ++ rest))).isSome = true :=
    isSome_dropFront.mpr ⟨rest, rfl⟩
  rw [List.cons_append, replaceList, if_pos hfound, List.length_cons, Nat.add_sub_cancel,
    replaceList_skip]

end Lists

section Texts

variable {s t needle : String}

theorem contains_iff : contains s needle = true ↔ needle.toList <:+: s.toList := occurs_iff

theorem contains_eq_false_iff : contains s needle = false ↔ ¬ needle.toList <:+: s.toList := by
  rw [← contains_iff, Bool.not_eq_true]

/-- A text is cut at the last occurrence of a separator. -/
theorem rsplitOnce_eq_some {sep front back : String} (h : rsplitOnce sep s = some (front, back)) :
    s = front ++ sep ++ back := by
  obtain ⟨⟨a, b⟩, hcut, hp⟩ := Option.map_eq_some_iff.mp h
  cases hp
  have hs := congrArg List.reverse (cutAtList_eq_some hcut).1
  rw [← String.toList_inj, String.toList_append, String.toList_append, String.toList_ofList,
    String.toList_ofList]
  simpa only [List.reverse_reverse, List.reverse_append] using hs

theorem rsplitOnce_append {sep front back : String}
    (h : Free sep.toList.reverse back.toList.reverse (sep.toList.reverse ++ front.toList.reverse)) :
    rsplitOnce sep (front ++ sep ++ back) = some (front, back) := by
  have hreverse : (front ++ sep ++ back).toList.reverse =
      back.toList.reverse ++ (sep.toList.reverse ++ front.toList.reverse) := by
    simp only [String.toList_append, List.reverse_append]
  rw [rsplitOnce, hreverse, cutAtList_append h]
  simp only [Option.map_some, List.reverse_reverse, String.ofList_toList]

theorem rsplitOnce_eq_none {sep : String} (h : rsplitOnce sep s = none) :
    contains s sep = false := by
  have hcut := cutAtList_eq_none (Option.map_eq_none_iff.mp h)
  rw [contains_eq_false_iff]
  exact fun hin => hcut (List.reverse_infix.mpr hin)

theorem dropFronts_suffix [DecidableEq α] (front : List α) (n : Nat) (xs : List α) :
    dropFronts front n xs <:+ xs := by
  induction n generalizing xs with
  | zero => exact List.suffix_refl xs
  | succ n ih =>
    rw [dropFronts]
    cases hfront : dropFront front xs with
    | none => exact List.suffix_refl xs
    | some rest => exact (ih rest).trans ⟨front, (dropFront_eq_some.mp hfront).symm⟩

theorem trimEndMatches_prefix (back s : String) :
    (trimEndMatches back s).toList <+: s.toList := by
  rw [trimEndMatches, String.toList_ofList, ← List.reverse_suffix, List.reverse_reverse]
  exact dropFronts_suffix _ _ _

/-- A last symbol is taken off as often as it stands there. -/
theorem trimEndMatches_replicate {back s : String} {c : Char} (hback : back.toList = [c])
    (hs : s.toList.getLast? ≠ some c) (n : Nat) :
    trimEndMatches back (s ++ String.ofList (List.replicate n c)) = s := by
  have hreverse : (s ++ String.ofList (List.replicate n c)).toList.reverse =
      List.replicate n c ++ s.toList.reverse := by
    rw [String.toList_append, String.toList_ofList, List.reverse_append, List.reverse_replicate]
  have hkept : ∀ k m, dropFronts [c] (k + m) (List.replicate k c ++ s.toList.reverse) =
      s.toList.reverse := by
    intro k m
    induction k with
    | zero =>
      rw [Nat.zero_add, List.replicate_zero, List.nil_append]
      cases m with
      | zero => rfl
      | succ m =>
        have hnone : dropFront [c] s.toList.reverse = none := by
          rw [dropFront_eq_none]
          rintro ⟨rest, hrest⟩
          apply hs
          rw [← List.head?_reverse, ← hrest]
          rfl
        rw [dropFronts, hnone]
    | succ k ih =>
      have hsome : dropFront [c] (c :: (List.replicate k c ++ s.toList.reverse)) =
          some (List.replicate k c ++ s.toList.reverse) := dropFront_append [c] _
      rw [Nat.add_right_comm, List.replicate_succ, List.cons_append, dropFronts, hsome]
      exact ih
  have hlength : (s ++ String.ofList (List.replicate n c)).toList.length =
      n + s.toList.length := by
    rw [String.toList_append, String.toList_ofList, List.length_append, List.length_replicate,
      Nat.add_comm]
  rw [trimEndMatches, hback, hreverse, hlength, List.reverse_singleton, hkept, List.reverse_reverse,
    String.ofList_toList]

theorem join_cons (sep s : String) {pieces : List String} (h : pieces ≠ []) :
    join sep (s :: pieces) = s ++ sep ++ join sep pieces := by
  cases pieces with
  | nil => exact absurd rfl h
  | cons t rest => rfl

/-- What stands between the occurrences of a separator is kept when they are replaced. -/
theorem replace_join {sep : String} (hsep : sep.toList = o :: ps) (hhead : o ∉ ps)
    (by' : String) {pieces : List String}
    (hpieces : ∀ piece ∈ pieces, contains piece sep = false) :
    replace (join sep pieces) sep by' = join by' pieces := by
  induction pieces with
  | nil => rfl
  | cons piece pieces ih =>
    have hpiece := contains_eq_false_iff.mp (hpieces piece List.mem_cons_self)
    have hrest := ih fun p hp => hpieces p (List.mem_cons_of_mem piece hp)
    by_cases hlast : pieces = []
    · have hfree := replaceList_free by'.toList (free_end hpiece)
      rw [List.append_nil, replaceList, List.append_nil] at hfree
      rw [hlast]
      change String.ofList (replaceList sep.toList by'.toList 0 piece.toList) = piece
      rw [hfree, String.ofList_toList]
    · rw [join_cons sep piece hlast, join_cons by' piece hlast, ← hrest]
      rw [hsep] at hpiece
      have hlist : (piece ++ sep ++ join sep pieces).toList =
          piece.toList ++ (o :: (ps ++ (join sep pieces).toList)) := by
        simp only [String.toList_append, hsep, List.append_assoc, List.cons_append]
      rw [← String.toList_inj, replace, replace, String.toList_ofList, hlist, hsep,
        replaceList_free by'.toList (free_of_absent hhead hpiece _), ← List.cons_append,
        replaceList_found]
      simp only [String.toList_append, String.toList_ofList, List.append_assoc]

/-- Every text is made of pieces without the separator. -/
theorem exists_pieces {sep : String} (hsep : sep.toList ≠ []) (s : String) :
    ∃ pieces, s = join sep pieces ∧ pieces ≠ [] ∧ ∀ piece ∈ pieces, contains piece sep = false := by
  induction hn : s.toList.length using Nat.strongRecOn generalizing s with
  | ind n ih =>
    cases hcut : cutAtList sep.toList s.toList with
    | none =>
      refine ⟨[s], rfl, List.cons_ne_nil s [], ?_⟩
      exact List.forall_mem_singleton.mpr (contains_eq_false_iff.mpr (cutAtList_eq_none hcut))
    | some p =>
      obtain ⟨a, b⟩ := p
      obtain ⟨hs, hfree⟩ := cutAtList_eq_some hcut
      have hlength : b.length < n := by
        rw [← hn, hs, List.length_append, List.length_append]
        have := List.length_pos_iff.mpr hsep
        omega
      obtain ⟨pieces, hb, hne, hpieces⟩ :=
        ih b.length hlength (String.ofList b) (congrArg List.length String.toList_ofList)
      refine ⟨String.ofList a :: pieces, ?_, List.cons_ne_nil _ _, ?_⟩
      · rw [join_cons sep _ hne, ← hb, ← String.toList_inj]
        simp only [String.toList_append, String.toList_ofList, List.append_assoc, hs]
      · refine List.forall_mem_cons.mpr ⟨?_, hpieces⟩
        rw [contains_eq_false_iff, String.toList_ofList]
        exact hfree.not_infix hsep

end Texts

end Str
