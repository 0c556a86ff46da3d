import TokenDealer.OauthEncoding
import TokenDealer.StrPieces

set_option autoImplicit true

namespace TokenDealer

/-- Where a provider sends the user back to, without the origin. -/
def callbackPath (providerId : String) : String := s!"/admin/oauth/{providerId}/callback"

def providerPlaceholder : String := "\x7bprovider\x7d"

/-- A provider id that is one segment of a path and no template. -/
structure IsPlainId (p : String) : Prop where
  slash : '/' ∉ p.toList
  opening : '\x7b' ∉ p.toList
  closing : '\x7d' ∉ p.toList

theorem toList_callbackPath (p : String) :
    (callbackPath p).toList = "/admin/oauth/".toList ++ (p.toList ++ "/callback".toList) := by
  have hpath : callbackPath p = "/admin/oauth/" ++ p ++ "/callback" := rfl
  rw [hpath, String.toList_append, String.toList_append, List.append_assoc]

theorem toList_providerPlaceholder :
    providerPlaceholder.toList = '\x7b' :: "provider\x7d".toList := rfl

theorem not_contains_of_prefix {front s : String} (hs : Str.contains s providerPlaceholder = false)
    (h : front.toList <+: s.toList) : Str.contains front providerPlaceholder = false := by
  rw [Str.contains_eq_false_iff] at hs ⊢
  exact fun hin => hs (hin.trans h.isInfix)

/-- A configured address that is no template, and not empty, is cut at its last marker. -/
theorem rebuildRedirectUri_eq {c : String} (hplain : Str.contains c providerPlaceholder = false)
    (hne : c ≠ "") (p : String) :
    rebuildRedirectUri c p =
      (if Str.contains c "/admin/oauth/" then
          (Str.rsplitOnce "/admin/oauth/" c).map fun cut => cut.1 ++ callbackPath p
        else none).getD
        (if Str.endsWith c "/callback" || Str.endsWith c "/" then
          Str.trimEndMatches "/" c ++ callbackPath p
        else c ++ callbackPath p) := by
  have hno : ¬ Str.contains c "\x7bprovider\x7d" = true := by
    rw [Bool.not_eq_true]
    exact hplain
  rw [rebuildRedirectUri, if_neg hne, if_neg hno]
  cases Str.contains c "/admin/oauth/" <;> cases Str.rsplitOnce "/admin/oauth/" c <;> rfl

/-- Without a template the callback is put behind some front of what is configured. -/
theorem rebuildRedirectUri_plain {c : String}
    (hplain : Str.contains c providerPlaceholder = false) :
    ∃ front, front.toList <+: c.toList ∧ ∀ p, rebuildRedirectUri c p = front ++ callbackPath p := by
  by_cases hempty : c = ""
  · refine ⟨"", List.nil_prefix, fun p => ?_⟩
    rw [rebuildRedirectUri, if_pos hempty, String.empty_append]
    rfl
  · have hcases := rebuildRedirectUri_eq hplain hempty
    have happended : ∃ front, front.toList <+: c.toList ∧ ∀ p,
        (if Str.endsWith c "/callback" || Str.endsWith c "/" then
          Str.trimEndMatches "/" c ++ callbackPath p else c ++ callbackPath p) =
        front ++ callbackPath p := by
      split
      · exact ⟨_, Str.trimEndMatches_prefix "/" c, fun p => rfl⟩
      · exact ⟨c, List.prefix_refl _, fun p => rfl⟩
    cases hmarker : Str.contains c "/admin/oauth/" with
    | false =>
      simp only [hmarker, Bool.false_eq_true, if_false, Option.getD_none] at hcases
      obtain ⟨front, hfront, heq⟩ := happended
      exact ⟨front, hfront, fun p => (hcases p).trans (heq p)⟩
    | true =>
      cases hcut : Str.rsplitOnce "/admin/oauth/" c with
      | none =>
        rw [Str.rsplitOnce_eq_none hcut] at hmarker
        cases hmarker
      | some cut =>
        obtain ⟨front, back⟩ := cut
        simp only [hmarker, if_true, hcut, Option.map_some, Option.getD_some] at hcases
        have hc := Str.rsplitOnce_eq_some hcut
        refine ⟨front, ?_, hcases⟩
        rw [hc, String.toList_append, String.toList_append, List.append_assoc]
        exact List.prefix_append _ _

/-- Behind its last marker a callback has the provider alone. -/
theorem rsplitOnce_callbackPath {p : String} (hslash : '/' ∉ p.toList) (front : String) :
    Str.rsplitOnce "/admin/oauth/" (front ++ callbackPath p) = some (front, p ++ "/callback") := by
  have hsplit : front ++ callbackPath p = front ++ "/admin/oauth/" ++ (p ++ "/callback") := by
    rw [← String.toList_inj, String.toList_append, toList_callbackPath]
    simp only [String.toList_append, List.append_assoc]
  have hreverse : '/' ∉ p.toList.reverse := fun h => hslash (List.mem_reverse.mp h)
  rw [hsplit]
  apply Str.rsplitOnce_append
  have hback : (p ++ "/callback").toList.reverse =
      "kcabllac".toList ++ ('/' :: p.toList.reverse) := by
    rw [String.toList_append, List.reverse_append]
    rfl
  have hmarker : "/admin/oauth/".toList.reverse = '/' :: "htuao/nimda/".toList := rfl
  rw [hback, hmarker]
  refine Str.free_append.mpr ⟨Str.free_of_head_not_mem (by decide) _ _, ?_⟩
  refine Str.free_cons.mpr ⟨?_, Str.free_of_head_not_mem hreverse _ _⟩
  intro hprefix
  -- the slash before `callback` would have to be the one behind `oauth`
  have hinner := (List.cons_prefix_cons.mp hprefix).2
  have hwords : "htuao/nimda/".toList = "htuao".toList ++ '/' :: "nimda/".toList := rfl
  rw [hwords] at hinner
  have hword := (Str.prefix_of_prefix_append (by decide) hreverse hinner).2
  exact absurd (List.cons_prefix_cons.mp hword).1 (by decide)

theorem not_contains_callback {front p : String} (hp : IsPlainId p)
    (hfront : Str.contains front providerPlaceholder = false) :
    Str.contains (front ++ callbackPath p) providerPlaceholder = false := by
  rw [Str.contains_eq_false_iff] at hfront ⊢
  intro hin
  have hword : providerPlaceholder.toList = "\x7bprovider".toList ++ ['\x7d'] := rfl
  have hclosing : '\x7d' ∉ (callbackPath p).toList := by
    rw [toList_callbackPath, List.mem_append, List.mem_append, not_or, not_or]
    exact ⟨by decide, hp.closing, by decide⟩
  rw [hword, String.toList_append] at hin
  exact hfront (hword ▸ Str.infix_of_infix_append hclosing hin)

/-- The callback of another provider is rewritten. -/
theorem rebuildRedirectUri_callback {front p : String} (hp : IsPlainId p)
    (hfront : Str.contains front providerPlaceholder = false) (q : String) :
    rebuildRedirectUri (front ++ callbackPath p) q = front ++ callbackPath q := by
  have hno : ¬ Str.contains (front ++ callbackPath p) "\x7bprovider\x7d" = true := by
    rw [Bool.not_eq_true]
    exact not_contains_callback hp hfront
  have hempty : front ++ callbackPath p ≠ "" := by
    intro h
    have hlist := congrArg String.toList h
    rw [String.toList_append, toList_callbackPath] at hlist
    exact absurd (List.append_eq_nil_iff.mp (List.append_eq_nil_iff.mp hlist).2).1 (by decide)
  have hmarker : Str.contains (front ++ callbackPath p) "/admin/oauth/" = true := by
    rw [Str.contains_iff, String.toList_append, toList_callbackPath]
    exact List.infix_append' _ _ _
  rw [rebuildRedirectUri, if_neg hempty, if_neg hno, if_pos hmarker,
    rsplitOnce_callbackPath hp.slash]
  rfl

/-- Without a template what is rewritten for one provider can be rewritten for another, and always
ends with its callback; with one, the placeholders are replaced and the rest is kept. -/
theorem rebuildRedirectUri_stable (c : String) :
    (Str.contains c providerPlaceholder = false →
      ∀ p q, IsPlainId p → IsPlainId q →
        rebuildRedirectUri (rebuildRedirectUri c p) q = rebuildRedirectUri c q ∧
          ∃ front, rebuildRedirectUri c q = front ++ callbackPath q) ∧
    (Str.contains c providerPlaceholder = true →
      ∃ pieces, c = Str.join providerPlaceholder pieces ∧ 2 ≤ pieces.length ∧
        (∀ piece ∈ pieces, Str.contains piece providerPlaceholder = false) ∧
        ∀ p, rebuildRedirectUri c p = Str.join p pieces) := by
  constructor
  · intro hplain p q hp hq
    obtain ⟨front, hfront, heq⟩ := rebuildRedirectUri_plain hplain
    have hfree := not_contains_of_prefix hplain hfront
    exact ⟨by rw [heq p, heq q, rebuildRedirectUri_callback hp hfree], front, heq q⟩
  · intro htemplate
    have hword : providerPlaceholder.toList ≠ [] := List.cons_ne_nil _ _
    obtain ⟨pieces, rfl, hne, hpieces⟩ := Str.exists_pieces hword c
    have hlength : 2 ≤ pieces.length := by
      cases pieces with
      | nil => exact absurd rfl hne
      | cons piece rest =>
        cases rest with
        | nil =>
          have hnone := hpieces piece List.mem_cons_self
          exact absurd (hnone.symm.trans htemplate) Bool.false_ne_true
        | cons _ _ => exact Nat.le_add_left 2 _
    refine ⟨pieces, rfl, hlength, hpieces, fun p => ?_⟩
    have hempty : Str.join providerPlaceholder pieces ≠ "" := by
      intro h
      rw [h, Str.contains_empty (by decide)] at htemplate
      cases htemplate
    have hyes : Str.contains (Str.join providerPlaceholder pieces) "\x7bprovider\x7d" = true :=
      htemplate
    rw [rebuildRedirectUri, if_neg hempty, if_pos hyes]
    exact Str.replace_join toList_providerPlaceholder (by decide) p hpieces

/-- A scheme and an authority, as a browser reads them off the front of an address. -/
structure Origin where
  scheme : String
  authority : String
  scheme_plain : ∀ c ∈ ['/', '?', '#', '\x7b'], c ∉ scheme.toList
  authority_plain : ∀ c ∈ ['/', '?', '#', '\x7b'], c ∉ authority.toList
  authority_ne : authority ≠ ""

namespace Origin

def text (o : Origin) : String := o.scheme ++ "://" ++ o.authority

/-- The configured addresses that mean a server at this origin: the origin itself, slashes behind it
or not, the callback of one of its providers, or of a template for them. -/
inductive Configured (o : Origin) : String → Prop
  | slashes (n : Nat) : Configured o (o.text ++ String.ofList (List.replicate n '/'))
  | callback (hq : IsPlainId q) : Configured o (o.text ++ callbackPath q)
  | template : Configured o (o.text ++ callbackPath providerPlaceholder)

variable (o : Origin)

theorem toList_text :
    o.text.toList = o.scheme.toList ++ ':' :: '/' :: '/' :: o.authority.toList := by
  rw [text, String.toList_append, String.toList_append, List.append_assoc]
  rfl

theorem opening_not_mem : '\x7b' ∉ o.text.toList := by
  simp only [toList_text, List.mem_append, List.mem_cons, not_or]
  exact ⟨o.scheme_plain _ (by decide), by decide, by decide, by decide,
    o.authority_plain _ (by decide)⟩

theorem not_contains_placeholder {s : String} (h : '\x7b' ∉ s.toList) :
    Str.contains s providerPlaceholder = false := by
  rw [Str.contains_eq_false_iff]
  intro hin
  exact h (hin.subset List.mem_cons_self)

theorem getLast?_text : o.text.toList.getLast? ≠ some '/' := by
  intro hlast
  have hne : o.authority.toList ≠ [] := fun hnil =>
    o.authority_ne (String.toList_inj.mp (hnil.trans String.toList_empty.symm))
  have hback : o.text.toList.getLast? = some (o.authority.toList.getLast hne) := by
    rw [text, String.toList_append, List.getLast?_append, List.getLast?_eq_some_getLast hne,
      Option.some_or]
  have hmem : '/' ∈ o.authority.toList := by
    rw [← Option.some.inj (hback.symm.trans hlast)]
    exact List.getLast_mem hne
  exact o.authority_plain '/' (by decide) hmem

/-- The marker has a word between its slashes, and so it does not begin in the scheme or at one of
the slashes. -/
theorem not_contains_marker (n : Nat) :
    Str.contains (o.text ++ String.ofList (List.replicate n '/')) "/admin/oauth/" = false := by
  have hscheme : '/' ∉ o.scheme.toList ++ [':'] := by
    rw [List.mem_append, not_or]
    exact ⟨o.scheme_plain '/' (by decide), by decide⟩
  have hauthority : '/' ∉ o.authority.toList := o.authority_plain '/' (by decide)
  have hmarker : "/admin/oauth/".toList = '/' :: ("admin".toList ++ '/' :: "oauth/".toList) := rfl
  have hlist : (o.text ++ String.ofList (List.replicate n '/')).toList =
      (o.scheme.toList ++ [':']) ++
        ('/' :: '/' :: (o.authority.toList ++ List.replicate n '/')) := by
    rw [String.toList_append, toList_text, String.toList_ofList]
    simp only [List.append_assoc, List.cons_append, List.nil_append]
  rw [Str.contains_eq_false_iff, hmarker, hlist]
  have hrest : Str.Free ('/' :: ("admin".toList ++ '/' :: "oauth/".toList))
      ('/' :: '/' :: (o.authority.toList ++ List.replicate n '/')) [] := by
    rw [Str.free_cons, Str.free_cons, Str.free_append]
    refine ⟨?_, ?_, Str.free_of_head_not_mem hauthority _ _, ?_⟩
    · intro hprefix
      have hword := (List.cons_prefix_cons.mp hprefix).2
      exact absurd (List.cons_prefix_cons.mp hword).1 (by decide)
    · intro hprefix
      have hinner := (List.cons_prefix_cons.mp hprefix).2
      rw [List.append_nil] at hinner
      cases n with
      | zero =>
        rw [List.replicate_zero, List.append_nil] at hinner
        exact hauthority (hinner.subset (List.mem_append_right _ List.mem_cons_self))
      | succ n =>
        have hrest := (Str.prefix_of_prefix_append (by decide) hauthority hinner).2
        have hmem := List.eq_of_mem_replicate (hrest.subset (List.mem_cons_self : 'o' ∈ _))
        exact absurd hmem (by decide)
    · intro t ht hne hfront
      rw [List.append_nil] at hfront
      have hmem : 'a' ∈ List.replicate n '/' :=
        ht.subset (hfront.subset (List.mem_cons_of_mem _ List.mem_cons_self))
      exact absurd (List.eq_of_mem_replicate hmem) (by decide)
  have hfree := Str.free_append.mpr ⟨Str.free_of_head_not_mem hscheme _ _, hrest⟩
  exact hfree.not_infix (List.cons_ne_nil _ _)

theorem text_append_ne_empty (s : String) : o.text ++ s ≠ "" := by
  intro h
  have hlist := congrArg String.toList h
  rw [String.toList_append, toList_text] at hlist
  exact absurd (List.append_eq_nil_iff.mp (List.append_eq_nil_iff.mp hlist).1).2
    (List.cons_ne_nil _ _)

/-- Of each of them the server makes its own callback of the provider. -/
theorem rebuildRedirectUri_configured {o : Origin} (h : o.Configured c) (p : String) :
    rebuildRedirectUri c p = o.text ++ callbackPath p := by
  have hplain : Str.contains o.text providerPlaceholder = false :=
    not_contains_placeholder o.opening_not_mem
  cases h with
  | slashes n =>
    have htrim : Str.trimEndMatches "/" (o.text ++ String.ofList (List.replicate n '/')) = o.text :=
      Str.trimEndMatches_replicate rfl o.getLast?_text n
    have hno : Str.contains (o.text ++ String.ofList (List.replicate n '/')) providerPlaceholder =
        false := by
      apply not_contains_placeholder
      rw [String.toList_append, String.toList_ofList, List.mem_append, not_or]
      exact ⟨o.opening_not_mem, fun hmem => absurd (List.eq_of_mem_replicate hmem) (by decide)⟩
    rw [rebuildRedirectUri_eq hno (o.text_append_ne_empty _), o.not_contains_marker n, htrim,
      if_neg Bool.false_ne_true, Option.getD_none]
    cases n with
    | zero =>
      have hbare : o.text ++ String.ofList (List.replicate 0 '/') = o.text := by
        rw [List.replicate_zero, String.ofList_nil, String.append_empty]
      rw [hbare, ite_self]
    | succ n =>
      have hslash : Str.endsWith (o.text ++ String.ofList (List.replicate (n + 1) '/')) "/" =
          true := by
        have hback : (o.text ++ String.ofList (List.replicate (n + 1) '/')).toList.reverse =
            ['/'] ++ (List.replicate n '/' ++ o.text.toList.reverse) := by
          rw [String.toList_append, String.toList_ofList, List.reverse_append,
            List.reverse_replicate, List.replicate_succ]
          rfl
        rw [Str.endsWith, hback]
        exact Option.isSome_of_eq_some (Str.dropFront_append ['/'] _)
      rw [hslash, Bool.or_true, if_pos rfl]
  | callback hq => exact rebuildRedirectUri_callback hq hplain p
  | template =>
    have hpieces : o.text ++ callbackPath providerPlaceholder =
        Str.join providerPlaceholder [o.text ++ "/admin/oauth/", "/callback"] := by
      rw [← String.toList_inj, String.toList_append, toList_callbackPath, Str.join, Str.join]
      simp only [String.toList_append, List.append_assoc]
    have hjoin : o.text ++ callbackPath p =
        Str.join p [o.text ++ "/admin/oauth/", "/callback"] := by
      rw [← String.toList_inj, String.toList_append, toList_callbackPath, Str.join, Str.join]
      simp only [String.toList_append, List.append_assoc]
    have hfront : Str.contains (o.text ++ "/admin/oauth/") providerPlaceholder = false := by
      apply not_contains_placeholder
      rw [String.toList_append, List.mem_append, not_or]
      exact ⟨o.opening_not_mem, by decide⟩
    have hback : Str.contains "/callback" providerPlaceholder = false := by decide
    have hyes : Str.contains (o.text ++ callbackPath providerPlaceholder) "\x7bprovider\x7d" =
        true := by
      rw [Str.contains_iff, String.toList_append, toList_callbackPath]
      exact (List.infix_append' _ _ _).trans (List.suffix_append _ _).isInfix
    rw [rebuildRedirectUri, if_neg (o.text_append_ne_empty _), if_pos hyes, hpieces, hjoin]
    exact Str.replace_join toList_providerPlaceholder (by decide) p
      (List.forall_mem_cons.mpr ⟨hfront, List.forall_mem_singleton.mpr hback⟩)

end Origin

end TokenDealer
