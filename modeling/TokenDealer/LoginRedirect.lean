import TokenDealer.AuthMiddleware
import TokenDealer.Query

set_option autoImplicit true

namespace TokenDealer

namespace AuthMiddleware

/-- What a character becomes in the address of the login page. -/
def urlencodeChar (c : Char) : List Char :=
  if isSafe c then [c]
  else (Utf8.encode [c]).flatMap fun b => ['%', hexUpper (b.toNat / 16), hexUpper (b.toNat % 16)]

theorem toList_urlencodingMinimal (s : String) :
    (urlencodingMinimal s).toList = s.toList.flatMap urlencodeChar :=
  String.toList_ofList

theorem isSafe_plain (h : isSafe c = true) : c ≠ '%' ∧ c ≠ '+' := by
  constructor
  · rintro rfl
    exact absurd h (by decide)
  · rintro rfl
    exact absurd h (by decide)

theorem unescape_percent (bytes : List UInt8) (rest : List Char) :
    Query.unescape ((bytes.flatMap fun b =>
      ['%', hexUpper (b.toNat / 16), hexUpper (b.toNat % 16)]) ++ rest) =
      bytes ++ Query.unescape rest := by
  induction bytes with
  | nil => rfl
  | cons b bytes ih =>
    have hlt := b.toNat_lt
    have hdiv : Query.hexValue (hexUpper (b.toNat / 16)) = some (b.toNat / 16) :=
      Query.hexValue_hexDigit (by omega)
    have hmod : Query.hexValue (hexUpper (b.toNat % 16)) = some (b.toNat % 16) :=
      Query.hexValue_hexDigit (by omega)
    rw [List.flatMap_cons]
    simp only [List.cons_append, List.nil_append, Query.unescape, hdiv, hmod, Nat.div_add_mod,
      UInt8.ofNat_toNat, ih]

/-- A form reads each character back. -/
theorem unescape_urlencodeChar (c : Char) (rest : List Char) :
    Query.unescape (urlencodeChar c ++ rest) =
      String.utf8EncodeChar c ++ Query.unescape rest := by
  rw [urlencodeChar]
  split
  · next hsafe =>
    obtain ⟨hpercent, hplus⟩ := isSafe_plain hsafe
    rw [List.cons_append, List.nil_append, Query.unescape_cons hpercent hplus]
  · rw [unescape_percent, Utf8.encode_cons]
    exact congrArg (· ++ _) (List.append_nil _)

theorem unescape_urlencode (cs : List Char) :
    Query.unescape (cs.flatMap urlencodeChar) = Utf8.encode cs := by
  induction cs with
  | nil => rfl
  | cons c cs ih => rw [List.flatMap_cons, unescape_urlencodeChar, ih, Utf8.encode_cons]

theorem hexUpper_ne_ampersand : ∀ n < 16, hexUpper n ≠ '&' := by decide

/-- An ampersand is let through, and no other character becomes one. -/
theorem ampersand_mem_urlencode {cs : List Char} : '&' ∈ cs.flatMap urlencodeChar ↔ '&' ∈ cs := by
  constructor
  · intro h
    obtain ⟨c, hc, h⟩ := List.mem_flatMap.mp h
    rw [urlencodeChar] at h
    split at h
    · exact List.mem_singleton.mp h ▸ hc
    · obtain ⟨b, -, h⟩ := List.mem_flatMap.mp h
      have hlt := b.toNat_lt
      simp only [List.mem_cons, List.not_mem_nil, or_false] at h
      rcases h with h | h | h
      · exact absurd h (by decide)
      · exact absurd h.symm (hexUpper_ne_ampersand _ (by omega))
      · exact absurd h.symm (hexUpper_ne_ampersand _ (by omega))
  · exact fun h => List.mem_flatMap.mpr ⟨'&', h, List.mem_singleton_self _⟩

end AuthMiddleware

open AuthMiddleware

/-- The front of a path up to an ampersand is one member of the query. -/
theorem formMember_next (front : List Char) :
    Query.formMember ("next".toList ++ '=' :: front.flatMap urlencodeChar) =
      ("next", String.ofList front) := by
  have hkey : Utf8.lossyString (Query.unescape "next".toList) = "next" := by decide
  have hvalue : Utf8.lossyString (Utf8.encode front) = String.ofList front := by
    have hread := Utf8.lossyString_encode (String.ofList front)
    rwa [String.toList_ofList] at hread
  rw [Query.formMember, Str.cutAt_append (by decide)]
  dsimp only [Option.getD_some]
  rw [hkey, unescape_urlencode, hvalue]

theorem filter_next (front : List Char) (pieces : List (List Char)) :
    (("next".toList ++ '=' :: front.flatMap urlencodeChar) :: pieces).filter
        (fun piece => piece ≠ []) =
      ("next".toList ++ '=' :: front.flatMap urlencodeChar) ::
        pieces.filter fun piece => piece ≠ [] := by
  have hne : "next".toList ++ '=' :: front.flatMap urlencodeChar ≠ [] :=
    List.append_ne_nil_of_right_ne_nil _ (List.cons_ne_nil _ _)
  exact List.filter_cons_of_pos (decide_eq_true hne)

section Members

variable {front : List Char} (hfront : '&' ∉ front)

include hfront

theorem ampersand_not_mem_next : '&' ∉ "next".toList ++ '=' :: front.flatMap urlencodeChar := by
  rw [List.mem_append, List.mem_cons, ampersand_mem_urlencode]
  rintro (h | h | h)
  · exact absurd h (by decide)
  · exact absurd h (by decide)
  · exact hfront h

theorem formMembers_next :
    Query.formMembers ("next".toList ++ '=' :: front.flatMap urlencodeChar) =
      [("next", String.ofList front)] := by
  rw [Query.formMembers, Str.split_of_not_mem (ampersand_not_mem_next hfront), filter_next,
    List.filter_nil, List.map_singleton, formMember_next]

theorem formMembers_next_append (query : List Char) :
    Query.formMembers ("next".toList ++ '=' :: front.flatMap urlencodeChar ++ '&' :: query) =
      ("next", String.ofList front) :: Query.formMembers query := by
  rw [Query.formMembers, Str.split_append (ampersand_not_mem_next hfront), filter_next,
    List.map_cons, formMember_next]
  rfl

end Members

theorem formParams_next (path : String) :
    Query.formParams ("/ui/login?next=" ++ urlencodingMinimal path) =
      Query.formMembers ("next".toList ++ '=' :: path.toList.flatMap urlencodeChar) := by
  have haddress : "/ui/login?next=" ++ urlencodingMinimal path =
      "/ui/login" ++ "?" ++ ("next=" ++ urlencodingMinimal path) := by
    rw [← String.append_assoc]
    rfl
  have hsplit : Str.splitOnce '?' ("/ui/login" ++ "?" ++ ("next=" ++ urlencodingMinimal path)) =
      some ("/ui/login", "next=" ++ urlencodingMinimal path) := Str.splitOnce_append (by decide) _
  have hquery : ("next=" ++ urlencodingMinimal path).toList =
      "next".toList ++ '=' :: path.toList.flatMap urlencodeChar := by
    rw [String.toList_append, toList_urlencodingMinimal]
    rfl
  rw [haddress, Query.formParams, hsplit]
  dsimp only
  rw [hquery]

/-- The login page is told the path exactly when no ampersand is in it. -/
theorem next_decodes_iff (path : String) :
    Query.formParams ("/ui/login?next=" ++ urlencodingMinimal path) = [("next", path)] ↔
      '&' ∉ path.toList := by
  rw [formParams_next]
  constructor
  · intro h hmem
    obtain ⟨front, rest, hpath, hfront⟩ := List.eq_append_cons_of_mem hmem
    have hsafe : urlencodeChar '&' = ['&'] := by decide
    rw [hpath, List.flatMap_append, List.flatMap_cons, hsafe, List.cons_append, List.nil_append,
      ← List.cons_append, ← List.append_assoc, formMembers_next_append hfront] at h
    have hname := congrArg Prod.snd (List.cons.inj h).1
    have hlist := congrArg String.toList hname
    rw [String.toList_ofList, hpath] at hlist
    have hlength := congrArg List.length hlist
    rw [List.length_append, List.length_cons] at hlength
    omega
  · intro h
    rw [formMembers_next h, String.ofList_toList]

/-- What comes after an ampersand is a member of its own. -/
theorem next_decodes_cut :
    Query.formParams ("/ui/login?next=" ++ urlencodingMinimal "/ui/a&b") =
        [("next", "/ui/a"), ("b", "")] ∧
      ¬ ∀ path : String,
        Query.formParams ("/ui/login?next=" ++ urlencodingMinimal path) = [("next", path)] := by
  have hcut : Query.formParams ("/ui/login?next=" ++ urlencodingMinimal "/ui/a&b") =
      [("next", "/ui/a"), ("b", "")] := by
    decide +kernel
  refine ⟨hcut, ?_⟩
  intro h
  have hwhole := h "/ui/a&b"
  rw [hcut] at hwhole
  exact absurd hwhole (by decide)

end TokenDealer
