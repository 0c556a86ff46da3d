import TokenDealer.CaseMapping
import TokenDealer.CredentialHistory

set_option autoImplicit true

namespace TokenDealer

theorem rowToUser_columns (tools : StoreTools) (now : Utc) (u : UserRow) :
    ∃ user, rowToUser tools now u.columns = .ok user ∧ user.toUser = u.user := by
  obtain ⟨id, email, name, passwordHash, role, metadata, createdAt, lastLoginAt⟩ := u
  cases passwordHash <;> cases lastLoginAt <;> exact ⟨_, rfl, rfl⟩

namespace Tables

section Lookup

variable (tools : StoreTools) (t : Tables)

def selectUserByEmail (email : String) : List UserRow :=
  t.users.rows.filter fun u => u.email = email

def getUserByEmail (now : Utc) (email : String) : Except Sql.ColumnError (Option UserRecord) :=
  match (t.selectUserByEmail (tools.lowercase email)).head? with
  | none => .ok none
  | some u => (rowToUser tools now u.columns).map some

/-- The tables after further calls. -/
def runFrom (ops : List StoreOp) : Tables := ops.foldl (step tools) t

/-- Until the user is deleted, looking up the address returns it. -/
def FoundByEmail (email : String) (u : User) : Prop :=
  ∀ ops, .deleteUser u.id ∉ ops → ∀ now, ∃ found,
    (t.runFrom tools ops).getUserByEmail tools now email = .ok (some found) ∧ found.toUser = u

/-- The addresses are the same but for the case of letters and whitespace around them. -/
def Variant (Same : Char → Char → Prop) (email other : String) : Prop :=
  List.Forall₂ Same (Str.trim email).toList (Str.trim other).toList

/-- Until the user is deleted, nobody is created with a variant of the address. -/
def RefusesVariants (Same : Char → Char → Prop) (email userId : String) : Prop :=
  ∀ other, Variant Same email other → ∀ ops, .deleteUser userId ∉ ops →
    ∀ now id name hashed role, ∃ e,
      (t.runFrom tools ops).createUser tools now id other name hashed role = .error e

end Lookup

section Spec

variable {tools : StoreTools} {t t' : Tables} {now : Utc} {id email name : String}
  {hashed : Except String (Option String)} {role : UserRole} {user : UserRecord} {u : User}

/-- The address is unique, so the first row is any row. -/
theorem getUserByEmail_eq_some : (∃ found, t.getUserByEmail tools now email = .ok (some found) ∧
    found.toUser = u) ↔ ∃ r ∈ t.users.rows, r.email = tools.lowercase email ∧ r.user = u := by
  have hmem : ∀ r, r ∈ t.selectUserByEmail (tools.lowercase email) ↔
      r ∈ t.users.rows ∧ r.email = tools.lowercase email := by
    intro r
    rw [selectUserByEmail, List.mem_filter, decide_eq_true_eq]
  have hhead : ∀ r, (t.selectUserByEmail (tools.lowercase email)).head? = some r ↔
      r ∈ t.users.rows ∧ r.email = tools.lowercase email := by
    intro r
    rw [← hmem]
    apply Sql.head?_eq_some_iff
    intro a ha b hb
    obtain ⟨ha, haemail⟩ := (hmem a).mp ha
    obtain ⟨hb, hbemail⟩ := (hmem b).mp hb
    exact Sql.Table.eq_of_clash ha hb (.inr (haemail.trans hbemail.symm))
  constructor
  · intro hfound
    obtain ⟨found, h, rfl⟩ := hfound
    rw [getUserByEmail] at h
    split at h
    · cases h
    · rename_i r hr
      obtain ⟨read, hread, huser⟩ := rowToUser_columns tools now r
      rw [hread] at h
      cases h
      obtain ⟨hthere, hemail⟩ := (hhead r).mp hr
      exact ⟨r, hthere, hemail, huser.symm⟩
  · intro hthere
    obtain ⟨r, hr, hemail, rfl⟩ := hthere
    obtain ⟨read, hread, huser⟩ := rowToUser_columns tools now r
    refine ⟨read, ?_, huser⟩
    rw [getUserByEmail, (hhead r).mpr ⟨hr, hemail⟩]
    dsimp only
    rw [hread]
    rfl

theorem createUser_email (h : t.createUser tools now id email name hashed role = .ok (user, t')) :
    user.email = tools.lowercase (Str.trim email) ∧ '@' ∈ user.email.toList := by
  simp only [createUser] at h
  split at h
  · cases h
  · rename_i hemail
    rw [not_or, not_not] at hemail
    split at h
    · cases h
    · obtain ⟨t₁, -, hok⟩ := Toml.bind_eq_ok.mp h
      cases hok
      exact ⟨rfl, hemail.2⟩

theorem createUser_taken (h : ∃ r ∈ t.users.rows, r.email = tools.lowercase (Str.trim email)) :
    ∃ e, t.createUser tools now id email name hashed role = .error e := by
  obtain ⟨r, hr, hemail⟩ := h
  simp only [createUser]
  split
  · exact ⟨_, rfl⟩
  · cases hashed with
    | error e => exact ⟨_, rfl⟩
    | ok passwordHash =>
      refine ⟨.unique, ?_⟩
      dsimp only
      rw [insertUser_clash ⟨r, hr, .inr hemail⟩]
      rfl

theorem createUser_free (now : Utc) (id name : String) (role : UserRole)
    (hat : '@' ∈ (tools.lowercase (Str.trim email)).toList)
    (h : ∀ r ∈ t.users.rows, r.id ≠ id ∧ r.email ≠ tools.lowercase (Str.trim email)) :
    ∃ created, t.createUser tools now id email name (.ok none) role = .ok created := by
  have hempty : tools.lowercase (Str.trim email) ≠ "" := by
    intro hempty
    rw [hempty] at hat
    cases hat
  obtain ⟨t', hinsert, -⟩ := insertUser_free (t := t)
    ⟨id, tools.lowercase (Str.trim email), name, none, role.asStr, "\x7b\x7d",
      Calendar.sqlTimestamp now, none⟩
    fun r hr hclash => hclash.elim (h r hr).1 (h r hr).2
  simp only [createUser]
  rw [if_neg (not_or.mpr ⟨hempty, not_not.mpr hat⟩), hinsert]
  exact ⟨_, rfl⟩

theorem hasUser_runFrom (tools : StoreTools) {ops : List StoreOp} (h : HasUser t u)
    (hkept : .deleteUser u.id ∉ ops) : HasUser (t.runFrom tools ops) u := by
  induction ops generalizing t with
  | nil => exact h
  | cons op ops ih =>
    obtain ⟨hop, hops⟩ := not_or.mp fun hmem => hkept (List.mem_cons.mpr hmem)
    exact ih (hasUser_step.mpr (.inr ⟨h, Ne.symm hop⟩)) hops

theorem hasUser_deleteAll {ids : List String}
    (h : HasUser (t.runFrom tools (ids.map .deleteUser)) u) : HasUser t u ∧ u.id ∉ ids := by
  induction ids generalizing t with
  | nil => exact ⟨h, List.not_mem_nil⟩
  | cons id ids ih =>
    obtain ⟨hstep, hids⟩ := ih (t := t.step tools (.deleteUser id)) h
    rcases hasUser_step.mp hstep with hcreates | ⟨hthere, hne⟩
    · obtain ⟨_, _, _, _, _, _, _, _, heq, -⟩ := hcreates
      cases heq
    · refine ⟨hthere, ?_⟩
      rw [List.mem_cons, not_or]
      exact ⟨fun heq => hne (by rw [heq]), hids⟩

theorem hasUser_created (h : t.createUser tools now id email name hashed role = .ok (user, t')) :
    HasUser t' user.toUser := by
  obtain ⟨row, hinsert, hrow, -⟩ := createUser_eq_ok h
  exact ⟨row, (Sql.Table.mem_insert hinsert).mpr (.inr rfl), hrow⟩

/-- There is one user with an id. -/
theorem HasUser.eq_of_id {v : User} (hu : HasUser t u) (hv : HasUser t v) (h : u.id = v.id) :
    u = v := by
  obtain ⟨r, hr, rfl⟩ := hu
  obtain ⟨s, hs, rfl⟩ := hv
  rw [Sql.Table.eq_of_clash hr hs (.inl h)]

end Spec

section Addresses

variable {tools : StoreTools} {table : CaseTable} {Same : Char → Char → Prop} {t t' : Tables}
  {now : Utc} {id email name : String} {hashed : Except String (Option String)} {role : UserRole}
  {user : UserRecord}

theorem toLowercase_inj_iff : table.toLowercase a = table.toLowercase b ↔
    table.lowerFrom [] a.toList = table.lowerFrom [] b.toList := by
  rw [CaseTable.toLowercase, CaseTable.toLowercase, String.ofList_inj]

theorem foundByEmail_iff (hlower : tools.lowercase = table.toLowercase) (htable : table.IsUnicode)
    (hcreate : t.createUser tools now id email name hashed role = .ok (user, t')) :
    t'.FoundByEmail tools email user.toUser ↔ Str.trim email = email := by
  obtain ⟨hemail, -⟩ := createUser_email hcreate
  constructor
  · intro hfound
    obtain ⟨r, -, hr, huser⟩ := getUserByEmail_eq_some.mp (hfound [] List.not_mem_nil now)
    have hsame : tools.lowercase (Str.trim email) = tools.lowercase email := by
      rw [← hemail, ← hr, ← huser]
      rfl
    rw [hlower, toLowercase_inj_iff, Str.trim, String.toList_ofList] at hsame
    rw [Str.trim, CaseTable.eq_of_lowerFrom_eq_of_sublist htable
      (CaseTable.trimList_sublist email.toList) hsame, String.ofList_toList]
  · intro htrim ops hkept now
    apply getUserByEmail_eq_some.mpr
    obtain ⟨r, hr, huser⟩ := hasUser_runFrom tools (hasUser_created hcreate) hkept
    refine ⟨r, hr, ?_, huser⟩
    calc r.email = r.user.email := rfl
      _ = tools.lowercase (Str.trim email) := by rw [huser, hemail]
      _ = tools.lowercase email := by rw [htrim]

/-- All other users can be deleted. -/
theorem exists_left_alone (tools : StoreTools) (h : HasUser t u) :
    ∃ ops, StoreOp.deleteUser u.id ∉ ops ∧
      ∀ r ∈ (t.runFrom tools ops).users.rows, r.user = u := by
  let others := (t.users.rows.map UserRow.id).filter fun other => other ≠ u.id
  refine ⟨others.map .deleteUser, ?_, ?_⟩
  · rw [List.mem_map]
    rintro ⟨gone, hgone, heq⟩
    cases heq
    exact of_decide_eq_true (List.mem_filter.mp hgone).2 rfl
  · intro r hr
    obtain ⟨hthere, hid⟩ := hasUser_deleteAll (u := r.user) ⟨r, hr, rfl⟩
    refine hthere.eq_of_id h ?_
    by_contra hother
    obtain ⟨s, hs, hsr⟩ := hthere
    refine hid (List.mem_filter.mpr ⟨List.mem_map.mpr ⟨s, hs, ?_⟩, decide_eq_true hother⟩)
    rw [← hsr]
    rfl

/-- With all other users gone, only the address of this one is in the way. -/
theorem lowercase_eq_of_refused (hcreate : t.createUser tools now id email name hashed role =
      .ok (user, t')) (hrefuses : t'.RefusesVariants tools Same email user.id)
    (hvariant : Variant Same email other)
    (hat : '@' ∈ (tools.lowercase (Str.trim other)).toList) :
    tools.lowercase (Str.trim other) = tools.lowercase (Str.trim email) := by
  by_contra hne
  obtain ⟨hemail, -⟩ := createUser_email hcreate
  obtain ⟨ops, hkept, hleft⟩ := exists_left_alone tools (hasUser_created hcreate)
  obtain ⟨fresh, hfresh⟩ : ∃ fresh : String, fresh ≠ user.id := by
    by_cases hid : user.id = ""
    · exact ⟨"u", by rw [hid]; decide⟩
    · exact ⟨"", Ne.symm hid⟩
  have hfree : ∀ r ∈ (t'.runFrom tools ops).users.rows,
      r.id ≠ fresh ∧ r.email ≠ tools.lowercase (Str.trim other) := by
    intro r hr
    have huser := hleft r hr
    constructor
    · intro hid
      apply hfresh
      rw [← hid]
      exact congrArg User.id huser
    · intro hother
      apply hne
      rw [← hother, ← hemail]
      exact congrArg User.email huser
  obtain ⟨e, hrefused⟩ := hrefuses other hvariant ops hkept now fresh name (.ok none) role
  obtain ⟨created, hcreated⟩ := createUser_free now fresh name role hat hfree
  rw [hcreated] at hrefused
  cases hrefused

theorem refusesVariants_iff (hlower : tools.lowercase = table.toLowercase)
    (htable : table.IsUnicode) (hsame : table.IsCasing Same)
    (hcreate : t.createUser tools now id email name hashed role = .ok (user, t')) :
    t'.RefusesVariants tools Same email user.id ↔ table.Steady Same (Str.trim email).toList := by
  obtain ⟨hemail, hat⟩ := createUser_email hcreate
  rw [← CaseTable.forall_lowerFrom_eq_iff hsame]
  constructor
  · intro hrefuses ds hds
    have htrim : Str.trim (String.ofList ds) = String.ofList ds := by
      rw [Str.trim, String.toList_ofList]
      refine congrArg String.ofList (CaseTable.trimList_eq_self_of_forall₂ htable hsame ?_ hds)
      rw [Str.trim, String.toList_ofList, CaseTable.trimList_trimList]
    have hvariant : Variant Same email (String.ofList ds) := by
      rwa [Variant, htrim, String.toList_ofList]
    have hsign : table.cased '@' = false := htable.cased_ascii '@' (by decide)
    have hatds : '@' ∈ (tools.lowercase (Str.trim (String.ofList ds))).toList := by
      rw [hemail, hlower, CaseTable.toLowercase, String.toList_ofList,
        CaseTable.mem_lowerFrom htable (by decide) hsign, hsame.mem_iff hsign hds] at hat
      rwa [htrim, hlower, CaseTable.toLowercase, String.toList_ofList, String.toList_ofList,
        CaseTable.mem_lowerFrom htable (by decide) hsign]
    have heq := lowercase_eq_of_refused hcreate hrefuses hvariant hatds
    rwa [htrim, hlower, toLowercase_inj_iff, String.toList_ofList] at heq
  · intro hsteady other hvariant ops hkept now id name hashed role
    obtain ⟨r, hr, huser⟩ := hasUser_runFrom tools (hasUser_created hcreate) hkept
    refine createUser_taken ⟨r, hr, ?_⟩
    calc r.email = r.user.email := rfl
      _ = tools.lowercase (Str.trim email) := by rw [huser, hemail]
      _ = tools.lowercase (Str.trim other) := by
        rw [hlower, toLowercase_inj_iff, hsteady _ hvariant]

/-- An address identifies its user when nothing surrounds it and the lower case of each of its
characters does not depend on the case. -/
theorem emailIdentity_iff (hlower : tools.lowercase = table.toLowercase) (htable : table.IsUnicode)
    (hsame : table.IsCasing Same)
    (hcreate : t.createUser tools now id email name hashed role = .ok (user, t')) :
    t'.FoundByEmail tools email user.toUser ∧ t'.RefusesVariants tools Same email user.id ↔
      Str.trim email = email ∧ table.Steady Same (Str.trim email).toList :=
  and_congr (foundByEmail_iff hlower htable hcreate)
    (refusesVariants_iff hlower htable hsame hcreate)

end Addresses

section Sample

theorem isWhitespace_of_isAlpha {c : Char} (h : c.isAlpha = true) : Str.isWhitespace c = false := by
  have hbounds : 65 ≤ c.toNat ∧ c.toNat ≤ 90 ∨ 97 ≤ c.toNat ∧ c.toNat ≤ 122 := by
    rcases Bool.or_eq_true_iff.mp h with hupper | hlower
    · exact .inl (of_decide_eq_true hupper)
    · obtain ⟨hfirst, hlast⟩ := Bool.and_eq_true_iff.mp hlower
      exact .inr ⟨of_decide_eq_true hfirst, of_decide_eq_true hlast⟩
  simp only [Str.isWhitespace, Bool.or_eq_false_iff, Bool.and_eq_false_iff,
    decide_eq_false_iff_not]
  omega

/-- The letters of ASCII and the sigma. -/
def sampleLower (c : Char) : Char :=
  if c = 'Σ' then 'σ' else if c.isUpper then Char.ofNat (c.toNat + 32) else c

def sampleCase : CaseTable where
  lower c := [sampleLower c]
  cased c := c.isAlpha || c = 'Σ' || c = 'σ' || c = 'ς'
  caseIgnorable c := c = '.'

theorem sampleLower_cases (c : Char) : c.isUpper = false ∧ c ≠ 'Σ' ∧ sampleLower c = c ∨
    c = 'Σ' ∧ sampleLower c = 'σ' ∨
    ∃ n < 26, c = Char.ofNat (65 + n) ∧ sampleLower c = Char.ofNat (97 + n) := by
  by_cases hsigma : c = 'Σ'
  · exact .inr (.inl ⟨hsigma, if_pos hsigma⟩)
  · cases hupper : c.isUpper with
    | false =>
      refine .inl ⟨rfl, hsigma, ?_⟩
      rw [sampleLower, if_neg hsigma, hupper]
      rfl
    | true =>
      have hbounds : 65 ≤ c.toNat ∧ c.toNat ≤ 90 := of_decide_eq_true hupper
      refine .inr (.inr ⟨c.toNat - 65, by omega, ?_, ?_⟩)
      · rw [Nat.add_sub_cancel' hbounds.1, Char.ofNat_toNat]
      · rw [sampleLower, if_neg hsigma, if_pos hupper]
        congr 1
        omega

theorem cased_sampleLower (c : Char) : sampleCase.cased (sampleLower c) = sampleCase.cased c := by
  rcases sampleLower_cases c with ⟨-, -, h⟩ | ⟨rfl, -⟩ | ⟨n, hn, rfl, h⟩
  · rw [h]
  · decide
  · rw [h]
    exact (by decide : ∀ n < 26, sampleCase.cased (Char.ofNat (97 + n)) =
      sampleCase.cased (Char.ofNat (65 + n))) n hn

theorem caseIgnorable_sampleLower (c : Char) :
    sampleCase.caseIgnorable (sampleLower c) = sampleCase.caseIgnorable c := by
  rcases sampleLower_cases c with ⟨-, -, h⟩ | ⟨rfl, -⟩ | ⟨n, hn, rfl, h⟩
  · rw [h]
  · decide
  · rw [h]
    exact (by decide : ∀ n < 26, sampleCase.caseIgnorable (Char.ofNat (97 + n)) =
      sampleCase.caseIgnorable (Char.ofNat (65 + n))) n hn

theorem sampleLower_of_not_cased {c : Char} (h : sampleCase.cased c = false) :
    sampleLower c = c := by
  rcases sampleLower_cases c with ⟨-, -, hc⟩ | ⟨rfl, -⟩ | ⟨n, hn, rfl, -⟩
  · exact hc
  · cases h
  · rw [(by decide : ∀ n < 26, sampleCase.cased (Char.ofNat (65 + n)) = true) n hn] at h
    cases h

theorem sampleCase_isCasing : sampleCase.IsCasing sampleCase.SameLower where
  of_lower_eq _ _ h := h
  cased c d h := by
    rw [← cased_sampleLower c, List.singleton_inj.mp h, cased_sampleLower]
  caseIgnorable c d h := by
    rw [← caseIgnorable_sampleLower c, List.singleton_inj.mp h, caseIgnorable_sampleLower]
  eq_of_not_cased c d h hc := by
    have hlower : sampleLower c = sampleLower d := List.singleton_inj.mp h
    have hd : sampleCase.cased d = false := by
      rw [← cased_sampleLower d, ← hlower, cased_sampleLower, hc]
    rw [← sampleLower_of_not_cased hc, hlower, sampleLower_of_not_cased hd]

theorem sampleCase_isUnicode : sampleCase.IsUnicode where
  lower_ne_nil c := List.cons_ne_nil _ _
  lower_capital_sigma := rfl
  lower_sigma := rfl
  cased_whitespace c hc := by
    cases hcased : sampleCase.cased c with
    | false => rfl
    | true =>
      simp only [sampleCase, Bool.or_eq_true, decide_eq_true_eq] at hcased
      obtain ((halpha | rfl) | rfl) | rfl := hcased
      · exact absurd hc (by rw [isWhitespace_of_isAlpha halpha]; decide)
      · cases hc
      · cases hc
      · cases hc
  cased_ascii c hc := by
    have hne : ∀ d : Char, 128 ≤ d.toNat → decide (c = d) = false := by
      rintro d hd
      refine decide_eq_false ?_
      rintro rfl
      omega
    simp only [sampleCase]
    rw [hne 'Σ' (by decide), hne 'σ' (by decide), hne 'ς' (by decide), Bool.or_false,
      Bool.or_false, Bool.or_false]
  mem_lower_ascii x _ hx c := by
    have hmem : x ∈ sampleCase.lower c ↔ sampleLower c = x := by
      rw [sampleCase, List.mem_singleton, eq_comm]
    rw [hmem]
    constructor
    · intro h
      have hc : sampleCase.cased c = false := by rw [← cased_sampleLower c, h, hx]
      rw [← h, sampleLower_of_not_cased hc]
    · rintro rfl
      exact sampleLower_of_not_cased hx

def caseTools : StoreTools where
  sha256Hex s := s
  lowercase := sampleCase.toLowercase
  parseRfc3339 _ := none

theorem emailIdentity_sample : ∃ user t',
    empty.createUser caseTools 0 "u1" "Ann@b.c" "Ann" (.ok none) .user = .ok (user, t') ∧
      t'.FoundByEmail caseTools "Ann@b.c" user.toUser ∧
      t'.RefusesVariants caseTools sampleCase.SameLower "Ann@b.c" user.id := by
  obtain ⟨user, t', hcreate⟩ : ∃ user t', empty.createUser caseTools 0 "u1" "Ann@b.c" "Ann"
      (.ok none) .user = .ok (user, t') := ⟨_, _, rfl⟩
  refine ⟨user, t', hcreate, (emailIdentity_iff rfl sampleCase_isUnicode sampleCase_isCasing
    hcreate).mpr ⟨by decide, ?_⟩⟩
  apply (CaseTable.steady_iff_no_final_sigma sampleCase_isUnicode).mpr
  intro p c q hcs hc
  have hletters : (Str.trim "Ann@b.c").toList.all (fun c => sampleCase.lower c ≠ ['σ']) = true := by
    decide
  have hmem : c ∈ (Str.trim "Ann@b.c").toList := by
    rw [hcs]
    exact List.mem_append_right p List.mem_cons_self
  exact absurd hc (of_decide_eq_true (List.all_eq_true.mp hletters c hmem))

/-- One address is not found again, and of another a second user is created. -/
theorem addresses_confused :
    (∃ user t', empty.createUser caseTools 0 "u1" " ann@b.c" "Ann" (.ok none) .user =
        .ok (user, t') ∧ t'.getUserByEmail caseTools 0 " ann@b.c" = .ok none) ∧
      Variant sampleCase.SameLower "annaΣ@b.c" "annaσ@b.c" ∧
      ∃ user t' other t'', empty.createUser caseTools 0 "u1" "annaΣ@b.c" "Ann" (.ok none) .user =
          .ok (user, t') ∧
        t'.createUser caseTools 0 "u2" "annaσ@b.c" "Ann" (.ok none) .user = .ok (other, t'') := by
  refine ⟨⟨_, _, rfl, rfl⟩, ?_, _, _, _, _, rfl, rfl⟩
  exact (by decide : List.Forall₂ sampleCase.SameLower "annaΣ@b.c".toList "annaσ@b.c".toList)

end Sample

end Tables

end TokenDealer
