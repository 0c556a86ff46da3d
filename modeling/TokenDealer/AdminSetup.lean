import Mathlib.Data.List.Sort
import TokenDealer.Machine
import TokenDealer.UserTables

set_option autoImplicit true

namespace TokenDealer

/-- The form of the setup page, as far as setup reads it. -/
structure LoginForm where
  email : Option String
  password : Option String
  deriving DecidableEq, Repr

inductive SetupResponse where
  | redirect (location : String)
  | badRequest (text : String)
  deriving DecidableEq, Repr

/-- What a request goes on with once it has found no user. -/
structure SetupRequest where
  email : String
  name : String
  password : String
  deriving DecidableEq, Repr

/-- The users, the oldest first. -/
def Tables.listUsers (tools : StoreTools) (t : Tables) (now : Utc) :
    Except StoreError (List UserRecord) :=
  ((t.users.rows.insertionSort fun a b => Str.before b.createdAt a.createdAt = false).mapM
    fun u => rowToUser tools now u.columns).mapError .column

/-- The first half of setup: a query that fails counts as one that finds no user. -/
def setupCheck (tools : StoreTools) (t : Tables) (now : Utc) (queried : Except StoreError Unit)
    (body : LoginForm) : Except SetupResponse SetupRequest :=
  match queried.bind fun _ => t.listUsers tools now with
  | .ok (_ :: _) => .error (.redirect "/ui/login")
  | _ =>
    match body.email.filter fun s => s ≠ "" with
    | none => .error (.badRequest "email required")
    | some email =>
      let name := String.ofList ((Str.split '@' email.toList).headD "admin".toList)
      let password := body.password.getD ""
      if (Utf8.encode password.toList).length < 8 then
        .error (.badRequest "password must be at least 8 chars")
      else .ok ⟨email, name, password⟩

/-- The other half; the hash of the password is drawn for this call. -/
def setupCreate (tools : StoreTools) (t : Tables) (now : Utc) (r : SetupRequest) (id : String)
    (hashed : Except String String) (stored : Except StoreError Unit) : Except StoreError Tables :=
  stored.bind fun _ =>
    (t.createUser tools now id r.email r.name (hashed.map some) .admin).map Prod.snd

/-- The tables and the requests that are between the two. -/
structure SetupRun where
  tables : Tables
  requests : List SetupRequest

inductive SetupEvent where
  | submit (body : LoginForm) (queried : Except StoreError Unit) (now : Utc)
  | create (i : Nat) (id : String) (hashed : Except String String) (stored : Except StoreError Unit)
    (now : Utc)

namespace SetupRun

variable (tools : StoreTools)

def step (s : SetupRun) : SetupEvent → SetupRun
  | .submit body queried now =>
    match setupCheck tools s.tables now queried body with
    | .error _ => s
    | .ok r => { s with requests := s.requests ++ [r] }
  | .create i id hashed stored now =>
    match s.requests[i]? with
    | none => s
    | some r =>
      match setupCreate tools s.tables now r id hashed stored with
      | .error _ => { s with requests := s.requests.eraseIdx i }
      | .ok tables => ⟨tables, s.requests.eraseIdx i⟩

/-- The admins among the users. -/
def admins (s : SetupRun) : List UserRow :=
  s.tables.users.rows.filter fun u => UserRole.parse u.role = .admin

/-- A new user that is not stored: the address is none or is taken, or something fails. -/
def Refused (t : Tables) (r : SetupRequest) (id : String) (hashed : Except String String)
    (stored : Except StoreError Unit) : Prop :=
  let email := tools.lowercase (Str.trim r.email)
  stored.isOk = false ∨ email = "" ∨ '@' ∉ email.toList ∨ hashed.isOk = false ∨
    ∃ u ∈ t.users.rows, u.id = id ∨ u.email = email

/-- What the check of a request has found is still so when it creates its user, or it creates
none. -/
def StillEmpty (s : SetupRun) : SetupEvent → Prop
  | .submit .. => True
  | .create i id hashed stored _ => ∀ r, s.requests[i]? = some r →
      s.tables.users.rows = [] ∨ Refused tools s.tables r id hashed stored

variable {tools} {t : Tables} {r : SetupRequest} {id : String} {hashed : Except String String}
  {stored : Except StoreError Unit}

theorem setupCreate_refused (now : Utc) (h : Refused tools t r id hashed stored) :
    ∃ e, setupCreate tools t now r id hashed stored = .error e := by
  rw [setupCreate]
  cases stored with
  | error e => exact ⟨e, rfl⟩
  | ok u =>
    have hcreate : ∃ e, t.createUser tools now id r.email r.name (hashed.map some) .admin =
        .error e := by
      simp only [Tables.createUser]
      split
      · exact ⟨_, rfl⟩
      · next hemail =>
        rw [not_or, not_not] at hemail
        cases hashed with
        | error e => exact ⟨_, rfl⟩
        | ok hash =>
          -- Nothing else is left of what can stop it: the store, the address and the hash are fine.
          have hclash : ∃ u ∈ t.users.rows,
              u.id = id ∨ u.email = tools.lowercase (Str.trim r.email) := by
            obtain hstored | hempty | hsign | hhash | hclash := h
            · cases hstored
            · exact absurd hempty hemail.1
            · exact absurd hemail.2 hsign
            · cases hhash
            · exact hclash
          refine ⟨.unique, ?_⟩
          dsimp only [Except.map]
          rw [Tables.insertUser_clash hclash]
          rfl
    obtain ⟨e, he⟩ := hcreate
    refine ⟨e, ?_⟩
    rw [Except.bind, he]
    rfl

theorem setupCreate_stored (now : Utc) (h : ¬ Refused tools t r id hashed stored) :
    ∃ t' row, setupCreate tools t now r id hashed stored = .ok t' ∧
      t'.users.rows = t.users.rows ++ [row] ∧ UserRole.parse row.role = .admin := by
  simp only [Refused, not_or, Bool.not_eq_false, not_not, not_exists, not_and] at h
  obtain ⟨hstored, hempty, hat, hhashed, hfree⟩ := h
  cases stored with
  | error e => cases hstored
  | ok u =>
    cases hashed with
    | error e => cases hhashed
    | ok hash =>
      obtain ⟨t', hinsert, hrows⟩ := Tables.insertUser_free
        (t := t) ⟨id, tools.lowercase (Str.trim r.email), r.name, some hash, UserRole.asStr .admin,
          "\x7b\x7d", Calendar.sqlTimestamp now, none⟩
        fun u hu hclash => hclash.elim (hfree u hu).1 (hfree u hu).2
      refine ⟨t', _, ?_, hrows, UserRole.parse_asStr .admin⟩
      simp only [setupCreate, Except.bind, Tables.createUser, hempty, hat, not_true_eq_false,
        or_self, if_false, Except.map, hinsert]
      rfl

/-- All users are admins. -/
def AllAdmins (s : SetupRun) : Prop := ∀ u ∈ s.tables.users.rows, UserRole.parse u.role = .admin

theorem admins_eq {s : SetupRun} (h : s.AllAdmins) : s.admins = s.tables.users.rows :=
  List.filter_eq_self.mpr fun u hu => decide_eq_true (h u hu)

/-- A step leaves the users as they are, or creates one of a request that is not refused. -/
theorem step_users (tools : StoreTools) (s : SetupRun) (e : SetupEvent) :
    (s.step tools e).tables.users = s.tables.users ∧ s.StillEmpty tools e ∨
      ∃ row, (s.step tools e).tables.users.rows = s.tables.users.rows ++ [row] ∧
        UserRole.parse row.role = .admin ∧
        (s.StillEmpty tools e ↔ s.tables.users.rows = []) := by
  cases e with
  | submit body queried now =>
    left
    refine ⟨?_, trivial⟩
    rw [step]
    split <;> rfl
  | create i id hashed stored now =>
    cases hr : s.requests[i]? with
    | none =>
      left
      simp only [step, StillEmpty, hr, reduceCtorEq, false_implies, implies_true, and_self]
    | some r =>
      have hstill : s.StillEmpty tools (.create i id hashed stored now) ↔
          s.tables.users.rows = [] ∨ Refused tools s.tables r id hashed stored := by
        simp only [StillEmpty, hr, Option.some.injEq, forall_eq']
      by_cases hrefused : Refused tools s.tables r id hashed stored
      · left
        obtain ⟨e, he⟩ := setupCreate_refused now hrefused
        simp only [step, hr, he, true_and]
        exact hstill.mpr (.inr hrefused)
      · right
        obtain ⟨t', row, ht', hrows, hrole⟩ := setupCreate_stored now hrefused
        refine ⟨row, ?_, hrole, hstill.trans (or_iff_left hrefused)⟩
        simp only [step, hr, ht']
        exact hrows

theorem allAdmins_step {s : SetupRun} (h : s.AllAdmins) (e : SetupEvent) :
    (s.step tools e).AllAdmins := by
  rcases s.step_users tools e with ⟨husers, -⟩ | ⟨row, hrows, hrole, -⟩
  · rw [AllAdmins, husers]
    exact h
  · intro u hu
    rw [hrows, List.mem_append, List.mem_singleton] at hu
    rcases hu with hu | rfl
    · exact h u hu
    · exact hrole

/-- With one admin at most, a step creates no second one exactly when its check still holds. -/
theorem step_le_one_iff {s : SetupRun} (h : s.AllAdmins) (hone : s.admins.length ≤ 1)
    (e : SetupEvent) : (s.step tools e).admins.length ≤ 1 ↔ s.StillEmpty tools e := by
  rw [admins_eq h] at hone
  rw [admins_eq (allAdmins_step h e)]
  rcases s.step_users tools e with ⟨husers, hstill⟩ | ⟨row, hrows, -, hstill⟩
  · rw [husers]
    exact iff_of_true hone hstill
  · rw [hstill, hrows, List.length_append, ← List.length_eq_zero_iff]
    exact Nat.le_iff_lt_or_eq.trans (by simp)

theorem throughout_iff {s : SetupRun} (h : s.AllAdmins) (hone : s.admins.length ≤ 1)
    (events : List SetupEvent) :
    Machine.Throughout (step tools) (StillEmpty tools) s events ↔
      ∀ front back, events = front ++ back →
        (Machine.run (step tools) s front).admins.length ≤ 1 :=
  Machine.throughout_iff_fronts (I := fun s : SetupRun => s.admins.length ≤ 1)
    (fun _ e h => allAdmins_step h e) (fun _ e h hone => step_le_one_iff h hone e) h hone events

end SetupRun

/-- From a table without users, setup creates one admin at most exactly when each request that
creates its user finds the table as its check did. -/
theorem setup_one_admin_iff (tools : StoreTools) {t : Tables} (ht : t.users.rows = [])
    (events : List SetupEvent) :
    (∀ front back, events = front ++ back →
        (Machine.run (SetupRun.step tools) ⟨t, []⟩ front).admins.length ≤ 1) ↔
      Machine.Throughout (SetupRun.step tools) (SetupRun.StillEmpty tools) ⟨t, []⟩ events := by
  have hall : SetupRun.AllAdmins ⟨t, []⟩ := by
    intro u hu
    change u ∈ t.users.rows at hu
    rw [ht] at hu
    cases hu
  have hone : SetupRun.admins ⟨t, []⟩ = [] := by
    rw [SetupRun.admins_eq hall]
    exact ht
  exact (SetupRun.throughout_iff hall (by rw [hone]; exact Nat.zero_le 1) events).symm

/-- A store whose users have addresses in small letters. -/
def setupTools : StoreTools := ⟨id, id, fun _ => none⟩

def formOf (email : String) : LoginForm := ⟨some email, some "correct horse"⟩

/-- A second request comes when the first has created its user. -/
theorem setup_one_admin_iff_single :
    (Machine.run (SetupRun.step setupTools) ⟨.empty, []⟩
      [.submit (formOf "ann@example.org") (.ok ()) 0,
        .create 0 "u1" (.ok "$argon2id$a") (.ok ()) 0,
        .submit (formOf "bob@example.org") (.ok ()) 0]).admins.length ≤ 1 := by
  apply (setup_one_admin_iff setupTools rfl _).mpr _ _ [] (List.append_nil _).symm
  exact ⟨trivial, fun _ _ => .inl rfl, trivial, trivial⟩

/-- Both are checked before either has created its user. -/
theorem two_admins_created :
    let s := Machine.run (SetupRun.step setupTools) ⟨.empty, []⟩
      [.submit (formOf "ann@example.org") (.ok ()) 0, .submit (formOf "bob@example.org") (.ok ()) 0,
        .create 0 "u1" (.ok "$argon2id$a") (.ok ()) 0,
        .create 0 "u2" (.ok "$argon2id$b") (.ok ()) 0]
    s.admins.map UserRow.email = ["ann@example.org", "bob@example.org"] ∧
      ¬ s.admins.length ≤ 1 := by
  refine ⟨rfl, ?_⟩
  exact Nat.not_le_of_lt (Nat.lt_succ_self 1)

end TokenDealer
