import Mathlib.Tactic.Tauto
import TokenDealer.Base64
import TokenDealer.Config
import TokenDealer.Keystore

set_option autoImplicit true

namespace TokenDealer

inductive UserRole where
  | admin
  | user
  deriving DecidableEq, Repr

structure User where
  id : String
  email : String
  name : String
  role : UserRole
  deriving DecidableEq, Repr

structure UserContext where
  userId : String
  email : String
  name : String
  role : UserRole
  via : String
  keyPrefix : Option String := none
  sessionId : Option String := none
  deriving DecidableEq, Repr

/-- What the user tables answer: the user of an API key with the key's prefix, and the user of a
session with the session's id. -/
structure UserStore where
  getUserByApiKey : String → Option (User × String)
  getSession : String → Option (User × String)

/-- What the middleware reads of a request. -/
structure AuthRequest where
  authorization : Option String := none
  cookie : Option String := none
  accept : Option String := none
  method : String
  path : String
  deriving DecidableEq, Repr

inductive Decision where
  | next (context : UserContext)
  | unauthorized (message : String)
  | seeOther (location : String)
  deriving DecidableEq, Repr

namespace AuthMiddleware

def sessionCookie : String := "td_session"

def extractToken (req : AuthRequest) : String :=
  match req.authorization with
  | none => ""
  | some s =>
    match Str.stripPrefix "Bearer " s with
    | some rest => Str.trim rest
    | none =>
      let password := do
        let rest ← Str.stripPrefix "Basic " s
        let bytes ← Base64.decode (Str.trimList rest.toList)
        let decoded ← fromUtf8 bytes
        (Str.splitOnce ':' decoded).map Prod.snd
      password.getD s

def parseCookies (header : String) : List (String × String) :=
  (Str.split ';' header.toList).filterMap fun piece =>
    Str.splitOnce '=' (String.ofList (Str.trimList piece))

def nonEmpty (s : String) : Option String := if s ≠ "" then some s else none

def keysFromConfig (env : String → Option String) (cfg : AuthConfig) : List String :=
  (cfg.adminKey.bind nonEmpty).toList ++ cfg.keys.filterMap (fun k => nonEmpty k.key) ++
    ((env "ROUTER_MASTER_KEY").bind nonEmpty).toList

def constantTimeEq (a b : List UInt8) : Bool :=
  if a.length ≠ b.length then false
  else (a.zip b).foldl (fun diff p => diff ||| (p.1 ^^^ p.2)) 0 = 0

def bytesEq (a b : String) : Bool := constantTimeEq (Utf8.encode a.toList) (Utf8.encode b.toList)

def check (keys : List String) (presented : String) : Bool :=
  if presented = "" then false else keys.any fun k => bytesEq k presented

def isPublicPath (path : String) : Bool :=
  path = "/health" || path = "/v1/health" || path = "/ui/style.css" || path = "/v1/stats" ||
    path = "/ui/login" || path = "/ui/login.html" || path = "/ui/setup" ||
    path = "/v1/provider-types" || path = "/admin/oauth/callback" || path = "/admin/healthz"

def hexUpper (n : Nat) : Char := if n < 10 then Char.ofNat (48 + n) else Char.ofNat (55 + n)

def isSafe (c : Char) : Bool :=
  ('A' ≤ c && c ≤ 'Z') || ('a' ≤ c && c ≤ 'z') || ('0' ≤ c && c ≤ '9') ||
    c = '-' || c = '_' || c = '.' || c = '~' || c = '/' || c = '?' || c = '=' || c = '&'

def urlencodingMinimal (s : String) : String :=
  String.ofList (s.toList.flatMap fun c =>
    if isSafe c then [c]
    else (Utf8.encode [c]).flatMap fun b => ['%', hexUpper (b.toNat / 16), hexUpper (b.toNat % 16)])

def legacyContext : UserContext where
  userId := "legacy"
  email := "legacy@admin"
  name := "Legacy admin"
  role := .admin
  via := "legacy_key"

def envContext : UserContext where
  userId := "env-admin"
  email := "admin@env"
  name := "Env admin"
  role := .admin
  via := "env_password"

def anonymousContext (via : String) : UserContext where
  userId := "anonymous"
  email := "anonymous@local"
  name := "Anonymous"
  role := .user
  via := via

def userContext (user : User) (via : String) (keyPrefix sessionId : Option String) :
    UserContext where
  userId := user.id
  email := user.email
  name := user.name
  role := user.role
  via := via
  keyPrefix := keyPrefix
  sessionId := sessionId

section

variable (env : String → Option String) (store : UserStore) (auth : AuthConfig)

def apiKeyContext (presented : String) : Option UserContext :=
  if Str.startsWith presented "tk-" then
    (store.getUserByApiKey presented).map fun (user, keyPrefix) =>
      userContext user "api_key" (some keyPrefix) none
  else none

def legacyKeyContext (presented : String) : Option UserContext :=
  let keys := keysFromConfig env auth
  if auth.enabled && !keys.isEmpty && check keys presented then some legacyContext else none

def envPasswordContext (presented : String) : Option UserContext :=
  match env "TOKEN_DEALER_ADMIN_PASSWORD" with
  | none => none
  | some password => if password ≠ "" && bytesEq presented password then some envContext else none

/-- Whom a presented token speaks for. -/
def tokenContext (presented : String) : Option UserContext :=
  if presented = "" then none
  else
    (apiKeyContext store presented).or
      ((legacyKeyContext env auth presented).or (envPasswordContext env presented))

def sessionContext (req : AuthRequest) : Option UserContext :=
  match req.cookie with
  | none => none
  | some header =>
    (parseCookies header).findSome? fun (name, value) =>
      if name = sessionCookie then
        (store.getSession value).map fun (user, sessionId) =>
          userContext user "session" none (some sessionId)
      else none

def uiOrAdminUnauthorized (req : AuthRequest) : Decision :=
  let wantsJson := match req.accept with
    | some accept => Str.contains accept "application/json"
    | none => false
  if wantsJson then .unauthorized "invalid or missing credentials"
  else .seeOther ("/ui/login?next=" ++ urlencodingMinimal req.path)

def anonymous (req : AuthRequest) : Decision :=
  if !auth.enabled then .next (anonymousContext "auth_disabled")
  else if isPublicPath req.path then .next (anonymousContext "public")
  else if Str.startsWith req.path "/v1/" && req.method ≠ "OPTIONS" then
    .unauthorized "invalid or missing API key"
  else if Str.startsWith req.path "/ui/" || Str.startsWith req.path "/admin/" then
    uiOrAdminUnauthorized req
  else .next (anonymousContext "anonymous")

def middleware (req : AuthRequest) : Decision :=
  match (tokenContext env store auth (extractToken req)).or (sessionContext store req) with
  | some context => .next context
  | none => anonymous auth req

end

theorem foldl_or_eq_zero (pairs : List (UInt8 × UInt8)) (diff : UInt8) :
    pairs.foldl (fun diff p => diff ||| (p.1 ^^^ p.2)) diff = 0 ↔
      diff = 0 ∧ ∀ p ∈ pairs, p.1 = p.2 := by
  induction pairs generalizing diff with
  | nil => simp only [List.foldl_nil, List.not_mem_nil, false_implies, implies_true, and_true]
  | cons p pairs ih =>
    rw [List.foldl_cons, ih, UInt8.or_eq_zero_iff, UInt8.xor_eq_zero_iff, List.forall_mem_cons,
      and_assoc]

theorem eq_of_zip {a b : List UInt8} (hlen : a.length = b.length)
    (h : ∀ p ∈ a.zip b, p.1 = p.2) : a = b := by
  induction a generalizing b with
  | nil => exact (List.eq_nil_of_length_eq_zero hlen.symm).symm
  | cons x a ih =>
    cases b with
    | nil => cases hlen
    | cons y b =>
      rw [List.zip_cons_cons, List.forall_mem_cons] at h
      rw [show x = y from h.1, ih (Nat.succ.inj hlen) h.2]

/-- The comparison tells whether two byte strings are equal. -/
theorem constantTimeEq_iff {a b : List UInt8} : constantTimeEq a b = true ↔ a = b := by
  rw [constantTimeEq]
  by_cases hlen : a.length = b.length
  · rw [if_neg (not_not_intro hlen), decide_eq_true_eq, foldl_or_eq_zero]
    constructor
    · exact fun h => eq_of_zip hlen h.2
    · rintro rfl
      refine ⟨rfl, ?_⟩
      intro p hp
      obtain ⟨i, hi, hpi⟩ := List.getElem_of_mem hp
      rw [← hpi, List.getElem_zip]
  · rw [if_pos hlen]
    exact iff_of_false Bool.false_ne_true fun h => hlen (congrArg List.length h)

theorem bytesEq_iff {a b : String} : bytesEq a b = true ↔ a = b := by
  rw [bytesEq, constantTimeEq_iff]
  constructor
  · intro h
    have hchars := congrArg Utf8.decodeLossy h
    rw [Utf8.decodeLossy_encode, Utf8.decodeLossy_encode] at hchars
    exact String.toList_injective hchars
  · exact fun h => h ▸ rfl

theorem check_iff {keys : List String} {presented : String} :
    check keys presented = true ↔ presented ≠ "" ∧ presented ∈ keys := by
  rw [check]
  by_cases hp : presented = ""
  · rw [if_pos hp]
    exact iff_of_false Bool.false_ne_true fun h => h.1 hp
  · rw [if_neg hp, List.any_eq_true]
    constructor
    · intro h
      obtain ⟨k, hk, heq⟩ := h
      exact ⟨hp, bytesEq_iff.mp heq ▸ hk⟩
    · exact fun h => ⟨presented, h.2, bytesEq_iff.mpr rfl⟩

theorem mem_nonEmpty {s t : String} : t ∈ (nonEmpty s).toList ↔ t ≠ "" ∧ s = t := by
  rw [nonEmpty]
  by_cases hs : s = ""
  · subst hs
    simp only [ne_eq, not_true, if_false, Option.toList_none, List.not_mem_nil, false_iff, not_and]
    exact fun ht h => ht h.symm
  · simp only [ne_eq, hs, not_false_eq_true, if_true, Option.toList_some, List.mem_singleton]
    exact ⟨fun h => ⟨h ▸ hs, h.symm⟩, fun h => h.2.symm⟩

section Keys

variable {env : String → Option String} {auth : AuthConfig}

theorem mem_bind_nonEmpty {o : Option String} :
    t ∈ (o.bind nonEmpty).toList ↔ t ≠ "" ∧ o = some t := by
  cases o with
  | none => simp only [Option.bind_none, Option.toList_none, List.not_mem_nil, reduceCtorEq,
      and_false]
  | some s => rw [Option.bind_some, mem_nonEmpty, Option.some.injEq]

theorem mem_filterMap_nonEmpty {keys : List AuthKey} :
    t ∈ keys.filterMap (fun k => nonEmpty k.key) ↔ t ≠ "" ∧ t ∈ keys.map AuthKey.key := by
  rw [List.mem_filterMap, List.mem_map]
  constructor
  · intro h
    obtain ⟨k, hk, hkey⟩ := h
    obtain ⟨ht, heq⟩ := mem_nonEmpty.mp (Option.mem_toList.mpr hkey)
    exact ⟨ht, k, hk, heq⟩
  · intro h
    obtain ⟨ht, k, hk, heq⟩ := h
    exact ⟨k, hk, Option.mem_toList.mp (mem_nonEmpty.mpr ⟨ht, heq⟩)⟩

theorem mem_keysFromConfig : t ∈ keysFromConfig env auth ↔
    t ≠ "" ∧ (auth.adminKey = some t ∨ t ∈ auth.keys.map AuthKey.key ∨
      env "ROUTER_MASTER_KEY" = some t) := by
  rw [keysFromConfig, List.mem_append, List.mem_append, mem_bind_nonEmpty, mem_bind_nonEmpty,
    mem_filterMap_nonEmpty]
  tauto

theorem isSome_legacyKeyContext (henabled : auth.enabled = true) :
    (legacyKeyContext env auth t).isSome = true ↔ t ∈ keysFromConfig env auth := by
  rw [legacyKeyContext, henabled]
  by_cases h : t ∈ keysFromConfig env auth
  · have hcheck : check (keysFromConfig env auth) t = true :=
      check_iff.mpr ⟨(mem_keysFromConfig.mp h).1, h⟩
    have hsome : (keysFromConfig env auth).isEmpty = false :=
      List.isEmpty_eq_false_iff.mpr (List.ne_nil_of_mem h)
    simp only [hcheck, hsome, h, Bool.not_false, Bool.and_self, if_true, Option.isSome_some]
  · have hcheck : check (keysFromConfig env auth) t = false :=
      Bool.eq_false_iff.mpr fun hc => h (check_iff.mp hc).2
    simp only [hcheck, h, Bool.and_false, Bool.false_eq_true, if_false, Option.isSome_none]

theorem isSome_envPasswordContext (ht : t ≠ "") :
    (envPasswordContext env t).isSome = true ↔ env "TOKEN_DEALER_ADMIN_PASSWORD" = some t := by
  rw [envPasswordContext]
  cases env "TOKEN_DEALER_ADMIN_PASSWORD" with
  | none => simp only [Option.isSome_none, Bool.false_eq_true, reduceCtorEq]
  | some password =>
    rw [Option.some.injEq]
    by_cases hp : password = t
    · subst hp
      have heq : bytesEq password password = true := bytesEq_iff.mpr rfl
      simp only [heq, ht, ne_eq, not_false_eq_true, decide_true, Bool.and_self, if_true,
        Option.isSome_some]
    · have heq : bytesEq t password = false :=
        Bool.eq_false_iff.mpr fun h => hp (bytesEq_iff.mp h).symm
      simp only [heq, Bool.and_false, Bool.false_eq_true, if_false, Option.isSome_none, hp]

end Keys

end AuthMiddleware

end TokenDealer
