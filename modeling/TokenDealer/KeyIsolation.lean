import TokenDealer.CredentialHistory
import TokenDealer.Keyed
import TokenDealer.LimitLayer

set_option autoImplicit true

namespace TokenDealer

/-- What a caller is let in by: a key of the users, a key of the configuration or of the
environment, a session. -/
inductive Credential where
  | apiKey (token : String)
  | configured (key : String)
  | session (token : String)
  deriving DecidableEq, Repr

/-- What the store or the configuration knows a credential by. -/
def Credential.label (store : UserStore) : Credential → Option String
  | apiKey token => (store.getUserByApiKey token).map Prod.snd
  | configured _ => some "anonymous"
  | session token => (store.getSession token).map Prod.snd

namespace AuthMiddleware

section

variable (env : String → Option String) (server : Server)

/-- The credential that lets a request in. -/
def credential (req : AuthRequest) : Option Credential :=
  let presented := extractToken req
  if (tokenContext env server.store server.auth presented).isSome then
    if (apiKeyContext server.store presented).isSome then some (.apiKey presented)
    else some (.configured presented)
  else
    match req.cookie with
    | none => none
    | some header =>
      (parseCookies header).findSome? fun (name, value) =>
        if name = sessionCookie then
          (server.store.getSession value).map fun _ => .session value
        else none

/-- The credential is one that the middleware accepts. -/
def Accepts (c : Credential) : Prop := ∃ req, credential env server req = some c

end

section

variable {env : String → Option String} {server : Server} {store : UserStore} {auth : AuthConfig}
  {req : AuthRequest} {c : Credential} {ctx : UserContext}

theorem bucketName_tokenContext (h : tokenContext env store auth presented = some ctx) :
    (apiKeyContext store presented = some ctx ∧
      (Credential.apiKey presented).label store = some ctx.bucketName) ∨
    (apiKeyContext store presented = none ∧ ctx.bucketName = "anonymous") := by
  rw [tokenContext] at h
  split at h
  · cases h
  · rcases Option.or_eq_some_iff.mp h with hkey | ⟨hnone, hother⟩
    · refine .inl ⟨hkey, ?_⟩
      rw [apiKeyContext] at hkey
      split at hkey
      · obtain ⟨found, hfound, rfl⟩ := Option.map_eq_some_iff.mp hkey
        rw [Credential.label, hfound]
        rfl
      · cases hkey
    · refine .inr ⟨hnone, ?_⟩
      rcases Option.or_eq_some_iff.mp hother with hlegacy | ⟨-, hpassword⟩
      · rw [legacyKeyContext] at hlegacy
        split at hlegacy
        · cases hlegacy
          rfl
        · cases hlegacy
      · rw [envPasswordContext] at hpassword
        split at hpassword
        · cases hpassword
        · split at hpassword
          · cases hpassword
            rfl
          · cases hpassword

theorem bucketName_session {cookies : List (String × String)}
    (h : (cookies.findSome? fun (name, value) =>
      if name = sessionCookie then (store.getSession value).map fun _ => Credential.session value
      else none) = some c) :
    ∃ ctx, (cookies.findSome? fun (name, value) =>
        if name = sessionCookie then
          (store.getSession value).map fun (user, sessionId) =>
            userContext user "session" none (some sessionId)
        else none) = some ctx ∧ c.label store = some ctx.bucketName := by
  induction cookies with
  | nil => cases h
  | cons cookie rest ih =>
    obtain ⟨name, value⟩ := cookie
    rw [List.findSome?_cons] at h ⊢
    by_cases hname : name = sessionCookie
    · cases hfound : store.getSession value with
      | some found =>
        simp only [hname, if_true, hfound, Option.map_some, Option.some.injEq] at h ⊢
        refine ⟨_, rfl, ?_⟩
        rw [← h, Credential.label, hfound]
        rfl
      | none =>
        simp only [hname, if_true, hfound, Option.map_none] at h ⊢
        exact ih h
    · simp only [hname, if_false] at h ⊢
      exact ih h

/-- The limiter knows a request by the label of the credential that let it in. -/
theorem middleware_of_credential (h : credential env server req = some c) :
    ∃ ctx, middleware env server.store server.auth req = .next ctx ∧
      c.label server.store = some ctx.bucketName := by
  rw [credential] at h
  rw [middleware]
  cases htoken : tokenContext env server.store server.auth (extractToken req) with
  | some ctx =>
    rw [htoken, Option.isSome_some, if_pos rfl] at h
    refine ⟨ctx, rfl, ?_⟩
    rcases bucketName_tokenContext htoken with ⟨hkey, hlabel⟩ | ⟨hkey, hname⟩
    · rw [hkey, Option.isSome_some, if_pos rfl] at h
      cases h
      exact hlabel
    · rw [hkey, Option.isSome_none, if_neg Bool.false_ne_true] at h
      cases h
      exact congrArg some hname.symm
  | none =>
    rw [htoken, Option.isSome_none, if_neg Bool.false_ne_true] at h
    rw [Option.none_or, sessionContext]
    cases hcookie : req.cookie with
    | none =>
      rw [hcookie] at h
      cases h
    | some header =>
      rw [hcookie] at h
      obtain ⟨ctx, hctx, hlabel⟩ := bucketName_session h
      refine ⟨ctx, ?_, hlabel⟩
      dsimp only
      rw [hctx]

end

end AuthMiddleware

section

variable (env : String → Option String)

/-- The request is let in by this credential. -/
def Incoming.madeWith (c : Credential) (v : Incoming) : Bool :=
  AuthMiddleware.credential env v.server v.req = some c

/-- Of the requests to the limited paths that are made with a credential, which are turned away. -/
def refusals (c : Credential) (served : List (Incoming × LayerReply)) : List Bool :=
  (served.filter fun s => s.1.madeWith env c && isRateLimitedPath s.1.req.path).map fun s =>
    s.2.limited

/-- The global bucket has a token for every request of the run. -/
def GlobalUnlimited (fl : Rounding 53) : RateLimiter → List Incoming → Prop
  | _, [] => True
  | l, v :: rest =>
    ((v.counted env).isSome → l.GlobalAllows fl v.readings.global) ∧
      GlobalUnlimited fl (l.answer fl env v).2 rest

/-- The clock that the buckets of the keys read does not go back. -/
def Clocked (calls : List Incoming) : Prop :=
  (calls.map fun v => v.readings.perKey).Pairwise (· ≤ ·) ∧
    ∀ v ∈ calls, v.readings.created ≤ v.readings.perKey

/-- From the start of the server on, requests made with `a` never change which of the requests made
with `b` are turned away. -/
def Isolated (fl : Rounding 53) (server : Server) (perKey : RateLimitBucket) (a b : Credential) :
    Prop :=
  ∀ (l : RateLimiter) (calls calls' : List Incoming),
    l.perKey = (fun _ => none) → l.perKeyLimit = .ofRpm fl perKey.refillPerMinute perKey.burst →
    (∀ v ∈ calls ++ calls', v.server = server) → Clocked calls → Clocked calls' →
    GlobalUnlimited env fl l calls → GlobalUnlimited env fl l calls' →
    calls.filter (fun v => !v.madeWith env a) = calls'.filter (fun v => !v.madeWith env a) →
    refusals env b (l.run fl env calls) = refusals env b (l.run fl env calls')

/-- A request on the bucket of its key, with whether it is turned away. -/
def keyStep (fl : Rounding 53) (limit : Limit) (cell : Option Bucket) (v : Incoming) :
    (Incoming × Bool) × Option Bucket :=
  let k := (cell.getD (.new limit.burst v.readings.created)).consume fl limit v.readings.perKey
  ((v, !k.1.isOk), some k.2)

/-- The requests that are counted, each with its bucket. -/
def counted (calls : List Incoming) : List (String × Incoming) :=
  calls.filterMap fun v => (v.counted env).map fun key => (key, v)

end

section

variable {fl : Rounding 53} {env : String → Option String} {server : Server} {l : RateLimiter}
  {v : Incoming} {calls calls' : List Incoming} {a b c : Credential} {other label : String}
  {perKey : RateLimitBucket}

theorem counted_of_madeWith (hmade : v.madeWith env c = true)
    (hlabel : c.label v.server.store = some label) :
    v.counted env = if isRateLimitedPath v.req.path && v.server.ratelimit.enabled then some label
      else none := by
  obtain ⟨ctx, hnext, hname⟩ := AuthMiddleware.middleware_of_credential (of_decide_eq_true hmade)
  rw [hlabel, Option.some.injEq] at hname
  rw [Incoming.counted, hnext, hname]
  dsimp only
  rw [limitKey]
  cases isRateLimitedPath v.req.path <;> cases v.server.ratelimit.enabled <;> rfl

/-- A request is made with one credential. -/
theorem not_madeWith_of_ne (hmade : v.madeWith env b = true) (hne : a ≠ b) :
    v.madeWith env a = false := by
  apply decide_eq_false
  intro hother
  exact hne (Option.some.inj (hother.symm.trans (of_decide_eq_true hmade)))

/-- While the global bucket is never asked in vain, the limiter is a family of buckets. -/
theorem run_eq_serve (h : GlobalUnlimited env fl l calls) :
    ((l.run fl env calls).filterMap fun s =>
        (s.1.counted env).map fun key => (key, s.1, s.2.limited)) =
      Keyed.serve (keyStep fl l.perKeyLimit) l.perKey (counted env calls) := by
  induction calls generalizing l with
  | nil => rfl
  | cons v rest ih =>
    obtain ⟨hallows, hrest⟩ := h
    rw [RateLimiter.run, counted]
    cases hkey : v.counted env with
    | none =>
      obtain ⟨-, hsame⟩ := l.answer_of_not_counted fl hkey
      rw [hsame] at hrest ⊢
      simp only [List.filterMap_cons, hkey, Option.map_none]
      exact ih hrest
    | some key =>
      obtain ⟨hlimited, hafter⟩ := l.answer_of_counted fl hkey
      rw [hkey] at hallows
      rw [RateLimiter.tryAcquire_of_global (hallows rfl)] at hlimited hafter
      rw [hafter] at hrest ⊢
      simp only [List.filterMap_cons, hkey, Option.map_some, hlimited, Keyed.serve]
      exact congrArg _ (ih hrest)

/-- The answers to a credential are found among those of its bucket. -/
theorem refusals_eq (hserver : ∀ v ∈ calls, v.server = server)
    (henabled : server.ratelimit.enabled = true) (hlabel : c.label server.store = some label) :
    refusals env c (l.run fl env calls) =
      (((((l.run fl env calls).filterMap fun s =>
          (s.1.counted env).map fun key => (key, s.1, s.2.limited)).filter
        fun e => e.1 = label).filter fun e => e.2.1.madeWith env c).map fun e => e.2.2) := by
  rw [Keyed.filter_tagged (fun s : Incoming × LayerReply => s.1.counted env), List.filter_map,
    List.map_map, List.filter_filter, refusals]
  refine congrArg _ (List.filter_congr ?_)
  intro s hs
  have hv : s.1 ∈ calls := by
    rw [← RateLimiter.run_fst fl env l calls]
    exact List.mem_map_of_mem hs
  rw [Function.comp_apply, Bool.and_comm]
  cases hmade : s.1.madeWith env c with
  | false => rw [Bool.and_false, Bool.false_and]
  | true =>
    rw [counted_of_madeWith hmade (hserver _ hv ▸ hlabel), hserver _ hv, henabled, Bool.and_true,
      Bool.true_and]
    cases isRateLimitedPath s.1.req.path with
    | false => rfl
    | true => exact (decide_eq_true rfl).symm

/-- A bucket sees nothing of a credential with another label. -/
theorem filter_counted (hserver : ∀ v ∈ calls, v.server = server)
    (hlabel : c.label server.store = some other) (hne : other ≠ label) :
    (counted env (calls.filter fun v => !v.madeWith env c)).filter (fun e => e.1 = label) =
      (counted env calls).filter fun e => e.1 = label := by
  rw [counted, counted, Keyed.filter_tagged, Keyed.filter_tagged, List.filter_filter]
  refine congrArg _ (List.filter_congr ?_)
  intro v hv
  cases hmade : v.madeWith env c with
  | false => rw [Bool.not_false, Bool.and_true]
  | true =>
    have hother : v.counted env ≠ some label := by
      rw [counted_of_madeWith hmade (hserver v hv ▸ hlabel)]
      split
      · exact fun h => hne (Option.some.inj h)
      · exact Option.some_ne_none _ |>.symm
    rw [decide_eq_false hother, Bool.false_and]

/-- Credentials with different labels are isolated. -/
theorem isolated_of_ne (ha : a.label server.store = some other)
    (hb : b.label server.store = some label) (hne : other ≠ label)
    (henabled : server.ratelimit.enabled = true) : Isolated env fl server perKey a b := by
  intro l calls calls' _ _ hserver _ _ hfree hfree' hsame
  have hleft : ∀ v ∈ calls, v.server = server := fun v hv =>
    hserver v (List.mem_append_left _ hv)
  have hright : ∀ v ∈ calls', v.server = server := fun v hv =>
    hserver v (List.mem_append_right _ hv)
  have hevents : (counted env calls).filter (fun e => e.1 = label) =
      (counted env calls').filter fun e => e.1 = label := by
    rw [← filter_counted hleft ha hne, hsame, filter_counted hright ha hne]
  rw [refusals_eq hleft henabled hb, refusals_eq hright henabled hb, run_eq_serve hfree,
    run_eq_serve hfree', Keyed.serve_filter_congr hevents]

theorem perKeyLimit_answer (fl : Rounding 53) (l : RateLimiter) (v : Incoming) :
    (l.answer fl env v).2.perKeyLimit = l.perKeyLimit := by
  cases hkey : v.counted env with
  | none => rw [(RateLimiter.answer_of_not_counted _ _ hkey).2]
  | some key =>
    rw [(RateLimiter.answer_of_counted _ _ hkey).2]
    exact (RateLimiter.limits_tryAcquire fl l key v.readings).1

/-- When the answer to every request is the same, it does not matter what came before. -/
theorem refusals_const {answer : Bool} (hanswer : ∀ l' : RateLimiter,
      l'.perKeyLimit = l.perKeyLimit → ∀ v ∈ calls, v.madeWith env c = true →
        isRateLimitedPath v.req.path = true → (l'.answer fl env v).1.limited = answer) :
    refusals env c (l.run fl env calls) =
      (calls.filter fun v => v.madeWith env c && isRateLimitedPath v.req.path).map
        fun _ => answer := by
  induction calls generalizing l with
  | nil => rfl
  | cons v rest ih =>
    have hrest := ih (l := (l.answer fl env v).2) fun l' hl' w hw =>
      hanswer l' (hl'.trans (perKeyLimit_answer fl l v)) w (List.mem_cons_of_mem v hw)
    rw [refusals] at hrest
    rw [refusals, RateLimiter.run, List.filter_cons, List.filter_cons]
    cases hmade : v.madeWith env c && isRateLimitedPath v.req.path with
    | false => exact hrest
    | true =>
      obtain ⟨hwith, hpath⟩ := Bool.and_eq_true_iff.mp hmade
      simp only [if_true, List.map_cons, hrest,
        hanswer l rfl v List.mem_cons_self hwith hpath]

theorem filter_madeWith (hne : a ≠ b)
    (hsame : calls.filter (fun v => !v.madeWith env a) =
      calls'.filter (fun v => !v.madeWith env a)) :
    (calls.filter fun v => v.madeWith env b && isRateLimitedPath v.req.path) =
      calls'.filter fun v => v.madeWith env b && isRateLimitedPath v.req.path := by
  have hkeeps : ∀ vs : List Incoming,
      (vs.filter fun v => v.madeWith env b && isRateLimitedPath v.req.path) =
        (vs.filter fun v => !v.madeWith env a).filter fun v =>
          v.madeWith env b && isRateLimitedPath v.req.path := by
    intro vs
    rw [List.filter_filter]
    apply List.filter_congr
    intro v _
    cases hb : v.madeWith env b with
    | false => rfl
    | true => rw [not_madeWith_of_ne hb hne, Bool.not_false, Bool.and_true]
  rw [hkeeps calls, hsame, ← hkeeps calls']

/-- So are two credentials that are always, or never, turned away. -/
theorem isolated_of_const (hne : a ≠ b)
    (hlabel : b.label server.store = some label)
    (h : perKey.burst = 0 ∨ server.ratelimit.enabled = false) :
    Isolated env fl server perKey a b := by
  intro l calls calls' _ hlimit hserver _ _ _ _ hsame
  have hconst : ∃ answer, ∀ l' : RateLimiter, l'.perKeyLimit = l.perKeyLimit →
      ∀ v ∈ calls ++ calls', v.madeWith env b = true →
        isRateLimitedPath v.req.path = true → (l'.answer fl env v).1.limited = answer := by
    cases henabled : server.ratelimit.enabled with
    | false =>
      refine ⟨false, ?_⟩
      intro l' _ v hv hmade _
      have hkey := counted_of_madeWith hmade (hserver v hv ▸ hlabel)
      rw [hserver v hv, henabled, Bool.and_false, if_neg Bool.false_ne_true] at hkey
      exact (RateLimiter.answer_of_not_counted _ _ hkey).1
    | true =>
      refine ⟨true, ?_⟩
      intro l' hl' v hv hmade hpath
      have hkey := counted_of_madeWith hmade (hserver v hv ▸ hlabel)
      rw [hserver v hv, henabled, hpath, Bool.and_true, if_pos rfl] at hkey
      have hempty : ¬ l'.KeyAllows fl label v.readings := by
        rw [RateLimiter.KeyAllows, hl', hlimit, Bucket.refilled, Limit.ofRpm,
          h.resolve_right (by rw [henabled]; exact Bool.noConfusion)]
        exact not_le.mpr ((min_le_right _ _).trans_lt one_pos)
      rw [(RateLimiter.answer_of_counted _ _ hkey).1, Bool.not_eq_true', Bool.eq_false_iff]
      exact fun hok => hempty (RateLimiter.tryAcquire_isOk.mp hok).2
  obtain ⟨answer, hanswer⟩ := hconst
  rw [refusals_const fun l' hl' v hv => hanswer l' hl' v (List.mem_append_left _ hv),
    refusals_const fun l' hl' v hv => hanswer l' hl' v (List.mem_append_right _ hv),
    filter_madeWith hne hsame]

end

end TokenDealer
