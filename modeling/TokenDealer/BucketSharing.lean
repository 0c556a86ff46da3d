import Mathlib.Data.List.Induction
import TokenDealer.CredentialSoundness
import TokenDealer.KeyIsolation

set_option autoImplicit true

namespace TokenDealer

section

variable {fl : Rounding 53} {env : String → Option String} {server : Server} {l : RateLimiter}
  {v : Incoming} {calls : List Incoming} {a b c : Credential} {label : String}
  {perKey : RateLimitBucket}

/-- When the clock starts, the bucket of a label and the global one hold these many tokens. -/
structure HoldsTokens (l : RateLimiter) (label : String) (n m : Nat) : Prop where
  key : l.bucketFor label 0 = ⟨n, 0⟩
  key_le : n ≤ l.perKeyLimit.burst
  global : l.global = ⟨m, 0⟩
  global_le : m ≤ l.globalLimit.burst

namespace HoldsTokens

theorem refilled_zero {limit : Limit} {n : Nat} (h : n ≤ limit.burst) :
    (⟨n, 0⟩ : Bucket).refilled fl limit 0 = ⟨n, 0⟩ := by
  rw [Bucket.refilled, Bucket.level, Bucket.elapsed_self, zero_mul, Rounding.round_zero, add_zero,
    fl.natCast n (h.trans limit.burst_le), min_eq_left (Nat.cast_le.mpr h)]

theorem globalAllows (h : HoldsTokens l label n (m + 1)) : l.GlobalAllows fl 0 := by
  rw [RateLimiter.GlobalAllows, h.global, refilled_zero h.global_le, Nat.cast_add_one]
  exact le_add_of_nonneg_left (Nat.cast_nonneg m)

theorem keyAllows_iff (h : HoldsTokens l label n m) : l.KeyAllows fl label ⟨0, 0, 0⟩ ↔ 1 ≤ n := by
  rw [RateLimiter.KeyAllows, h.key, refilled_zero h.key_le]
  exact Nat.one_le_cast

theorem acquire (h : HoldsTokens l label (n + 1) (m + 1)) :
    HoldsTokens (l.tryAcquire fl label ⟨0, 0, 0⟩).2 label n m := by
  have hglobal : l.GlobalAllows fl (Readings.mk 0 0 0).global := h.globalAllows
  rw [RateLimiter.tryAcquire_of_both hglobal (h.keyAllows_iff.mpr (Nat.le_add_left 1 n))]
  have hspent : ∀ {limit : Limit} {k : Nat}, k + 1 ≤ limit.burst →
      (⟨(k + 1 : Nat), 0⟩ : Bucket).spent fl = ⟨k, 0⟩ := by
    intro limit k hk
    rw [Bucket.spent, Rounding.round_natCast_sub_one (hk.trans limit.burst_le)]
  refine ⟨?_, n.le_succ.trans h.key_le, ?_, m.le_succ.trans h.global_le⟩
  · rw [RateLimiter.bucketFor]
    dsimp only
    rw [Function.update_self, Option.getD_some, h.key, refilled_zero h.key_le, hspent h.key_le]
  · dsimp only
    rw [h.global, refilled_zero h.global_le, hspent h.global_le]

theorem first (h : HoldsTokens l label (n + 1) (m + 1)) (hv : v.counted env = some label)
    (htime : v.readings = ⟨0, 0, 0⟩) (hmade : v.madeWith env b = true)
    (hpath : isRateLimitedPath v.req.path = true) :
    GlobalUnlimited env fl l [v] ∧ refusals env b (l.run fl env [v]) = [false] := by
  have hallows : l.GlobalAllows fl v.readings.global := by
    rw [htime]
    exact h.globalAllows
  have hkey : l.KeyAllows fl label v.readings := by
    rw [htime]
    exact h.keyAllows_iff.mpr (Nat.le_add_left 1 n)
  have hpassed : (l.answer fl env v).1.limited = false := by
    rw [(RateLimiter.answer_of_counted _ _ hv).1, Bool.not_eq_false']
    exact RateLimiter.tryAcquire_isOk.mpr ⟨hallows, hkey⟩
  refine ⟨⟨fun _ => hallows, trivial⟩, ?_⟩
  simp only [refusals, RateLimiter.run, List.filter_cons, hmade, hpath, Bool.and_self, if_true,
    List.filter_nil, List.map_cons, List.map_nil, hpassed]

/-- As many requests as the bucket has tokens, and one more. -/
theorem drain {v w : Incoming} (h : HoldsTokens l label n (n + 1))
    (hv : v.counted env = some label) (hvtime : v.readings = ⟨0, 0, 0⟩)
    (hvb : v.madeWith env b = false)
    (hw : w.counted env = some label) (hwtime : w.readings = ⟨0, 0, 0⟩)
    (hwb : w.madeWith env b = true) (hpath : isRateLimitedPath w.req.path = true) :
    GlobalUnlimited env fl l (List.replicate n v ++ [w]) ∧
      refusals env b (l.run fl env (List.replicate n v ++ [w])) = [true] := by
  induction n generalizing l with
  | zero =>
    have hfree : l.GlobalAllows fl w.readings.global := by
      rw [hwtime]
      exact h.globalAllows
    refine ⟨⟨fun _ => hfree, trivial⟩, ?_⟩
    have hempty : ¬ l.KeyAllows fl label w.readings := by
      rw [hwtime, h.keyAllows_iff]
      exact Nat.not_succ_le_zero 0
    have hlimited : (l.answer fl env w).1.limited = true := by
      rw [(RateLimiter.answer_of_counted _ _ hw).1, Bool.not_eq_true', Bool.eq_false_iff]
      exact fun hok => hempty (RateLimiter.tryAcquire_isOk.mp hok).2
    simp only [refusals, List.replicate_zero, List.nil_append, RateLimiter.run, List.filter_cons,
      hwb, hpath, Bool.and_self, if_true, List.filter_nil, List.map_cons, List.map_nil, hlimited]
  | succ n ih =>
    have hafter : (l.answer fl env v).2 = (l.tryAcquire fl label ⟨0, 0, 0⟩).2 := by
      rw [(RateLimiter.answer_of_counted _ _ hv).2, hvtime]
    obtain ⟨hfree, hrefused⟩ := ih h.acquire
    rw [← hafter] at hfree hrefused
    have hallows : l.GlobalAllows fl v.readings.global := by
      rw [hvtime]
      exact h.globalAllows
    refine ⟨⟨fun _ => hallows, hfree⟩, ?_⟩
    rw [refusals] at hrefused
    simp only [refusals, List.replicate_succ, List.cons_append, RateLimiter.run, List.filter_cons,
      hvb, Bool.false_and, Bool.false_eq_true, if_false, hrefused]

end HoldsTokens

/-- Made when the clock starts, to the first of the limited paths. -/
theorem exists_incoming (h : AuthMiddleware.Accepts env server c) :
    ∃ v : Incoming, v.server = server ∧ v.readings = ⟨0, 0, 0⟩ ∧ v.madeWith env c = true ∧
      isRateLimitedPath v.req.path = true := by
  obtain ⟨req, hreq⟩ := h
  exact ⟨⟨server, { req with path := "/v1/chat/completions" }, ⟨0, 0, 0⟩⟩, rfl, rfl,
    decide_eq_true hreq, rfl⟩

theorem clocked_of_start (h : ∀ v ∈ calls, v.readings = ⟨0, 0, 0⟩) : Clocked calls := by
  refine ⟨List.pairwise_map.mpr (List.pairwise_of_forall_mem_list ?_), ?_⟩
  · intro v hv w hw
    rw [h v hv, h w hw]
  · intro v hv
    rw [h v hv]

/-- Requests with one credential and then one with the other. -/
theorem forall_mem_drained {P : Incoming → Prop} (hv : P v) (hw : P w) :
    ∀ u ∈ List.replicate n v ++ [w], P u := by
  intro u hu
  rcases List.mem_append.mp hu with hu | hu
  · rw [List.eq_of_mem_replicate hu]
    exact hv
  · rw [List.mem_singleton.mp hu]
    exact hw

/-- A credential uses up the bucket of another one with its label. -/
theorem not_isolated_of_eq (hne : a ≠ b) (ha : AuthMiddleware.Accepts env server a)
    (hb : AuthMiddleware.Accepts env server b) (hlabel : a.label server.store = some label)
    (hsame : b.label server.store = some label) (hburst : perKey.burst ≠ 0)
    (henabled : server.ratelimit.enabled = true) : ¬ Isolated env fl server perKey a b := by
  obtain ⟨v, hvserver, hvtime, hva, hvpath⟩ := exists_incoming ha
  obtain ⟨w, hwserver, hwtime, hwb, hwpath⟩ := exists_incoming hb
  have hcounted : ∀ {u : Incoming} {c : Credential}, u.server = server → u.madeWith env c = true →
      isRateLimitedPath u.req.path = true → c.label server.store = some label →
      u.counted env = some label := by
    intro u c huserver hmade hpath hu
    rw [counted_of_madeWith hmade (huserver ▸ hu), huserver, hpath, henabled, Bool.and_self,
      if_pos rfl]
  obtain ⟨n, hn⟩ : ∃ n, perKey.burst.toNat = n + 1 :=
    Nat.exists_eq_add_one_of_ne_zero fun hzero => hburst (UInt32.toNat_inj.mp hzero)
  have htop := perKey.burst.toNat_lt
  let l : RateLimiter :=
    { perKey := fun _ => none
      global := ⟨(n + 2 : Nat), 0⟩
      perKeyLimit := .ofRpm fl perKey.refillPerMinute perKey.burst
      globalLimit := ⟨0, n + 2, le_refl 0, by omega⟩ }
  have hfull : l.perKeyLimit.burst = n + 1 := hn
  have hholds : HoldsTokens l label (n + 1) (n + 2) :=
    ⟨congrArg (fun burst : Nat => Bucket.mk burst 0) hfull, hfull.ge, rfl, le_refl _⟩
  have hw := hcounted hwserver hwb hwpath hsame
  obtain ⟨hfree, hrefused⟩ := hholds.drain (hcounted hvserver hva hvpath hlabel) hvtime
    (not_madeWith_of_ne hva hne.symm) hw hwtime hwb hwpath
  obtain ⟨halone, hpassed⟩ := hholds.first hw hwtime hwb hwpath
  have hremoved : (List.replicate (n + 1) v).filter (fun v => !v.madeWith env a) = [] := by
    apply List.filter_replicate_of_neg
    rw [hva]
    exact Bool.false_ne_true
  have hkept : (List.replicate (n + 1) v ++ [w]).filter (fun v => !v.madeWith env a) =
      [w].filter (fun v => !v.madeWith env a) := by
    rw [List.filter_append, hremoved, List.nil_append]
  have hserver : ∀ u ∈ List.replicate (n + 1) v ++ [w] ++ [w], u.server = server := by
    intro u hu
    rcases List.mem_append.mp hu with hu | hu
    · exact forall_mem_drained (P := fun u => u.server = server) hvserver hwserver u hu
    · rw [List.mem_singleton.mp hu, hwserver]
  have hclocked : Clocked (List.replicate (n + 1) v ++ [w]) :=
    clocked_of_start (forall_mem_drained hvtime hwtime)
  have hclocked' : Clocked [w] := by
    apply clocked_of_start
    intro u hu
    rw [List.mem_singleton.mp hu, hwtime]
  intro hisolated
  have hequal := hisolated l (List.replicate (n + 1) v ++ [w]) [w] rfl rfl hserver hclocked
    hclocked' hfree halone hkept
  rw [hrefused, hpassed] at hequal
  cases hequal

end

namespace Tables

/-- The row is of a key that it keeps the first characters of. -/
def OfKey (tools : StoreTools) (k : ApiKeyRow) : Prop :=
  ∃ plaintext, k.keyHash = tools.sha256Hex plaintext ∧ k.keyPrefix = keyPrefix plaintext

section

variable {tools : StoreTools} {t : Tables}

theorem ofKey_update {f : ApiKeyRow → ApiKeyRow}
    {hf : ∀ k, (f k).id = k.id ∧ (f k).keyHash = k.keyHash ∧ (f k).userId = k.userId}
    (hfront' : ∀ k, (f k).keyPrefix = k.keyPrefix) (h : ∀ k ∈ t.apiKeys.rows, OfKey tools k) :
    ∀ k ∈ (t.updateApiKeys f hf).apiKeys.rows, OfKey tools k := by
  intro k hk
  obtain ⟨a, ha, rfl⟩ := mem_updateApiKeys.mp hk
  obtain ⟨plaintext, hhash, hfront⟩ := h a ha
  exact ⟨plaintext, (hf a).2.1.trans hhash, (hfront' a).trans hfront⟩

theorem ofKey_step (op : StoreOp) (h : ∀ k ∈ t.apiKeys.rows, OfKey tools k) :
    ∀ k ∈ (t.step tools op).apiKeys.rows, OfKey tools k := by
  have hsame : ∀ {t' : Tables}, t'.apiKeys = t.apiKeys → ∀ k ∈ t'.apiKeys.rows, OfKey tools k :=
    fun hkeys k hk => h k (hkeys ▸ hk)
  have hfewer : ∀ {t' : Tables} {p : ApiKeyRow → Bool}, t'.apiKeys = t.apiKeys.deleteWhere p →
      ∀ k ∈ t'.apiKeys.rows, OfKey tools k :=
    fun hkeys k hk => h k (Sql.Table.mem_deleteWhere.mp (hkeys ▸ hk)).1
  cases op with
  | createUser now id email name hashed role =>
    exact hsame (apiKeys_createUser tools t now id email name hashed role)
  | createSession now id token userId userAgent ip ttlHours =>
    exact hsame (apiKeys_createSession tools t now id token userId userAgent ip ttlHours)
  | createApiKey now id plaintext userId name =>
    rcases step_creates tools t (.createApiKey now id plaintext userId name) rfl with
      ⟨created, t', hok, hstep⟩ | ⟨e, -, hstep⟩
    · obtain ⟨row, hinsert, -, -, hhash, hfront, -⟩ := createApiKey_eq_ok hok
      rw [hstep]
      intro k hk
      rcases (Sql.Table.mem_insert hinsert).mp hk with hk | rfl
      · exact h k hk
      · exact ⟨plaintext, hhash, hfront⟩
    · rw [hstep]
      exact h
  | getUserByApiKey now plaintext =>
    rcases step_getUserByApiKey tools t now plaintext with hstep | ⟨id, hstep⟩
    · rw [hstep]
      exact h
    · rw [hstep]
      exact ofKey_update (fun k => by split <;> rfl) h
  | getSession now token => rw [step_getSession]; exact h
  | revokeApiKey keyId =>
    have hstep : t.step tools (.revokeApiKey keyId) = t.revokeApiKey keyId := step_of_ok rfl
    rw [hstep]
    exact ofKey_update (fun k => by split <;> rfl) h
  | deleteApiKey keyId => exact hfewer rfl
  | deleteSession | deleteUserSessions => exact h
  | deleteUser id =>
    obtain ⟨t', hok, -, hkeys, -⟩ := deleteUser_eq_ok t id
    have hstep : t.step tools (.deleteUser id) = t' := step_of_ok hok
    rw [hstep]
    exact hfewer hkeys

theorem ofKey_run (ops : List StoreOp) : ∀ k ∈ (run tools ops).apiKeys.rows, OfKey tools k := by
  induction ops using List.reverseRecOn with
  | nil => exact fun k hk => absurd hk List.not_mem_nil
  | append_singleton front op ih =>
    rw [run_concat]
    exact ofKey_step op ih

/-- The store knows a key of a user by its first characters. -/
theorem label_apiKey (hsha : Function.Injective tools.sha256Hex) (ops : List StoreOp)
    (h : (Credential.apiKey token).label ((run tools ops).userStore tools now) = some label) :
    label = keyPrefix token := by
  obtain ⟨⟨user, front⟩, hfound, rfl⟩ := Option.map_eq_some_iff.mp h
  simp only [userStore] at hfound
  split at hfound
  · rename_i record key hlookup
    cases hfound
    obtain ⟨k, r, hmem, hfront, -⟩ :=
      (getUserByApiKey_eq_some tools _ now token record.toUser key.keyPrefix).mp
        ⟨record, key, hlookup, rfl, rfl⟩
    obtain ⟨⟨hk, hhash, -⟩, -⟩ := mem_selectApiKey.mp hmem
    obtain ⟨plaintext, hof, hfront'⟩ := ofKey_run ops k hk
    rw [← hfront, hfront', hsha (hof.symm.trans hhash)]
  · cases hfound

end

end Tables

/-- Two credentials are isolated exactly when they have different labels, or nothing is ever let
through, or no limit is set. The label of a key that a store has issued is its first twelve
characters; the keys of the configuration all have the same. -/
theorem isolated_iff (fl : Rounding 53) {env : String → Option String} {server : Server}
    {a b : Credential}
    (hne : a ≠ b) (ha : AuthMiddleware.Accepts env server a)
    (hb : AuthMiddleware.Accepts env server b) (perKey : RateLimitBucket) :
    (Isolated env fl server perKey a b ↔
      a.label server.store ≠ b.label server.store ∨ perKey.burst = 0 ∨
        server.ratelimit.enabled = false) ∧
    (∀ key, (Credential.configured key).label server.store = some "anonymous") ∧
    ∀ tools ops now token label, Function.Injective tools.sha256Hex →
      (Credential.apiKey token).label ((Tables.run tools ops).userStore tools now) = some label →
        label = String.ofList (token.toList.take 12) := by
  obtain ⟨req, hreq⟩ := ha
  obtain ⟨req', hreq'⟩ := hb
  obtain ⟨ctx, -, hlabel⟩ := AuthMiddleware.middleware_of_credential hreq
  obtain ⟨ctx', -, hlabel'⟩ := AuthMiddleware.middleware_of_credential hreq'
  refine ⟨⟨?_, ?_⟩, fun _ => rfl,
    fun tools ops now token label hsha h => Tables.label_apiKey hsha ops h⟩
  · intro hisolated
    by_contra hnone
    rw [not_or, not_not, not_or, Bool.not_eq_false] at hnone
    obtain ⟨hsame, hburst, henabled⟩ := hnone
    exact not_isolated_of_eq hne ⟨req, hreq⟩ ⟨req', hreq'⟩ hlabel (hsame ▸ hlabel) hburst henabled
      hisolated
  · intro h
    cases henabled : server.ratelimit.enabled with
    | false => exact isolated_of_const hne hlabel' (.inr henabled)
    | true =>
      rcases h with hdiffer | hburst | hdisabled
      · rw [hlabel, hlabel'] at hdiffer
        exact isolated_of_ne hlabel hlabel' (fun h => hdiffer (congrArg some h)) henabled
      · exact isolated_of_const hne hlabel' (.inl hburst)
      · exact isolated_of_const hne hlabel' (.inr hdisabled)

section Samples

/-- A server with one key of a user and two keys in its configuration. -/
def sampleServer : Server where
  store := (Tables.run Tables.sampleStoreTools Tables.sampleOps).userStore Tables.sampleStoreTools
    Tables.sampleNow
  auth := { keys := [⟨"alpha", "first"⟩, ⟨"beta", "second"⟩] }
  ratelimit := {}

def bearerRequest (token : String) : AuthRequest where
  authorization := some ("Bearer " ++ token)
  method := "POST"
  path := "/v1/chat/completions"

theorem accepts_sampleKey :
    AuthMiddleware.Accepts noEnv sampleServer (.apiKey Tables.sampleKey) :=
  ⟨bearerRequest Tables.sampleKey, by decide +kernel⟩

theorem accepts_alpha : AuthMiddleware.Accepts noEnv sampleServer (.configured "alpha") :=
  ⟨bearerRequest "alpha", by decide +kernel⟩

theorem accepts_beta : AuthMiddleware.Accepts noEnv sampleServer (.configured "beta") :=
  ⟨bearerRequest "beta", by decide +kernel⟩

/-- The key of the user has a bucket of its own. -/
theorem isolated_sample :
    Isolated noEnv .binary64 sampleServer ⟨60, 1⟩ (.configured "alpha")
      (.apiKey Tables.sampleKey) := by
  refine (isolated_iff .binary64 ?_ accepts_alpha accepts_sampleKey ⟨60, 1⟩).1.mpr (.inl ?_)
  · exact Credential.noConfusion
  · decide +kernel

/-- The two keys of the configuration share one. -/
theorem configured_not_isolated :
    AuthMiddleware.Accepts noEnv sampleServer (.configured "alpha") ∧
    AuthMiddleware.Accepts noEnv sampleServer (.configured "beta") ∧
    Credential.configured "alpha" ≠ .configured "beta" ∧
    ¬ Isolated noEnv .binary64 sampleServer ⟨60, 1⟩ (.configured "alpha")
      (.configured "beta") := by
  have hne : Credential.configured "alpha" ≠ .configured "beta" := by decide
  exact ⟨accepts_alpha, accepts_beta, hne, not_isolated_of_eq hne accepts_alpha accepts_beta rfl rfl
    (by decide) rfl⟩

end Samples

end TokenDealer
