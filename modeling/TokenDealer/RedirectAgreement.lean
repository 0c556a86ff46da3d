import TokenDealer.AdminFrame
import TokenDealer.Query

set_option autoImplicit true

namespace TokenDealer

theorem isUnreserved_ofNat : ∀ n < 256, isUnreserved (UInt8.ofNat n) = true →
    n < 0x80 ∧ Char.ofNat n ∉ ['%', '+', '&', '='] := by
  decide +kernel

/-- The bytes that the encoding of the logins leaves alone. -/
def unreservedBytes : Query.Unescaped where
  mem := isUnreserved
  ascii b hb := (isUnreserved_ofNat b.toNat b.toNat_lt (by rwa [UInt8.ofNat_toNat])).1
  plain b hb := (isUnreserved_ofNat b.toNat b.toNat_lt (by rwa [UInt8.ofNat_toNat])).2

theorem urlencoding_eq (s : String) : urlencoding s = unreservedBytes.escape s := rfl

/-- The names that values are sent under. -/
def memberKeys : List String :=
  ["response_type", "client_id", "client_secret", "redirect_uri", "state", "scope", "code",
    "code_challenge", "code_challenge_method", "code_verifier", "grant_type", "device_code"]

/-- The names stand for themselves, and so do the values that are always the same. -/
theorem urlencoding_key : ∀ key ∈ "S256" :: memberKeys, urlencoding key = key := by
  decide +kernel

theorem member_eq (key : String) (hkey : key ∈ memberKeys) (value : String) :
    unreservedBytes.member (key, value) = key ++ "=" ++ urlencoding value := by
  rw [Query.Unescaped.member, ← urlencoding_eq, ← urlencoding_eq,
    urlencoding_key key (List.mem_cons_of_mem _ hkey)]

theorem member_responseType :
    unreservedBytes.member ("response_type", "code") = "response_type=code" := by
  rw [member_eq "response_type" (by decide), urlencoding_key "code" (by decide)]
  rfl

theorem member_challengeMethod :
    unreservedBytes.member ("code_challenge_method", "S256") = "code_challenge_method=S256" := by
  rw [member_eq "code_challenge_method" (by decide), urlencoding_key "S256" (by decide)]
  rfl

theorem concat_extra (extra : List (String × String)) :
    Str.concat (extra.map fun q => "&" ++ unreservedBytes.member q) =
      Str.concat (extra.map fun (k, v) => "&" ++ urlencoding k ++ "=" ++ urlencoding v) := by
  have hmember : (fun q => "&" ++ unreservedBytes.member q) =
      fun q : String × String => "&" ++ urlencoding q.1 ++ "=" ++ urlencoding q.2 := by
    funext q
    simp only [Query.Unescaped.member, urlencoding_eq, String.append_assoc]
  rw [hmember]

theorem concat_pkce (requiresPkce : Bool) (challenge : String) :
    Str.concat ((if requiresPkce then
      [("code_challenge", challenge), ("code_challenge_method", "S256")] else []).map
        fun q => "&" ++ unreservedBytes.member q) =
      if requiresPkce then
        "&code_challenge=" ++ urlencoding challenge ++ "&code_challenge_method=S256"
      else "" := by
  split
  · rw [List.map_cons, List.map_singleton, Str.concat_cons, member_challengeMethod,
      member_eq "code_challenge" (by decide), ← String.append_assoc, ← String.append_assoc]
    rfl
  · rfl

namespace ManifestOAuthFlow

/-- The members of the query that a login begins with. -/
def authorizeParams (cfg : ManifestOAuthFlow) (redirectUri state challenge : String) :
    List (String × String) :=
  let scope :=
    if cfg.scope = "" then "openid profile email offline_access" else Str.replace cfg.scope " " "+"
  [("response_type", "code"), ("client_id", cfg.clientId),
    ("redirect_uri", cfg.effectiveRedirect redirectUri), ("state", state), ("scope", scope)] ++
    cfg.extraAuthorizeParams ++
    if cfg.requiresPkce then
      [("code_challenge", challenge), ("code_challenge_method", "S256")]
    else []

theorem buildAuthorizeUrl_eq (cfg : ManifestOAuthFlow) (redirectUri state challenge : String) :
    cfg.buildAuthorizeUrl redirectUri state challenge =
      cfg.authorizeUrl ++ "?" ++
        unreservedBytes.render (cfg.authorizeParams redirectUri state challenge) := by
  have hclient := member_eq "client_id" (by decide)
  have hredirect := member_eq "redirect_uri" (by decide)
  have hstate := member_eq "state" (by decide)
  have hscope := member_eq "scope" (by decide)
  have hopen : "?response_type=code&client_id=" =
      "?" ++ ("response_type=code" ++ ("&" ++ ("client_id" ++ "="))) := rfl
  have hredirectUri : "&redirect_uri=" = "&" ++ ("redirect_uri" ++ "=") := rfl
  have hstateIs : "&state=" = "&" ++ ("state" ++ "=") := rfl
  have hscopeIs : "&scope=" = "&" ++ ("scope" ++ "=") := rfl
  rw [buildAuthorizeUrl, authorizeParams, List.append_assoc, List.cons_append,
    Query.Unescaped.render_cons, member_responseType]
  simp only [List.cons_append, List.nil_append, List.map_cons, List.map_append, Str.concat_cons,
    Str.concat_append, hclient, hredirect, hstate, hscope, concat_pkce,
    concat_extra cfg.extraAuthorizeParams]
  simp only [hopen, hredirectUri, hstateIs, hscopeIs, String.append_assoc]

/-- The address reads back as its members. -/
theorem params_buildAuthorizeUrl {cfg : ManifestOAuthFlow} (hbase : '?' ∉ cfg.authorizeUrl.toList)
    (redirectUri state challenge : String) :
    Query.params (cfg.buildAuthorizeUrl redirectUri state challenge) =
      cfg.authorizeParams redirectUri state challenge := by
  rw [buildAuthorizeUrl_eq]
  exact unreservedBytes.params_render hbase _ _

theorem param_buildAuthorizeUrl {cfg : ManifestOAuthFlow} (hbase : '?' ∉ cfg.authorizeUrl.toList)
    (redirectUri state challenge : String) :
    Query.param "redirect_uri" (cfg.buildAuthorizeUrl redirectUri state challenge) =
      some (cfg.effectiveRedirect redirectUri) := by
  rw [Query.param, params_buildAuthorizeUrl hbase]
  rfl

end ManifestOAuthFlow

theorem Manifest.authorizeUrl_plain (h : Manifest.lookupOauth p = some cfg) :
    '?' ∉ cfg.authorizeUrl.toList := by
  rw [Manifest.lookupOauth] at h
  obtain ⟨providerType, -, hflow⟩ := Option.bind_eq_some_iff.mp h
  cases providerType <;> cases hflow <;> decide

def HttpPost.formField (key : String) (req : HttpPost) : Option String :=
  match req.body with
  | .form fields => (fields.find? fun p => p.1 = key).map Prod.snd
  | _ => none

/-- The request that a code is exchanged with. -/
def exchangeRequest (w : FlowWorld) (cfg : ManifestOAuthFlow) (providerId code redirectUri : String)
    (verifier : Option String) : HttpPost where
  url := cfg.tokenUrl
  headers := formHeaders
  body := .form (exchangeForm w cfg providerId code redirectUri verifier)

/-- The request that a completion asks the token endpoint with, when its state is one that is
pending for the provider. -/
def completeRequest (w : FlowWorld) (providerId code state redirectUri : String) (s : OAuthStore) :
    Option HttpPost :=
  if s.pending.states state ≠ some providerId then none
  else
    (Manifest.lookupOauth providerId).map fun cfg =>
      exchangeRequest w cfg providerId code redirectUri (s.pending.pkceVerifiers state)

theorem exchangeCode_congr (w : FlowWorld) (cfg : ManifestOAuthFlow)
    (p code redirectUri : String) (verifier : Option String)
    (post : HttpPost → Except String TokenReply)
    (hpost : post (exchangeRequest w cfg p code redirectUri verifier) =
      w.post (exchangeRequest w cfg p code redirectUri verifier)) :
    exchangeCode { w with post := post } cfg p code redirectUri verifier =
      exchangeCode w cfg p code redirectUri verifier := by
  change (post (exchangeRequest w cfg p code redirectUri verifier) >>= _) =
    (w.post (exchangeRequest w cfg p code redirectUri verifier) >>= _)
  rw [hpost]
  rfl

/-- What the token endpoint says to any other request does not matter. -/
theorem completePopupOauth_congr (w : FlowWorld) (p code state redirectUri : String)
    (s : OAuthStore) (post : HttpPost → Except String TokenReply)
    (hpost : ∀ req, completeRequest w p code state redirectUri s = some req →
      post req = w.post req) :
    completePopupOauth { w with post := post } p code state redirectUri s =
      completePopupOauth w p code state redirectUri s := by
  rw [completeRequest] at hpost
  rw [completePopupOauth, completePopupOauth]
  cases hstate : s.pending.states state with
  | none => rfl
  | some expected =>
    dsimp only
    by_cases hexpected : expected = p
    · subst hexpected
      rw [hstate, if_neg (not_not_intro rfl)] at hpost
      cases hcfg : Manifest.lookupOauth expected with
      | none => rfl
      | some cfg =>
        have hsame := exchangeCode_congr w cfg expected code redirectUri
          (s.pending.pkceVerifiers state) post (hpost _ (congrArg _ hcfg))
        dsimp only
        rw [if_neg (not_not_intro rfl), if_neg (not_not_intro rfl), hsame]
        rfl
    · rw [if_pos hexpected, if_pos hexpected]

/-- The request is sent: where it fails, so does the completion. -/
theorem completePopupOauth_asks {w : FlowWorld} {p code state redirectUri : String}
    {s : OAuthStore} (hreq : completeRequest w p code state redirectUri s = some req)
    (hpost : w.post req = .error e) :
    (completePopupOauth w p code state redirectUri s).1 = .error e := by
  rw [completeRequest] at hreq
  split at hreq
  · cases hreq
  · next hstate =>
    obtain ⟨cfg, hcfg, rfl⟩ := Option.map_eq_some_iff.mp hreq
    have hexchange : exchangeCode w cfg p code redirectUri (s.pending.pkceVerifiers state) =
        .error e := by
      change (w.post (exchangeRequest w cfg p code redirectUri _) >>= _) = _
      rw [hpost]
      rfl
    rw [completePopupOauth, not_not.mp hstate]
    dsimp only
    rw [if_neg (not_not_intro rfl), hcfg]
    dsimp only
    rw [hexchange]

/-- The address that a start gives to the user, in a redirect or in an answer. -/
def AdminReply.authorizeUrl : AdminReply → Option String
  | .redirect url => some url
  | .json response => response.body.getStr "authorize_url"
  | _ => none

/-- The request that a callback asks the token endpoint with. -/
def Admin.callbackRequest (w : FlowWorld) (cfg : RouterConfig) (providerId : String)
    (params : String → Option String) (s : OAuthStore) : Option HttpPost :=
  completeRequest w providerId ((params "code").getD "") ((params "state").getD "")
    (rebuildRedirectUri cfg.configRedirect providerId) s

/-- The callback of a start can be told from the configuration: the manifest has one for the
provider, or the start has not been asked for another than the configured one. -/
def RedirectStands (cfg : RouterConfig) (providerId : String) (body : Option Json.Value) : Prop :=
  (∃ flow, Manifest.lookupOauth providerId = some flow ∧ flow.redirectUri ≠ "") ∨
    ∀ uri, (body.bind fun b => b.getStr "redirect_uri") = some uri →
      uri = rebuildRedirectUri cfg.configRedirect providerId

theorem Admin.startRedirect_eq_iff {cfg : RouterConfig} {p : String} {body : Option Json.Value} :
    startRedirect cfg p body = rebuildRedirectUri cfg.configRedirect p ↔
      ∀ uri, (body.bind fun b => b.getStr "redirect_uri") = some uri →
        uri = rebuildRedirectUri cfg.configRedirect p := by
  rw [startRedirect]
  cases body.bind fun b => b.getStr "redirect_uri" with
  | none => exact iff_of_true rfl nofun
  | some uri => exact ⟨fun h uri' huri' => by cases huri'; exact h, fun h => h uri rfl⟩

theorem effectiveRedirect_eq_iff {cfg : ManifestOAuthFlow} {a b : String} :
    cfg.effectiveRedirect a = cfg.effectiveRedirect b ↔ cfg.redirectUri ≠ "" ∨ a = b := by
  rw [ManifestOAuthFlow.effectiveRedirect, ManifestOAuthFlow.effectiveRedirect]
  by_cases hcfg : cfg.redirectUri = ""
  · rw [if_pos hcfg, if_pos hcfg, or_iff_right (not_not_intro hcfg)]
  · rw [if_neg hcfg, if_neg hcfg]
    exact iff_of_true rfl (.inl hcfg)

theorem lookupOauth_of_popupConfig (h : popupConfig p = .ok flow) :
    Manifest.lookupOauth p = some flow := by
  rw [popupConfig] at h
  cases hlookup : Manifest.lookupOauth p with
  | none =>
    rw [hlookup] at h
    cases h
  | some cfg =>
    rw [hlookup] at h
    dsimp only at h
    split at h
    · cases h
    · split at h
      · cases h
      · cases h
        rfl

/-- The address of a start has the callback that the manifest or the start says. -/
theorem Admin.param_startOauth {w : FlowWorld} {cfg : RouterConfig} {pending : PendingFlows}
    (hurl : (startOauth w cfg p body pending).1.authorizeUrl = some url) :
    ∃ flow, Manifest.lookupOauth p = some flow ∧
      Query.param "redirect_uri" url =
        some (flow.effectiveRedirect (startRedirect cfg p body)) := by
  rw [startOauth] at hurl
  cases hconfig : popupConfig p with
  | error e =>
    rw [startPopupOauth_error w hconfig] at hurl
    cases hurl
  | ok flow =>
    have hflow := lookupOauth_of_popupConfig hconfig
    rw [startPopupOauth_ok w hconfig] at hurl
    refine ⟨flow, hflow, ?_⟩
    have hurl' : flow.buildAuthorizeUrl (startRedirect cfg p body) (popupState w p)
        (pkceChallengeS256 w.sha256 w.generatePkceVerifier) = url := by
      cases body <;> exact Option.some.inj hurl
    rw [← hurl']
    exact ManifestOAuthFlow.param_buildAuthorizeUrl (Manifest.authorizeUrl_plain hflow) _ _ _

theorem Admin.formField_callbackRequest {w : FlowWorld} {cfg : RouterConfig} {s : OAuthStore}
    (hreq : callbackRequest w cfg p params s = some req) :
    ∃ flow, Manifest.lookupOauth p = some flow ∧
      req.formField "redirect_uri" =
        some (flow.effectiveRedirect (rebuildRedirectUri cfg.configRedirect p)) := by
  rw [callbackRequest, completeRequest] at hreq
  split at hreq
  · cases hreq
  · obtain ⟨flow, hflow, rfl⟩ := Option.map_eq_some_iff.mp hreq
    exact ⟨flow, hflow, rfl⟩

theorem RouterState.onPending_fst (s : RouterState)
    (f : PendingFlows → AdminReply × PendingFlows) : (s.onPending f).1 = (f s.oauth.pending).1 := by
  rw [onPending]

/-- A start, and later a callback with its state while the configuration is the same: the token
endpoint is sent the callback of the address exactly where it can be told from the configuration. -/
theorem redirect_uri_agrees_iff (w w' : AdminWorld) (caller : UserContext) (s s' : RouterState)
    (p q : String) (body : Option Json.Value) (params : String → Option String)
    (hurl : ((AdminRequest.startOauth p body).handle w caller s).1.authorizeUrl = some url)
    (hconfig : s'.app.config.memory = s.app.config.memory)
    (hstate : params "state" = some (popupState w.flow p))
    (hpending : s'.oauth.pending.states (popupState w.flow p) = some p)
    (hasked : Admin.callbackRequest w'.flow s'.app.config.memory q params s'.oauth = some req) :
    req.formField "redirect_uri" = Query.param "redirect_uri" url ↔
      RedirectStands s.app.config.memory p body := by
  have hq : q = p := by
    rw [Admin.callbackRequest, hstate, completeRequest] at hasked
    split at hasked
    · cases hasked
    · next howner =>
      rw [not_not, Option.getD_some, hpending] at howner
      exact (Option.some.inj howner).symm
  subst hq
  rw [hconfig] at hasked
  rw [AdminRequest.handle, RouterState.onPending_fst] at hurl
  obtain ⟨flow, hflow, hparam⟩ := Admin.param_startOauth hurl
  obtain ⟨flow', hflow', hfield⟩ := Admin.formField_callbackRequest hasked
  cases hflow.symm.trans hflow'
  have hagree : flow.effectiveRedirect (rebuildRedirectUri s.app.config.memory.configRedirect q) =
      flow.effectiveRedirect (Admin.startRedirect s.app.config.memory q body) ↔
      flow.redirectUri ≠ "" ∨ ∀ uri, (body.bind fun b => b.getStr "redirect_uri") = some uri →
        uri = rebuildRedirectUri s.app.config.memory.configRedirect q :=
    effectiveRedirect_eq_iff.trans (or_congr_right (eq_comm.trans Admin.startRedirect_eq_iff))
  rw [hfield, hparam, Option.some_inj, hagree, RedirectStands, hflow]
  simp only [Option.some.injEq, exists_eq_left']

section Samples

open RouterState

/-- What the page of the providers sends when its button is pressed. -/
def pageBody : Json.Value :=
  .object [("redirect_uri", .string "http://localhost:8080/admin/oauth/openai/callback")]

def startLogin (body : Option Json.Value) : AdminReply × RouterState :=
  (AdminRequest.startOauth "openai" body).handle sampleAdminWorld AuthMiddleware.legacyContext
    sampleRouter

/-- What the provider sends the user back with. -/
def returned (key : String) : Option String :=
  if key = "code" then some "ac-1"
  else if key = "state" then some (popupState sampleFlowWorld "openai")
  else none

def askedBack (body : Option Json.Value) : Option HttpPost :=
  let s := (startLogin body).2
  Admin.callbackRequest sampleFlowWorld s.app.config.memory "openai" returned s.oauth

theorem lookupOauth_openai : Manifest.lookupOauth "openai" = some Manifest.openaiFlow := by
  decide +kernel

/-- Without a body both ends go by the configuration. -/
theorem redirect_uri_agrees_configured :
    ∃ url req, (startLogin none).1.authorizeUrl = some url ∧ askedBack none = some req ∧
      req.formField "redirect_uri" = Query.param "redirect_uri" url :=
  ⟨_, _, rfl, rfl, (redirect_uri_agrees_iff sampleAdminWorld sampleAdminWorld
    AuthMiddleware.legacyContext sampleRouter (startLogin none).2 "openai" "openai" none returned
    rfl rfl rfl rfl rfl).mpr (.inr nofun)⟩

/-- The page asks for its own address, which the callback does not know. -/
theorem page_redirect_forgotten :
    ∃ url req, (startLogin (some pageBody)).1.authorizeUrl = some url ∧
      askedBack (some pageBody) = some req ∧
      Query.param "redirect_uri" url = some "http://localhost:8080/admin/oauth/openai/callback" ∧
      req.formField "redirect_uri" = some "/admin/oauth/openai/callback" := by
  refine ⟨_, _, rfl, rfl, ?_, ?_⟩
  · have hurl : (Admin.startOauth sampleFlowWorld sampleRouter.app.config.memory "openai"
        (some pageBody) sampleRouter.oauth.pending).1.authorizeUrl = some _ := rfl
    obtain ⟨flow, hflow, hparam⟩ := Admin.param_startOauth hurl
    cases hflow.symm.trans lookupOauth_openai
    exact hparam
  · have hreq : askedBack (some pageBody) = some _ := rfl
    obtain ⟨flow, hflow, hfield⟩ := Admin.formField_callbackRequest hreq
    cases hflow.symm.trans lookupOauth_openai
    exact hfield

end Samples

end TokenDealer
