import Mathlib.Tactic.SplitIfs
import TokenDealer.RedirectAgreement

set_option autoImplicit true

namespace TokenDealer

namespace LoginCli

/-- A provider as the command line knows it. -/
structure ProviderOAuth where
  clientId : String
  authorizeUrl : String
  tokenUrl : String
  scope : String
  scopeOverride : Option String := none
  extraParams : List (String × String) := []
  requiresPkce : Bool
  clientSecret : Option String := none
  deriving DecidableEq, Repr

def openaiProvider : ProviderOAuth where
  clientId := "app_EMoamEEZ73f0CkXaXp7hrann"
  authorizeUrl := "https://auth.openai.com/oauth/authorize"
  tokenUrl := "https://auth.openai.com/oauth/token"
  scope := "openid profile email offline_access"
  requiresPkce := true

/-- The secret is the one of the environment, unless it is empty. -/
def googleProvider (env : String → Option String) : ProviderOAuth where
  clientId := "681255809395-oo8ft2oprdrnp9e3aqf6av3hmi99ikee6.apps.googleusercontent.com"
  authorizeUrl := "https://accounts.google.com/o/oauth2/v2/auth"
  tokenUrl := "https://oauth2.googleapis.com/token"
  scope := "https://www.googleapis.com/auth/cloud-platform " ++
    "https://www.googleapis.com/auth/userinfo.email " ++
    "https://www.googleapis.com/auth/userinfo.profile openid"
  extraParams := [("access_type", "offline"), ("prompt", "consent")]
  requiresPkce := true
  clientSecret := (env "GOOGLE_OAUTH_CLIENT_SECRET").filter (· ≠ "")

def xaiProvider : ProviderOAuth where
  clientId := "b1a00492-073a-47ea-816f-4c329264a828"
  authorizeUrl := "https://auth.x.ai/oauth2/authorize"
  tokenUrl := "https://auth.x.ai/oauth2/token"
  scope := "openid profile email offline_access grok-cli:access api:access"
  requiresPkce := true

/-- The providers whose login the server drives have no address to begin at. -/
def lookupProvider (env : String → Option String) (provider : String) : Option ProviderOAuth :=
  if provider = "openai" ∨ provider = "responses" then some openaiProvider
  else if provider = "google" ∨ provider = "gemini" then some (googleProvider env)
  else if provider = "xai" ∨ provider = "grok" then some xaiProvider
  else if provider = "github-copilot" then some {
    clientId := "Iv1.b507a08c87ecfe98"
    authorizeUrl := ""
    tokenUrl := "https://github.com/login/oauth/access_token"
    scope := "read:user"
    requiresPkce := false }
  else if provider = "kiro" then some {
    clientId := "Manifest"
    authorizeUrl := ""
    tokenUrl := "https://oidc.us-east-1.amazonaws.com/token"
    scope := "codewhisperer:completions codewhisperer:conversations"
    requiresPkce := false }
  else if provider = "minimax" then some {
    clientId := "78257093-7e40-4613-99e0-527b14b39113"
    authorizeUrl := ""
    tokenUrl := "https://account.minimax.io/oauth2/token"
    scope := "group_id profile model.completion"
    requiresPkce := true }
  else if provider = "anthropic" then some {
    clientId := "9d1c250a-e61b-44d9-88ed-5944d1962f5e"
    authorizeUrl := "https://claude.ai/oauth/authorize"
    tokenUrl := "https://api.anthropic.com/v1/oauth/token"
    scope := "org:create_api_key user:profile user:inference"
    requiresPkce := true }
  else none

/-- The providers whose login begins at an address. -/
theorem lookupProvider_address (h : lookupProvider env p = some cli)
    (haddress : cli.authorizeUrl ≠ "") :
    (p = "openai" ∨ p = "responses") ∧ cli = openaiProvider ∨
      (p = "google" ∨ p = "gemini") ∧ cli = googleProvider env ∨
      (p = "xai" ∨ p = "grok") ∧ cli = xaiProvider ∨ p = "anthropic" := by
  rw [lookupProvider] at h
  split_ifs at h with hopenai hgoogle hxai hcopilot hkiro hminimax hanthropic
  · exact .inl ⟨hopenai, (Option.some.inj h).symm⟩
  · exact .inr (.inl ⟨hgoogle, (Option.some.inj h).symm⟩)
  · exact .inr (.inr (.inl ⟨hxai, (Option.some.inj h).symm⟩))
  · cases h
    exact absurd rfl haddress
  · cases h
    exact absurd rfl haddress
  · cases h
    exact absurd rfl haddress
  · exact .inr (.inr (.inr hanthropic))

def urlenc (s : String) : String :=
  String.ofList ((Utf8.encode s.toList).flatMap urlencodeByte)

namespace ProviderOAuth

variable (cfg : ProviderOAuth) (callbackUrl state challenge : String)

def sentScope : String := cfg.scopeOverride.getD cfg.scope

/-- The address that a login on the user's machine begins at. -/
def popupUrl : String :=
  cfg.authorizeUrl ++ "?response_type=code&client_id=" ++ urlenc cfg.clientId ++
    "&redirect_uri=" ++ urlenc callbackUrl ++ "&scope=" ++ urlenc cfg.sentScope ++
    "&state=" ++ urlenc state ++
    (if cfg.requiresPkce then
      "&code_challenge=" ++ urlenc challenge ++ "&code_challenge_method=S256"
    else "") ++
    Str.concat (cfg.extraParams.map fun (k, v) => "&" ++ urlenc k ++ "=" ++ urlenc v)

/-- The members of its query. -/
def popupParams : List (String × String) :=
  [("response_type", "code"), ("client_id", cfg.clientId), ("redirect_uri", callbackUrl),
    ("scope", cfg.sentScope), ("state", state)] ++
    (if cfg.requiresPkce then
      [("code_challenge", challenge), ("code_challenge_method", "S256")]
    else []) ++
    cfg.extraParams

theorem popupUrl_eq :
    cfg.popupUrl callbackUrl state challenge =
      cfg.authorizeUrl ++ "?" ++
        unreservedBytes.render (cfg.popupParams callbackUrl state challenge) := by
  have hclient := member_eq "client_id" (by decide)
  have hredirect := member_eq "redirect_uri" (by decide)
  have hstate := member_eq "state" (by decide)
  have hscope := member_eq "scope" (by decide)
  have hopen : "?response_type=code&client_id=" =
      "?" ++ ("response_type=code" ++ ("&" ++ ("client_id" ++ "="))) := rfl
  have hredirectUri : "&redirect_uri=" = "&" ++ ("redirect_uri" ++ "=") := rfl
  have hstateIs : "&state=" = "&" ++ ("state" ++ "=") := rfl
  have hscopeIs : "&scope=" = "&" ++ ("scope" ++ "=") := rfl
  have hencode : urlenc = urlencoding := rfl
  rw [popupUrl, hencode, popupParams, List.append_assoc, List.cons_append,
    Query.Unescaped.render_cons, member_responseType]
  simp only [List.cons_append, List.nil_append, List.map_cons, List.map_append, Str.concat_cons,
    Str.concat_append, hclient, hredirect, hstate, hscope, concat_pkce,
    concat_extra cfg.extraParams]
  simp only [hopen, hredirectUri, hstateIs, hscopeIs, String.append_assoc]

theorem params_popupUrl (h : '?' ∉ cfg.authorizeUrl.toList) :
    Query.params (cfg.popupUrl callbackUrl state challenge) =
      cfg.popupParams callbackUrl state challenge := by
  rw [popupUrl_eq]
  exact unreservedBytes.params_render h _ _

end ProviderOAuth

end LoginCli

end TokenDealer
