import TokenDealer.Manifest

set_option autoImplicit true

namespace TokenDealer

/-- What the manifest says of a provider's login besides the endpoint for refreshes. -/
structure ManifestOAuthFlow extends ManifestOAuth where
  authorizeUrl : String := ""
  deviceCodeUrl : String := ""
  pasteCodeRedirectUrl : String := ""
  clientSecret : String := ""
  scope : String
  redirectUri : String := ""
  extraAuthorizeParams : List (String × String) := []
  requiresPkce : Bool := false
  isAnthropicPasteCode : Bool := false
  deviceResponseCamelcase : Bool := false
  deriving DecidableEq, Repr

namespace Manifest

def openaiFlow : ManifestOAuthFlow where
  toManifestOAuth := openaiOAuth
  authorizeUrl := "https://auth.openai.com/oauth/authorize"
  scope := "openid profile email offline_access"
  requiresPkce := true

def oauthFlow : ProviderType → Option ManifestOAuthFlow
  | .anthropic => some {
      authorizeUrl := "https://claude.ai/oauth/authorize"
      tokenUrl := "https://api.anthropic.com/v1/oauth/token"
      pasteCodeRedirectUrl := "https://console.anthropic.com/oauth/code/callback"
      clientId := "9d1c250a-e61b-44d9-88ed-5944d1962f5e"
      scope := "org:create_api_key user:profile user:inference"
      requiresPkce := true
      isAnthropicPasteCode := true }
  | .google => some {
      authorizeUrl := "https://accounts.google.com/o/oauth2/v2/auth"
      tokenUrl := "https://oauth2.googleapis.com/token"
      clientId :=
        "681255809395-oo8ft2oprdrnp9e3aqf6av3hmi99ikee6.apps.googleusercontent.com"
      scope := "https://www.googleapis.com/auth/cloud-platform " ++
        "https://www.googleapis.com/auth/userinfo.email " ++
        "https://www.googleapis.com/auth/userinfo.profile openid"
      extraAuthorizeParams := [("access_type", "offline"), ("prompt", "consent"),
        ("include_granted_scopes", "true")]
      requiresPkce := true }
  | .kiro => some {
      tokenUrl := "https://oidc.us-east-1.amazonaws.com/token"
      deviceCodeUrl := "https://oidc.us-east-1.amazonaws.com/device_authorization"
      clientId := "Manifest"
      scope := "codewhisperer:completions codewhisperer:conversations" }
  | .responses => some openaiFlow
  | .openai => some openaiFlow
  | .xai => some {
      authorizeUrl := "https://auth.x.ai/oauth2/authorize"
      tokenUrl := "https://auth.x.ai/oauth2/token"
      clientId := "b1a00492-073a-47ea-816f-4c329264a828"
      scope := "openid profile email offline_access grok-cli:access api:access"
      redirectUri := "http://127.0.0.1:1455/callback"
      requiresPkce := true }
  | .minimax => some {
      tokenUrl := "https://account.minimax.io/oauth2/token"
      deviceCodeUrl := "https://account.minimax.io/oauth2/device/code"
      clientId := "78257093-7e40-4613-99e0-527b14b39113"
      scope := "group_id profile model.completion"
      deviceResponseCamelcase := true }
  | .githubCopilot => some {
      authorizeUrl := "https://github.com/login/oauth/authorize"
      tokenUrl := "https://github.com/login/oauth/access_token"
      deviceCodeUrl := "https://github.com/login/device/code"
      clientId := "Iv1.b507a08c87ecfe98"
      scope := "read:user" }
  | _ => none

/-- The two tables speak of the same logins. -/
theorem oauthFlow_toManifestOAuth (providerType : ProviderType) :
    (oauthFlow providerType).map ManifestOAuthFlow.toManifestOAuth =
      (lookup providerType).bind ManifestProvider.oauth := by
  cases providerType <;> rfl

def lookupOauth (providerId : String) : Option ManifestOAuthFlow :=
  (resolveAlias providerId).bind oauthFlow

end Manifest

end TokenDealer
