import TokenDealer.ManifestOauth
import TokenDealer.Oauth
import TokenDealer.OauthEncoding

set_option autoImplicit true

/-- A text member that an answer has to have. -/
def Json.Value.requireStr (v : Json.Value) (key missing : String) : Except String String :=
  match v.getStr key with
  | some s => .ok s
  | none => .error missing

namespace TokenDealer

/-- The body of a request, as the client is given it. -/
inductive HttpBody where
  | form (fields : List (String × String))
  | formOf (members : Json.Value)
  | text (s : String)
  | json (v : Json.Value)

structure HttpPost where
  url : String
  headers : List (String × String)
  body : HttpBody

def TokenReply.isSuccess (reply : TokenReply) : Bool := 200 ≤ reply.status && reply.status < 300

/-- What the outside world does during one call of a flow: the random values drawn, the answers to
requests, the outcome of the database write, and how the libraries word their errors. The time left
is computed in floating point from a time in milliseconds. -/
structure FlowWorld where
  crypto : Crypto
  text : Json.Text
  env : String → Option String
  sha256 : List UInt8 → List UInt8
  uuid : String
  random : List UInt8
  post : HttpPost → Except String TokenReply
  secondsLeft : Json.Number → UInt64
  nonce : List UInt8
  written : Except String Unit
  reason : Nat → String
  badJson : String → String
  describe : KeyStoreError → String

namespace FlowWorld

variable (w : FlowWorld)

def readJson (body : String) : Except String Json.Value :=
  match w.text.parse body with
  | some v => .ok v
  | none => .error (w.badJson body)

def generatePkceVerifier : String := base64UrlEncode w.random

end FlowWorld

structure DeviceClientCreds where
  clientId : String
  clientSecret : String
  deriving DecidableEq, Repr

/-- The logins that are under way. The codes of devices and the states of popups share the map of
verifiers. -/
structure PendingFlows where
  states : String → Option String := fun _ => none
  pkceVerifiers : String → Option String := fun _ => none
  devices : String → Option String := fun _ => none
  deviceClients : String → Option DeviceClientCreds := fun _ => none

structure OAuthStore where
  manager : OAuthManager := {}
  pending : PendingFlows := {}
  keys : KeyStore

def formHeaders : List (String × String) := [("content-type", "application/x-www-form-urlencoded")]

def defaultScope (scope : String) : String :=
  if scope = "" then "openid profile email offline_access" else scope

/-- The manifest leaves out the secret of Google's client, which the environment may have. -/
def resolveClientSecret (env : String → Option String) (providerId manifestSecret : String) :
    String :=
  if manifestSecret ≠ "" then manifestSecret
  else if providerId = "google" then (env "GOOGLE_OAUTH_CLIENT_SECRET").getD ""
  else ""

namespace OAuthStore

variable (w : FlowWorld)

/-- The access token in memory is forgotten once the new token is stored. -/
def setRefreshToken (providerId token : String) (s : OAuthStore) :
    Except String Unit × OAuthStore :=
  match s.keys.set w.crypto w.nonce w.written (oauthEntry providerId) token with
  | (.error e, keys) => (.error (w.describe e), { s with keys := keys })
  | (.ok (), keys) =>
    (.ok (),
      { s with
        keys := keys
        manager := { s.manager with cache := Function.update s.manager.cache providerId none } })

end OAuthStore

section Popup

variable (w : FlowWorld)

def popupConfig (providerId : String) : Except String ManifestOAuthFlow :=
  match Manifest.lookupOauth providerId with
  | none => .error s!"provider {providerId} has no OAuth config or is not popup_oauth"
  | some cfg =>
    if cfg.authorizeUrl = "" then
      .error s!"provider {providerId} is not popup_oauth (no authorize_url)"
    else if cfg.isAnthropicPasteCode then
      .error (s!"provider {providerId} uses the paste-code flow " ++
        s!"(POST /admin/oauth/{providerId}/paste) not popup")
    else .ok cfg

namespace ManifestOAuthFlow

def effectiveRedirect (cfg : ManifestOAuthFlow) (redirectUri : String) : String :=
  if cfg.redirectUri = "" then redirectUri else cfg.redirectUri

/-- The blanks of the scope have become plus signs before it is encoded. -/
def buildAuthorizeUrl (cfg : ManifestOAuthFlow) (redirectUri state challenge : String) : String :=
  let scope :=
    if cfg.scope = "" then "openid profile email offline_access" else Str.replace cfg.scope " " "+"
  cfg.authorizeUrl ++ "?response_type=code&client_id=" ++ urlencoding cfg.clientId ++
    "&redirect_uri=" ++ urlencoding (cfg.effectiveRedirect redirectUri) ++
    "&state=" ++ urlencoding state ++ "&scope=" ++ urlencoding scope ++
    Str.concat (cfg.extraAuthorizeParams.map fun (k, v) =>
      "&" ++ urlencoding k ++ "=" ++ urlencoding v) ++
    if cfg.requiresPkce then
      "&code_challenge=" ++ urlencoding challenge ++ "&code_challenge_method=S256"
    else ""

end ManifestOAuthFlow

def popupState (providerId : String) : String := s!"{providerId}.{w.uuid}"

/-- The address to send the user to and the state token, which is from now on a key of the maps. -/
def startPopupOauth (providerId redirectUri : String) (pending : PendingFlows) :
    Except String (String × String) × PendingFlows :=
  match popupConfig providerId with
  | .error e => (.error e, pending)
  | .ok cfg =>
    let state := popupState w providerId
    let verifier := w.generatePkceVerifier
    let challenge := pkceChallengeS256 w.sha256 verifier
    (.ok (cfg.buildAuthorizeUrl redirectUri state challenge, state),
      { pending with
        states := Function.update pending.states state (some providerId)
        pkceVerifiers := Function.update pending.pkceVerifiers state (some verifier) })

theorem startPopupOauth_error (h : popupConfig p = .error e) (redirectUri : String)
    (pending : PendingFlows) : startPopupOauth w p redirectUri pending = (.error e, pending) := by
  rw [startPopupOauth, h]

theorem startPopupOauth_ok (h : popupConfig p = .ok cfg) (redirectUri : String)
    (pending : PendingFlows) :
    startPopupOauth w p redirectUri pending =
      (.ok (cfg.buildAuthorizeUrl redirectUri (popupState w p)
          (pkceChallengeS256 w.sha256 w.generatePkceVerifier), popupState w p),
        { pending with
          states := Function.update pending.states (popupState w p) (some p)
          pkceVerifiers := Function.update pending.pkceVerifiers (popupState w p)
            (some w.generatePkceVerifier) }) := by
  rw [startPopupOauth, h]

def exchangeForm (cfg : ManifestOAuthFlow) (providerId code redirectUri : String)
    (verifier : Option String) : List (String × String) :=
  let secret := resolveClientSecret w.env providerId cfg.clientSecret
  [("grant_type", "authorization_code"), ("code", code),
    ("redirect_uri", cfg.effectiveRedirect redirectUri), ("client_id", cfg.clientId)] ++
    (verifier.map fun v => ("code_verifier", v)).toList ++
    (if secret ≠ "" then [("client_secret", secret)] else [])

/-- The refresh token that a code is exchanged for. -/
def exchangeCode (cfg : ManifestOAuthFlow) (providerId code redirectUri : String)
    (verifier : Option String) : Except String String := do
  let reply ← w.post
    { url := cfg.tokenUrl
      headers := formHeaders
      body := .form (exchangeForm w cfg providerId code redirectUri verifier) }
  if !reply.isSuccess then
    throw s!"token exchange failed: {reply.status} {w.reason reply.status}: {reply.body}"
  let v ← w.readJson reply.body
  v.requireStr "refresh_token" "token response missing refresh_token"

/-- The state is used up first of all, whatever becomes of the rest. -/
def completePopupOauth (providerId code state redirectUri : String) (s : OAuthStore) :
    Except String Unit × OAuthStore :=
  match s.pending.states state with
  | none => (.error "invalid or expired state", s)
  | some expected =>
    let states := Function.update s.pending.states state none
    if expected ≠ providerId then
      (.error "state was issued for a different provider",
        { s with pending := { s.pending with states := states } })
    else
      match Manifest.lookupOauth providerId with
      | none =>
        (.error s!"provider {providerId} has no OAuth config",
          { s with pending := { s.pending with states := states } })
      | some cfg =>
        let verifier := s.pending.pkceVerifiers state
        let verifiers := Function.update s.pending.pkceVerifiers state none
        let s : OAuthStore :=
          { s with pending := { s.pending with states := states, pkceVerifiers := verifiers } }
        match exchangeCode w cfg providerId code redirectUri verifier with
        | .error e => (.error e, s)
        | .ok token => s.setRefreshToken w providerId token

end Popup

section Device

variable (w : FlowWorld)

structure DeviceFlowInfo where
  deviceCode : String
  userCode : String
  verificationUri : String
  interval : UInt64
  expiresIn : UInt64
  deriving DecidableEq, Repr

def isAmazon (url : String) : Bool := Str.contains url "amazonaws.com"

def registerUrl (deviceCodeUrl : String) : String :=
  Str.trimEndMatches "/device_authorization"
    (Str.trimEndMatches "/deviceAuthorization" deviceCodeUrl) ++ "/client/register"

def registerBody (scope : String) : Json.Value :=
  .object [("clientName", .string "Manifest"), ("clientType", .string "public"),
    ("scopes", .array ((Str.splitWhitespace scope).map .string)),
    ("grantTypes", .array [.string "urn:ietf:params:oauth:grant-type:device_code",
      .string "refresh_token"])]

/-- A client of its own is registered for every login at Amazon. -/
def registerClient (cfg : ManifestOAuthFlow) (providerId scope : String) :
    Except String (Option DeviceClientCreds) :=
  if isAmazon cfg.deviceCodeUrl then do
    let reply ← w.post
      { url := registerUrl cfg.deviceCodeUrl
        headers := [("content-type", "application/json")]
        body := .json (registerBody scope) }
    if !reply.isSuccess then
      throw (s!"{providerId} registerClient failed: {reply.status} {w.reason reply.status}: " ++
        reply.body)
    let v ← w.readJson reply.body
    let clientId ← v.requireStr "clientId" s!"{providerId} registerClient: missing client_id"
    return some ⟨clientId, (v.getStr "clientSecret").getD ""⟩
  else .ok none

/-- Amazon is asked with the client, the others with a form, which has a challenge for MiniMax. -/
def deviceRequest (cfg : ManifestOAuthFlow) (client : Option DeviceClientCreds)
    (scope challenge : String) : HttpPost :=
  match client with
  | some creds =>
    { url := cfg.deviceCodeUrl
      headers := [("content-type", "application/json"), ("accept", "application/json")]
      body := .json (.object [("clientId", .string creds.clientId),
        ("clientSecret", .string creds.clientSecret),
        ("startUrl", .string "https://view.awsapps.com/start")]) }
  | none =>
    let form := "client_id=" ++ urlencoding cfg.clientId ++ "&scope=" ++ urlencoding scope
    { url := cfg.deviceCodeUrl
      headers := formHeaders ++ [("accept", "application/json")]
      body := .text (if cfg.deviceResponseCamelcase then
        form ++ "&code_challenge=" ++ urlencoding challenge ++ "&code_challenge_method=S256"
        else form) }

/-- The address of one of two members, whichever is there. -/
def verificationUri (v : Json.Value) (key key' : String) (missing : String) :
    Except String String :=
  match ((v.get key).or (v.get key')).bind Json.Value.asStr with
  | some uri => .ok uri
  | none => .error missing

def numberOf : Json.Value → Option Json.Number
  | .number n => some n
  | _ => none

/-- Each family of providers answers in its own shape. The code that MiniMax shows to the user
serves as the code of the device. -/
def deviceInfo (cfg : ManifestOAuthFlow) (providerId : String) (v : Json.Value) :
    Except String DeviceFlowInfo := do
  let count key := (v.get key).bind Json.Value.asU64
  let (deviceCode, userCode, uri, interval, expiresIn) ←
    if cfg.deviceResponseCamelcase then do
      let userCode ← v.requireStr "user_code" "device_code response missing user_code"
      let uri ← v.requireStr "verification_uri" "device_code response missing verification_uri"
      let expiresIn := (((v.get "expired_in").bind numberOf).map w.secondsLeft).or
        ((count "expired_in").map (· / 1000))
      pure (userCode, userCode, uri, count "interval", expiresIn)
    else if isAmazon cfg.deviceCodeUrl then do
      let deviceCode ← v.requireStr "deviceCode" "device_code response missing deviceCode"
      let userCode ← v.requireStr "userCode" "device_code response missing userCode"
      let uri ← verificationUri v "verificationUriComplete" "verificationUri"
        "device_code response missing verificationUri"
      pure (deviceCode, userCode, uri, count "interval", count "expiresIn")
    else do
      let deviceCode ← v.requireStr "device_code" "device_code response missing device_code"
      let userCode ← v.requireStr "user_code" "device_code response missing user_code"
      let uri ← verificationUri v "verification_uri" "verification_url"
        "device_code response missing verification_uri"
      pure (deviceCode, userCode, uri, count "interval", count "expires_in")
  return {
    deviceCode := deviceCode
    userCode := userCode
    verificationUri :=
      if providerId = "minimax" then Str.replace uri "www.minimax.io" "platform.minimax.io"
      else uri
    interval := interval.getD 5
    expiresIn := expiresIn.getD 600 }

/-- A login that a provider has agreed to, with what has to be kept for it. -/
structure StartedDevice where
  info : DeviceFlowInfo
  verifier : Option String
  client : Option DeviceClientCreds
  deriving DecidableEq, Repr

def requestDevice (providerId : String) : Except String StartedDevice :=
  match Manifest.lookupOauth providerId with
  | none => .error s!"provider {providerId} has no OAuth config"
  | some cfg =>
    if cfg.deviceCodeUrl = "" then .error s!"provider {providerId} is not device_code"
    else do
      let scope := defaultScope cfg.scope
      let client ← registerClient w cfg providerId scope
      let verifier := w.generatePkceVerifier
      let challenge := pkceChallengeS256 w.sha256 verifier
      let reply ← w.post (deviceRequest cfg client scope challenge)
      if !reply.isSuccess then
        throw s!"device_code request failed: {reply.status} {w.reason reply.status}: {reply.body}"
      let v ← w.readJson reply.body
      let info ← deviceInfo w cfg providerId v
      return ⟨info, if cfg.deviceResponseCamelcase then some verifier else none, client⟩

/-- An entry is written when there is something to write. -/
def keep (key : String) (value : Option α) (m : String → Option α) : String → Option α :=
  if value.isSome then Function.update m key value else m

def PendingFlows.addDevice (providerId : String) (d : StartedDevice) (pending : PendingFlows) :
    PendingFlows :=
  { pending with
    devices := Function.update pending.devices d.info.deviceCode (some providerId)
    pkceVerifiers := keep d.info.deviceCode d.verifier pending.pkceVerifiers
    deviceClients := keep d.info.deviceCode d.client pending.deviceClients }

def startDeviceFlow (providerId : String) (pending : PendingFlows) :
    Except String DeviceFlowInfo × PendingFlows :=
  match requestDevice w providerId with
  | .error e => (.error e, pending)
  | .ok d => (.ok d.info, pending.addDevice providerId d)

theorem startDeviceFlow_error (h : requestDevice w p = .error e) (pending : PendingFlows) :
    startDeviceFlow w p pending = (.error e, pending) := by
  rw [startDeviceFlow, h]

theorem startDeviceFlow_ok (h : requestDevice w p = .ok d) (pending : PendingFlows) :
    startDeviceFlow w p pending = (.ok d.info, pending.addDevice p d) := by
  rw [startDeviceFlow, h]

/-- Amazon is polled in JSON, MiniMax by the verifier and the others by the code of the device. -/
def pollRequest (cfg : ManifestOAuthFlow) (providerId deviceCode : String)
    (client : Option DeviceClientCreds) (verifier : Option String) : HttpPost :=
  let clientId := (client.map DeviceClientCreds.clientId).getD cfg.clientId
  let secret := client.map DeviceClientCreds.clientSecret
  let isMinimax := providerId = "minimax"
  if isAmazon cfg.tokenUrl then
    let grantType :=
      if isMinimax then "urn:ietf:params:oauth:grant-type:user_code" else "device_code"
    { url := cfg.tokenUrl
      headers := [("content-type", "application/json")]
      body := .json (.object [("clientId", .string clientId),
        ("clientSecret", .string (secret.getD "")), ("grantType", .string grantType),
        ("deviceCode", .string deviceCode)]) }
  else
    let form :=
      if isMinimax then
        "grant_type=" ++ urlencoding "urn:ietf:params:oauth:grant-type:user_code" ++
          "&client_id=" ++ urlencoding clientId ++
          "&code_verifier=" ++ urlencoding (verifier.getD "")
      else
        "grant_type=" ++ urlencoding "urn:ietf:params:oauth:grant-type:device_code" ++
          "&device_code=" ++ urlencoding deviceCode ++ "&client_id=" ++ urlencoding clientId ++
          match secret with
          | some secret => "&client_secret=" ++ urlencoding secret
          | none => ""
    { url := cfg.tokenUrl, headers := formHeaders, body := .text form }

inductive DeviceAnswer where
  | authorized (refreshToken : String)
  | pending
  | rejected (err : String)
  deriving DecidableEq, Repr

/-- What a provider says of a login that it is polled about. -/
def pollAnswer (req : HttpPost) : Except String DeviceAnswer := do
  let reply ← w.post req
  let v ← w.readJson reply.body
  if reply.isSuccess then
    let token ← v.requireStr "refresh_token" "token response missing refresh_token"
    return .authorized token
  else
    let err := (v.getStr "error").getD ""
    if err = "authorization_pending" ∨ err = "slow_down" then return .pending
    else if err = "expired_token" ∨ err = "access_denied" then return .rejected err
    else throw s!"device_code poll failed: {reply.status} {err}: {w.text.print v}"

def PendingFlows.dropDevice (deviceCode : String) (pending : PendingFlows) : PendingFlows :=
  { pending with
    devices := Function.update pending.devices deviceCode none
    deviceClients := Function.update pending.deviceClients deviceCode none }

/-- The verifier of MiniMax is taken out before the provider is asked. -/
def PendingFlows.takeVerifier (providerId deviceCode : String) (pending : PendingFlows) :
    Option String × PendingFlows :=
  if providerId = "minimax" then
    (pending.pkceVerifiers deviceCode,
      { pending with
        pkceVerifiers := Function.update pending.pkceVerifiers deviceCode none })
  else (none, pending)

def pollDeviceFlow (deviceCode : String) (s : OAuthStore) : Except String Bool × OAuthStore :=
  match s.pending.devices deviceCode with
  | none => (.error "device_code not found (expired or never issued)", s)
  | some providerId =>
    match Manifest.lookupOauth providerId with
    | none => (.error s!"provider {providerId} has no OAuth config", s)
    | some cfg =>
      let client := s.pending.deviceClients deviceCode
      let (verifier, pending) := s.pending.takeVerifier providerId deviceCode
      match pollAnswer w (pollRequest cfg providerId deviceCode client verifier) with
      | .error e => (.error e, { s with pending := pending })
      | .ok .pending => (.ok false, { s with pending := pending })
      | .ok (.rejected err) =>
        (.error s!"device_code rejected: {err}",
          { s with pending := pending.dropDevice deviceCode })
      | .ok (.authorized token) =>
        let blob := serializeStoredRefresh w.text token (client.map DeviceClientCreds.clientId)
          (client.map DeviceClientCreds.clientSecret)
        match s.keys.set w.crypto w.nonce w.written (oauthEntry providerId) blob with
        | (.error e, keys) =>
          (.error (w.describe e), { s with pending := pending, keys := keys })
        | (.ok (), keys) =>
          (.ok true, { s with pending := pending.dropDevice deviceCode, keys := keys })

end Device

section PasteCode

variable (w : FlowWorld)

/-- The pasted text is a code and a verifier, which may be missing. -/
def splitPasted (pasted : String) : String × String :=
  let trimmed := Str.trim pasted
  match Str.rsplitOnce "#" trimmed with
  | some (code, state) => (Str.trim code, Str.trim state)
  | none => (trimmed, "")

def pasteBody (cfg : ManifestOAuthFlow) (code state : String) : Json.Value :=
  let body : Json.Value := .object [("grant_type", .string "authorization_code"),
    ("code", .string code), ("client_id", .string cfg.clientId),
    ("redirect_uri", .string cfg.pasteCodeRedirectUrl)]
  if state ≠ "" then body.set "code_verifier" (.string state) else body

/-- The refresh token that a pasted text is exchanged for. -/
def exchangePasted (providerId pasted : String) : Except String String :=
  match Manifest.lookupOauth providerId with
  | none => .error s!"provider {providerId} has no OAuth config"
  | some cfg =>
    if !cfg.isAnthropicPasteCode then
      .error s!"provider {providerId} does not support the paste-code flow"
    else
      let (code, state) := splitPasted pasted
      if code = "" then .error "pasted code is empty"
      else do
        let reply ← w.post
          { url := cfg.tokenUrl
            headers := formHeaders
            body := .formOf (pasteBody cfg code state) }
        if !reply.isSuccess then
          throw (s!"Anthropic token exchange failed: {reply.status} {w.reason reply.status}: " ++
            String.ofList (reply.body.toList.take 300))
        let v ← w.readJson reply.body
        v.requireStr "refresh_token" ("Anthropic exchange returned no refresh_token. " ++
          "The code may be expired or already used. Re-run the paste flow.")

def pasteAnthropicCode (providerId pasted : String) (s : OAuthStore) :
    Except String String × OAuthStore :=
  match exchangePasted w providerId pasted with
  | .error e => (.error e, s)
  | .ok token =>
    let (stored, s) := s.setRefreshToken w providerId token
    (stored.map fun _ => token, s)

end PasteCode

end TokenDealer
