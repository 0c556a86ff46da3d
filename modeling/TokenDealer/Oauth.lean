import TokenDealer.Health
import TokenDealer.JsonValue
import TokenDealer.Keystore
import TokenDealer.Manifest

set_option autoImplicit true

namespace TokenDealer

structure OAuthConfig where
  providerId : String
  tokenUrl : String
  clientId : String
  clientSecret : Option String := none
  extra : List (String × String) := []
  refreshBufferSecs : Nat := 300
  deriving DecidableEq, Repr

/-- Expiry times are nanoseconds of universal time. -/
structure OAuthCredentials where
  accessToken : String
  refreshToken : Option String
  expiresAt : Option Int
  scopes : List String
  deriving DecidableEq, Repr

def OAuthCredentials.needsRefresh (c : OAuthCredentials) (bufferSecs now : Nat) : Bool :=
  match c.expiresAt with
  | some expiry => expiry ≤ (now + fromSecs bufferSecs : Nat)
  | none => false

structure OAuthManager where
  cache : String → Option OAuthCredentials := fun _ => none
  configs : String → Option OAuthConfig := fun _ => none

structure TokenReply where
  status : Nat
  body : String
  deriving DecidableEq, Repr

/-- What the outside world does during one call: the clock before and after it, the token
endpoint's answer to a form, the nonce drawn and the outcome of the database write. -/
structure OAuthWorld where
  now : Nat
  later : Nat
  post : String → List (String × String) → Except String TokenReply
  nonce : List UInt8
  written : Except String Unit

inductive OAuthError where
  | transport (message : String)
  | refused (providerId : String) (status : Nat) (text : String)
  | body
  | missingAccessToken
  | store (e : KeyStoreError)
  deriving DecidableEq, Repr

section

variable (text : Json.Text)

/-- A stored refresh token is bare, or carries the client registered for it. -/
def parseStoredRefresh (raw : String) : String × Option String × Option String :=
  let field (v : Json.Value) (key : String) := (v.get key).bind Json.Value.asStr
  match (text.parse raw).bind fun v => (field v "refresh_token").map fun rt => (v, rt) with
  | some (v, rt) => (rt, field v "client_id", field v "client_secret")
  | none => (raw, none, none)

def serializeStoredRefresh (rt : String) : Option String → Option String → String
  | some cid, some cs =>
    text.print (.object
      [("refresh_token", .string rt), ("client_id", .string cid), ("client_secret", .string cs)])
  | _, _ => rt

end

def oauthEntry (providerId : String) : String := "oauth:" ++ providerId

namespace OAuthManager

variable (crypto : Crypto) (text : Json.Text) (world : OAuthWorld)

/-- The configuration set up for the provider, else the manifest's. -/
def configFor (m : OAuthManager) (providerId : String) : Option OAuthConfig :=
  (m.configs providerId).or
    (((Manifest.resolveAlias providerId).bind Manifest.lookup).bind fun provider =>
      provider.oauth.map fun oauth =>
        { providerId := providerId, tokenUrl := oauth.tokenUrl, clientId := oauth.clientId })

def refreshForm (cfg : OAuthConfig) (refreshToken : String)
    (clientId clientSecret : Option String) :
    List (String × String) :=
  [("grant_type", "refresh_token"), ("refresh_token", refreshToken),
    ("client_id", clientId.getD cfg.clientId)] ++
    ((clientSecret.or cfg.clientSecret).map fun secret => ("client_secret", secret)).toList ++
    cfg.extra

def credentialsOf (v : Json.Value) (accessToken refreshToken : String) : OAuthCredentials where
  accessToken := accessToken
  refreshToken := some (((v.get "refresh_token").bind Json.Value.asStr).getD refreshToken)
  expiresAt := ((v.get "expires_in").bind Json.Value.asU64).map fun secs =>
    -- beyond 63 bits the seconds are negative
    world.later + secs.toInt64.toInt * 1000000000
  scopes := (((v.get "scope").bind Json.Value.asStr).map Str.splitWhitespace).getD []

/-- A reply becomes the cached credentials first and is stored after that. -/
def adopt (m : OAuthManager) (store : KeyStore) (providerId : String)
    (clientId clientSecret : Option String) (creds : OAuthCredentials) :
    Except OAuthError (Option String) × OAuthManager × KeyStore :=
  let m := { m with cache := Function.update m.cache providerId (some creds) }
  match creds.refreshToken with
  | none => (.ok (some creds.accessToken), m, store)
  | some rt =>
    let next := serializeStoredRefresh text rt clientId clientSecret
    match store.set crypto world.nonce world.written (oauthEntry providerId) next with
    | (.error e, store) => (.error (.store e), m, store)
    | (.ok (), store) => (.ok (some creds.accessToken), m, store)

def refresh (m : OAuthManager) (store : KeyStore) (providerId : String) :
    Except OAuthError (Option String) × OAuthManager × KeyStore :=
  let (found, store) := store.get crypto (oauthEntry providerId)
  match m.configFor providerId, found.toOption.join with
  | some cfg, some raw =>
    let (refreshToken, clientId, clientSecret) := parseStoredRefresh text raw
    match world.post cfg.tokenUrl (refreshForm cfg refreshToken clientId clientSecret) with
    | .error message => (.error (.transport message), m, store)
    | .ok reply =>
      if reply.status < 200 ∨ 300 ≤ reply.status then
        (.error (.refused providerId reply.status reply.body), m, store)
      else
        match text.parse reply.body with
        | none => (.error .body, m, store)
        | some v =>
          match (v.get "access_token").bind Json.Value.asStr with
          | none => (.error .missingAccessToken, m, store)
          | some access =>
            adopt crypto text world m store providerId clientId clientSecret
              (credentialsOf world v access refreshToken)
  | _, _ => (.ok none, m, store)

def accessToken (m : OAuthManager) (store : KeyStore) (providerId : String) :
    Except OAuthError (Option String) × OAuthManager × KeyStore :=
  let buffer := ((m.configs providerId).map OAuthConfig.refreshBufferSecs).getD 300
  match m.cache providerId with
  | some c =>
    if !c.needsRefresh buffer world.now then (.ok (some c.accessToken), m, store)
    else m.refresh crypto text world store providerId
  | none => m.refresh crypto text world store providerId

theorem oauthEntry_ne (p : String) : p ≠ oauthEntry p := by
  intro h
  have hlen := congrArg String.length h
  rw [oauthEntry, String.length_append] at hlen
  have h6 : "oauth:".length = 6 := rfl
  omega

theorem adopt_store (m : OAuthManager) (store : KeyStore) (h : q ≠ oauthEntry p)
    (clientId clientSecret : Option String) (creds : OAuthCredentials) :
    ((m.adopt crypto text world store p clientId clientSecret creds).2.2.get crypto q).1 =
      (store.get crypto q).1 := by
  rw [adopt]
  cases creds.refreshToken with
  | none => rfl
  | some rt =>
    dsimp only
    rw [← store.get_after_set crypto h world.nonce world.written
      (serializeStoredRefresh text rt clientId clientSecret)]
    split <;> rename_i heq <;> rw [heq]

/-- A refresh writes to the provider's own OAuth entry alone. -/
theorem refresh_store (m : OAuthManager) (store : KeyStore) (h : q ≠ oauthEntry p) :
    ((m.refresh crypto text world store p).2.2.get crypto q).1 = (store.get crypto q).1 := by
  rw [← store.get_after_get crypto (oauthEntry p) q]
  unfold refresh
  dsimp only
  split
  · split
    · rfl
    · split
      · rfl
      · split
        · rfl
        · split
          · rfl
          · exact adopt_store crypto text world m _ h _ _ _
  · rfl

theorem accessToken_store (m : OAuthManager) (store : KeyStore) (h : q ≠ oauthEntry p) :
    ((m.accessToken crypto text world store p).2.2.get crypto q).1 = (store.get crypto q).1 := by
  rw [accessToken]
  split
  · split
    · rfl
    · exact refresh_store crypto text world m store h
  · exact refresh_store crypto text world m store h

end OAuthManager

end TokenDealer
