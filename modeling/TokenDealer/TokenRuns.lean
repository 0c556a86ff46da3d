import TokenDealer.FlowFrame
import TokenDealer.KeyCache
import TokenDealer.Lineage

set_option autoImplicit true

namespace TokenDealer

/-- What is seen of the tokens of one provider: new refresh tokens that are stored, what the token
endpoint gives for them, and access tokens that are handed out. -/
abbrev TokenAction := Lineage.Act String String

namespace OAuthManager

/-- What a refresh is given for the stored token: the credentials, and what is to be stored. -/
def refreshAnswer (text : Json.Text) (world : OAuthWorld) (cfg : OAuthConfig) (raw : String) :
    Option (OAuthCredentials × Option String) :=
  (exchanged text world cfg raw).map fun (creds, clientId, clientSecret) =>
    (creds, creds.refreshToken.map fun rt => serializeStoredRefresh text rt clientId clientSecret)

/-- The buffer of the provider's configuration. -/
def refreshBuffer (m : OAuthManager) (providerId : String) : Nat :=
  ((m.configs providerId).map OAuthConfig.refreshBufferSecs).getD 300

def putCache (m : OAuthManager) (providerId : String) (creds : Option OAuthCredentials) :
    OAuthManager :=
  { m with cache := Function.update m.cache providerId creds }

end OAuthManager

/-- What a call still has to do. A write to the key store is one to the table and then one to the
cache of keys, and goes on with the rest of its call. A refresh is asked by a call for an access
token or not; it looks for the key in the cache and in the table, asks the token endpoint, keeps the
credentials in memory and stores the token. The number with a token tells what it comes from. -/
inductive TokenCall where
  | storeNew (raw : String) (rest : TokenCall)
  | keepKey (raw : String) (origin : Nat) (rest : TokenCall)
  | forgetAccess
  | dropDevice (deviceCode : String)
  | look (asked : Bool)
  | load (cfg : Option OAuthConfig) (asked : Bool)
  | exchange (cfg : Option OAuthConfig) (raw : String) (origin : Nat) (asked : Bool)
  | keepAccess (creds : OAuthCredentials) (next : Option String) (origin : Nat) (asked : Bool)
  | storeNext (access next : String) (origin : Nat) (asked : Bool)
  | answer (access : String) (origin : Nat) (asked : Bool)

/-- How many new tokens had been stored when the row, the cached key and the access token in memory,
or the tokens that they were obtained for, were the newest. -/
structure Origins where
  row : Nat := 0
  key : Nat := 0
  access : Nat := 0

structure TokenRun where
  oauth : OAuthStore
  calls : List TokenCall := []
  log : List TokenAction := []
  origins : Origins := {}

/-- The outside world at one step of a call. -/
structure TokenWorld extends OAuthWorld where
  length_nonce : nonce.length = nonceLen

inductive TokenEvent where
  | setRefreshToken (token : String)
  | pollDeviceFlow (w : FlowWorld) (deviceCode : String)
  | setupOauthViaCli (w : FlowWorld) (body : Json.Value)
  | refresh
  | accessToken (now : Nat)
  | advance (i : Nat) (world : TokenWorld)

/-- A poll up to the write: what is to be stored of the answer, and the logins under way. A poll for
another provider is no matter here. -/
def pollToken (w : FlowWorld) (providerId deviceCode : String) (pending : PendingFlows) :
    Option String × PendingFlows :=
  if pending.devices deviceCode ≠ some providerId then (none, pending)
  else
    match Manifest.lookupOauth providerId with
    | none => (none, pending)
    | some cfg =>
      let client := pending.deviceClients deviceCode
      let (verifier, pending) := pending.takeVerifier providerId deviceCode
      match pollAnswer w (pollRequest cfg providerId deviceCode client verifier) with
      | .error _ => (none, pending)
      | .ok .pending => (none, pending)
      | .ok (.rejected _) => (none, pending.dropDevice deviceCode)
      | .ok (.authorized token) =>
        (some (serializeStoredRefresh w.text token (client.map DeviceClientCreds.clientId)
          (client.map DeviceClientCreds.clientSecret)), pending)

namespace TokenRun

variable (crypto : Crypto) (text : Json.Text) (providerId : String)

def begin (r : TokenRun) (c : TokenCall) : TokenRun := { r with calls := r.calls ++ [c] }

def write (r : TokenRun) (a : TokenAction) : TokenRun := { r with log := r.log ++ [a] }

def setPending (r : TokenRun) (pending : PendingFlows) : TokenRun :=
  { r with oauth := { r.oauth with pending := pending } }

def putRow (r : TokenRun) (world : TokenWorld) (raw : String) (origin : Nat) : TokenRun :=
  let ct := crypto.aeadEncrypt r.oauth.keys.cipher world.nonce (Utf8.encode raw.toList)
  { r with
    oauth := { r.oauth with
      keys := r.oauth.keys.putRow (oauthEntry providerId) (some (ct, world.nonce)) }
    origins := { r.origins with row := origin } }

def putKey (r : TokenRun) (raw : String) (origin : Nat) : TokenRun :=
  { r with
    oauth := { r.oauth with keys := r.oauth.keys.keep (oauthEntry providerId) raw }
    origins := { r.origins with key := origin } }

def putAccess (r : TokenRun) (creds : Option OAuthCredentials) (origin : Nat) : TokenRun :=
  { r with
    oauth := { r.oauth with manager := r.oauth.manager.putCache providerId creds }
    origins := { r.origins with access := origin } }

/-- How many new tokens have been stored. -/
def newest (r : TokenRun) : Nat := Lineage.age r.log

/-- The next step of one call, the other calls being those of `r`. -/
def advance (r : TokenRun) (world : TokenWorld) : TokenCall → TokenRun
  | .storeNew raw rest =>
    match world.written with
    | .error _ => r
    | .ok () =>
      let r := r.write (.fresh raw)
      (r.putRow crypto providerId world raw r.newest).begin (.keepKey raw r.newest rest)
  | .keepKey raw origin rest => (r.putKey providerId raw origin).begin rest
  | .forgetAccess => r.putAccess providerId none r.newest
  | .dropDevice deviceCode => r.setPending (r.oauth.pending.dropDevice deviceCode)
  | .look asked =>
    let cfg := r.oauth.manager.configFor providerId
    match r.oauth.keys.cache (oauthEntry providerId) with
    | some raw => r.begin (.exchange cfg raw r.origins.key asked)
    | none => r.begin (.load cfg asked)
  | .load cfg asked =>
    match r.oauth.keys.load crypto (oauthEntry providerId) with
    | .ok (some raw) =>
      r.begin (.keepKey raw r.origins.row (.exchange cfg raw r.origins.row asked))
    | _ => r
  | .exchange none _ _ _ => r
  | .exchange (some cfg) raw origin asked =>
    match OAuthManager.refreshAnswer text world.toOAuthWorld cfg raw with
    | none => r
    | some (creds, next) =>
      (r.write (.traded raw creds.accessToken (next.getD raw))).begin
        (.keepAccess creds next origin asked)
  | .keepAccess creds next origin asked =>
    let r := r.putAccess providerId (some creds) origin
    match next with
    | none => r.begin (.answer creds.accessToken origin asked)
    | some next => r.begin (.storeNext creds.accessToken next origin asked)
  | .storeNext access next origin asked =>
    match world.written with
    | .error _ => r
    | .ok () =>
      (r.putRow crypto providerId world next origin).begin
        (.keepKey next origin (.answer access origin asked))
  | .answer access _ asked => if asked then r.write (.used access) else r

def step (r : TokenRun) : TokenEvent → TokenRun
  | .setRefreshToken token => r.begin (.storeNew token .forgetAccess)
  | .pollDeviceFlow w deviceCode =>
    let (blob, pending) := pollToken w providerId deviceCode r.oauth.pending
    match blob with
    | none => r.setPending pending
    | some raw => (r.setPending pending).begin (.storeNew raw (.dropDevice deviceCode))
  | .setupOauthViaCli w body =>
    let refresh := (body.getStr "refresh_token").getD ""
    if refresh = "" then r else r.begin (.storeNew (Admin.setupToken w body refresh) (.look false))
  | .refresh => r.begin (.look false)
  | .accessToken now =>
    match r.oauth.manager.cache providerId with
    | some c =>
      if !c.needsRefresh (r.oauth.manager.refreshBuffer providerId) now then
        r.write (.used c.accessToken)
      else r.begin (.look true)
    | none => r.begin (.look true)
  | .advance i world =>
    match r.calls[i]? with
    | none => r
    | some c => { r with calls := r.calls.eraseIdx i }.advance crypto text providerId world c

end TokenRun

namespace TokenRun

section Alone

variable (crypto : Crypto) (text : Json.Text) (p : String) (world : TokenWorld)

/-- The world of a flow whose write is the one at this step. -/
def atWrite (w : FlowWorld) : FlowWorld where
  crypto := crypto
  text := w.text
  env := w.env
  sha256 := w.sha256
  uuid := w.uuid
  random := w.random
  post := w.post
  secondsLeft := w.secondsLeft
  nonce := world.nonce
  written := world.written
  reason := w.reason
  badJson := w.badJson
  describe := w.describe

/-- Steps of the first of the calls. -/
def drain (n : Nat) (r : TokenRun) : TokenRun :=
  Machine.run (step crypto text p) r (List.replicate n (.advance 0 world))

theorem drain_idle (n : Nat) (s : OAuthStore) (log : List TokenAction) (o : Origins) :
    drain crypto text p world n ⟨s, [], log, o⟩ = ⟨s, [], log, o⟩ :=
  Machine.run_replicate rfl n

theorem drain_succ (n : Nat) (s : OAuthStore) (c : TokenCall) (log : List TokenAction)
    (o : Origins) :
    drain crypto text p world (n + 1) ⟨s, [c], log, o⟩ =
      drain crypto text p world n (advance crypto text p ⟨s, [], log, o⟩ world c) := rfl

/-- Without other calls, the calls are those of the manager. -/
theorem setRefreshToken_alone (w : FlowWorld) (s : OAuthStore) (token : String) :
    (drain crypto text p world 3
      (step crypto text p ⟨s, [], [], {}⟩ (.setRefreshToken token))).oauth =
      (s.setRefreshToken (atWrite crypto world w) p token).2 := by
  rw [step, begin, List.nil_append, drain_succ]
  simp only [advance, OAuthStore.setRefreshToken, atWrite, KeyStore.set]
  cases world.written with
  | error message =>
    dsimp only
    rw [drain_idle]
  | ok u => rfl

/-- What is left of a refresh when the token endpoint has answered. -/
theorem storeNext_alone (n : Nat) (s : OAuthStore) (access next : String) (origin : Nat)
    (asked : Bool) (log : List TokenAction) (o : Origins) :
    (drain crypto text p world (n + 3) ⟨s, [.storeNext access next origin asked], log, o⟩).oauth =
      { s with
        keys := (s.keys.set crypto world.nonce world.written (oauthEntry p) next).2 } := by
  rw [drain_succ]
  simp only [advance, KeyStore.set]
  cases world.written with
  | error message =>
    dsimp only
    rw [drain_idle]
  | ok u =>
    change (drain crypto text p world (n + 1)
      ⟨_, [.answer access origin asked], log, _⟩).oauth = _
    rw [drain_succ]
    cases asked <;> exact congrArg oauth (drain_idle crypto text p world n _ _ _)

/-- The store after a refresh with the token that was found. -/
def refreshed (s : OAuthStore) : Option OAuthConfig → Option String → OAuthStore
  | some cfg, some raw =>
    match OAuthManager.refreshAnswer text world.toOAuthWorld cfg raw with
    | none => s
    | some (creds, next) =>
      { s with
        manager := s.manager.putCache p (some creds)
        keys := match next with
          | none => s.keys
          | some next => (s.keys.set crypto world.nonce world.written (oauthEntry p) next).2 }
  | _, _ => s

theorem exchange_alone (n : Nat) (s : OAuthStore) (cfg : Option OAuthConfig) (raw : String)
    (origin : Nat) (asked : Bool) (log : List TokenAction) (o : Origins) :
    (drain crypto text p world (n + 5) ⟨s, [.exchange cfg raw origin asked], log, o⟩).oauth =
      refreshed crypto text p world s cfg (some raw) := by
  rw [drain_succ]
  cases cfg with
  | none => exact congrArg oauth (drain_idle crypto text p world _ _ _ _)
  | some cfg =>
    rw [advance, refreshed]
    cases OAuthManager.refreshAnswer text world.toOAuthWorld cfg raw with
    | none => exact congrArg oauth (drain_idle crypto text p world _ _ _ _)
    | some answer =>
      obtain ⟨creds, next⟩ := answer
      change (drain crypto text p world (n + 4)
        ⟨s, [.keepAccess creds next origin asked], _, o⟩).oauth = _
      rw [drain_succ]
      cases next with
      | some next => exact storeNext_alone crypto text p world n _ _ _ _ _ _ _
      | none =>
        change (drain crypto text p world (n + 3)
          ⟨_, [.answer creds.accessToken origin asked], _, _⟩).oauth = _
        rw [drain_succ]
        cases asked <;> exact congrArg oauth (drain_idle crypto text p world _ _ _ _)

/-- What a refresh leaves is told by the token that it finds. -/
theorem refresh_state (s : OAuthStore) :
    ({ s with
      manager := (s.manager.refresh crypto text world.toOAuthWorld s.keys p).2.1
      keys := (s.manager.refresh crypto text world.toOAuthWorld s.keys p).2.2 } : OAuthStore) =
      refreshed crypto text p world { s with keys := (s.keys.get crypto (oauthEntry p)).2 }
        (s.manager.configFor p) (s.keys.get crypto (oauthEntry p)).1.toOption.join := by
  rw [OAuthManager.refresh_snd]
  cases s.manager.configFor p with
  | none => rfl
  | some cfg =>
    cases (s.keys.get crypto (oauthEntry p)).1.toOption.join with
    | none => rfl
    | some raw =>
      rw [refreshed, OAuthManager.refreshAnswer]
      dsimp only
      cases OAuthManager.exchanged text world.toOAuthWorld cfg raw with
      | none => rfl
      | some answer =>
        obtain ⟨creds, clientId, clientSecret⟩ := answer
        dsimp only [Option.map_some]
        rw [OAuthManager.adopt_snd]
        cases creds.refreshToken <;> rfl

theorem refresh_alone (s : OAuthStore) (asked : Bool) (log : List TokenAction) (o : Origins) :
    (drain crypto text p world 8 ⟨s, [.look asked], log, o⟩).oauth =
      { s with
        manager := (s.manager.refresh crypto text world.toOAuthWorld s.keys p).2.1
        keys := (s.manager.refresh crypto text world.toOAuthWorld s.keys p).2.2 } := by
  rw [refresh_state, KeyStore.get_eq, drain_succ, advance]
  have hnone : ∀ cfg keys, refreshed crypto text p world { s with keys := keys } cfg none =
      { s with keys := keys } := by
    intro cfg keys
    cases cfg <;> rfl
  cases s.keys.cache (oauthEntry p) with
  | some raw => exact exchange_alone crypto text p world 2 _ _ _ _ _ _ _
  | none =>
    dsimp only
    change (drain crypto text p world 7 ⟨s, [.load _ asked], log, o⟩).oauth = _
    rw [drain_succ, advance]
    cases s.keys.load crypto (oauthEntry p) with
    | error e =>
      rw [drain_idle]
      exact (hnone _ s.keys).symm
    | ok found =>
      cases found with
      | none =>
        dsimp only
        rw [drain_idle]
        exact (hnone _ s.keys).symm
      | some raw =>
        change (drain crypto text p world 6 ⟨s, [.keepKey raw _ _], log, o⟩).oauth = _
        rw [drain_succ]
        exact exchange_alone crypto text p world 0 _ _ _ _ _ _ _

theorem accessToken_alone (s : OAuthStore) :
    (drain crypto text p world 8
      (step crypto text p ⟨s, [], [], {}⟩ (.accessToken world.now))).oauth =
      { s with
        manager := (s.manager.accessToken crypto text world.toOAuthWorld s.keys p).2.1
        keys := (s.manager.accessToken crypto text world.toOAuthWorld s.keys p).2.2 } := by
  rw [step, OAuthManager.accessToken, OAuthManager.refreshBuffer]
  cases s.manager.cache p with
  | none => exact refresh_alone crypto text p world s true [] {}
  | some c =>
    dsimp only
    split
    · exact congrArg oauth (drain_idle crypto text p world _ _ _ _)
    · exact refresh_alone crypto text p world s true [] {}

theorem pollDeviceFlow_alone (w : FlowWorld) (s : OAuthStore) (deviceCode : String)
    (hprovider : s.pending.devices deviceCode = some p) :
    (drain crypto text p world 3
      (step crypto text p ⟨s, [], [], {}⟩ (.pollDeviceFlow w deviceCode))).oauth =
      (pollDeviceFlow (atWrite crypto world w) deviceCode s).2 := by
  have hsame : ∀ req, pollAnswer (atWrite crypto world w) req = pollAnswer w req := fun _ => rfl
  rw [step, pollToken, pollDeviceFlow, hprovider, if_neg (not_not_intro rfl)]
  dsimp only
  cases Manifest.lookupOauth p with
  | none => exact congrArg oauth (drain_idle crypto text p world _ _ _ _)
  | some cfg =>
    dsimp only
    rw [hsame]
    cases pollAnswer w (pollRequest cfg p deviceCode (s.pending.deviceClients deviceCode)
      (s.pending.takeVerifier p deviceCode).1) with
    | error e => exact congrArg oauth (drain_idle crypto text p world _ _ _ _)
    | ok answer =>
      cases answer with
      | pending => exact congrArg oauth (drain_idle crypto text p world _ _ _ _)
      | rejected err => exact congrArg oauth (drain_idle crypto text p world _ _ _ _)
      | authorized token =>
        dsimp only
        rw [begin, setPending, List.nil_append, drain_succ]
        simp only [advance, atWrite, KeyStore.set]
        cases world.written with
        | error message => exact congrArg oauth (drain_idle crypto text p world _ _ _ _)
        | ok u => rfl

theorem setupOauthViaCli_alone (w : FlowWorld) (s : OAuthStore) (body : Json.Value) :
    (drain crypto w.text p world 10
      (step crypto w.text p ⟨s, [], [], {}⟩ (.setupOauthViaCli w body))).oauth =
      (Admin.setupOauthViaCli (atWrite crypto world w) world.toOAuthWorld p body s).2 := by
  rw [step, Admin.setupOauthViaCli]
  dsimp only
  by_cases htoken : (body.getStr "refresh_token").getD "" = ""
  · rw [if_pos htoken, if_pos htoken, drain_idle]
  · rw [if_neg htoken, if_neg htoken, begin, List.nil_append, drain_succ]
    simp only [advance, atWrite, KeyStore.set]
    cases world.written with
    | error message => exact congrArg oauth (drain_idle crypto w.text p world _ _ _ _)
    | ok u =>
      change (drain crypto w.text p world 9 ⟨_, [.keepKey _ _ (.look false)], _, _⟩).oauth = _
      rw [drain_succ]
      exact refresh_alone crypto w.text p world _ false _ _

end Alone

end TokenRun

end TokenDealer
