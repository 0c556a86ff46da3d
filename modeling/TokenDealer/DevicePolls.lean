import TokenDealer.Machine
import TokenDealer.RedirectAgreement

set_option autoImplicit true

namespace TokenDealer

/-- A field of a form that is sent as text. -/
def HttpPost.textField (key : String) (req : HttpPost) : Option String :=
  match req.body with
  | .text s => ((Query.members s.toList).find? fun p => p.1 = key).map Prod.snd
  | _ => none

theorem HttpPost.textField_render {req : HttpPost}
    (h : req.body = .text (unreservedBytes.render (p :: ps))) (key : String) :
    req.textField key = ((p :: ps).find? fun p => p.1 = key).map Prod.snd := by
  rw [textField, h]
  dsimp only
  rw [unreservedBytes.members_render]

section Requests

variable {cfg : ManifestOAuthFlow} {w : FlowWorld}

/-- The request that a device login begins with. -/
def startRequest (w : FlowWorld) (providerId : String) : Option HttpPost :=
  (Manifest.lookupOauth providerId).bind fun cfg =>
    if cfg.deviceCodeUrl = "" then none
    else
      (registerClient w cfg providerId (defaultScope cfg.scope)).toOption.map fun client =>
        deviceRequest cfg client (defaultScope cfg.scope)
          (pkceChallengeS256 w.sha256 w.generatePkceVerifier)

/-- The request that a device login is polled with, while there is one for the code. -/
def pollRequestOf (deviceCode : String) (s : OAuthStore) : Option HttpPost :=
  (s.pending.devices deviceCode).bind fun providerId =>
    (Manifest.lookupOauth providerId).map fun cfg =>
      pollRequest cfg providerId deviceCode (s.pending.deviceClients deviceCode)
        (s.pending.takeVerifier providerId deviceCode).1

/-- The request is sent: where it fails, the login does not begin. -/
theorem requestDevice_asks (hreq : startRequest w p = some req) (hpost : w.post req = .error e) :
    requestDevice w p = .error e := by
  obtain ⟨cfg, hcfg, hreq⟩ := Option.bind_eq_some_iff.mp hreq
  split at hreq
  · cases hreq
  · next hurl =>
    obtain ⟨client, hclient, rfl⟩ := Option.map_eq_some_iff.mp hreq
    have hregistered : registerClient w cfg p (defaultScope cfg.scope) = .ok client := by
      cases hanswer : registerClient w cfg p (defaultScope cfg.scope) with
      | error e =>
        rw [hanswer] at hclient
        cases hclient
      | ok registered =>
        rw [hanswer] at hclient
        cases hclient
        rfl
    rw [requestDevice, hcfg]
    dsimp only
    rw [if_neg hurl, hregistered]
    change (w.post _ >>= _) = _
    rw [hpost]
    rfl

theorem pollAnswer_congr (w : FlowWorld) (req : HttpPost)
    (post : HttpPost → Except String TokenReply) (hpost : post req = w.post req) :
    pollAnswer { w with post := post } req = pollAnswer w req := by
  change (post req >>= _) = (w.post req >>= _)
  rw [hpost]
  rfl

/-- What the token endpoint says to any other request does not matter. -/
theorem pollDeviceFlow_congr (w : FlowWorld) (deviceCode : String) (s : OAuthStore)
    (post : HttpPost → Except String TokenReply)
    (hpost : ∀ req, pollRequestOf deviceCode s = some req → post req = w.post req) :
    pollDeviceFlow { w with post := post } deviceCode s = pollDeviceFlow w deviceCode s := by
  rw [pollRequestOf] at hpost
  rw [pollDeviceFlow, pollDeviceFlow]
  cases hdevice : s.pending.devices deviceCode with
  | none => rfl
  | some p =>
    cases hcfg : Manifest.lookupOauth p with
    | none => simp only [hcfg]
    | some cfg =>
      rw [hdevice, Option.bind_some, hcfg] at hpost
      simp only [hcfg, pollAnswer_congr w _ post (hpost _ rfl)]

/-- The request is sent: where it fails, so does the poll. -/
theorem pollDeviceFlow_asks {s : OAuthStore} (hreq : pollRequestOf deviceCode s = some req)
    (hpost : w.post req = .error e) : (pollDeviceFlow w deviceCode s).1 = .error e := by
  obtain ⟨p, hdevice, hreq⟩ := Option.bind_eq_some_iff.mp hreq
  obtain ⟨cfg, hcfg, rfl⟩ := Option.map_eq_some_iff.mp hreq
  have hanswer : pollAnswer w (pollRequest cfg p deviceCode (s.pending.deviceClients deviceCode)
      (s.pending.takeVerifier p deviceCode).1) = .error e := by
    change (w.post _ >>= _) = _
    rw [hpost]
    rfl
  rw [pollDeviceFlow, hdevice]
  simp only [hcfg, hanswer]

/-- A provider that is sent a challenge is not Amazon. -/
theorem Manifest.not_isAmazon (h : Manifest.lookupOauth p = some cfg)
    (hpkce : cfg.deviceResponseCamelcase = true) :
    isAmazon cfg.deviceCodeUrl = false ∧ isAmazon cfg.tokenUrl = false := by
  rw [Manifest.lookupOauth] at h
  obtain ⟨providerType, -, hflow⟩ := Option.bind_eq_some_iff.mp h
  cases providerType <;> cases hflow <;> cases hpkce
  exact ⟨by decide +kernel, by decide +kernel⟩

theorem requestDevice_spec (h : requestDevice w p = .ok d) :
    ∃ cfg, Manifest.lookupOauth p = some cfg ∧ cfg.deviceCodeUrl ≠ "" ∧
      registerClient w cfg p (defaultScope cfg.scope) = .ok d.client ∧
      d.verifier = if cfg.deviceResponseCamelcase then some w.generatePkceVerifier else none := by
  rw [requestDevice] at h
  split at h
  · cases h
  · next cfg hcfg =>
    split at h
    · cases h
    · next hurl =>
      obtain ⟨client, hclient, h⟩ := Toml.bind_eq_ok.mp h
      obtain ⟨reply, -, h⟩ := Toml.bind_eq_ok.mp h
      dsimp only at h
      split at h
      · cases h
      · obtain ⟨v, -, h⟩ := Toml.bind_eq_ok.mp h
        obtain ⟨info, -, h⟩ := Toml.bind_eq_ok.mp h
        cases h
        exact ⟨cfg, hcfg, hurl, hclient, rfl⟩

/-- The form that a device login begins with where a challenge goes with it. -/
theorem deviceRequest_body (hpkce : cfg.deviceResponseCamelcase = true) (scope challenge : String) :
    (deviceRequest cfg none scope challenge).body =
      .text (unreservedBytes.render [("client_id", cfg.clientId), ("scope", scope),
        ("code_challenge", challenge), ("code_challenge_method", "S256")]) := by
  have hclient := member_eq "client_id" (by decide)
  have hscope := member_eq "scope" (by decide)
  have hchallenge := member_eq "code_challenge" (by decide)
  have hopen : "client_id=" = "client_id" ++ "=" := rfl
  have hscopeIs : "&scope=" = "&" ++ ("scope" ++ "=") := rfl
  have hchallengeIs : "&code_challenge=" = "&" ++ ("code_challenge" ++ "=") := rfl
  have hmethodIs : "&code_challenge_method=S256" = "&" ++ "code_challenge_method=S256" := rfl
  rw [deviceRequest]
  simp only [hpkce, if_true, Query.Unescaped.render_cons, List.map_cons, List.map_nil,
    Str.concat_cons, Str.concat_nil, hclient, hscope, hchallenge, member_challengeMethod, hopen,
    hscopeIs, hchallengeIs, hmethodIs, String.append_assoc, String.append_empty]

/-- MiniMax is polled with the verifier, or with an empty one. -/
theorem pollRequest_minimax (hurl : isAmazon cfg.tokenUrl = false) (deviceCode : String)
    (client : Option DeviceClientCreds) (verifier : Option String) :
    (pollRequest cfg "minimax" deviceCode client verifier).body =
      .text (unreservedBytes.render
        [("grant_type", "urn:ietf:params:oauth:grant-type:user_code"),
          ("client_id", (client.map DeviceClientCreds.clientId).getD cfg.clientId),
          ("code_verifier", verifier.getD "")]) := by
  have hgrant := member_eq "grant_type" (by decide)
  have hclient := member_eq "client_id" (by decide)
  have hverifier := member_eq "code_verifier" (by decide)
  have hopen : "grant_type=" = "grant_type" ++ "=" := rfl
  have hclientIs : "&client_id=" = "&" ++ ("client_id" ++ "=") := rfl
  have hverifierIs : "&code_verifier=" = "&" ++ ("code_verifier" ++ "=") := rfl
  rw [pollRequest]
  simp only [hurl, Bool.false_eq_true, if_false, if_true, Query.Unescaped.render_cons,
    List.map_cons, List.map_nil, Str.concat_cons, Str.concat_nil, hgrant, hclient, hverifier, hopen,
    hclientIs, hverifierIs, String.append_assoc, String.append_empty]

/-- Under any other name a provider is polled without a verifier. -/
theorem pollRequest_other (hname : p ≠ "minimax") (hurl : isAmazon cfg.tokenUrl = false)
    (deviceCode : String) (client : Option DeviceClientCreds) (verifier : Option String) :
    (pollRequest cfg p deviceCode client verifier).body =
      .text (unreservedBytes.render
        (("grant_type", "urn:ietf:params:oauth:grant-type:device_code") ::
          ("device_code", deviceCode) ::
          ("client_id", (client.map DeviceClientCreds.clientId).getD cfg.clientId) ::
          (client.map fun creds => ("client_secret", creds.clientSecret)).toList)) := by
  have hgrant := member_eq "grant_type" (by decide)
  have hdevice := member_eq "device_code" (by decide)
  have hclient := member_eq "client_id" (by decide)
  have hsecret := member_eq "client_secret" (by decide)
  have hopen : "grant_type=" = "grant_type" ++ "=" := rfl
  have hdeviceIs : "&device_code=" = "&" ++ ("device_code" ++ "=") := rfl
  have hclientIs : "&client_id=" = "&" ++ ("client_id" ++ "=") := rfl
  have hsecretIs : "&client_secret=" = "&" ++ ("client_secret" ++ "=") := rfl
  rw [pollRequest]
  cases client with
  | none =>
    simp only [hurl, hname, Bool.false_eq_true, if_false, Query.Unescaped.render_cons,
      List.map_cons, List.map_nil, Str.concat_cons, Str.concat_nil, hgrant, hdevice, hclient, hopen,
      hdeviceIs, hclientIs, String.append_assoc, String.append_empty, Option.map_none,
      Option.toList_none]
  | some creds =>
    simp only [hurl, hname, Bool.false_eq_true, if_false, Query.Unescaped.render_cons,
      List.map_cons, List.map_nil, Str.concat_cons, Str.concat_nil, hgrant, hdevice, hclient,
      hsecret, hopen, hdeviceIs, hclientIs, hsecretIs, String.append_assoc, String.append_empty,
      Option.map_some, Option.toList_some]

end Requests

/-- A call that changes what is pending, or a change of the rest of the store. -/
inductive LoginEvent where
  | startDevice (w : FlowWorld) (providerId : String)
  | pollDevice (w : FlowWorld) (deviceCode : String)
  | startPopup (w : FlowWorld) (providerId redirectUri : String)
  | completePopup (w : FlowWorld) (providerId code state redirectUri : String)
  | other (manager : OAuthManager) (keys : KeyStore)

namespace LoginEvent

def step (s : OAuthStore) : LoginEvent → OAuthStore
  | startDevice w providerId => { s with pending := (startDeviceFlow w providerId s.pending).2 }
  | pollDevice w deviceCode => (pollDeviceFlow w deviceCode s).2
  | startPopup w providerId redirectUri =>
    { s with pending := (startPopupOauth w providerId redirectUri s.pending).2 }
  | completePopup w providerId code state redirectUri =>
    (completePopupOauth w providerId code state redirectUri s).2
  | other manager keys => { s with manager := manager, keys := keys }

/-- A device login with this code begins. -/
def Starts (code : String) : LoginEvent → Prop
  | startDevice w p => ∃ d, requestDevice w p = .ok d ∧ d.info.deviceCode = code
  | _ => False

def Polls (code : String) : LoginEvent → Prop
  | pollDevice _ deviceCode => deviceCode = code
  | _ => False

/-- A popup login has the code of the device as its state, so that the two share an entry of the
map of verifiers. -/
def LogsIn (code : String) : LoginEvent → Prop
  | startPopup w p _ => popupState w p = code
  | completePopup _ _ _ state _ => state = code
  | _ => False

end LoginEvent

open LoginEvent

section Frame

variable {w : FlowWorld} {s : OAuthStore} {code p : String}

/-- A poll takes the verifier of its own device at most, and drops its own device at most. -/
theorem pollDeviceFlow_pending (w : FlowWorld) (deviceCode : String) (s : OAuthStore) :
    (pollDeviceFlow w deviceCode s).2.pending = s.pending ∨
      ∃ p, s.pending.devices deviceCode = some p ∧
        ((pollDeviceFlow w deviceCode s).2.pending = (s.pending.takeVerifier p deviceCode).2 ∨
          (pollDeviceFlow w deviceCode s).2.pending =
            (s.pending.takeVerifier p deviceCode).2.dropDevice deviceCode) := by
  rw [pollDeviceFlow]
  cases hdevice : s.pending.devices deviceCode with
  | none => exact .inl rfl
  | some p =>
    dsimp only
    cases Manifest.lookupOauth p with
    | none => exact .inl rfl
    | some cfg =>
      refine .inr ⟨p, rfl, ?_⟩
      dsimp only
      split
      · exact .inl rfl
      · exact .inl rfl
      · exact .inr rfl
      · split
        · exact .inl rfl
        · exact .inr rfl

theorem takeVerifier_of_ne {pending : PendingFlows} (hne : code ≠ deviceCode) :
    (pending.takeVerifier p deviceCode).2.pkceVerifiers code = pending.pkceVerifiers code := by
  rw [PendingFlows.takeVerifier]
  split
  · exact Function.update_of_ne hne _ _
  · rfl

theorem takeVerifier_no_verifier {pending : PendingFlows}
    (hnone : pending.pkceVerifiers code = none) :
    (pending.takeVerifier p code).2.pkceVerifiers code = none := by
  rw [PendingFlows.takeVerifier]
  split
  · exact Function.update_self _ _ _
  · exact hnone

theorem takeVerifier_devices {pending : PendingFlows} :
    (pending.takeVerifier p deviceCode).2.devices = pending.devices := by
  rw [PendingFlows.takeVerifier]
  split <;> rfl

theorem pollDeviceFlow_verifier_of_ne (hne : code ≠ deviceCode) :
    (pollDeviceFlow w deviceCode s).2.pending.pkceVerifiers code =
      s.pending.pkceVerifiers code := by
  obtain h | ⟨p, -, h | h⟩ := pollDeviceFlow_pending w deviceCode s
  · rw [h]
  · rw [h]
    exact takeVerifier_of_ne hne
  · rw [h]
    exact takeVerifier_of_ne hne

/-- A poll leaves the device of a code as it is, or drops it. -/
theorem pollDeviceFlow_devices :
    (pollDeviceFlow w deviceCode s).2.pending.devices code = s.pending.devices code ∨
      deviceCode = code ∧ (pollDeviceFlow w deviceCode s).2.pending.devices code = none := by
  obtain h | ⟨p, -, h | h⟩ := pollDeviceFlow_pending w deviceCode s
  · exact .inl (by rw [h])
  · exact .inl (by rw [h, takeVerifier_devices])
  · by_cases hcode : deviceCode = code
    · subst hcode
      exact .inr ⟨rfl, by rw [h]; exact Function.update_self _ _ _⟩
    · refine .inl ?_
      rw [h, PendingFlows.dropDevice, takeVerifier_devices]
      exact Function.update_of_ne (Ne.symm hcode) _ _

theorem startPopupOauth_devices (w : FlowWorld) (p redirectUri : String) (pending : PendingFlows) :
    (startPopupOauth w p redirectUri pending).2.devices = pending.devices := by
  cases hconfig : popupConfig p with
  | error e => rw [startPopupOauth_error w hconfig]
  | ok cfg => rw [startPopupOauth_ok w hconfig]

theorem startPopupOauth_verifier (hne : code ≠ popupState w p) (redirectUri : String)
    (pending : PendingFlows) :
    (startPopupOauth w p redirectUri pending).2.pkceVerifiers code =
      pending.pkceVerifiers code := by
  cases hconfig : popupConfig p with
  | error e => rw [startPopupOauth_error w hconfig]
  | ok cfg =>
    rw [startPopupOauth_ok w hconfig]
    exact Function.update_of_ne hne _ _

theorem completePopupOauth_pending (w : FlowWorld) (p grant state redirectUri : String)
    (s : OAuthStore) :
    (completePopupOauth w p grant state redirectUri s).2.pending.devices = s.pending.devices ∧
      ((completePopupOauth w p grant state redirectUri s).2.pending.pkceVerifiers =
          s.pending.pkceVerifiers ∨
        (completePopupOauth w p grant state redirectUri s).2.pending.pkceVerifiers =
          Function.update s.pending.pkceVerifiers state none) := by
  rw [completePopupOauth]
  split
  · exact ⟨rfl, .inl rfl⟩
  · dsimp only
    split
    · exact ⟨rfl, .inl rfl⟩
    · split
      · exact ⟨rfl, .inl rfl⟩
      · split
        · exact ⟨rfl, .inr rfl⟩
        · rw [OAuthStore.setRefreshToken_pending]
          exact ⟨rfl, .inr rfl⟩

theorem startDeviceFlow_of_not_starts (hstarts : ¬ (startDevice w p).Starts code)
    (pending : PendingFlows) :
    (startDeviceFlow w p pending).2.devices code = pending.devices code ∧
      (startDeviceFlow w p pending).2.pkceVerifiers code = pending.pkceVerifiers code := by
  cases hd : requestDevice w p with
  | error e =>
    rw [startDeviceFlow_error w hd]
    exact ⟨rfl, rfl⟩
  | ok d =>
    rw [startDeviceFlow_ok w hd]
    have hne : code ≠ d.info.deviceCode := fun h => hstarts ⟨d, hd, h.symm⟩
    refine ⟨Function.update_of_ne hne _ _, ?_⟩
    change keep _ _ _ _ = _
    rw [keep]
    split
    · exact Function.update_of_ne hne _ _
    · rfl

namespace LoginEvent

theorem pending_startDevice (s : OAuthStore) (w : FlowWorld) (p : String) :
    (step s (.startDevice w p)).pending = (startDeviceFlow w p s.pending).2 := by
  rw [step]

theorem pending_startPopup (s : OAuthStore) (w : FlowWorld) (p redirectUri : String) :
    (step s (.startPopup w p redirectUri)).pending =
      (startPopupOauth w p redirectUri s.pending).2 := by
  rw [step]

/-- The verifier of a device stays until it is polled, started anew or taken for a popup. -/
theorem step_verifier {e : LoginEvent} (hstarts : ¬ e.Starts code) (hpolls : ¬ e.Polls code)
    (hlogin : ¬ e.LogsIn code) (s : OAuthStore) :
    (step s e).pending.pkceVerifiers code = s.pending.pkceVerifiers code := by
  cases e with
  | startDevice w p =>
    rw [pending_startDevice]
    exact (startDeviceFlow_of_not_starts hstarts s.pending).2
  | pollDevice w deviceCode => exact pollDeviceFlow_verifier_of_ne (Ne.symm hpolls)
  | startPopup w p redirectUri =>
    rw [pending_startPopup]
    exact startPopupOauth_verifier (Ne.symm hlogin) redirectUri s.pending
  | completePopup w p grant state redirectUri =>
    obtain ⟨-, h | h⟩ := completePopupOauth_pending w p grant state redirectUri s
    · exact congrFun h code
    · exact (congrFun h code).trans (Function.update_of_ne (Ne.symm hlogin) _ _)
  | other manager keys => rfl

/-- A verifier that is gone stays gone until the device or a popup login on its code is started. -/
theorem step_no_verifier {e : LoginEvent} (hstarts : ¬ e.Starts code) (hlogin : ¬ e.LogsIn code)
    (hnone : s.pending.pkceVerifiers code = none) :
    (step s e).pending.pkceVerifiers code = none := by
  by_cases hpolls : e.Polls code
  · cases e with
    | pollDevice w deviceCode =>
      cases hpolls
      obtain h | ⟨p, -, h | h⟩ := pollDeviceFlow_pending w code s
      · exact (congrArg (·.pkceVerifiers code) h).trans hnone
      · exact (congrArg (·.pkceVerifiers code) h).trans (takeVerifier_no_verifier hnone)
      · exact (congrArg (·.pkceVerifiers code) h).trans (takeVerifier_no_verifier hnone)
    | _ => cases hpolls
  · exact (step_verifier hstarts hpolls hlogin s).trans hnone

/-- A device that is not started again is the same or dropped. -/
theorem step_devices {e : LoginEvent} (hstarts : ¬ e.Starts code) (s : OAuthStore) :
    (step s e).pending.devices code = s.pending.devices code ∨
      (step s e).pending.devices code = none := by
  cases e with
  | startDevice w p =>
    rw [pending_startDevice]
    exact .inl (startDeviceFlow_of_not_starts hstarts s.pending).1
  | pollDevice w deviceCode => exact pollDeviceFlow_devices.imp_right And.right
  | startPopup w p redirectUri =>
    rw [pending_startPopup]
    exact .inl (congrFun (startPopupOauth_devices w p redirectUri s.pending) code)
  | completePopup w p grant state redirectUri =>
    exact .inl (congrFun (completePopupOauth_pending w p grant state redirectUri s).1 code)
  | other manager keys => exact .inl rfl

end LoginEvent

end Frame

/-- The latest device login with a code: in which world and with whom it started, and what has
happened since. Its provider has been sent a challenge. -/
structure LatestLogin (history : List LoginEvent) (code : String) (w : FlowWorld) (p : String)
    (since : List LoginEvent) : Prop where
  started : ∃ front d, history = front ++ .startDevice w p :: since ∧ requestDevice w p = .ok d ∧
    d.info.deviceCode = code ∧ d.verifier.isSome = true
  latest : ∀ e ∈ since, ¬ e.Starts code

/-- A statement about every poll of a run that asks the provider about a login which is still
pending. -/
def EveryPoll (s : OAuthStore) (events : List LoginEvent)
    (Q : FlowWorld → String → String → List LoginEvent → HttpPost → Prop) : Prop :=
  ∀ front back polled code w p since req, events = front ++ .pollDevice polled code :: back →
    LatestLogin front code w p since →
    pollRequestOf code (Machine.run step s front) = some req → Q w p code since req

/-- The request shows the verifier of the challenge that the login was started with. -/
def Proves (w : FlowWorld) (p : String) (req : HttpPost) : Prop :=
  ∃ start verifier, startRequest w p = some start ∧
    start.textField "code_challenge" = some (pkceChallengeS256 w.sha256 verifier) ∧
    req.textField "code_verifier" = some verifier

/-- The login goes by the one name that the code knows the provider by, has not been polled yet,
and no popup login has had its code as a state. -/
def FirstPoll (p code : String) (since : List LoginEvent) : Prop :=
  p = "minimax" ∧ ∀ e ∈ since, ¬ e.Polls code ∧ ¬ e.LogsIn code

section Runs

variable {w : FlowWorld} {s : OAuthStore} {code p : String} {since : List LoginEvent}

theorem run_verifier (h : ∀ e ∈ since, ¬ e.Starts code ∧ ¬ e.Polls code ∧ ¬ e.LogsIn code)
    (s : OAuthStore) :
    (Machine.run step s since).pending.pkceVerifiers code = s.pending.pkceVerifiers code := by
  refine Machine.run_invariant
    (I := fun t => t.pending.pkceVerifiers code = s.pending.pkceVerifiers code) ?_ rfl
    (Machine.throughout_of_forall h s)
  rintro t e hkept ⟨hstarts, hpolls, hlogin⟩
  exact (step_verifier hstarts hpolls hlogin t).trans hkept

theorem run_no_verifier (h : ∀ e ∈ since, ¬ e.Starts code ∧ ¬ e.LogsIn code)
    (hnone : s.pending.pkceVerifiers code = none) :
    (Machine.run step s since).pending.pkceVerifiers code = none := by
  refine Machine.run_invariant (I := fun t => t.pending.pkceVerifiers code = none) ?_ hnone
    (Machine.throughout_of_forall h s)
  rintro t e hgone ⟨hstarts, hlogin⟩
  exact step_no_verifier hstarts hlogin hgone

theorem run_devices (h : ∀ e ∈ since, ¬ e.Starts code) (s : OAuthStore) :
    (Machine.run step s since).pending.devices code = s.pending.devices code ∨
      (Machine.run step s since).pending.devices code = none := by
  refine Machine.run_invariant
    (I := fun t => t.pending.devices code = s.pending.devices code ∨
      t.pending.devices code = none) ?_ (.inl rfl) (Machine.throughout_of_forall h s)
  intro t e hkept hstarts
  rcases step_devices hstarts t with hsame | hnone
  · rw [hsame]
    exact hkept
  · exact .inr hnone

/-- A login that is still pending has been so ever since. -/
theorem run_devices_eq (h : ∀ e ∈ since, ¬ e.Starts code)
    (hpending : (Machine.run step s since).pending.devices code = some p) :
    s.pending.devices code = some p := by
  rcases run_devices h s with hsame | hnone
  · exact hsame.symm.trans hpending
  · cases hnone.symm.trans hpending

/-- What a start puts into the maps for a provider that is sent a challenge. -/
theorem startDevice_spec (hd : requestDevice w p = .ok d) (hpkce : d.verifier.isSome = true)
    (s : OAuthStore) :
    (step s (.startDevice w p)).pending.devices d.info.deviceCode = some p ∧
      (step s (.startDevice w p)).pending.pkceVerifiers d.info.deviceCode = d.verifier := by
  rw [pending_startDevice, startDeviceFlow_ok w hd]
  refine ⟨Function.update_self _ _ _, ?_⟩
  change keep _ _ _ _ = _
  rw [keep, if_pos hpkce]
  exact Function.update_self _ _ _

/-- What is sent when such a login starts. -/
theorem requestDevice_pkce (hd : requestDevice w p = .ok d) (hpkce : d.verifier.isSome = true) :
    ∃ cfg, Manifest.lookupOauth p = some cfg ∧ isAmazon cfg.tokenUrl = false ∧
      d.verifier = some w.generatePkceVerifier ∧
      ∃ start, startRequest w p = some start ∧ start.textField "code_challenge" =
        some (pkceChallengeS256 w.sha256 w.generatePkceVerifier) := by
  obtain ⟨cfg, hcfg, hdevice, -, hverifier⟩ := requestDevice_spec hd
  have hcamelcase : cfg.deviceResponseCamelcase = true := by
    rw [hverifier] at hpkce
    split at hpkce
    · assumption
    · cases hpkce
  obtain ⟨hdeviceUrl, htokenUrl⟩ := Manifest.not_isAmazon hcfg hcamelcase
  have hnoClient : registerClient w cfg p (defaultScope cfg.scope) = .ok none := by
    rw [registerClient, hdeviceUrl, if_neg Bool.false_ne_true]
  rw [hcamelcase, if_pos rfl] at hverifier
  have hbody := deviceRequest_body hcamelcase (defaultScope cfg.scope)
    (pkceChallengeS256 w.sha256 w.generatePkceVerifier)
  refine ⟨cfg, hcfg, htokenUrl, hverifier, _, ?_, HttpPost.textField_render hbody "code_challenge"⟩
  rw [startRequest, hcfg, Option.bind_some, if_neg hdevice, hnoClient]
  rfl

section Login

variable (hd : requestDevice w p = .ok d) (hpkce : d.verifier.isSome = true)
  (hstarts : ∀ e ∈ since, ¬ e.Starts d.info.deviceCode)
  (hreq : pollRequestOf d.info.deviceCode
    (Machine.run step (step s (.startDevice w p)) since) = some req)

include hd hpkce hstarts hreq

/-- A login that is asked about is still the one that was started. -/
theorem poll_of_login :
    ∃ cfg client, Manifest.lookupOauth p = some cfg ∧ isAmazon cfg.tokenUrl = false ∧
      (Machine.run step (step s (.startDevice w p)) since).pending.devices d.info.deviceCode =
        some p ∧
      req = pollRequest cfg p d.info.deviceCode client
        ((Machine.run step (step s (.startDevice w p)) since).pending.takeVerifier p
          d.info.deviceCode).1 := by
  obtain ⟨hdevice, -⟩ := startDevice_spec hd hpkce s
  obtain ⟨cfg, hcfg, hurl, -⟩ := requestDevice_pkce hd hpkce
  obtain ⟨q, hpending, hreq⟩ := Option.bind_eq_some_iff.mp hreq
  cases (run_devices_eq hstarts hpending).symm.trans hdevice
  obtain ⟨cfg', hcfg', rfl⟩ := Option.map_eq_some_iff.mp hreq
  cases hcfg.symm.trans hcfg'
  exact ⟨cfg, _, hcfg, hurl, hpending, rfl⟩

/-- The first poll shows the verifier of the start. -/
theorem first_poll_proves (hfirst : FirstPoll p d.info.deviceCode since) : Proves w p req := by
  obtain ⟨cfg, client, -, hurl, -, rfl⟩ := poll_of_login hd hpkce hstarts hreq
  obtain ⟨rfl, hsince⟩ := hfirst
  obtain ⟨-, hverifier⟩ := startDevice_spec hd hpkce s
  obtain ⟨-, -, -, hdrawn, start, hstart, hchallenge⟩ := requestDevice_pkce hd hpkce
  have hkept := run_verifier (fun e he => ⟨hstarts e he, (hsince e he).1, (hsince e he).2⟩)
    (step s (.startDevice w "minimax"))
  refine ⟨start, w.generatePkceVerifier, hstart, hchallenge, ?_⟩
  rw [HttpPost.textField_render (pollRequest_minimax hurl _ _ _), PendingFlows.takeVerifier,
    if_pos rfl, hkept, hverifier, hdrawn]
  rfl

/-- Under another name the provider is polled without a verifier. -/
theorem other_name_no_verifier (hname : p ≠ "minimax") :
    req.textField "code_verifier" = none := by
  obtain ⟨cfg, client, -, hurl, -, rfl⟩ := poll_of_login hd hpkce hstarts hreq
  rw [HttpPost.textField_render (pollRequest_other hname hurl _ _ _)]
  cases client <;> rfl

/-- After a poll of the same login, the next one sends an empty verifier. -/
theorem later_poll_empty (hname : p = "minimax") (hsince : since = before ++ again :: after)
    (hagain : again.Polls d.info.deviceCode) (hlogin : ∀ e ∈ after, ¬ e.LogsIn d.info.deviceCode) :
    req.textField "code_verifier" = some "" := by
  obtain ⟨cfg, client, hcfg, hurl, hpending, rfl⟩ := poll_of_login hd hpkce hstarts hreq
  subst hname hsince
  rw [Machine.run_append] at hpending
  have hafter : ∀ e ∈ after, ¬ e.Starts d.info.deviceCode := fun e he =>
    hstarts e (List.mem_append_right _ (List.mem_cons_of_mem _ he))
  have hrest : ∀ e ∈ again :: after, ¬ e.Starts d.info.deviceCode := fun e he =>
    hstarts e (List.mem_append_right _ he)
  have hfound := run_devices_eq hrest hpending
  cases again with
  | pollDevice polled deviceCode =>
    cases hagain
    have htaken : (step (Machine.run step (step s (.startDevice w "minimax")) before)
        (.pollDevice polled d.info.deviceCode)).pending.pkceVerifiers d.info.deviceCode = none := by
      have hleft := congrFun (OAuthStore.pollDeviceFlow_pkceVerifiers (w := polled) hfound hcfg)
        d.info.deviceCode
      rw [PendingFlows.takeVerifier, if_pos rfl] at hleft
      exact hleft.trans (Function.update_self _ _ _)
    have hgone := run_no_verifier (fun e he => ⟨hafter e he, hlogin e he⟩) htaken
    rw [HttpPost.textField_render (pollRequest_minimax hurl _ _ _), PendingFlows.takeVerifier,
      if_pos rfl, Machine.run_append, Machine.run_cons, hgone]
    rfl
  | _ => cases hagain

end Login

/-- Where every poll that asks the provider is the first of its login, and the login goes by the
name that the code knows the provider by, every poll shows the verifier of the start. Any other
poll shows none: under another name there is none in the request, and after another poll of the
login, without a popup login in between that has its code as a state, it is empty. -/
theorem polls_prove (s : OAuthStore) (events : List LoginEvent) :
    (EveryPoll s events (fun _ p code since _ => FirstPoll p code since) →
      EveryPoll s events fun w p _ _ req => Proves w p req) ∧
    EveryPoll s events fun _ p code since req =>
      (p ≠ "minimax" → req.textField "code_verifier" = none) ∧
      ∀ before again after, p = "minimax" → since = before ++ again :: after →
        again.Polls code → (∀ e ∈ after, ¬ e.LogsIn code) →
          req.textField "code_verifier" = some "" := by
  constructor
  · intro hall front back polled code w p since req hevents hlogin hreq
    have hfirst := hall front back polled code w p since req hevents hlogin hreq
    obtain ⟨⟨start, d, rfl, hd, rfl, hpkce⟩, hstarts⟩ := hlogin
    rw [Machine.run_append, Machine.run_cons] at hreq
    exact first_poll_proves hd hpkce hstarts hreq hfirst
  · intro front back polled code w p since req hevents hlogin hreq
    obtain ⟨⟨start, d, rfl, hd, rfl, hpkce⟩, hstarts⟩ := hlogin
    rw [Machine.run_append, Machine.run_cons] at hreq
    refine ⟨other_name_no_verifier hd hpkce hstarts hreq, ?_⟩
    intro before again after hname hsince hagain hpopups
    exact later_poll_empty hd hpkce hstarts hreq hname hsince hagain hpopups

end Runs

section Samples

/-- The digests of the empty text and of 43 times the letter A. -/
def sampleDigest (bytes : List UInt8) : List UInt8 :=
  if bytes = [] then
    [0xe3, 0xb0, 0xc4, 0x42, 0x98, 0xfc, 0x1c, 0x14, 0x9a, 0xfb, 0xf4, 0xc8, 0x99, 0x6f, 0xb9,
      0x24, 0x27, 0xae, 0x41, 0xe4, 0x64, 0x9b, 0x93, 0x4c, 0xa4, 0x95, 0x99, 0x1b, 0x78, 0x52,
      0xb8, 0x55]
  else
    [0x0f, 0x00, 0x73, 0x85, 0xb6, 0xf9, 0xd4, 0xb7, 0xee, 0xb2, 0x74, 0x86, 0x05, 0xaf, 0xe1,
      0xa9, 0x84, 0xa0, 0xa3, 0xbf, 0xa3, 0xf0, 0x14, 0xd0, 0x9e, 0x2a, 0x78, 0x4c, 0xe9, 0xe5,
      0xcd, 0x1a]

/-- A provider that answers everything with a status and an object. -/
def answering (status : Nat) (answer : List (String × Json.Value)) : FlowWorld :=
  { RouterState.sampleFlowWorld with
    sha256 := sampleDigest
    text := ⟨fun _ => "", fun _ => some (.object answer)⟩
    post := fun _ => .ok ⟨status, ""⟩ }

def agreeing : FlowWorld :=
  answering 200 [("user_code", .string "ABCD-EFGH"),
    ("verification_uri", .string "https://platform.minimax.io/authorize")]

def waiting : FlowWorld := answering 400 [("error", .string "authorization_pending")]

/-- A login that has been polled once, before the user has approved of it. -/
def sampleLogin : List LoginEvent :=
  [.startDevice agreeing "minimax", .pollDevice waiting "ABCD-EFGH"]

def sampleStarted : StartedDevice where
  info := ⟨"ABCD-EFGH", "ABCD-EFGH", "https://platform.minimax.io/authorize", 5, 600⟩
  verifier := some agreeing.generatePkceVerifier
  client := none

theorem requestDevice_agreeing : requestDevice agreeing "minimax" = .ok sampleStarted := by
  decide +kernel

theorem exists_pollRequest (hpending : s.pending.devices code = some "minimax") :
    ∃ req, pollRequestOf code s = some req := by
  obtain ⟨cfg, hcfg, -⟩ := requestDevice_pkce requestDevice_agreeing rfl
  rw [pollRequestOf, hpending, Option.bind_some, hcfg]
  exact ⟨_, rfl⟩

/-- The only poll of a login shows the verifier of the start. -/
theorem polls_prove_first :
    ∃ req, pollRequestOf "ABCD-EFGH" (Machine.run step RouterState.sampleRouter.oauth
        [.startDevice agreeing "minimax"]) = some req ∧ Proves agreeing "minimax" req := by
  have hpending : (Machine.run step RouterState.sampleRouter.oauth
      [.startDevice agreeing "minimax"]).pending.devices "ABCD-EFGH" = some "minimax" := rfl
  obtain ⟨req, hreq⟩ := exists_pollRequest hpending
  have hfirst : EveryPoll RouterState.sampleRouter.oauth sampleLogin
      fun _ p code since _ => FirstPoll p code since := by
    intro front back polled code w p since req hevents hlogin _
    obtain ⟨⟨before, d, hstarted, -⟩, -⟩ := hlogin
    subst hstarted
    cases before with
    | nil =>
      cases since with
      | nil =>
        cases hevents
        exact ⟨rfl, nofun⟩
      | cons e since => simp [sampleLogin] at hevents
    | cons e before =>
      cases before with
      | nil => cases hevents
      | cons e' before => simp [sampleLogin] at hevents
  have hlogin : LatestLogin [.startDevice agreeing "minimax"] "ABCD-EFGH" agreeing "minimax" [] :=
    ⟨⟨[], sampleStarted, rfl, requestDevice_agreeing, rfl, rfl⟩, nofun⟩
  exact ⟨req, hreq, (polls_prove RouterState.sampleRouter.oauth sampleLogin).1 hfirst
    [.startDevice agreeing "minimax"] [] waiting "ABCD-EFGH" agreeing "minimax" [] req rfl hlogin
    hreq⟩

/-- The second poll of a login does not show the verifier of the start. -/
theorem second_poll_unproved :
    ¬ EveryPoll RouterState.sampleRouter.oauth
      (sampleLogin ++ [.pollDevice waiting "ABCD-EFGH"]) fun w p _ _ req => Proves w p req := by
  intro h
  have hstarts : ∀ e ∈ [LoginEvent.pollDevice waiting "ABCD-EFGH"], ¬ e.Starts "ABCD-EFGH" :=
    List.forall_mem_singleton.mpr id
  have hlogin : LatestLogin sampleLogin "ABCD-EFGH" agreeing "minimax"
      [.pollDevice waiting "ABCD-EFGH"] :=
    ⟨⟨[], sampleStarted, rfl, requestDevice_agreeing, rfl, rfl⟩, hstarts⟩
  have hpending : (Machine.run step RouterState.sampleRouter.oauth
      sampleLogin).pending.devices "ABCD-EFGH" = some "minimax" := rfl
  obtain ⟨cfg, -, -, -, start, hstart, hchallenge⟩ :=
    requestDevice_pkce requestDevice_agreeing rfl
  obtain ⟨req, hreq⟩ := exists_pollRequest hpending
  have hempty := later_poll_empty requestDevice_agreeing rfl hstarts hreq rfl
    (List.nil_append _).symm rfl fun e he => absurd he List.not_mem_nil
  obtain ⟨start', verifier, hstart', hchallenge', hverifier⟩ :=
    h sampleLogin [] waiting "ABCD-EFGH" agreeing "minimax" _ req rfl hlogin hreq
  cases hstart.symm.trans hstart'
  cases hempty.symm.trans hverifier
  have hsame := Option.some.inj (hchallenge.symm.trans hchallenge')
  exact absurd hsame (by decide +kernel)

end Samples

end TokenDealer
