import Mathlib.Tactic.Tauto
import TokenDealer.AdminApi

set_option autoImplicit true

namespace TokenDealer

namespace KeyStore

variable {crypto : Crypto}

/-- Two stores that differ in one entry at most. -/
theorem sameAnswers_iff {store store' : KeyStore}
    (hframe : ∀ q, q ≠ p → (store'.get crypto q).1 = (store.get crypto q).1) :
    store.SameAnswers crypto store' ↔ (store'.get crypto p).1 = (store.get crypto p).1 := by
  constructor
  · intro h
    exact h p
  · intro h q
    by_cases hq : q = p
    · rw [hq, h]
    · exact hframe q hq

theorem get_after_set_twice (store : KeyStore) (nonce nonce' : List UInt8)
    (written : Except String Unit) (p stored next : String) :
    (((store.set crypto nonce (.ok ()) p stored).2.set crypto nonce' written p next).2.get
      crypto p).1 = .ok (some (if written.isOk then next else stored)) := by
  cases written with
  | error message =>
    have hset : ((store.set crypto nonce (.ok ()) p stored).2.set crypto nonce' (.error message) p
        next).2 = (store.set crypto nonce (.ok ()) p stored).2 := rfl
    rw [hset, get_after_set_self]
    rfl
  | ok u =>
    rw [get_after_set_self]
    rfl

end KeyStore

namespace OAuthManager

variable (crypto : Crypto) (text : Json.Text) (world : OAuthWorld)

/-- What a token endpoint gives for a stored token, with the client the token is of. -/
def exchanged (cfg : OAuthConfig) (raw : String) :
    Option (OAuthCredentials × Option String × Option String) :=
  let (refreshToken, clientId, clientSecret) := parseStoredRefresh text raw
  match world.post cfg.tokenUrl (refreshForm cfg refreshToken clientId clientSecret) with
  | .error _ => none
  | .ok reply =>
    if reply.status < 200 ∨ 300 ≤ reply.status then none
    else do
      let v ← text.parse reply.body
      let access ← (v.get "access_token").bind Json.Value.asStr
      return (credentialsOf world v access refreshToken, clientId, clientSecret)

/-- A refresh looks the token up, and adopts the credentials that it is given for it. -/
theorem refresh_snd (m : OAuthManager) (store : KeyStore) :
    (m.refresh crypto text world store p).2 =
      match m.configFor p, (store.get crypto (oauthEntry p)).1.toOption.join with
      | some cfg, some raw =>
        match exchanged text world cfg raw with
        | none => (m, (store.get crypto (oauthEntry p)).2)
        | some (creds, clientId, clientSecret) =>
          (m.adopt crypto text world (store.get crypto (oauthEntry p)).2 p clientId clientSecret
            creds).2
      | _, _ => (m, (store.get crypto (oauthEntry p)).2) := by
  rw [refresh]
  dsimp only
  cases m.configFor p with
  | none => rfl
  | some cfg =>
    cases (store.get crypto (oauthEntry p)).1.toOption.join with
    | none => rfl
    | some raw =>
      simp only [exchanged]
      cases world.post cfg.tokenUrl (refreshForm cfg (parseStoredRefresh text raw).1
          (parseStoredRefresh text raw).2.1 (parseStoredRefresh text raw).2.2) with
      | error message => rfl
      | ok reply =>
        dsimp only
        by_cases hstatus : reply.status < 200 ∨ 300 ≤ reply.status
        · rw [if_pos hstatus, if_pos hstatus]
        · rw [if_neg hstatus, if_neg hstatus]
          cases text.parse reply.body with
          | none => rfl
          | some v =>
            cases haccess : (v.get "access_token").bind Json.Value.asStr with
            | none => simp only [haccess, Option.bind_eq_bind, Option.bind_some, Option.bind_none]
            | some access => simp only [haccess, Option.bind_eq_bind, Option.bind_some,
                Option.pure_def]

/-- Where the token is known, a refresh does nothing or adopts the credentials that it is given. -/
theorem refresh_of_stored {m : OAuthManager} {store : KeyStore}
    (hget : store.get crypto (oauthEntry p) = (.ok (some raw), found)) :
    (m.refresh crypto text world store p).2 =
      match (m.configFor p).bind fun cfg => exchanged text world cfg raw with
      | none => (m, found)
      | some (creds, clientId, clientSecret) =>
        (m.adopt crypto text world found p clientId clientSecret creds).2 := by
  rw [refresh_snd, hget]
  cases m.configFor p <;> rfl

theorem adopt_snd (m : OAuthManager) (store : KeyStore) (clientId clientSecret : Option String)
    (creds : OAuthCredentials) :
    (m.adopt crypto text world store p clientId clientSecret creds).2 =
      ({ m with cache := Function.update m.cache p (some creds) },
        match creds.refreshToken with
        | none => store
        | some rt =>
          (store.set crypto world.nonce world.written (oauthEntry p)
            (serializeStoredRefresh text rt clientId clientSecret)).2) := by
  rw [adopt]
  cases creds.refreshToken with
  | none => rfl
  | some rt =>
    cases world.written <;> rfl

end OAuthManager

namespace OAuthStore

/-- The store has not changed, but for what its cache of keys knows. -/
structure Unchanged (crypto : Crypto) (s s' : OAuthStore) : Prop where
  manager : s'.manager = s.manager
  pending : s'.pending = s.pending
  keys : s.keys.SameAnswers crypto s'.keys

variable {w : FlowWorld} {s : OAuthStore}

theorem Unchanged.refl (crypto : Crypto) (s : OAuthStore) : s.Unchanged crypto s :=
  ⟨rfl, rfl, fun _ => rfl⟩

theorem cache_update_iff {m : OAuthManager} {creds : Option OAuthCredentials} :
    { m with cache := Function.update m.cache p creds } = m ↔ m.cache p = creds := by
  rw [OAuthManager.mk.injEq, Function.update_eq_self_iff, and_iff_left rfl, eq_comm]

/-- The token of the provider is stored already, and no access token is in memory. -/
def HoldsToken (crypto : Crypto) (s : OAuthStore) (providerId token : String) : Prop :=
  (s.keys.get crypto (oauthEntry providerId)).1 = .ok (some token) ∧
    s.manager.cache providerId = none

theorem setRefreshToken_unchanged_iff :
    s.Unchanged w.crypto (s.setRefreshToken w p token).2 ↔
      (w.written.isOk = true → s.HoldsToken w.crypto p token) := by
  cases hwritten : w.written with
  | error message =>
    have hsame : (s.setRefreshToken w p token).2 = s := by
      rw [setRefreshToken, hwritten]
      rfl
    rw [hsame]
    exact iff_of_true (.refl _ _) fun h => absurd h Bool.false_ne_true
  | ok u =>
    have hset : (s.setRefreshToken w p token).2 =
        { s with
          keys := (s.keys.set w.crypto w.nonce (.ok ()) (oauthEntry p) token).2
          manager := { s.manager with cache := Function.update s.manager.cache p none } } := by
      rw [setRefreshToken, hwritten]
      rfl
    rw [hset]
    constructor
    · intro h _
      exact ⟨(KeyStore.sameAnswers_set_iff w.crypto).mp h.keys rfl, cache_update_iff.mp h.manager⟩
    · intro h
      obtain ⟨hkey, hcache⟩ := h rfl
      exact ⟨cache_update_iff.mpr hcache, rfl,
        (KeyStore.sameAnswers_set_iff w.crypto).mpr fun _ => hkey⟩

theorem pasteAnthropicCode_unchanged_iff :
    s.Unchanged w.crypto (pasteAnthropicCode w p pasted s).2 ↔
      ∀ token, exchangePasted w p pasted = .ok token → w.written.isOk = true →
        s.HoldsToken w.crypto p token := by
  delta pasteAnthropicCode
  cases exchangePasted w p pasted with
  | error e => exact iff_of_true (.refl _ _) fun _ h => nomatch h
  | ok token =>
    have hset : s.Unchanged w.crypto (s.setRefreshToken w p token).2 ↔
        (w.written.isOk = true → s.HoldsToken w.crypto p token) := setRefreshToken_unchanged_iff
    constructor
    · rintro h _ ⟨⟩
      exact hset.mp h
    · intro h
      exact hset.mpr (h token rfl)

/-- A login is begun without a trace where its state is pending with the same verifier. -/
theorem startPopupOauth_unchanged_iff {pending : PendingFlows} :
    (startPopupOauth w p redirectUri pending).2 = pending ↔
      ((popupConfig p).isOk = true → pending.states (popupState w p) = some p ∧
        pending.pkceVerifiers (popupState w p) = some w.generatePkceVerifier) := by
  delta startPopupOauth
  cases popupConfig p with
  | error e => exact iff_of_true rfl fun h => absurd h Bool.false_ne_true
  | ok cfg =>
    rw [PendingFlows.mk.injEq, Function.update_eq_self_iff, Function.update_eq_self_iff]
    constructor
    · rintro ⟨hstate, hverifier, -⟩ _
      exact ⟨hstate.symm, hverifier.symm⟩
    · intro h
      obtain ⟨hstate, hverifier⟩ := h rfl
      exact ⟨hstate.symm, hverifier.symm, rfl, rfl⟩

theorem setRefreshToken_pending (w : FlowWorld) (s : OAuthStore) (p token : String) :
    (s.setRefreshToken w p token).2.pending = s.pending := by
  rw [setRefreshToken]
  split <;> rfl

/-- A known state is used up. -/
theorem completePopupOauth_states (h : s.pending.states state = some expected) :
    (completePopupOauth w p code state redirectUri s).2.pending.states state = none := by
  rw [completePopupOauth, h]
  dsimp only
  split
  · exact Function.update_self _ _ _
  · split
    · exact Function.update_self _ _ _
    · split
      · exact Function.update_self _ _ _
      · rw [setRefreshToken_pending]
        exact Function.update_self _ _ _

theorem completePopupOauth_unchanged_iff :
    s.Unchanged w.crypto (completePopupOauth w p code state redirectUri s).2 ↔
      s.pending.states state = none := by
  cases hstate : s.pending.states state with
  | none =>
    have hsame : (completePopupOauth w p code state redirectUri s).2 = s := by
      rw [completePopupOauth, hstate]
    rw [hsame]
    exact iff_of_true (.refl _ _) rfl
  | some expected =>
    refine iff_of_false ?_ (nomatch ·)
    intro h
    have hused : (completePopupOauth w p code state redirectUri s).2.pending.states state = none :=
      completePopupOauth_states hstate
    rw [h.pending, hstate] at hused
    cases hused

theorem keep_eq_self_iff {m : String → Option α} :
    keep key value m = m ↔ (value.isSome = true → m key = value) := by
  rw [keep]
  split
  · rename_i hsome
    rw [Function.update_eq_self_iff, eq_comm]
    exact ⟨fun h _ => h, fun h => h hsome⟩
  · rename_i hnone
    exact iff_of_true rfl fun h => absurd h hnone

end OAuthStore

/-- The login of a device is pending already, with what has to be kept for it. -/
structure PendingFlows.HasDevice (pending : PendingFlows) (providerId : String)
    (d : StartedDevice) : Prop where
  device : pending.devices d.info.deviceCode = some providerId
  verifier : d.verifier.isSome = true → pending.pkceVerifiers d.info.deviceCode = d.verifier
  client : d.client.isSome = true → pending.deviceClients d.info.deviceCode = d.client

theorem PendingFlows.addDevice_eq_self_iff {pending : PendingFlows} :
    pending.addDevice p d = pending ↔ pending.HasDevice p d := by
  rw [addDevice, PendingFlows.mk.injEq, Function.update_eq_self_iff,
    OAuthStore.keep_eq_self_iff, OAuthStore.keep_eq_self_iff]
  constructor
  · intro h
    obtain ⟨-, hverifier, hdevice, hclient⟩ := h
    exact ⟨hdevice.symm, hverifier, hclient⟩
  · intro h
    exact ⟨rfl, h.verifier, h.device.symm, h.client⟩

theorem startDeviceFlow_unchanged_iff {w : FlowWorld} {pending : PendingFlows} :
    (startDeviceFlow w p pending).2 = pending ↔
      ∀ d, requestDevice w p = .ok d → pending.HasDevice p d := by
  cases hd : requestDevice w p with
  | error e =>
    rw [startDeviceFlow_error w hd]
    exact iff_of_true rfl fun _ h => nomatch h
  | ok d =>
    rw [startDeviceFlow_ok w hd]
    constructor
    · rintro h _ ⟨⟩
      exact PendingFlows.addDevice_eq_self_iff.mp h
    · intro h
      exact PendingFlows.addDevice_eq_self_iff.mpr (h d rfl)

/-- The answers that a login is over with. A token that cannot be stored is not one of them. -/
def DeviceAnswer.Settles (written : Except String Unit) : DeviceAnswer → Prop
  | authorized _ => written.isOk = true
  | pending => False
  | rejected _ => True

namespace OAuthStore

variable {w : FlowWorld} {s : OAuthStore}

/-- The login of a device stays as it is when it is polled about: there is no verifier to be taken
out, and the provider's answer does not settle it. -/
def PollKeeps (w : FlowWorld) (deviceCode : String) (s : OAuthStore) : Prop :=
  ∀ p cfg, s.pending.devices deviceCode = some p → Manifest.lookupOauth p = some cfg →
    (p = "minimax" → s.pending.pkceVerifiers deviceCode = none) ∧
      ∀ answer, pollAnswer w (pollRequest cfg p deviceCode (s.pending.deviceClients deviceCode)
        none) = .ok answer → ¬ answer.Settles w.written

theorem takeVerifier_eq_self_iff {pending : PendingFlows} :
    (pending.takeVerifier p deviceCode).2 = pending ↔
      (p = "minimax" → pending.pkceVerifiers deviceCode = none) := by
  rw [PendingFlows.takeVerifier]
  split
  · rename_i hminimax
    rw [PendingFlows.mk.injEq, Function.update_eq_self_iff]
    constructor
    · rintro ⟨-, h, -⟩ _
      exact h.symm
    · intro h
      exact ⟨rfl, (h hminimax).symm, rfl, rfl⟩
  · rename_i hminimax
    exact iff_of_true rfl fun h => absurd h hminimax

theorem takeVerifier_of_none {pending : PendingFlows}
    (h : p = "minimax" → pending.pkceVerifiers deviceCode = none) :
    pending.takeVerifier p deviceCode = (none, pending) := by
  refine Prod.ext ?_ (takeVerifier_eq_self_iff.mpr h)
  rw [PendingFlows.takeVerifier]
  split
  · rename_i hminimax
    exact h hminimax
  · rfl

/-- A poll keeps the verifiers that are left when the verifier is taken out. -/
theorem pollDeviceFlow_pkceVerifiers (hdevice : s.pending.devices deviceCode = some p)
    (hcfg : Manifest.lookupOauth p = some cfg) :
    (pollDeviceFlow w deviceCode s).2.pending.pkceVerifiers =
      (s.pending.takeVerifier p deviceCode).2.pkceVerifiers := by
  rw [pollDeviceFlow, hdevice]
  simp only [hcfg]
  split
  · rfl
  · rfl
  · rfl
  · split <;> rfl

theorem pollDeviceFlow_of_no_verifier (hdevice : s.pending.devices deviceCode = some p)
    (hcfg : Manifest.lookupOauth p = some cfg)
    (hverifier : p = "minimax" → s.pending.pkceVerifiers deviceCode = none) :
    s.Unchanged w.crypto (pollDeviceFlow w deviceCode s).2 ↔
      ∀ answer, pollAnswer w (pollRequest cfg p deviceCode (s.pending.deviceClients deviceCode)
        none) = .ok answer → ¬ answer.Settles w.written := by
  have hgone : ∀ {s' : OAuthStore}, s'.pending = s.pending.dropDevice deviceCode →
      ¬ s.Unchanged w.crypto s' := by
    intro s' hpending h
    have hnone : (s.pending.dropDevice deviceCode).devices deviceCode = none :=
      Function.update_self _ _ _
    rw [← hpending, h.pending, hdevice] at hnone
    cases hnone
  rw [pollDeviceFlow, hdevice]
  simp only [hcfg, takeVerifier_of_none hverifier]
  cases hanswer : pollAnswer w (pollRequest cfg p deviceCode (s.pending.deviceClients deviceCode)
      none) with
  | error e => exact iff_of_true (.refl _ _) fun _ h => nomatch h
  | ok answer =>
    cases answer with
    | pending =>
      apply iff_of_true (.refl _ _)
      rintro _ ⟨⟩ h
      exact h
    | rejected err => exact iff_of_false (hgone rfl) fun h => h _ rfl trivial
    | authorized token =>
      cases hwritten : w.written with
      | error message =>
        apply iff_of_true (.refl _ _)
        rintro _ ⟨⟩ h
        exact Bool.false_ne_true h
      | ok u => exact iff_of_false (hgone rfl) fun h => h _ rfl rfl

theorem pollDeviceFlow_unchanged_iff :
    s.Unchanged w.crypto (pollDeviceFlow w deviceCode s).2 ↔ s.PollKeeps w deviceCode := by
  cases hdevice : s.pending.devices deviceCode with
  | none =>
    have hsame : (pollDeviceFlow w deviceCode s).2 = s := by
      rw [pollDeviceFlow, hdevice]
    rw [hsame]
    apply iff_of_true (.refl _ _)
    intro p cfg h
    rw [hdevice] at h
    cases h
  | some p =>
    cases hcfg : Manifest.lookupOauth p with
    | none =>
      have hsame : (pollDeviceFlow w deviceCode s).2 = s := by
        rw [pollDeviceFlow, hdevice]
        simp only [hcfg]
      rw [hsame]
      apply iff_of_true (.refl _ _)
      intro q cfg h hlookup
      rw [hdevice] at h
      cases h
      rw [hcfg] at hlookup
      cases hlookup
    | some cfg =>
      have hverifier : s.Unchanged w.crypto (pollDeviceFlow w deviceCode s).2 →
          (p = "minimax" → s.pending.pkceVerifiers deviceCode = none) := by
        intro h hminimax
        have hleft := pollDeviceFlow_pkceVerifiers (w := w) hdevice hcfg
        rw [h.pending, PendingFlows.takeVerifier, if_pos hminimax] at hleft
        rw [hleft]
        exact Function.update_self _ _ _
      constructor
      · intro h q cfg' hq hlookup
        rw [hdevice] at hq
        cases hq
        rw [hcfg] at hlookup
        cases hlookup
        have hnone := hverifier h
        exact ⟨hnone, (pollDeviceFlow_of_no_verifier hdevice hcfg hnone).mp h⟩
      · intro h
        obtain ⟨hnone, hanswer⟩ := h p cfg hdevice hcfg
        exact (pollDeviceFlow_of_no_verifier hdevice hcfg hnone).mpr hanswer

end OAuthStore

end TokenDealer
