import TokenDealer.DevicePolls
import TokenDealer.RedirectAgreement
import TokenDealer.AdminFrame

set_option autoImplicit true

namespace TokenDealer

namespace PendingFlows

/-- Nothing is kept for a login that is over. -/
structure NoOrphans (pending : PendingFlows) : Prop where
  verifiers : ∀ key, (pending.pkceVerifiers key).isSome = true →
    (pending.states key).isSome = true ∨ (pending.devices key).isSome = true
  clients : ∀ key, (pending.deviceClients key).isSome = true →
    (pending.devices key).isSome = true

variable {pending : PendingFlows} {key p : String}

theorem isSome_update {m : String → Option α} {v : Option α} (k : String) :
    (Function.update m key v k).isSome = true ↔
      k = key ∧ v.isSome = true ∨ k ≠ key ∧ (m k).isSome = true := by
  by_cases hk : k = key
  · subst hk
    simp
  · simp [hk]

theorem isSome_keep {m : String → Option α} {v : Option α} {k : String}
    (h : (keep key v m k).isSome = true) : k = key ∨ (m k).isSome = true := by
  rw [keep] at h
  split at h
  · exact ((isSome_update k).mp h).imp And.left And.right
  · exact .inr h

/-- A state that is pending keeps its verifier from being left over. -/
theorem NoOrphans.addState (h : pending.NoOrphans) (verifier : String) :
    NoOrphans { pending with
      states := Function.update pending.states key (some p)
      pkceVerifiers := Function.update pending.pkceVerifiers key (some verifier) } where
  verifiers k hk := by
    rcases (isSome_update k).mp hk with ⟨rfl, -⟩ | ⟨hne, hk⟩
    · exact .inl ((isSome_update k).mpr (.inl ⟨rfl, rfl⟩))
    · exact (h.verifiers k hk).imp_left fun hstate => (isSome_update k).mpr (.inr ⟨hne, hstate⟩)
  clients := h.clients

theorem NoOrphans.addDevice (h : pending.NoOrphans) (d : StartedDevice) :
    (pending.addDevice p d).NoOrphans := by
  have hdevice : ∀ k, k = d.info.deviceCode ∨ (pending.devices k).isSome = true →
      ((pending.addDevice p d).devices k).isSome = true := by
    intro k hk
    apply (isSome_update k).mpr
    by_cases hcode : k = d.info.deviceCode
    · exact .inl ⟨hcode, rfl⟩
    · exact .inr ⟨hcode, hk.resolve_left hcode⟩
  refine ⟨?_, ?_⟩
  · intro k hk
    rcases isSome_keep hk with hcode | hk
    · exact .inr (hdevice k (.inl hcode))
    · exact (h.verifiers k hk).imp_right fun hk => hdevice k (.inr hk)
  · intro k hk
    rcases isSome_keep hk with hcode | hk
    · exact hdevice k (.inl hcode)
    · exact hdevice k (.inr (h.clients k hk))

/-- A verifier that is taken out is not left over. -/
theorem NoOrphans.dropVerifier (h : pending.NoOrphans) :
    NoOrphans { pending with
      pkceVerifiers := Function.update pending.pkceVerifiers key none } where
  verifiers k hk := by
    rcases (isSome_update k).mp hk with ⟨-, hk⟩ | ⟨-, hk⟩
    · cases hk
    · exact h.verifiers k hk
  clients := h.clients

theorem NoOrphans.takeVerifier (h : pending.NoOrphans) (p code : String) :
    (pending.takeVerifier p code).2.NoOrphans := by
  rw [PendingFlows.takeVerifier]
  split
  · exact h.dropVerifier
  · exact h

/-- A state may go when it has no verifier, or when its verifier is that of a device as well. -/
theorem noOrphans_dropState_iff (h : pending.NoOrphans) :
    NoOrphans { pending with states := Function.update pending.states key none } ↔
      ((pending.pkceVerifiers key).isSome = true → (pending.devices key).isSome = true) := by
  constructor
  · intro hdropped hverifier
    rcases hdropped.verifiers key hverifier with hstate | hdevice
    · rcases (isSome_update key).mp hstate with ⟨-, hnone⟩ | ⟨hne, -⟩
      · cases hnone
      · exact absurd rfl hne
    · exact hdevice
  · intro hdevice
    refine ⟨?_, h.clients⟩
    intro k hk
    by_cases hkey : k = key
    · subst hkey
      exact .inr (hdevice hk)
    · exact (h.verifiers k hk).imp_left fun hstate => (isSome_update k).mpr (.inr ⟨hkey, hstate⟩)

/-- A device may go when it has no verifier, or when its verifier is that of a state as well. -/
theorem noOrphans_dropDevice_iff (h : pending.NoOrphans) :
    (pending.dropDevice key).NoOrphans ↔
      ((pending.pkceVerifiers key).isSome = true → (pending.states key).isSome = true) := by
  have hgone : ¬ ((pending.dropDevice key).devices key).isSome = true := by
    intro hthere
    rcases (isSome_update key).mp hthere with ⟨-, hnone⟩ | ⟨hne, -⟩
    · cases hnone
    · exact hne rfl
  constructor
  · intro hdropped hverifier
    exact (hdropped.verifiers key hverifier).resolve_right hgone
  · intro hstate
    have hother : ∀ k, k ≠ key → (pending.devices k).isSome = true →
        ((pending.dropDevice key).devices k).isSome = true :=
      fun k hne hk => (isSome_update k).mpr (.inr ⟨hne, hk⟩)
    refine ⟨?_, ?_⟩
    · intro k hk
      by_cases hkey : k = key
      · subst hkey
        exact .inl (hstate hk)
      · exact (h.verifiers k hk).imp_right (hother k hkey)
    · intro k hk
      rcases (isSome_update k).mp hk with ⟨-, hk⟩ | ⟨hne, hk⟩
      · cases hk
      · exact hother k hne (h.clients k hk)

end PendingFlows

open PendingFlows

/-- The answer to a poll is the last one: the provider has refused the login, or agreed to it with
a token that can be stored. -/
def PollEnds (w : FlowWorld) (deviceCode : String) (s : OAuthStore) : Prop :=
  ∃ req, pollRequestOf deviceCode s = some req ∧
    ((∃ err, pollAnswer w req = .ok (.rejected err)) ∨
      (∃ token, pollAnswer w req = .ok (.authorized token)) ∧ w.written = .ok ())

/-- A call leaves nothing over: a completion names the provider that its state was issued for, and
a poll that ends a login is about one whose verifier has been taken. -/
def LeavesNothing (s : OAuthStore) : LoginEvent → Prop
  | .pollDevice w code => ∀ p, s.pending.devices code = some p → p ≠ "minimax" →
      PollEnds w code s → (s.pending.pkceVerifiers code).isSome = true →
        (s.pending.states code).isSome = true
  | .completePopup _ p _ state _ => ∀ q, s.pending.states state = some q → q ≠ p →
      (s.pending.pkceVerifiers state).isSome = true →
        (s.pending.devices state).isSome = true
  | _ => True

/-- Every state that is pending was issued for a provider with a login. -/
def KnownStates (s : OAuthStore) : Prop :=
  ∀ state p, s.pending.states state = some p → (Manifest.lookupOauth p).isSome = true

section Steps

variable {w : FlowWorld} {s : OAuthStore} {code p q state : String}

/-- A completion for another provider uses up the state and nothing else. -/
theorem completePopupOauth_mismatch (hstate : s.pending.states state = some q) (hne : q ≠ p)
    (w : FlowWorld) (grant redirectUri : String) :
    (completePopupOauth w p grant state redirectUri s).2.pending =
      { s.pending with states := Function.update s.pending.states state none } := by
  rw [completePopupOauth, hstate]
  dsimp only
  rw [if_pos hne]

theorem completePopupOauth_match (hstate : s.pending.states state = some p)
    (hknown : (Manifest.lookupOauth p).isSome = true) (w : FlowWorld)
    (grant redirectUri : String) :
    (completePopupOauth w p grant state redirectUri s).2.pending =
      { s.pending with
        states := Function.update s.pending.states state none
        pkceVerifiers := Function.update s.pending.pkceVerifiers state none } := by
  obtain ⟨cfg, hcfg⟩ := Option.isSome_iff_exists.mp hknown
  rw [completePopupOauth, hstate]
  dsimp only
  rw [if_neg (not_not_intro rfl), hcfg]
  dsimp only
  split
  · rfl
  · rw [OAuthStore.setRefreshToken_pending]

theorem completePopupOauth_unknown (hstate : s.pending.states state = none) (w : FlowWorld)
    (p grant redirectUri : String) :
    (completePopupOauth w p grant state redirectUri s).2.pending = s.pending := by
  rw [completePopupOauth, hstate]

theorem pollRequestOf_eq (hdevice : s.pending.devices code = some p)
    (hcfg : Manifest.lookupOauth p = some cfg) :
    pollRequestOf code s = some (pollRequest cfg p code (s.pending.deviceClients code)
      (s.pending.takeVerifier p code).1) := by
  rw [pollRequestOf, hdevice, Option.bind_some, hcfg, Option.map_some]

/-- What a poll leaves of a login, by the answer to it. -/
theorem pollDeviceFlow_pending_cases (w : FlowWorld)
    (hdevice : s.pending.devices code = some p) :
    PollEnds w code s ∧ (pollDeviceFlow w code s).2.pending =
        (s.pending.takeVerifier p code).2.dropDevice code ∨
      ¬ PollEnds w code s ∧ ((pollDeviceFlow w code s).2.pending = s.pending ∨
        (pollDeviceFlow w code s).2.pending = (s.pending.takeVerifier p code).2) := by
  cases hcfg : Manifest.lookupOauth p with
  | none =>
    right
    refine ⟨?_, .inl ?_⟩
    · rintro ⟨req, hreq, -⟩
      rw [pollRequestOf, hdevice, Option.bind_some, hcfg] at hreq
      cases hreq
    · rw [pollDeviceFlow, hdevice]
      dsimp only
      rw [hcfg]
  | some cfg =>
    have hreq := pollRequestOf_eq hdevice hcfg
    have hends : PollEnds w code s ↔
        (∃ err, pollAnswer w (pollRequest cfg p code (s.pending.deviceClients code)
          (s.pending.takeVerifier p code).1) = .ok (.rejected err)) ∨
        (∃ token, pollAnswer w (pollRequest cfg p code (s.pending.deviceClients code)
          (s.pending.takeVerifier p code).1) = .ok (.authorized token)) ∧ w.written = .ok () := by
      rw [PollEnds, hreq]
      simp only [Option.some.injEq, exists_eq_left']
    rw [hends, pollDeviceFlow, hdevice]
    dsimp only
    rw [hcfg]
    dsimp only
    cases pollAnswer w (pollRequest cfg p code (s.pending.deviceClients code)
      (s.pending.takeVerifier p code).1) with
    | error e => exact .inr ⟨by simp, .inr rfl⟩
    | ok answer =>
      cases answer with
      | pending => exact .inr ⟨by simp, .inr rfl⟩
      | rejected err => exact .inl ⟨.inl ⟨err, rfl⟩, rfl⟩
      | authorized token =>
        simp only [KeyStore.set]
        cases w.written with
        | error message => exact .inr ⟨by simp, .inr rfl⟩
        | ok u => exact .inl ⟨.inr ⟨⟨token, rfl⟩, rfl⟩, rfl⟩

theorem pollDeviceFlow_unknown (hdevice : s.pending.devices code = none) (w : FlowWorld) :
    (pollDeviceFlow w code s).2 = s := by
  rw [pollDeviceFlow, hdevice]

/-- After a poll that ends a login, its verifier is left over unless it has been taken or is that
of a state as well. -/
theorem noOrphans_ended_iff (h : s.pending.NoOrphans) :
    ((s.pending.takeVerifier p code).2.dropDevice code).NoOrphans ↔
      (p ≠ "minimax" → (s.pending.pkceVerifiers code).isSome = true →
        (s.pending.states code).isSome = true) := by
  rw [noOrphans_dropDevice_iff (h.takeVerifier p code), PendingFlows.takeVerifier]
  by_cases hp : p = "minimax"
  · rw [if_pos hp]
    refine iff_of_true ?_ fun hne => absurd hp hne
    dsimp only
    rw [Function.update_self]
    intro hthere
    exact absurd hthere Bool.false_ne_true
  · rw [if_neg hp]
    exact ⟨fun hstate _ => hstate, fun hstate => hstate hp⟩

theorem noOrphans_poll_iff (h : s.pending.NoOrphans) (w : FlowWorld) (code : String) :
    (pollDeviceFlow w code s).2.pending.NoOrphans ↔ LeavesNothing s (.pollDevice w code) := by
  rw [LeavesNothing]
  cases hdevice : s.pending.devices code with
  | none =>
    rw [pollDeviceFlow_unknown hdevice]
    exact iff_of_true h nofun
  | some p =>
    rcases pollDeviceFlow_pending_cases w hdevice with ⟨hends, hpending⟩ | ⟨hgoes, hpending⟩
    · rw [hpending, noOrphans_ended_iff h]
      constructor
      · intro hleft p' hp'
        cases hp'
        exact fun hne _ => hleft hne
      · exact fun hleft hne => hleft p rfl hne hends
    · refine iff_of_true ?_ fun _ _ _ hends => absurd hends hgoes
      rcases hpending with hsame | htaken
      · rw [hsame]
        exact h
      · rw [htaken]
        exact h.takeVerifier p code

theorem noOrphans_complete_iff (hknown : KnownStates s) (h : s.pending.NoOrphans) (w : FlowWorld)
    (p grant state redirectUri : String) :
    (completePopupOauth w p grant state redirectUri s).2.pending.NoOrphans ↔
      LeavesNothing s (.completePopup w p grant state redirectUri) := by
  rw [LeavesNothing]
  cases hstate : s.pending.states state with
  | none =>
    rw [completePopupOauth_unknown hstate]
    exact iff_of_true h nofun
  | some q =>
    by_cases hq : q = p
    · subst hq
      rw [completePopupOauth_match hstate (hknown state q hstate)]
      refine iff_of_true ?_ ?_
      · have hdropped : NoOrphans { s.pending with
            pkceVerifiers := Function.update s.pending.pkceVerifiers state none } :=
          h.dropVerifier
        apply (noOrphans_dropState_iff hdropped).mpr
        dsimp only
        rw [Function.update_self]
        intro hthere
        exact absurd hthere Bool.false_ne_true
      · intro q' hq' hne
        cases hq'
        exact absurd rfl hne
    · rw [completePopupOauth_mismatch hstate hq, noOrphans_dropState_iff h]
      constructor
      · intro hleft q' hq' _
        exact hleft
      · exact fun hleft => hleft q rfl hq

/-- A call keeps what is pending free of what is left over exactly when it leaves nothing. -/
theorem noOrphans_step_iff (hknown : KnownStates s) (h : s.pending.NoOrphans) (e : LoginEvent) :
    (LoginEvent.step s e).pending.NoOrphans ↔ LeavesNothing s e := by
  cases e with
  | startDevice w p =>
    refine iff_of_true ?_ trivial
    rw [LoginEvent.pending_startDevice]
    cases hd : requestDevice w p with
    | error e =>
      rw [startDeviceFlow_error w hd]
      exact h
    | ok d =>
      rw [startDeviceFlow_ok w hd]
      exact h.addDevice _
  | pollDevice w code => exact noOrphans_poll_iff h w code
  | startPopup w p redirectUri =>
    refine iff_of_true ?_ trivial
    rw [LoginEvent.pending_startPopup]
    cases hconfig : popupConfig p with
    | error e =>
      rw [startPopupOauth_error w hconfig]
      exact h
    | ok cfg =>
      rw [startPopupOauth_ok w hconfig]
      exact h.addState _
  | completePopup w p grant state redirectUri =>
    exact noOrphans_complete_iff hknown h w p grant state redirectUri
  | other manager keys => exact iff_of_true h trivial

theorem KnownStates.mono {s' : OAuthStore} (hknown : KnownStates s)
    (hstates : ∀ k, (s'.pending.states k) = s.pending.states k ∨ s'.pending.states k = none) :
    KnownStates s' := by
  intro state p hp
  rcases hstates state with hsame | hnone
  · exact hknown state p (hsame.symm.trans hp)
  · cases hnone.symm.trans hp

theorem takeVerifier_states {pending : PendingFlows} :
    (pending.takeVerifier p code).2.states = pending.states := by
  rw [PendingFlows.takeVerifier]
  split <;> rfl

theorem pollDeviceFlow_states (w : FlowWorld) (s : OAuthStore) (code : String) :
    (pollDeviceFlow w code s).2.pending.states = s.pending.states := by
  obtain h | ⟨p, -, h | h⟩ := pollDeviceFlow_pending w code s
  · rw [h]
  · rw [h, takeVerifier_states]
  · rw [h, PendingFlows.dropDevice, takeVerifier_states]

/-- A completion uses up one state at most. -/
theorem completePopupOauth_states (w : FlowWorld) (hknown : KnownStates s)
    (p grant state redirectUri : String) :
    (completePopupOauth w p grant state redirectUri s).2.pending.states =
      Function.update s.pending.states state none := by
  cases hstate : s.pending.states state with
  | none => rw [completePopupOauth_unknown hstate, Function.update_eq_self_iff.mpr hstate.symm]
  | some q =>
    by_cases hq : q = p
    · subst hq
      rw [completePopupOauth_match hstate (hknown state q hstate)]
    · rw [completePopupOauth_mismatch hstate hq]

theorem knownStates_step (hknown : KnownStates s) (e : LoginEvent) :
    KnownStates (LoginEvent.step s e) := by
  cases e with
  | startDevice w p =>
    apply hknown.mono
    intro k
    rw [LoginEvent.pending_startDevice]
    cases hd : requestDevice w p with
    | error e =>
      rw [startDeviceFlow_error w hd]
      exact .inl rfl
    | ok d =>
      rw [startDeviceFlow_ok w hd]
      exact .inl rfl
  | pollDevice w code =>
    exact hknown.mono fun k => .inl (congrFun (pollDeviceFlow_states w s code) k)
  | startPopup w p redirectUri =>
    intro state q hq
    rw [LoginEvent.pending_startPopup] at hq
    cases hcfg : popupConfig p with
    | error e =>
      rw [startPopupOauth_error w hcfg] at hq
      exact hknown state q hq
    | ok cfg =>
      rw [startPopupOauth_ok w hcfg] at hq
      dsimp only at hq
      by_cases hstate : state = popupState w p
      · rw [hstate, Function.update_self] at hq
        cases hq
        rw [lookupOauth_of_popupConfig hcfg]
        rfl
      · rw [Function.update_of_ne hstate] at hq
        exact hknown state q hq
  | completePopup w p grant state redirectUri =>
    have hstates := completePopupOauth_states w hknown p grant state redirectUri
    apply hknown.mono
    intro k
    by_cases hk : k = state
    · subst hk
      exact .inr ((congrFun hstates k).trans (Function.update_self _ _ _))
    · exact .inl ((congrFun hstates k).trans (Function.update_of_ne hk _ _))
  | other manager keys => exact hknown

end Steps

/-- From a store without pending logins, nothing is left over after any number of calls exactly
when each call leaves nothing. -/
theorem no_orphans_iff (manager : OAuthManager) (keys : KeyStore) (events : List LoginEvent) :
    (∀ front back, events = front ++ back →
        (Machine.run LoginEvent.step { manager := manager, keys := keys }
          front).pending.NoOrphans) ↔
      Machine.Throughout LoginEvent.step LeavesNothing { manager := manager, keys := keys }
        events := by
  have hknown : KnownStates { manager := manager, keys := keys } := nofun
  have hnone : NoOrphans {} := ⟨nofun, nofun⟩
  exact (Machine.throughout_iff_fronts (I := fun s : OAuthStore => s.pending.NoOrphans)
    (fun _ e h => knownStates_step h e) (fun _ e hk h => noOrphans_step_iff hk h e) hknown
    hnone events).symm

open RouterState

/-- A login for OpenAI that is completed as one for Anthropic. -/
def sampleMismatch : List LoginEvent :=
  [.startPopup sampleFlowWorld "openai" "http://localhost:8080/callback",
    .completePopup sampleFlowWorld "anthropic" "grant" (popupState sampleFlowWorld "openai")
      "http://localhost:8080/callback"]

/-- The verifier of the login outlives it. -/
theorem verifier_left_over :
    ¬ ∀ (manager : OAuthManager) (keys : KeyStore) (events : List LoginEvent),
      (Machine.run LoginEvent.step { manager := manager, keys := keys }
        events).pending.NoOrphans := by
  intro hall
  have hleft := (hall {} sampleRouter.oauth.keys sampleMismatch).verifiers
    (popupState sampleFlowWorld "openai")
  have hstate : ¬ (((Machine.run LoginEvent.step
      { manager := {}, keys := sampleRouter.oauth.keys } sampleMismatch).pending.states
        (popupState sampleFlowWorld "openai")).isSome = true ∨
      ((Machine.run LoginEvent.step
      { manager := {}, keys := sampleRouter.oauth.keys } sampleMismatch).pending.devices
        (popupState sampleFlowWorld "openai")).isSome = true) := by
    decide +kernel
  exact hstate (hleft (by decide +kernel))

end TokenDealer
