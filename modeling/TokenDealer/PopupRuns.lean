import TokenDealer.AdminFrame
import TokenDealer.KeyCache
import TokenDealer.Ticket

set_option autoImplicit true

namespace TokenDealer

open History

/-- What is seen of the popup logins: states that are issued and shown, requests to token endpoints
and refresh tokens that are stored. -/
inductive PopupAction where
  | issued (state providerId : String)
  | passed (state providerId : String)
  | refused (state providerId : String)
  | contacted (state providerId tokenUrl : String)
  | stored (state providerId token : String)
  deriving DecidableEq, Repr

namespace PopupAction

/-- A state is a ticket of its provider. -/
def ticket : PopupAction → Option (Ticket.Act String String)
  | issued state p => some (.issue state p)
  | passed state p => some (.pass state p)
  | refused state p => some (.refuse state p)
  | _ => none

def issuedState (a : PopupAction) : Option String := a.ticket.bind Ticket.Act.issued

def passedState (a : PopupAction) : Option String := a.ticket.bind Ticket.Act.passed

def tickets (log : List PopupAction) : List (Ticket.Act String String) := log.filterMap ticket

theorem tickets_concat (log : List PopupAction) (a : PopupAction) :
    tickets (log ++ [a]) = tickets log ++ a.ticket.toList := by
  rw [tickets, List.filterMap_append, tickets]
  cases h : a.ticket <;> simp [h]

/-- A state has been issued for a provider, and since then neither shown nor issued again. -/
def Usable (log : List PopupAction) (state p : String) : Prop :=
  Since (fun _ a => a = .issued state p) (fun a => ∃ t, a.ticket = some t ∧ t.ticket = state) log

theorem usable_iff (log : List PopupAction) :
    Usable log state p ↔ Ticket.holder (tickets log) state = some p := by
  induction log using List.reverseRecOn with
  | nil => exact iff_of_false not_since_nil (Option.some_ne_none p).symm
  | append_singleton log a ih =>
    rw [Usable, since_concat, tickets_concat]
    change a = _ ∨ Usable log state p ∧ _ ↔ _
    rw [ih]
    cases ht : a.ticket with
    | none =>
      rw [Option.toList_none, List.append_nil]
      simp only [reduceCtorEq, false_and, exists_false, not_false_eq_true, and_true,
        or_iff_right_iff_imp]
      rintro rfl
      cases ht
    | some t =>
      rw [Option.toList_some, Ticket.holder_concat]
      by_cases hstate : t.ticket = state
      · subst hstate
        rw [Function.update_self]
        simp only [Option.some.injEq, exists_eq_left', not_true_eq_false, and_false, or_false]
        cases a <;> cases ht <;> simp [Ticket.Act.owner, Ticket.Act.ticket]
      · rw [Function.update_of_ne (Ne.symm hstate)]
        simp only [Option.some.injEq, exists_eq_left', hstate, not_false_eq_true, and_true,
          or_iff_right_iff_imp]
        rintro rfl
        cases ht
        exact (hstate rfl).elim

/-- What may come after a log: a state passes when it is usable for the provider and is refused when
it is not, and the rest of a login comes after its state has passed. -/
def Admits (log : List PopupAction) : PopupAction → Prop
  | issued _ _ => True
  | passed state p => Usable log state p
  | refused state p => ¬ Usable log state p
  | contacted state p _ => passed state p ∈ log
  | stored state p _ => passed state p ∈ log

theorem truthful_tickets {log : List PopupAction} (h : Always Admits log) :
    Ticket.Truthful (tickets log) := by
  induction log using List.reverseRecOn with
  | nil => exact always_nil
  | append_singleton log a ih =>
    obtain ⟨hlog, ha⟩ := always_concat.mp h
    rw [tickets_concat]
    cases ht : a.ticket with
    | none =>
      rw [Option.toList_none, List.append_nil]
      exact ih hlog
    | some t =>
      refine always_concat.mpr ⟨ih hlog, ?_⟩
      cases a <;> cases ht
      · trivial
      · exact (usable_iff log).mp ha
      · exact fun hout => ha ((usable_iff log).mpr hout)

end PopupAction

open PopupAction

/-- What a call still has to do: the rest of a start is to keep the verifier; the rest of a
completion is to take it, to exchange the code, and to store the token in the table, in the cache of
keys and out of that of access tokens. -/
inductive PopupCall where
  | keepVerifier (state verifier : String)
  | takeVerifier (cfg : ManifestOAuthFlow) (providerId code state redirectUri : String)
  | exchange (cfg : ManifestOAuthFlow) (providerId code state redirectUri : String)
    (verifier : Option String)
  | store (state providerId token : String)
  | keepKey (providerId token : String)
  | forgetAccess (providerId : String)

structure PopupRun where
  oauth : OAuthStore
  calls : List PopupCall := []
  log : List PopupAction := []

inductive PopupEvent where
  | start (w : FlowWorld) (providerId redirectUri : String)
  | complete (providerId code state redirectUri : String)
  | advance (i : Nat) (w : FlowWorld)

def PendingFlows.setState (pending : PendingFlows) (state : String) (owner : Option String) :
    PendingFlows :=
  { pending with states := Function.update pending.states state owner }

def PendingFlows.setVerifier (pending : PendingFlows) (state : String)
    (verifier : Option String) : PendingFlows :=
  { pending with pkceVerifiers := Function.update pending.pkceVerifiers state verifier }

namespace PopupRun

def setPending (r : PopupRun) (pending : PendingFlows) : PopupRun :=
  { r with oauth := { r.oauth with pending := pending } }

def setKeys (r : PopupRun) (keys : KeyStore) : PopupRun :=
  { r with oauth := { r.oauth with keys := keys } }

def write (r : PopupRun) (a : PopupAction) : PopupRun := { r with log := r.log ++ [a] }

def begin (r : PopupRun) (c : PopupCall) : PopupRun := { r with calls := r.calls ++ [c] }

def start (r : PopupRun) (w : FlowWorld) (providerId : String) : PopupRun :=
  match popupConfig providerId with
  | .error _ => r
  | .ok _ =>
    let state := popupState w providerId
    ((r.setPending (r.oauth.pending.setState state (some providerId))).write
      (.issued state providerId)).begin (.keepVerifier state w.generatePkceVerifier)

/-- The check takes the state out whatever it was issued for. -/
def complete (r : PopupRun) (providerId code state redirectUri : String) : PopupRun :=
  match r.oauth.pending.states state with
  | none => r.write (.refused state providerId)
  | some expected =>
    let r := r.setPending (r.oauth.pending.setState state none)
    if expected ≠ providerId then r.write (.refused state providerId)
    else
      let r := r.write (.passed state providerId)
      match Manifest.lookupOauth providerId with
      | none => r
      | some cfg => r.begin (.takeVerifier cfg providerId code state redirectUri)

/-- The next step of one call, the other calls being those of `r`. -/
def advance (r : PopupRun) (w : FlowWorld) : PopupCall → PopupRun
  | .keepVerifier state verifier =>
    r.setPending (r.oauth.pending.setVerifier state (some verifier))
  | .takeVerifier cfg providerId code state redirectUri =>
    (r.setPending (r.oauth.pending.setVerifier state none)).begin
      (.exchange cfg providerId code state redirectUri (r.oauth.pending.pkceVerifiers state))
  | .exchange cfg providerId code state redirectUri verifier =>
    let r := r.write (.contacted state providerId cfg.tokenUrl)
    match exchangeCode w cfg providerId code redirectUri verifier with
    | .error _ => r
    | .ok token => r.begin (.store state providerId token)
  | .store state providerId token =>
    match w.written with
    | .error _ => r
    | .ok () =>
      let ct := w.crypto.aeadEncrypt r.oauth.keys.cipher w.nonce (Utf8.encode token.toList)
      ((r.setKeys (r.oauth.keys.putRow (oauthEntry providerId) (some (ct, w.nonce)))).write
        (.stored state providerId token)).begin (.keepKey providerId token)
  | .keepKey providerId token =>
    (r.setKeys (r.oauth.keys.keep (oauthEntry providerId) token)).begin (.forgetAccess providerId)
  | .forgetAccess providerId =>
    { r with
      oauth := { r.oauth with
        manager := { r.oauth.manager with
          cache := Function.update r.oauth.manager.cache providerId none } } }

def step (r : PopupRun) : PopupEvent → PopupRun
  | .start w providerId _ => r.start w providerId
  | .complete providerId code state redirectUri => r.complete providerId code state redirectUri
  | .advance i w =>
    match r.calls[i]? with
    | none => r
    | some c => { r with calls := r.calls.eraseIdx i }.advance w c

section Alone

variable (w : FlowWorld)

/-- Steps of the first of the calls. -/
def drain (n : Nat) (r : PopupRun) : PopupRun :=
  Machine.run step r (List.replicate n (.advance 0 w))

theorem drain_idle (n : Nat) (s : OAuthStore) (log : List PopupAction) :
    drain w n ⟨s, [], log⟩ = ⟨s, [], log⟩ :=
  Machine.run_replicate rfl n

theorem drain_succ (n : Nat) (s : OAuthStore) (c : PopupCall) (log : List PopupAction) :
    drain w (n + 1) ⟨s, [c], log⟩ = drain w n (advance ⟨s, [], log⟩ w c) := rfl

/-- Without other calls, a start and a completion are those of the manager. -/
theorem start_alone (s : OAuthStore) (p redirectUri : String) :
    (drain w 1 (step ⟨s, [], []⟩ (.start w p redirectUri))).oauth =
      { s with pending := (startPopupOauth w p redirectUri s.pending).2 } := by
  rw [step, start]
  cases hconfig : popupConfig p with
  | error e =>
    rw [startPopupOauth_error w hconfig]
    rfl
  | ok cfg =>
    rw [startPopupOauth_ok w hconfig]
    rfl

/-- What is left of a completion when its code has been exchanged. -/
theorem store_alone (s : OAuthStore) (state p token : String) (log : List PopupAction) :
    (drain w 3 ⟨s, [.store state p token], log⟩).oauth = (s.setRefreshToken w p token).2 := by
  rw [drain_succ]
  simp only [advance, OAuthStore.setRefreshToken, KeyStore.set]
  cases w.written with
  | error message => exact congrArg oauth (drain_idle w _ _ _)
  | ok u => rfl

theorem exchange_alone (cfg : ManifestOAuthFlow) (p code state redirectUri : String)
    (verifier : Option String) (s : OAuthStore) (log : List PopupAction) :
    (drain w 4 ⟨s, [.exchange cfg p code state redirectUri verifier], log⟩).oauth =
      match exchangeCode w cfg p code redirectUri verifier with
      | .error _ => s
      | .ok token => (s.setRefreshToken w p token).2 := by
  rw [drain_succ, advance]
  cases exchangeCode w cfg p code redirectUri verifier with
  | error e => exact congrArg oauth (drain_idle w _ _ _)
  | ok token => exact store_alone w s state p token _

theorem complete_alone (s : OAuthStore) (p code state redirectUri : String) :
    (drain w 5 (step ⟨s, [], []⟩ (.complete p code state redirectUri))).oauth =
      (completePopupOauth w p code state redirectUri s).2 := by
  rw [step, complete, completePopupOauth]
  cases hstate : s.pending.states state with
  | none => exact congrArg oauth (drain_idle w _ _ _)
  | some expected =>
    dsimp only
    by_cases hexpected : expected ≠ p
    · rw [if_pos hexpected, if_pos hexpected]
      exact congrArg oauth (drain_idle w _ _ _)
    · rw [if_neg hexpected, if_neg hexpected]
      cases Manifest.lookupOauth p with
      | none => exact congrArg oauth (drain_idle w _ _ _)
      | some cfg =>
        dsimp only
        change (drain w 5
          ⟨_, [.takeVerifier cfg p code state redirectUri], [.passed state p]⟩).oauth = _
        rw [drain_succ]
        apply (exchange_alone w cfg p code state redirectUri _ _ _).trans
        dsimp only [setPending, write, PendingFlows.setVerifier, PendingFlows.setState]
        cases exchangeCode w cfg p code redirectUri (s.pending.pkceVerifiers state) <;> rfl

end Alone

end PopupRun

/-- A completion only goes on when its state has passed. -/
def PopupCall.Passed (log : List PopupAction) : PopupCall → Prop
  | .takeVerifier _ p _ state _ => .passed state p ∈ log
  | .exchange _ p _ state _ _ => .passed state p ∈ log
  | .store state p _ => .passed state p ∈ log
  | _ => True

theorem PopupCall.Passed.append {c : PopupCall} (h : c.Passed log) (rest : List PopupAction) :
    c.Passed (log ++ rest) := by
  cases c <;> first | exact List.mem_append_left rest h | trivial

namespace PopupRun

/-- The pending states are the tickets that are out, and the log tells of them truthfully. -/
structure Consistent (r : PopupRun) : Prop where
  states : r.oauth.pending.states = Ticket.holder (tickets r.log)
  admitted : Always Admits r.log
  calls : ∀ c ∈ r.calls, c.Passed r.log

theorem Consistent.usable_iff {r : PopupRun} (h : r.Consistent) :
    Usable r.log state p ↔ r.oauth.pending.states state = some p := by
  rw [h.states]
  exact PopupAction.usable_iff r.log

theorem Consistent.write {r : PopupRun} (h : r.Consistent) {pending : PendingFlows}
    {a : PopupAction} (hstates : pending.states = Ticket.holder (tickets (r.log ++ [a])))
    (ha : Admits r.log a) : ((r.setPending pending).write a).Consistent where
  states := hstates
  admitted := always_concat.mpr ⟨h.admitted, ha⟩
  calls c hc := (h.calls c hc).append [a]

/-- What says nothing of a state leaves the pending states alone. -/
theorem Consistent.write_other {r : PopupRun} (h : r.Consistent) {a : PopupAction}
    (hticket : a.ticket = none) (ha : Admits r.log a) : (r.write a).Consistent := by
  have hstates : r.oauth.pending.states = Ticket.holder (tickets (r.log ++ [a])) := by
    rw [tickets_concat, hticket, Option.toList_none, List.append_nil]
    exact h.states
  exact h.write hstates ha

theorem Consistent.begin {r : PopupRun} (h : r.Consistent) {c : PopupCall}
    (hc : c.Passed r.log) : (r.begin c).Consistent where
  states := h.states
  admitted := h.admitted
  calls c' hc' := by
    rcases List.mem_append.mp hc' with hc' | hc'
    · exact h.calls c' hc'
    · cases List.mem_singleton.mp hc'
      exact hc

/-- The pending states after a ticket. -/
theorem Consistent.states_ticket {r : PopupRun} (h : r.Consistent) {a : PopupAction}
    {t : Ticket.Act String String} (ht : a.ticket = some t) :
    Ticket.holder (tickets (r.log ++ [a])) =
      Function.update r.oauth.pending.states t.ticket t.owner := by
  rw [tickets_concat, ht, Option.toList_some, Ticket.holder_concat, h.states]

theorem Consistent.write_ticket {r : PopupRun} (h : r.Consistent) {a : PopupAction}
    {t : Ticket.Act String String} (ht : a.ticket = some t) (ha : Admits r.log a) :
    ((r.setPending (r.oauth.pending.setState t.ticket t.owner)).write a).Consistent :=
  h.write (h.states_ticket ht).symm ha

theorem Consistent.start {r : PopupRun} (h : r.Consistent) (w : FlowWorld) (p : String) :
    (r.start w p).Consistent := by
  rw [PopupRun.start]
  split
  · exact h
  · have hwrite := h.write_ticket (a := .issued (popupState w p) p) rfl trivial
    exact hwrite.begin (c := .keepVerifier _ _) trivial

theorem Consistent.complete {r : PopupRun} (h : r.Consistent) (p code state redirectUri : String) :
    (r.complete p code state redirectUri).Consistent := by
  rw [PopupRun.complete]
  cases hstate : r.oauth.pending.states state with
  | none =>
    have hrefused : ¬ Usable r.log state p := by
      rw [h.usable_iff, hstate]
      exact nofun
    apply h.write (a := .refused state p) _ hrefused
    rw [h.states_ticket (a := .refused state p) rfl]
    exact (Function.update_eq_self_iff.mpr hstate.symm).symm
  | some expected =>
    dsimp only
    split
    · next hexpected =>
      have hrefused : ¬ Usable r.log state p := by
        rw [h.usable_iff, hstate]
        exact fun he => hexpected (Option.some.inj he)
      exact h.write_ticket (a := .refused state p) rfl hrefused
    · next hexpected =>
      have hpassed : Usable r.log state p := by
        rw [h.usable_iff, hstate, not_not.mp hexpected]
      have hwrite := h.write_ticket (a := .passed state p) rfl hpassed
      split
      · exact hwrite
      · exact hwrite.begin (c := .takeVerifier ..)
          (List.mem_append_right r.log (List.mem_singleton_self _))

theorem Consistent.advance {r : PopupRun} (h : r.Consistent) (w : FlowWorld) {c : PopupCall}
    (hc : c.Passed r.log) : (r.advance w c).Consistent := by
  cases c with
  | keepVerifier state verifier => exact ⟨h.states, h.admitted, h.calls⟩
  | takeVerifier cfg p code state redirectUri =>
    have hpending : (r.setPending (r.oauth.pending.setVerifier state none)).Consistent :=
      ⟨h.states, h.admitted, h.calls⟩
    exact hpending.begin (c := .exchange ..) hc
  | exchange cfg p code state redirectUri verifier =>
    have hwrite := h.write_other (a := .contacted state p cfg.tokenUrl) rfl hc
    simp only [PopupRun.advance]
    split
    · exact hwrite
    · exact hwrite.begin (c := .store ..) (List.mem_append_left _ hc)
  | store state p token =>
    simp only [PopupRun.advance]
    split
    · exact h
    · have hkeys : ∀ keys, (r.setKeys keys).Consistent := fun _ =>
        ⟨h.states, h.admitted, h.calls⟩
      have hwrite := fun keys => (hkeys keys).write_other (a := .stored state p token) rfl hc
      exact (hwrite _).begin (c := .keepKey ..) trivial
  | keepKey p token =>
    have hkeys : (r.setKeys (r.oauth.keys.keep (oauthEntry p) token)).Consistent :=
      ⟨h.states, h.admitted, h.calls⟩
    exact hkeys.begin (c := .forgetAccess p) trivial
  | forgetAccess p => exact ⟨h.states, h.admitted, h.calls⟩

theorem Consistent.step {r : PopupRun} (h : r.Consistent) (e : PopupEvent) :
    (r.step e).Consistent := by
  cases e with
  | start w p redirectUri => exact h.start w p
  | complete p code state redirectUri => exact h.complete p code state redirectUri
  | advance i w =>
    rw [PopupRun.step]
    split
    · exact h
    · next c hc =>
      have hrest : ({ r with calls := r.calls.eraseIdx i } : PopupRun).Consistent :=
        ⟨h.states, h.admitted, fun c' hc' => h.calls c' (List.mem_of_mem_eraseIdx hc')⟩
      exact hrest.advance w (h.calls c (List.mem_of_getElem? hc))

theorem Consistent.run {r : PopupRun} (h : r.Consistent) (events : List PopupEvent) :
    (Machine.run PopupRun.step r events).Consistent :=
  Machine.run_invariant (P := fun _ _ => True) (fun _ e h _ => Consistent.step h e) h
    (Machine.throughout_true r events)

/-- A completion whose state is not usable is over with its check. -/
theorem Consistent.complete_refused {r : PopupRun} (h : r.Consistent)
    (hstate : ¬ Usable r.log state p) (code redirectUri : String) :
    let r' := r.step (.complete p code state redirectUri)
    r'.calls = r.calls ∧ r'.oauth.keys = r.oauth.keys ∧ r'.oauth.manager = r.oauth.manager ∧
      r'.log = r.log ++ [.refused state p] := by
  rw [h.usable_iff] at hstate
  rw [PopupRun.step, PopupRun.complete]
  cases hfound : r.oauth.pending.states state with
  | none => exact ⟨rfl, rfl, rfl, rfl⟩
  | some expected =>
    have hexpected : expected ≠ p := by
      rintro rfl
      exact hstate hfound
    dsimp only
    rw [if_pos hexpected]
    exact ⟨rfl, rfl, rfl, rfl⟩

end PopupRun

theorem PopupAction.issued_mem_of_passed {log : List PopupAction} (h : Always Admits log)
    (hpassed : .passed state p ∈ log) : .issued state p ∈ log := by
  obtain ⟨front, back, rfl⟩ := List.append_of_mem hpassed
  obtain ⟨before, a, rest, rfl, rfl, -⟩ := h front _ back rfl
  exact List.mem_append_left _ (List.mem_append_right before List.mem_cons_self)

/-- In every run of starts and completions whose issued states are distinct: a token is stored for a
provider behind an issue of its state for it, no state passes the check twice, token endpoints are
asked for states that have passed, and a completion whose state is not out for its provider is over
with the check. -/
theorem popup_states_single_use (s : OAuthStore) (hs : s.pending.states = fun _ => none)
    (events : List PopupEvent)
    (hissued : ((Machine.run PopupRun.step ⟨s, [], []⟩ events).log.filterMap issuedState).Nodup) :
    (∀ front state p token back,
      (Machine.run PopupRun.step ⟨s, [], []⟩ events).log =
        front ++ .stored state p token :: back →
      .issued state p ∈ front ∧ .passed state p ∈ front) ∧
    ((Machine.run PopupRun.step ⟨s, [], []⟩ events).log.filterMap passedState).Nodup ∧
    (∀ front state p url back,
      (Machine.run PopupRun.step ⟨s, [], []⟩ events).log =
        front ++ .contacted state p url :: back → .passed state p ∈ front) ∧
    ∀ front p code state redirectUri back,
      events = front ++ .complete p code state redirectUri :: back →
      ¬ Usable (Machine.run PopupRun.step ⟨s, [], []⟩ front).log state p →
        let r := Machine.run PopupRun.step ⟨s, [], []⟩ front
        let r' := r.step (.complete p code state redirectUri)
        r'.calls = r.calls ∧ r'.oauth.keys = r.oauth.keys ∧ r'.oauth.manager = r.oauth.manager ∧
          r'.log = r.log ++ [.refused state p] := by
  have hstart : PopupRun.Consistent ⟨s, [], []⟩ := ⟨hs, always_nil, nofun⟩
  have hlog := (hstart.run events).admitted
  refine ⟨?_, ?_, ?_, ?_⟩
  · intro front state p token back hfront
    rw [hfront] at hlog
    have hpassed : .passed state p ∈ front := hlog front _ back rfl
    exact ⟨issued_mem_of_passed hlog.front hpassed, hpassed⟩
  · have hnodup := (truthful_tickets hlog).nodup_passed
    simp only [tickets, List.filterMap_filterMap] at hnodup
    exact hnodup hissued
  · intro front state p url back hfront
    rw [hfront] at hlog
    exact hlog front _ back rfl
  · intro front p code state redirectUri back _ hstate
    exact (hstart.run front).complete_refused hstate code redirectUri

open RouterState

def sampleState : String := popupState sampleFlowWorld "xai"

/-- A login at xAI whose state is shown a second time before the first completion has reached the
token endpoint. -/
def twiceShown : List PopupEvent :=
  [.start sampleFlowWorld "xai" "", .advance 0 sampleFlowWorld,
    .complete "xai" "code" sampleState "", .complete "xai" "code" sampleState "",
    .advance 0 sampleFlowWorld, .advance 0 sampleFlowWorld]

theorem popup_states_single_use_twice :
    ((Machine.run PopupRun.step ⟨sampleRouter.oauth, [], []⟩ twiceShown).log.filterMap
      passedState).Nodup :=
  (popup_states_single_use sampleRouter.oauth rfl twiceShown (by decide)).2.1

end TokenDealer
