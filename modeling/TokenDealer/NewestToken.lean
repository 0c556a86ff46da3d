import TokenDealer.TokenRuns

set_option autoImplicit true

namespace TokenDealer

open History Lineage

/-- A call that is about to put a key into the cache of keys, by the origin of the key. -/
def TokenCall.keeps : TokenCall → Option Nat
  | .keepKey _ origin _ => some origin
  | _ => none

/-- The tokens of a call have the origins that go with them, and a key that is written is put into
the cache once. -/
def TokenCall.Traced (log : List TokenAction) : TokenCall → Prop
  | .storeNew _ rest => rest.keeps = none ∧ rest.Traced log
  | .keepKey raw origin rest => Descends log origin raw ∧ rest.keeps = none ∧ rest.Traced log
  | .exchange _ raw origin _ => Descends log origin raw
  | .keepAccess creds next origin _ =>
    ObtainedAt log origin creds.accessToken ∧ ∀ raw, next = some raw → Descends log origin raw
  | .storeNext access next origin _ => ObtainedAt log origin access ∧ Descends log origin next
  | .answer access origin _ => ObtainedAt log origin access
  | _ => True

theorem TokenCall.Traced.append {c : TokenCall} (h : c.Traced log) (rest : List TokenAction) :
    c.Traced (log ++ rest) := by
  induction c with
  | storeNew raw c ih => exact ⟨h.1, ih h.2⟩
  | keepKey raw origin c ih => exact ⟨h.1.append, h.2.1, ih h.2.2⟩
  | exchange cfg raw origin asked => exact Descends.append h
  | keepAccess creds next origin asked =>
    exact ⟨h.1.append, fun raw hraw => (h.2 raw hraw).append⟩
  | storeNext access next origin asked => exact ⟨h.1.append, h.2.append⟩
  | answer access origin asked => exact ObtainedAt.append h
  | forgetAccess => trivial
  | dropDevice deviceCode => trivial
  | look asked => trivial
  | load cfg asked => trivial

namespace TokenRun

variable (crypto : Crypto) (text : Json.Text) (p : String)

/-- All tokens have the origins that go with them. -/
structure Traced (r : TokenRun) : Prop where
  row : ∀ raw, r.oauth.keys.load crypto (oauthEntry p) = .ok (some raw) →
    Descends r.log r.origins.row raw
  key : ∀ raw, r.oauth.keys.cache (oauthEntry p) = some raw → Descends r.log r.origins.key raw
  access : ∀ creds, r.oauth.manager.cache p = some creds →
    ObtainedAt r.log r.origins.access creds.accessToken
  calls : ∀ c ∈ r.calls, c.Traced r.log

variable {crypto p} {r : TokenRun}

theorem Traced.write (h : r.Traced crypto p) (a : TokenAction) : (r.write a).Traced crypto p where
  row raw hraw := (h.row raw hraw).append
  key raw hraw := (h.key raw hraw).append
  access creds hcreds := (h.access creds hcreds).append
  calls c hc := (h.calls c hc).append [a]

theorem Traced.begin (h : r.Traced crypto p) {c : TokenCall} (hc : c.Traced r.log) :
    (r.begin c).Traced crypto p where
  row := h.row
  key := h.key
  access := h.access
  calls c' hc' := by
    rcases List.mem_append.mp hc' with hc' | hc'
    · exact h.calls c' hc'
    · cases List.mem_singleton.mp hc'
      exact hc

theorem Traced.setPending (h : r.Traced crypto p) (pending : PendingFlows) :
    (r.setPending pending).Traced crypto p :=
  ⟨h.row, h.key, h.access, h.calls⟩

theorem load_putRow (hcrypto : crypto.IsAead) (r : TokenRun) (world : TokenWorld) (raw : String)
    (origin : Nat) :
    (r.putRow crypto p world raw origin).oauth.keys.load crypto (oauthEntry p) = .ok (some raw) :=
  KeyStore.load_putRow_some hcrypto r.oauth.keys (oauthEntry p) raw
    ⟨world.nonce, world.length_nonce⟩

theorem Traced.putRow (hcrypto : crypto.IsAead) (h : r.Traced crypto p) (world : TokenWorld)
    (hraw : Descends r.log origin raw) : (r.putRow crypto p world raw origin).Traced crypto p where
  row raw' hraw' := by
    rw [load_putRow hcrypto] at hraw'
    cases hraw'
    exact hraw
  key := h.key
  access := h.access
  calls := h.calls

theorem Traced.putKey (h : r.Traced crypto p) (hraw : Descends r.log origin raw) :
    (r.putKey p raw origin).Traced crypto p where
  row := h.row
  key raw' hraw' := by
    change Function.update r.oauth.keys.cache (oauthEntry p) (some raw) (oauthEntry p) = _ at hraw'
    rw [Function.update_self] at hraw'
    cases hraw'
    exact hraw
  access := h.access
  calls := h.calls

theorem Traced.putAccess (h : r.Traced crypto p) {creds : Option OAuthCredentials}
    (hcreds : ∀ c, creds = some c → ObtainedAt r.log origin c.accessToken) :
    (r.putAccess p creds origin).Traced crypto p where
  row := h.row
  key := h.key
  access c hc := by
    change Function.update r.oauth.manager.cache p creds p = _ at hc
    rw [Function.update_self] at hc
    exact hcreds c hc
  calls := h.calls

/-- A new token is what it comes from. -/
theorem Traced.storeNew (hcrypto : crypto.IsAead) (h : r.Traced crypto p) (world : TokenWorld)
    (raw : String) {rest : TokenCall} (hkeeps : rest.keeps = none) (hrest : rest.Traced r.log) :
    let r' := r.write (.fresh raw)
    ((r'.putRow crypto p world raw r'.newest).begin (.keepKey raw r'.newest rest)).Traced
      crypto p := by
  have hraw : Descends (r.log ++ [.fresh raw]) (age (r.log ++ [.fresh raw])) raw :=
    descends_fresh r.log raw
  apply ((h.write (.fresh raw)).putRow hcrypto world hraw).begin
  exact ⟨hraw, hkeeps, hrest.append _⟩

/-- What a token is exchanged for comes from what the token comes from. -/
theorem Traced.exchange (h : r.Traced crypto p) (hraw : Descends r.log origin raw)
    (creds : OAuthCredentials) (next : Option String) (asked : Bool) :
    ((r.write (.traded raw creds.accessToken (next.getD raw))).begin
      (.keepAccess creds next origin asked)).Traced crypto p := by
  have htraded : Act.traded raw creds.accessToken (next.getD raw) ∈
      r.log ++ [.traded raw creds.accessToken (next.getD raw)] :=
    List.mem_append_right r.log List.mem_cons_self
  apply (h.write (.traded raw creds.accessToken (next.getD raw))).begin
  refine ⟨hraw.append.obtained htraded, ?_⟩
  rintro raw' rfl
  exact hraw.append.trade htraded

theorem Traced.advance (hcrypto : crypto.IsAead) (h : r.Traced crypto p) (world : TokenWorld)
    {c : TokenCall} (hc : c.Traced r.log) : (r.advance crypto text p world c).Traced crypto p := by
  cases c with
  | storeNew raw rest =>
    rw [TokenRun.advance]
    cases world.written with
    | error message => exact h
    | ok u => exact h.storeNew hcrypto world raw hc.1 hc.2
  | keepKey raw origin rest => exact (h.putKey hc.1).begin hc.2.2
  | forgetAccess =>
    apply h.putAccess
    intro held hheld
    cases hheld
  | dropDevice deviceCode => exact h.setPending _
  | look asked =>
    rw [TokenRun.advance]
    cases hkey : r.oauth.keys.cache (oauthEntry p) with
    | some raw => exact h.begin (h.key raw hkey)
    | none => exact h.begin trivial
  | load cfg asked =>
    rw [TokenRun.advance]
    cases hrow : r.oauth.keys.load crypto (oauthEntry p) with
    | error e => exact h
    | ok found =>
      cases found with
      | none => exact h
      | some raw => exact h.begin ⟨h.row raw hrow, rfl, h.row raw hrow⟩
  | exchange cfg raw origin asked =>
    cases cfg with
    | none => exact h
    | some cfg =>
      rw [TokenRun.advance]
      cases OAuthManager.refreshAnswer text world.toOAuthWorld cfg raw with
      | none => exact h
      | some answer => exact h.exchange hc answer.1 answer.2 asked
  | keepAccess creds next origin asked =>
    have haccess : ∀ c, some creds = some c → ObtainedAt r.log origin c.accessToken := by
      intro c hcreds
      cases hcreds
      exact hc.1
    cases next with
    | none => exact (h.putAccess haccess).begin hc.1
    | some next => exact (h.putAccess haccess).begin ⟨hc.1, hc.2 next rfl⟩
  | storeNext access next origin asked =>
    rw [TokenRun.advance]
    cases world.written with
    | error message => exact h
    | ok u => exact (h.putRow hcrypto world hc.2).begin ⟨hc.2, rfl, hc.1⟩
  | answer access origin asked =>
    rw [TokenRun.advance]
    cases asked with
    | false => exact h
    | true => exact h.write _

theorem Traced.step (hcrypto : crypto.IsAead) (h : r.Traced crypto p) (e : TokenEvent) :
    (r.step crypto text p e).Traced crypto p := by
  cases e with
  | setRefreshToken token => exact h.begin ⟨rfl, trivial⟩
  | pollDeviceFlow w deviceCode =>
    rw [TokenRun.step]
    obtain ⟨blob, pending⟩ := pollToken w p deviceCode r.oauth.pending
    cases blob with
    | none => exact h.setPending pending
    | some raw => exact (h.setPending pending).begin ⟨rfl, trivial⟩
  | setupOauthViaCli w body =>
    rw [TokenRun.step]
    split
    · exact h
    · exact h.begin ⟨rfl, trivial⟩
  | refresh => exact h.begin trivial
  | accessToken now =>
    rw [TokenRun.step]
    cases r.oauth.manager.cache p with
    | none => exact h.begin trivial
    | some c =>
      dsimp only
      split
      · exact h.write _
      · exact h.begin trivial
  | advance i world =>
    rw [TokenRun.step]
    split
    · exact h
    · next c hc =>
      have hrest : ({ r with calls := r.calls.eraseIdx i } : TokenRun).Traced crypto p :=
        ⟨h.row, h.key, h.access, fun c' hc' => h.calls c' (List.mem_of_mem_eraseIdx hc')⟩
      exact hrest.advance text hcrypto world (h.calls c (List.mem_of_getElem? hc))

/-- A call goes by the newest token: what it writes back or answers with comes from it, and an older
one is put into the cache of keys only while another call is about to put the newest there. The
other calls are those of `r`. -/
def CallUpToDate (r : TokenRun) (world : TokenWorld) : TokenCall → Prop
  | .keepKey _ origin _ => origin = r.newest ∨ ∃ c ∈ r.calls, c.keeps = some r.newest
  | .storeNext _ _ origin _ => world.written = .ok () → origin = r.newest
  | .answer _ origin asked => asked = true → origin = r.newest
  | _ => True

/-- An access token that is asked for, and is in memory and still good, comes from the newest
token. -/
def UpToDate (p : String) (r : TokenRun) : TokenEvent → Prop
  | .accessToken now => ∀ c, r.oauth.manager.cache p = some c →
      c.needsRefresh (r.oauth.manager.refreshBuffer p) now = false → r.origins.access = r.newest
  | .advance i world => ∀ c, r.calls[i]? = some c →
      CallUpToDate { r with calls := r.calls.eraseIdx i } world c
  | _ => True

/-- The row has the newest token, and so has the cache of keys unless a call is about to put it
there; what has been used was up to date. -/
structure Current (crypto : Crypto) (p : String) (r : TokenRun) : Prop where
  row : r.origins.row = r.newest
  stored : 0 < r.newest → ∃ raw, r.oauth.keys.load crypto (oauthEntry p) = .ok (some raw)
  key : r.oauth.keys.cache (oauthEntry p) = none ∨ r.origins.key = r.newest ∨
    ∃ c ∈ r.calls, c.keeps = some r.newest
  used : Always UsesNewest r.log

theorem Current.begin (h : r.Current crypto p) (c : TokenCall) : (r.begin c).Current crypto p where
  row := h.row
  stored := h.stored
  key := h.key.imp_right fun h => h.imp_right fun ⟨c, hc, hkeeps⟩ =>
    ⟨c, List.mem_append_left _ hc, hkeeps⟩
  used := h.used

theorem Current.setPending (h : r.Current crypto p) (pending : PendingFlows) :
    (r.setPending pending).Current crypto p :=
  ⟨h.row, h.stored, h.key, h.used⟩

theorem Current.putAccess (h : r.Current crypto p) (creds : Option OAuthCredentials)
    (origin : Nat) : (r.putAccess p creds origin).Current crypto p :=
  ⟨h.row, h.stored, h.key, h.used⟩

theorem Current.putRow (hcrypto : crypto.IsAead) (h : r.Current crypto p) (world : TokenWorld)
    (raw : String) (horigin : origin = r.newest) :
    (r.putRow crypto p world raw origin).Current crypto p where
  row := horigin
  stored _ := ⟨raw, load_putRow hcrypto r world raw origin⟩
  key := h.key
  used := h.used

theorem newest_write (r : TokenRun) {a : TokenAction} (ha : a.value = none) :
    (r.write a).newest = r.newest := by
  have hvalues : values [a] = [] := List.filterMap_cons_none ha
  have hage : age (r.log ++ [a]) = age r.log + age [a] := age_append
  have hzero : age [a] = 0 := congrArg List.length hvalues
  exact hage.trans (by rw [hzero]; rfl)

theorem Current.write (h : r.Current crypto p) {a : TokenAction} (hvalue : a.value = none)
    (ha : UsesNewest r.log a) : (r.write a).Current crypto p where
  row := h.row.trans (newest_write r hvalue).symm
  stored := by
    rw [newest_write r hvalue]
    exact h.stored
  key := by
    rw [newest_write r hvalue]
    exact h.key
  used := always_concat.mpr ⟨h.used, ha⟩

/-- A call that was under way is over, or is taken up. -/
theorem Current.erase (h : r.Current crypto p) (hc : r.calls[i]? = some c)
    (hkeeps : c.keeps = none) :
    ({ r with calls := r.calls.eraseIdx i } : TokenRun).Current crypto p where
  row := h.row
  stored := h.stored
  key := by
    refine h.key.imp_right fun h => h.imp_right ?_
    rintro ⟨c', hc', hkeeps'⟩
    obtain ⟨j, hj⟩ := List.getElem?_of_mem hc'
    refine ⟨c', List.mem_eraseIdx_iff_getElem?.mpr ⟨j, ?_, hj⟩, hkeeps'⟩
    rintro rfl
    rw [hc] at hj
    cases hj
    rw [hkeeps] at hkeeps'
    cases hkeeps'
  used := h.used

theorem usesNewest {token : String} (htoken : ObtainedAt r.log origin token)
    (horigin : origin = r.newest) : UsesNewest r.log (.used token) := by
  subst horigin
  exact fun n hn => htoken.newest hn

/-- A new token is the newest from now on, and its call is about to put it into the cache. -/
theorem Current.storeNew (hcrypto : crypto.IsAead) (h : r.Current crypto p) (world : TokenWorld)
    (raw : String) (rest : TokenCall) :
    let r' := r.write (.fresh raw)
    ((r'.putRow crypto p world raw r'.newest).begin
      (.keepKey raw r'.newest rest)).Current crypto p where
  row := rfl
  stored _ :=
    ⟨raw, load_putRow hcrypto (r.write (.fresh raw)) world raw (r.write (.fresh raw)).newest⟩
  key := .inr (.inr ⟨_, List.mem_append_right _ List.mem_cons_self, rfl⟩)
  used := always_concat.mpr ⟨h.used, trivial⟩

theorem Current.advance (hcrypto : crypto.IsAead) (h : r.Current crypto p) (world : TokenWorld)
    {c : TokenCall} (hc : c.Traced r.log) (hup : CallUpToDate r world c)
    (hkeeps : c.keeps = none) : (r.advance crypto text p world c).Current crypto p := by
  cases c with
  | storeNew raw rest =>
    rw [TokenRun.advance]
    cases world.written with
    | error message => exact h
    | ok u => exact h.storeNew hcrypto world raw rest
  | keepKey raw origin rest => cases hkeeps
  | forgetAccess => exact h.putAccess _ _
  | dropDevice deviceCode => exact h.setPending _
  | look asked =>
    rw [TokenRun.advance]
    cases r.oauth.keys.cache (oauthEntry p) with
    | some raw => exact h.begin _
    | none => exact h.begin _
  | load cfg asked =>
    rw [TokenRun.advance]
    cases r.oauth.keys.load crypto (oauthEntry p) with
    | error e => exact h
    | ok found =>
      cases found with
      | none => exact h
      | some raw => exact h.begin _
  | exchange cfg raw origin asked =>
    cases cfg with
    | none => exact h
    | some cfg =>
      rw [TokenRun.advance]
      cases OAuthManager.refreshAnswer text world.toOAuthWorld cfg raw with
      | none => exact h
      | some answer => exact (h.write (a := .traded ..) rfl trivial).begin _
  | keepAccess creds next origin asked => cases next <;> exact (h.putAccess _ _).begin _
  | storeNext access next origin asked =>
    rw [TokenRun.advance]
    change world.written = .ok () → origin = r.newest at hup
    cases hwritten : world.written with
    | error message => exact h
    | ok u => exact (h.putRow hcrypto world next (hup hwritten)).begin _
  | answer access origin asked =>
    rw [TokenRun.advance]
    cases asked with
    | false => exact h
    | true => exact h.write rfl (usesNewest hc (hup rfl))

theorem Current.step (hcrypto : crypto.IsAead) (htraced : r.Traced crypto p)
    (h : r.Current crypto p) {e : TokenEvent} (hup : r.UpToDate p e) :
    (r.step crypto text p e).Current crypto p := by
  cases e with
  | setRefreshToken token => exact h.begin _
  | pollDeviceFlow w deviceCode =>
    rw [TokenRun.step]
    obtain ⟨blob, pending⟩ := pollToken w p deviceCode r.oauth.pending
    cases blob with
    | none => exact h.setPending pending
    | some raw => exact (h.setPending pending).begin _
  | setupOauthViaCli w body =>
    rw [TokenRun.step]
    split
    · exact h
    · exact h.begin _
  | refresh => exact h.begin _
  | accessToken now =>
    rw [TokenRun.step]
    cases hcache : r.oauth.manager.cache p with
    | none => exact h.begin _
    | some c =>
      dsimp only
      split
      · next hgood =>
        rw [Bool.not_eq_true'] at hgood
        exact h.write rfl (usesNewest (htraced.access c hcache) (hup c hcache hgood))
      · exact h.begin _
  | advance i world =>
    rw [TokenRun.step]
    split
    · exact h
    · next c hc =>
      have hcup := hup c hc
      cases hkeeps : c.keeps with
      | none =>
        exact (h.erase hc hkeeps).advance text hcrypto world
          (htraced.calls c (List.mem_of_getElem? hc)) hcup hkeeps
      | some origin =>
        cases c with
        | keepKey raw origin rest =>
          apply Current.begin
          exact ⟨h.row, h.stored, .inr hcup, h.used⟩
        | _ => cases hkeeps

theorem traced_run (hcrypto : crypto.IsAead) (s : OAuthStore) (events : List TokenEvent) :
    (Machine.run (TokenRun.step crypto text p) ⟨s, [], [], {}⟩ events).Traced crypto p :=
  Machine.run_invariant (P := fun _ _ => True) (fun _ e h _ => Traced.step text hcrypto h e)
    ⟨fun _ _ => descends_zero _ _, fun _ _ => descends_zero _ _, fun _ _ => obtainedAt_zero _ _,
      nofun⟩
    (Machine.throughout_true _ events)

theorem current_run (hcrypto : crypto.IsAead) (s : OAuthStore) {events : List TokenEvent}
    (hrun : Machine.Throughout (TokenRun.step crypto text p) (UpToDate p) ⟨s, [], [], {}⟩ events) :
    (Machine.run (TokenRun.step crypto text p) ⟨s, [], [], {}⟩ events).Current crypto p := by
  have hinvariant := Machine.run_invariant (I := fun r => r.Traced crypto p ∧ r.Current crypto p)
    (fun r e h hup => ⟨h.1.step text hcrypto e, h.2.step text hcrypto h.1 hup⟩)
    ⟨traced_run text hcrypto s [], rfl, nofun, .inr (.inl rfl), always_nil⟩ hrun
  exact hinvariant.2

/-- The row has a token that is derived from the newest. -/
theorem Current.load_newest (h : r.Current crypto p) (htraced : r.Traced crypto p)
    (hn : Lineage.newest r.log = some n) :
    ∃ raw, r.oauth.keys.load crypto (oauthEntry p) = .ok (some raw) ∧ Derives r.log n raw := by
  have hpos : 0 < r.newest := by
    apply List.length_pos_iff.mpr
    intro hnil
    rw [Lineage.newest, hnil] at hn
    cases hn
  obtain ⟨raw, hraw⟩ := h.stored hpos
  have hdescends := htraced.row raw hraw
  rw [h.row] at hdescends
  exact ⟨raw, hraw, hdescends.newest hn⟩

/-- So has a lookup, when no key is about to be put into the cache. -/
theorem Current.get_newest (h : r.Current crypto p) (htraced : r.Traced crypto p)
    (hn : Lineage.newest r.log = some n) (hcalls : ∀ c ∈ r.calls, c.keeps = none) :
    ∃ raw, (r.oauth.keys.get crypto (oauthEntry p)).1 = .ok (some raw) ∧ Derives r.log n raw := by
  rw [KeyStore.get_eq]
  cases hkey : r.oauth.keys.cache (oauthEntry p) with
  | none => exact h.load_newest htraced hn
  | some raw =>
    have hdescends := htraced.key raw hkey
    rcases h.key with hnone | horigin | ⟨c, hc, hkeeps⟩
    · cases hkey.symm.trans hnone
    · rw [horigin] at hdescends
      exact ⟨raw, rfl, hdescends.newest hn⟩
    · cases (hcalls c hc).symm.trans hkeeps

/-- A step has put an older token in the place of the newest, into the row or for the lookups, or
has used one. -/
def Overtaken (crypto : Crypto) (p : String) (r r' : TokenRun) : Prop :=
  ∃ origin < r.newest, ∃ token,
    (r'.oauth.keys.load crypto (oauthEntry p) = .ok (some token) ∧ Descends r.log origin token) ∨
    ((r'.oauth.keys.get crypto (oauthEntry p)).1 = .ok (some token) ∧
      Descends r.log origin token ∧ ∀ c ∈ r'.calls, c.keeps ≠ some r.newest) ∨
    r'.log = r.log ++ [.used token] ∧ ObtainedAt r.log origin token

theorem overtaken_of_not_callUpToDate (hcrypto : crypto.IsAead) (r : TokenRun)
    (world : TokenWorld) {c : TokenCall} (hc : c.Traced r.log)
    (hup : ¬ CallUpToDate r world c) :
    Overtaken crypto p r (r.advance crypto text p world c) := by
  cases c with
  | keepKey raw origin rest =>
    obtain ⟨horigin, hothers⟩ := not_or.mp hup
    refine ⟨origin, Nat.lt_of_le_of_ne hc.1.1 horigin, raw, .inr (.inl ⟨?_, hc.1, ?_⟩)⟩
    · have hkey : (r.advance crypto text p world (.keepKey raw origin rest)).oauth.keys.cache
          (oauthEntry p) = some raw := Function.update_self ..
      rw [KeyStore.get_eq, hkey]
    · intro c hmem hkeeps
      rcases List.mem_append.mp hmem with hmem | hmem
      · exact hothers ⟨c, hmem, hkeeps⟩
      · cases List.mem_singleton.mp hmem
        cases hc.2.1.symm.trans hkeeps
  | storeNext access next origin asked =>
    obtain ⟨hwritten, horigin⟩ := Classical.not_imp.mp hup
    refine ⟨origin, Nat.lt_of_le_of_ne hc.2.1 horigin, next, .inl ⟨?_, hc.2⟩⟩
    rw [TokenRun.advance, hwritten]
    exact load_putRow hcrypto r world next origin
  | answer access origin asked =>
    obtain ⟨hasked, horigin⟩ := Classical.not_imp.mp hup
    refine ⟨origin, Nat.lt_of_le_of_ne hc.1 horigin, access, .inr (.inr ⟨?_, hc⟩)⟩
    rw [TokenRun.advance, if_pos hasked]
    rfl
  | _ => exact (hup trivial).elim

/-- A step that is not up to date lets an older token overtake. -/
theorem overtaken_of_not_upToDate (hcrypto : crypto.IsAead) (htraced : r.Traced crypto p)
    {e : TokenEvent} (hup : ¬ r.UpToDate p e) :
    Overtaken crypto p r (r.step crypto text p e) := by
  cases e with
  | accessToken now =>
    obtain ⟨c, hc⟩ := not_forall.mp hup
    obtain ⟨hcache, hc⟩ := Classical.not_imp.mp hc
    obtain ⟨hgood, horigin⟩ := Classical.not_imp.mp hc
    have haccess := htraced.access c hcache
    refine ⟨_, Nat.lt_of_le_of_ne haccess.1 horigin, c.accessToken, .inr (.inr ⟨?_, haccess⟩)⟩
    rw [TokenRun.step, hcache]
    dsimp only
    rw [hgood]
    rfl
  | advance i world =>
    obtain ⟨c, hc⟩ := not_forall.mp hup
    obtain ⟨hc, hup⟩ := Classical.not_imp.mp hc
    rw [TokenRun.step, hc]
    exact overtaken_of_not_callUpToDate text hcrypto { r with calls := r.calls.eraseIdx i } world
      (htraced.calls c (List.mem_of_getElem? hc)) hup
  | _ => exact (hup trivial).elim

/-- In a run of steps that are up to date, once a new refresh token is stored the row and, when no
key is about to be put into the cache, the lookups have it or what it was exchanged for, and an
access token that is used was obtained so. A step that is not lets an older token overtake. -/
theorem newest_token_kept (hcrypto : crypto.IsAead) (s : OAuthStore) (events : List TokenEvent) :
    (Machine.Throughout (TokenRun.step crypto text p) (UpToDate p) ⟨s, [], [], {}⟩ events →
      (∀ front back, events = front ++ back →
        let r := Machine.run (TokenRun.step crypto text p) ⟨s, [], [], {}⟩ front
        ∀ n, Lineage.newest r.log = some n →
          (∃ raw, r.oauth.keys.load crypto (oauthEntry p) = .ok (some raw) ∧
            Derives r.log n raw) ∧
          ((∀ c ∈ r.calls, c.keeps = none) →
            ∃ raw, (r.oauth.keys.get crypto (oauthEntry p)).1 = .ok (some raw) ∧
              Derives r.log n raw)) ∧
      ∀ front access back,
        (Machine.run (TokenRun.step crypto text p) ⟨s, [], [], {}⟩ events).log =
          front ++ .used access :: back →
        ∀ n, Lineage.newest front = some n → Obtained front n access) ∧
    ∀ front e back, events = front ++ e :: back →
      let r := Machine.run (TokenRun.step crypto text p) ⟨s, [], [], {}⟩ front
      ¬ r.UpToDate p e → Overtaken crypto p r (r.step crypto text p e) := by
  constructor
  · intro hrun
    constructor
    · rintro front back rfl
      dsimp only
      intro n hn
      have hcurrent := current_run text hcrypto s (Machine.throughout_append.mp hrun).1
      have htraced := traced_run (p := p) text hcrypto s front
      exact ⟨hcurrent.load_newest htraced hn, hcurrent.get_newest htraced hn⟩
    · intro front access back hlog
      exact (current_run text hcrypto s hrun).used front _ back hlog
  · intro front e back _
    exact overtaken_of_not_upToDate text hcrypto (traced_run text hcrypto s front)

end TokenRun

section Samples

/-- An answer with new tokens. -/
def successorBody : String := "\x7b\"access_token\":\"at-2\",\"refresh_token\":\"rt-2\"\x7d"

def successorText : Json.Text := .knowing (fun _ => "null")
  [(successorBody, .object [("access_token", .string "at-2"), ("refresh_token", .string "rt-2")])]

def successorWorld : TokenWorld where
  now := 0
  later := 0
  post _ _ := .ok ⟨200, successorBody⟩
  nonce := List.replicate 12 0
  written := .ok ()
  length_nonce := rfl

def openaiRun (events : List TokenEvent) : TokenRun :=
  Machine.run (TokenRun.step taggedCrypto successorText "openai")
    ⟨⟨{}, {}, freshKeyStore⟩, [], [], {}⟩ events

def storeFirst : List TokenEvent :=
  [.setRefreshToken "rt-1", .advance 0 successorWorld, .advance 0 successorWorld,
    .advance 0 successorWorld]

/-- While a refresh with the first token is under way, a new token is stored. -/
def storeDuringRefresh : List TokenEvent :=
  storeFirst ++ [.refresh, .advance 0 successorWorld,
    .setRefreshToken "rt-9", .advance 1 successorWorld, .advance 1 successorWorld,
    .advance 1 successorWorld,
    .advance 0 successorWorld, .advance 0 successorWorld, .advance 0 successorWorld,
    .advance 0 successorWorld, .advance 0 successorWorld, .accessToken 0]

namespace TokenRun

/-- The refresh ends last. Its token stands in the place of the new one, and its access token is
used. -/
theorem new_token_overwritten :
    (openaiRun storeDuringRefresh).log =
        [.fresh "rt-1", .fresh "rt-9", .traded "rt-1" "at-2" "rt-2", .used "at-2"] ∧
      ((openaiRun storeDuringRefresh).oauth.keys.get taggedCrypto (oauthEntry "openai")).1 =
        .ok (some "rt-2") ∧
      ¬ Derives (openaiRun storeDuringRefresh).log "rt-9" "rt-2" ∧
      ¬ Obtained (openaiRun storeDuringRefresh).log "rt-9" "at-2" := by
  have hlog : (openaiRun storeDuringRefresh).log =
      [.fresh "rt-1", .fresh "rt-9", .traded "rt-1" "at-2" "rt-2", .used "at-2"] := by rfl
  have hnone : ∀ access next, .traded "rt-9" access next ∉ (openaiRun storeDuringRefresh).log := by
    rw [hlog]
    intro access next hmem
    simp at hmem
  refine ⟨hlog, rfl, ?_, ?_⟩
  · intro hderives
    have heq := eq_of_derives hderives hnone
    simp at heq
  · rintro ⟨raw, next, hraw, htraded⟩
    cases eq_of_derives hraw hnone
    exact hnone _ _ htraded

theorem upToDate_advance {r : TokenRun} (hc : r.calls[i]? = some c)
    (h : CallUpToDate { r with calls := r.calls.eraseIdx i } world c) :
    r.UpToDate p (.advance i world) := by
  intro c' hc'
  cases hc.symm.trans hc'
  exact h

/-- A token is stored, and is exchanged for the access token that is asked for next. -/
def exchangeStored : List TokenEvent :=
  storeFirst ++ .accessToken 0 :: List.replicate 6 (.advance 0 successorWorld)

/-- The access token is handed out, and what it came with is stored. -/
theorem newest_token_kept_exchanged :
    (openaiRun exchangeStored).log =
        [.fresh "rt-1", .traded "rt-1" "at-2" "rt-2", .used "at-2"] ∧
      Obtained [.fresh "rt-1", .traded "rt-1" "at-2" "rt-2"] "rt-1" "at-2" ∧
      ∃ raw, ((openaiRun exchangeStored).oauth.keys.get taggedCrypto (oauthEntry "openai")).1 =
          .ok (some raw) ∧ Derives (openaiRun exchangeStored).log "rt-1" raw := by
  have hrun : Machine.Throughout (TokenRun.step taggedCrypto successorText "openai")
      (UpToDate "openai") ⟨⟨{}, {}, freshKeyStore⟩, [], [], {}⟩ exchangeStored := by
    refine ⟨trivial, upToDate_advance rfl trivial, upToDate_advance rfl (.inl rfl),
      upToDate_advance rfl trivial, ?_, upToDate_advance rfl trivial,
      upToDate_advance rfl trivial, upToDate_advance rfl trivial,
      upToDate_advance rfl fun _ => rfl, upToDate_advance rfl (.inl rfl),
      upToDate_advance rfl fun _ => rfl, trivial⟩
    intro c hc
    cases hc
  obtain ⟨hkept, hused⟩ := (newest_token_kept successorText taggedCrypto_isAead
    ⟨{}, {}, freshKeyStore⟩ exchangeStored).1 hrun
  refine ⟨rfl, hused _ "at-2" [] rfl "rt-1" rfl, ?_⟩
  exact (hkept exchangeStored [] rfl "rt-1" rfl).2 nofun

end TokenRun

end Samples

end TokenDealer
