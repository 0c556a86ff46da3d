import TokenDealer.LoginCli
import TokenDealer.StrPieces

set_option autoImplicit true

namespace TokenDealer

open LoginCli

/-- A word of a scope. -/
structure IsScopeWord (word : String) : Prop where
  nonempty : word ≠ ""
  blank : ' ' ∉ word.toList

/-- The server and the command line ask a provider for the same. -/
structure SameClient (cfg : ManifestOAuthFlow) (cli : ProviderOAuth) : Prop where
  clientId : cli.clientId = cfg.clientId
  scope : cli.sentScope = cfg.scope
  extraParams : cli.extraParams = cfg.extraAuthorizeParams
  requiresPkce : cli.requiresPkce = cfg.requiresPkce
  base : '?' ∉ cli.authorizeUrl.toList

namespace ManifestOAuthFlow

variable (cfg : ManifestOAuthFlow) (redirectUri state challenge : String)

/-- The members of the query with a scope of one's own. -/
def meantParams (scope : String) : List (String × String) :=
  [("response_type", "code"), ("client_id", cfg.clientId),
    ("redirect_uri", cfg.effectiveRedirect redirectUri), ("state", state), ("scope", scope)] ++
    cfg.extraAuthorizeParams ++
    if cfg.requiresPkce then
      [("code_challenge", challenge), ("code_challenge_method", "S256")]
    else []

def sentScope : String :=
  if cfg.scope = "" then "openid profile email offline_access" else Str.replace cfg.scope " " "+"

theorem authorizeParams_eq :
    cfg.authorizeParams redirectUri state challenge =
      cfg.meantParams redirectUri state challenge cfg.sentScope := rfl

variable {cfg redirectUri state challenge}

theorem meantParams_inj :
    cfg.meantParams redirectUri state challenge a = cfg.meantParams redirectUri state challenge b ↔
      a = b := by
  constructor
  · intro h
    have hscope : some ("scope", a) = some ("scope", b) := congrArg (·[4]?) h
    exact congrArg Prod.snd (Option.some.inj hscope)
  · rintro rfl
    rfl

end ManifestOAuthFlow

/-- The address says what was meant, the scope word by word, and so does that of the command
line. -/
structure DecodesAsMeant (cfg : ManifestOAuthFlow) (cli : ProviderOAuth) (words : List String)
    (redirectUri state challenge : String) : Prop where
  params : Query.params (cfg.buildAuthorizeUrl redirectUri state challenge) =
    cfg.meantParams redirectUri state challenge (Str.join " " words)
  agrees : (Query.params (cfg.buildAuthorizeUrl redirectUri state challenge)).Perm
    (Query.params (cli.popupUrl (cfg.effectiveRedirect redirectUri) state challenge))

/-- The words are sent with plus signs between them. -/
theorem sentScope_join {cfg : ManifestOAuthFlow} (hwords : ∀ w ∈ words, IsScopeWord w)
    (hne : words ≠ []) (hscope : cfg.scope = Str.join " " words) :
    cfg.sentScope = Str.join "+" words := by
  have hnonempty : Str.join " " words ≠ "" := by
    cases words with
    | nil => exact absurd rfl hne
    | cons w rest =>
      intro hempty
      apply (hwords w List.mem_cons_self).nonempty
      cases rest with
      | nil => exact hempty
      | cons w' rest =>
        rw [Str.join_cons " " w (List.cons_ne_nil w' rest), String.append_assoc] at hempty
        exact (String.append_eq_empty_iff.mp hempty).1
  have hblank : " ".toList = ' ' :: [] := rfl
  have hpieces : ∀ w ∈ words, Str.contains w " " = false := by
    intro w hw
    rw [Str.contains_eq_false_iff]
    exact fun hin => (hwords w hw).blank (hin.subset (hblank ▸ List.mem_singleton_self ' '))
  rw [ManifestOAuthFlow.sentScope, hscope, if_neg hnonempty,
    Str.replace_join hblank List.not_mem_nil "+" hpieces]

/-- A list of words reads the same with plus signs as with blanks when it has one word. -/
theorem join_plus_eq_iff (hne : words ≠ []) :
    Str.join "+" words = Str.join " " words ↔ words.length = 1 := by
  cases words with
  | nil => exact absurd rfl hne
  | cons w rest =>
    cases rest with
    | nil => exact iff_of_true rfl rfl
    | cons w' rest =>
      apply iff_of_false
      · rw [Str.join_cons "+" w (List.cons_ne_nil w' rest),
          Str.join_cons " " w (List.cons_ne_nil w' rest), String.append_assoc, String.append_assoc,
          String.append_right_inj]
        intro h
        have hlist := congrArg String.toList h
        rw [String.toList_append, String.toList_append] at hlist
        exact absurd (List.cons.inj hlist).1 (by decide)
      · rw [List.length_cons, List.length_cons]
        omega

theorem sentScope_eq_iff {cfg : ManifestOAuthFlow} (hwords : ∀ w ∈ words, IsScopeWord w)
    (hscope : cfg.scope = Str.join " " words) :
    cfg.sentScope = Str.join " " words ↔ words.length = 1 := by
  by_cases hne : words = []
  · rw [hne] at hscope ⊢
    have hempty : cfg.scope = "" := hscope
    rw [ManifestOAuthFlow.sentScope, if_pos hempty]
    exact iff_of_false (by decide) (by decide)
  · rw [sentScope_join hwords hne hscope]
    exact join_plus_eq_iff hne

/-- The two programs put the same members into another order. -/
theorem perm_popupParams {cfg : ManifestOAuthFlow} {cli : ProviderOAuth} (h : SameClient cfg cli)
    (redirectUri state challenge : String) :
    (cfg.meantParams redirectUri state challenge cfg.scope).Perm
      (cli.popupParams (cfg.effectiveRedirect redirectUri) state challenge) := by
  rw [ManifestOAuthFlow.meantParams, ProviderOAuth.popupParams, h.clientId, h.scope,
    h.extraParams, h.requiresPkce, List.append_assoc, List.append_assoc]
  refine List.Perm.append ?_ List.perm_append_comm
  exact .cons _ (.cons _ (.cons _ (.swap _ _ [])))

theorem decodesAsMeant_iff {cfg : ManifestOAuthFlow} {cli : ProviderOAuth}
    (hbase : '?' ∉ cfg.authorizeUrl.toList) (hsame : SameClient cfg cli)
    (hwords : ∀ w ∈ words, IsScopeWord w) (hscope : cfg.scope = Str.join " " words)
    (redirectUri state challenge : String) :
    DecodesAsMeant cfg cli words redirectUri state challenge ↔ words.length = 1 := by
  rw [← sentScope_eq_iff hwords hscope]
  constructor
  · intro h
    have hparams := h.params
    rw [ManifestOAuthFlow.params_buildAuthorizeUrl hbase,
      ManifestOAuthFlow.authorizeParams_eq] at hparams
    exact ManifestOAuthFlow.meantParams_inj.mp hparams
  · intro h
    have hparams : Query.params (cfg.buildAuthorizeUrl redirectUri state challenge) =
        cfg.meantParams redirectUri state challenge (Str.join " " words) := by
      rw [ManifestOAuthFlow.params_buildAuthorizeUrl hbase, ManifestOAuthFlow.authorizeParams_eq,
        h]
    refine ⟨hparams, ?_⟩
    rw [hparams, ProviderOAuth.params_popupUrl _ _ _ _ hsame.base, ← hscope]
    exact perm_popupParams hsame redirectUri state challenge

/-- The scope of an address is the one that is sent, where no other member has its name. -/
theorem scope_of_mem {cfg : ManifestOAuthFlow}
    (hextra : ∀ q ∈ cfg.extraAuthorizeParams, q.1 ≠ "scope")
    (h : ("scope", x) ∈ cfg.meantParams redirectUri state challenge scope) : x = scope := by
  rw [ManifestOAuthFlow.meantParams, List.mem_append, List.mem_append] at h
  rcases h with (h | h) | h
  · simp only [List.mem_cons, Prod.mk.injEq, String.reduceEq, false_and, true_and, false_or,
      List.not_mem_nil, or_false] at h
    exact h
  · exact absurd rfl (hextra _ h)
  · split at h
    · simp only [List.mem_cons, Prod.mk.injEq, String.reduceEq, false_and, List.not_mem_nil,
        or_false] at h
    · cases h

/-- Another scope makes it another address. -/
theorem not_perm_of_scope {cfg : ManifestOAuthFlow} {cli : ProviderOAuth}
    (hbase : '?' ∉ cfg.authorizeUrl.toList) (hcli : '?' ∉ cli.authorizeUrl.toList)
    (hextra : ∀ q ∈ cfg.extraAuthorizeParams, q.1 ≠ "scope")
    (hscope : cli.sentScope ≠ cfg.sentScope)
    (redirectUri state challenge callbackUrl state' challenge' : String) :
    ¬ (Query.params (cfg.buildAuthorizeUrl redirectUri state challenge)).Perm
      (Query.params (cli.popupUrl callbackUrl state' challenge')) := by
  rw [ManifestOAuthFlow.params_buildAuthorizeUrl hbase, ManifestOAuthFlow.authorizeParams_eq,
    ProviderOAuth.params_popupUrl _ _ _ _ hcli]
  intro hperm
  have hmem : ("scope", cli.sentScope) ∈ cli.popupParams callbackUrl state' challenge' := by
    rw [ProviderOAuth.popupParams, List.append_assoc]
    apply List.mem_append_left
    simp only [List.mem_cons, true_or, or_true]
  exact hscope (scope_of_mem hextra (hperm.symm.subset hmem))

theorem blank_not_mem_join {pieces : List String}
    (h : ∀ piece ∈ pieces, Str.contains piece " " = false) :
    ' ' ∉ (Str.join "+" pieces).toList := by
  induction pieces with
  | nil => exact List.not_mem_nil
  | cons piece pieces ih =>
    obtain ⟨hpiece, hrest⟩ := List.forall_mem_cons.mp h
    have hblank : ' ' ∉ piece.toList := by
      intro hmem
      obtain ⟨front, back, heq⟩ := List.append_of_mem hmem
      refine Str.contains_eq_false_iff.mp hpiece ⟨front, back, ?_⟩
      rw [heq, List.append_assoc]
      rfl
    by_cases hlast : pieces = []
    · rw [hlast]
      exact hblank
    · rw [Str.join_cons "+" piece hlast, String.toList_append, String.toList_append,
        List.mem_append, List.mem_append, not_or, not_or]
      exact ⟨⟨hblank, by decide⟩, ih hrest⟩

/-- The server sends a scope of its own without blanks. -/
theorem blank_not_mem_sentScope {cfg : ManifestOAuthFlow} (h : cfg.scope ≠ "") :
    ' ' ∉ cfg.sentScope.toList := by
  have hblank : " ".toList = ' ' :: [] := rfl
  obtain ⟨pieces, hscope, -, hpieces⟩ :=
    Str.exists_pieces (by decide : " ".toList ≠ []) cfg.scope
  rw [ManifestOAuthFlow.sentScope, if_neg h, hscope,
    Str.replace_join hblank List.not_mem_nil "+" hpieces]
  exact blank_not_mem_join hpieces

/-- Of the providers that both programs have an address for, each has a scope of several words. -/
theorem popupConfig_scope (h : popupConfig p = .ok flow)
    (hcli : lookupProvider env p = some cli) (haddress : cli.authorizeUrl ≠ "") :
    '?' ∉ cli.authorizeUrl.toList ∧ (∀ q ∈ flow.extraAuthorizeParams, q.1 ≠ "scope") ∧
      cli.sentScope ≠ flow.sentScope := by
  have hlookup := lookupOauth_of_popupConfig h
  suffices hblank : ('?' ∉ cli.authorizeUrl.toList ∧ ' ' ∈ cli.sentScope.toList) ∧
      (∀ q ∈ flow.extraAuthorizeParams, q.1 ≠ "scope") ∧ flow.scope ≠ "" by
    obtain ⟨⟨hplain, hwords⟩, hextra, hscope⟩ := hblank
    exact ⟨hplain, hextra, fun heq => blank_not_mem_sentScope hscope (heq ▸ hwords)⟩
  obtain ⟨hp, rfl⟩ | ⟨hp, rfl⟩ | ⟨hp, rfl⟩ | hp := lookupProvider_address hcli haddress
  · have hflow : Manifest.lookupOauth p = Manifest.oauthFlow .openai := by
      rcases hp with rfl | rfl <;> decide +kernel
    cases hlookup.symm.trans hflow
    decide
  · have hflow : Manifest.lookupOauth p = Manifest.oauthFlow .google := by
      rcases hp with rfl | rfl <;> decide +kernel
    cases hlookup.symm.trans hflow
    have hgoogle : '?' ∉ (googleProvider fun _ => none).authorizeUrl.toList ∧
        ' ' ∈ (googleProvider fun _ => none).sentScope.toList := by
      decide +kernel
    exact ⟨hgoogle, by decide⟩
  · have hflow : Manifest.lookupOauth p = Manifest.oauthFlow .xai := by
      rcases hp with rfl | rfl <;> decide +kernel
    cases hlookup.symm.trans hflow
    decide
  · -- the login that pastes its code does not begin here
    have herror : ¬ (popupConfig p).isOk := by
      rw [hp]
      decide +kernel
    rw [h] at herror
    exact absurd rfl herror

/-- An address decodes to what was meant when its scope is one word: the blanks between words become
plus signs that the encoding keeps. It never agrees with the command line's for a provider that
both know, since all of these have several words. -/
theorem authorizeUrl_decodes_iff (p : String) :
    (∀ base (cfg : ManifestOAuthFlow) cli words, popupConfig p = .ok base →
      cfg.authorizeUrl = base.authorizeUrl → SameClient cfg cli →
      (∀ w ∈ words, IsScopeWord w) → cfg.scope = Str.join " " words →
      ∀ redirectUri state challenge,
        DecodesAsMeant cfg cli words redirectUri state challenge ↔ words.length = 1) ∧
    (∀ w redirectUri pending url state,
      (startPopupOauth w p redirectUri pending).1 = .ok (url, state) →
      ∀ env cli, lookupProvider env p = some cli → cli.authorizeUrl ≠ "" →
        ∀ callbackUrl state' challenge,
          ¬ (Query.params url).Perm
            (Query.params (cli.popupUrl callbackUrl state' challenge))) := by
  constructor
  · intro base cfg cli words hbase haddress hsame hwords hscope redirectUri state challenge
    have hplain : '?' ∉ cfg.authorizeUrl.toList := by
      rw [haddress]
      exact Manifest.authorizeUrl_plain (lookupOauth_of_popupConfig hbase)
    exact decodesAsMeant_iff hplain hsame hwords hscope redirectUri state challenge
  · intro w redirectUri pending url state hstart env cli hcli haddress callbackUrl state' challenge
    cases hconfig : popupConfig p with
    | error e =>
      rw [startPopupOauth_error w hconfig] at hstart
      cases hstart
    | ok flow =>
      rw [startPopupOauth_ok w hconfig] at hstart
      cases hstart
      obtain ⟨hplain, hextra, hscope⟩ := popupConfig_scope hconfig hcli haddress
      exact not_perm_of_scope (Manifest.authorizeUrl_plain (lookupOauth_of_popupConfig hconfig))
        hplain hextra hscope _ _ _ _ _ _

def openaiScopeWords : List String := ["openid", "profile", "email", "offline_access"]

/-- The scope is read back with plus signs in it. -/
theorem scope_decodes_plus :
    ¬ ∀ p base (cfg : ManifestOAuthFlow) cli words, popupConfig p = .ok base →
      cfg.authorizeUrl = base.authorizeUrl → SameClient cfg cli →
      (∀ w ∈ words, IsScopeWord w) → cfg.scope = Str.join " " words →
      ∀ redirectUri state challenge,
        DecodesAsMeant cfg cli words redirectUri state challenge := by
  intro h
  have hconfig : popupConfig "openai" = .ok Manifest.openaiFlow := by decide +kernel
  have hsame : SameClient Manifest.openaiFlow openaiProvider :=
    ⟨rfl, rfl, rfl, rfl, by decide +kernel⟩
  have hwords : ∀ w ∈ openaiScopeWords, IsScopeWord w := by
    have hall : ∀ w ∈ openaiScopeWords, w ≠ "" ∧ ' ' ∉ w.toList := by decide +kernel
    exact fun w hw => ⟨(hall w hw).1, (hall w hw).2⟩
  have hplain : '?' ∉ Manifest.openaiFlow.authorizeUrl.toList := by decide +kernel
  have hmeant := (h "openai" Manifest.openaiFlow Manifest.openaiFlow openaiProvider
    openaiScopeWords hconfig rfl hsame hwords rfl "http://127.0.0.1:7/callback" "openai.1"
    "abc").params
  rw [ManifestOAuthFlow.params_buildAuthorizeUrl hplain, ManifestOAuthFlow.authorizeParams_eq,
    ManifestOAuthFlow.meantParams_inj] at hmeant
  revert hmeant
  decide +kernel

end TokenDealer
