import TokenDealer.Credentials
import TokenDealer.StrPieces

set_option autoImplicit true

namespace TokenDealer

namespace Keys

/-- A reference to a variable that is not set. -/
def Unresolved (keys : Keys) (literal : String) : Prop :=
  ∃ name, indirection literal = some name ∧ keys.env name = none

/-- A ciphertext the master key does not open. -/
def Unreadable (keys : Keys) (literal : String) : Prop :=
  Str.startsWith literal encPrefix = true ∧
    ∀ plaintext, keys.master.decrypt keys.crypto literal Purpose.tomlAuthKey ≠ .ok plaintext

/-- The key that comes out for a provider whose entry has the literal: the value of the variable it
refers to, its plaintext or the literal as it stands; without one the provider's variable, then the
store, then nothing. -/
inductive Yields (keys : Keys) (providerId : String) : Option String → String → Prop where
  | reference (literal name value : String) : indirection literal = some name →
      keys.env name = some value → Yields keys providerId (some literal) value
  | plaintext (literal key : String) : Str.startsWith literal encPrefix = true →
      keys.master.decrypt keys.crypto literal Purpose.tomlAuthKey = .ok key →
      Yields keys providerId (some literal) key
  | plain (literal : String) : literal ≠ "" → Str.startsWith literal encPrefix = false →
      (∀ name, indirection literal = some name → keys.env name = none) →
      Yields keys providerId (some literal) literal
  | environment (literal : Option String) (value : String) : literal.getD "" = "" →
      keys.env (envVarFor keys.uppercase providerId) = some value → value ≠ "" →
      Yields keys providerId literal value
  | stored (literal : Option String) (key : String) : literal.getD "" = "" →
      (∀ value, keys.env (envVarFor keys.uppercase providerId) = some value → value = "") →
      (keys.store.get keys.crypto providerId).1 = .ok (some key) →
      Yields keys providerId literal key
  | nothing (literal : Option String) : literal.getD "" = "" →
      (∀ value, keys.env (envVarFor keys.uppercase providerId) = some value → value = "") →
      (∀ key, (keys.store.get keys.crypto providerId).1 ≠ .ok (some key)) →
      Yields keys providerId literal ""

/-- A ciphertext refers to no variable. -/
theorem indirection_of_enc {literal : String} (h : Str.startsWith literal encPrefix = true) :
    indirection literal = none := by
  have hfirst : ∃ rest, literal.toList = 'e' :: rest := by
    rw [Str.startsWith, Option.isSome_iff_exists] at h
    obtain ⟨back, hback⟩ := h
    exact ⟨_, Str.dropFront_eq_some.mp hback⟩
  obtain ⟨rest, hrest⟩ := hfirst
  have hmark : "$\x7b".toList = ['$', '\x7b'] := rfl
  rw [indirection, Str.stripPrefix, hrest, hmark]
  rfl

theorem resolveLiteral_variable {keys : Keys} {literal name value : String}
    (hname : indirection literal = some name) (hvalue : keys.env name = some value) :
    keys.resolveLiteral literal = some value := by
  rw [resolveLiteral, hname, Option.bind_some, hvalue]

theorem resolveLiteral_other {keys : Keys} {literal : String}
    (h : ∀ name, indirection literal = some name → keys.env name = none)
    (henc : Str.startsWith literal encPrefix = false) :
    keys.resolveLiteral literal = if literal ≠ "" then some literal else none := by
  have hbind : (indirection literal).bind keys.env = none := by
    cases hname : indirection literal with
    | none => rfl
    | some name => exact h name hname
  rw [resolveLiteral, hbind, henc]
  rfl

theorem resolveLiteral_plaintext {keys : Keys} {literal key : String}
    (henc : Str.startsWith literal encPrefix = true)
    (hkey : keys.master.decrypt keys.crypto literal Purpose.tomlAuthKey = .ok key) :
    keys.resolveLiteral literal = some key := by
  rw [resolveLiteral, indirection_of_enc henc, henc, if_pos rfl, hkey]
  rfl

theorem resolve_of_missing {keys : Keys} {literal : Option String}
    (h : literal.getD "" = "") (p : String) : keys.resolve p literal = keys.resolveMissing p := by
  cases literal with
  | none => rfl
  | some literal =>
    cases h
    rfl

theorem resolve_of_literal {keys : Keys} {literal key : String}
    (h : keys.resolveLiteral literal = some key) (p : String) :
    keys.resolve p (some literal) = key := by
  rw [resolve, Option.bind_some, h]

theorem resolveMissing_of_unset {keys : Keys} {p : String}
    (h : ∀ value, keys.env (envVarFor keys.uppercase p) = some value → value = "") :
    keys.resolveMissing p = match (keys.store.get keys.crypto p).1 with
      | .ok (some key) => key
      | .ok none => ""
      | .error _ => "" := by
  rw [resolveMissing]
  cases henv : keys.env (envVarFor keys.uppercase p) with
  | none => rfl
  | some value =>
    rw [h value henv]
    rfl

theorem resolveMissing_of_set {keys : Keys} {p value : String}
    (h : keys.env (envVarFor keys.uppercase p) = some value) (hne : value ≠ "") :
    keys.resolveMissing p = value := by
  rw [resolveMissing, h]
  exact if_pos hne

theorem resolveMissing_yields (keys : Keys) (p : String) {literal : Option String}
    (h : literal.getD "" = "") : keys.Yields p literal (keys.resolveMissing p) := by
  by_cases hset : ∃ value, keys.env (envVarFor keys.uppercase p) = some value ∧ value ≠ ""
  · obtain ⟨value, hvalue, hne⟩ := hset
    rw [resolveMissing_of_set hvalue hne]
    exact .environment literal value h hvalue hne
  · have hunset : ∀ value, keys.env (envVarFor keys.uppercase p) = some value → value = "" := by
      intro value hvalue
      by_contra hne
      exact hset ⟨value, hvalue, hne⟩
    rw [resolveMissing_of_unset hunset]
    split
    · next key hkey => exact .stored literal key h hunset hkey
    · next hnone =>
      refine .nothing literal h hunset fun key hkey => ?_
      rw [hnone] at hkey
      cases hkey
    · next e herror =>
      refine .nothing literal h hunset fun key hkey => ?_
      rw [herror] at hkey
      cases hkey

theorem resolve_yields {keys : Keys} {literal : Option String}
    (hreadable : ∀ l ∈ literal, ¬ keys.Unreadable l) (p : String) :
    keys.Yields p literal (keys.resolve p literal) := by
  by_cases hmissing : literal.getD "" = ""
  · rw [resolve_of_missing hmissing]
    exact keys.resolveMissing_yields p hmissing
  · cases literal with
    | none => exact absurd rfl hmissing
    | some literal =>
      have hne : literal ≠ "" := hmissing
      cases henc : Str.startsWith literal encPrefix with
      | true =>
        -- the literal is a ciphertext, and it can be read
        have hopens : ∃ key,
            keys.master.decrypt keys.crypto literal Purpose.tomlAuthKey = .ok key := by
          by_contra hnone
          exact hreadable literal rfl ⟨henc, fun key hkey => hnone ⟨key, hkey⟩⟩
        obtain ⟨key, hkey⟩ := hopens
        rw [resolve_of_literal (resolveLiteral_plaintext henc hkey)]
        exact .plaintext literal key henc hkey
      | false =>
        by_cases hset : ∃ name value, indirection literal = some name ∧ keys.env name = some value
        · obtain ⟨name, value, hname, hvalue⟩ := hset
          rw [resolve_of_literal (resolveLiteral_variable hname hvalue)]
          exact .reference literal name value hname hvalue
        · have hunset : ∀ name, indirection literal = some name → keys.env name = none := by
            intro name hname
            cases hvalue : keys.env name with
            | none => rfl
            | some value => exact absurd ⟨name, value, hname, hvalue⟩ hset
          have hliteral := resolveLiteral_other hunset henc
          rw [if_pos hne] at hliteral
          rw [resolve_of_literal hliteral]
          exact .plain literal hne henc hunset

theorem Yields.resolve_eq {keys : Keys} (h : keys.Yields p literal key) :
    keys.resolve p literal = key := by
  cases h with
  | reference literal name value hname hvalue =>
    exact resolve_of_literal (resolveLiteral_variable hname hvalue) p
  | plaintext literal key henc hkey =>
    exact resolve_of_literal (resolveLiteral_plaintext henc hkey) p
  | plain literal hne henc hunset =>
    have hliteral := resolveLiteral_other hunset henc
    rw [if_pos hne] at hliteral
    exact resolve_of_literal hliteral p
  | environment literal value hmissing henv hne =>
    rw [resolve_of_missing hmissing, resolveMissing_of_set henv hne]
  | stored literal key hmissing henv hkey =>
    rw [resolve_of_missing hmissing, resolveMissing_of_unset henv, hkey]
  | nothing literal hmissing henv hnone =>
    rw [resolve_of_missing hmissing, resolveMissing_of_unset henv]
    split
    · next key hkey => exact absurd hkey (hnone key)
    · rfl
    · rfl

theorem resolve_eq_iff {keys : Keys} {literal : Option String}
    (hreadable : ∀ l ∈ literal, ¬ keys.Unreadable l) {p key : String} :
    keys.resolve p literal = key ↔ keys.Yields p literal key := by
  constructor
  · rintro rfl
    exact resolve_yields hreadable p
  · exact Yields.resolve_eq

end Keys

/-- Routing to a provider without a key fails. -/
theorem Pipeline.route_of_no_key {pipe : Pipeline} {selected : SelectedRoute}
    (hselected : pipe.selectRoute modelOverride tier = .ok selected)
    (hcanonical : inbound.intoCanonical pipe.text tier selected.modelId selected.providerId
      requestId = .ok canonical)
    (hkey : (pipe.routeKey world tier selected.providerId).1 = "") :
    (pipe.route world requestId inbound modelOverride tier).1 =
      .error (.internal ("no API key for provider " ++ selected.providerId)) := by
  simp only [Pipeline.route, hselected, hcanonical, hkey, if_true]
  rfl

/-- Where the key of a call comes from: a literal that is no unreadable ciphertext stands for the
variable it refers to, its plaintext or itself, a reference to no variable included; without one
come the provider's variable and the store, and routing with nothing fails. -/
theorem Pipeline.key_sources (pipe : Pipeline) :
    (∀ p literal, (∀ l ∈ literal, ¬ pipe.keys.Unreadable l) →
      ∀ key, pipe.keys.resolve p literal = key ↔ pipe.keys.Yields p literal key) ∧
    (∀ world requestId inbound modelOverride tier selected canonical,
      pipe.selectRoute modelOverride tier = .ok selected →
      InboundRequest.intoCanonical pipe.text inbound tier selected.modelId selected.providerId
        requestId = .ok canonical →
      (pipe.accessToken world selected.providerId).1 = none →
      pipe.keys.resolve selected.providerId
        ((pipe.config.providerKey selected.providerId).or (pipe.config.tierKeyOverride tier)) = "" →
      (pipe.route world requestId inbound modelOverride tier).1 =
        .error (.internal ("no API key for provider " ++ selected.providerId))) := by
  constructor
  · exact fun p literal hreadable key => Keys.resolve_eq_iff hreadable
  · intro world requestId inbound modelOverride tier selected canonical hselected hcanonical
      haccess hempty
    apply Pipeline.route_of_no_key hselected hcanonical
    rw [Pipeline.routeKey, haccess]
    exact hempty

/-- A router with a key in the environment that its provider does not refer to. -/
def teamPipeline : Pipeline :=
  { samplePipeline with
    config := { providers := [{ id := "openai", providerType := .openai }] }
    keys := { samplePipeline.keys with
      env := fun name => if name = "TEAM_KEY" then some "sk-team" else none } }

theorem Pipeline.key_sources_team :
    teamPipeline.keys.resolve "openai" (some "$\x7bTEAM_KEY\x7d") = "sk-team" ∧
      (teamPipeline.route sampleWorld "1"
        { model := "openai/gpt-4o", messages := [{ role := "user", content := .string "hi" }] }
        (some "openai/gpt-4o") .standard).1 =
          .error (.internal ("no API key for provider " ++ "openai")) := by
  obtain ⟨hresolve, hroute⟩ := teamPipeline.key_sources
  have hname : Keys.indirection "$\x7bTEAM_KEY\x7d" = some "TEAM_KEY" := by decide +kernel
  constructor
  · refine (hresolve "openai" (some "$\x7bTEAM_KEY\x7d") ?_ "sk-team").mpr
      (.reference _ "TEAM_KEY" _ hname rfl)
    intro l hl hunreadable
    cases hl
    exact absurd hunreadable.1 (by decide +kernel)
  · exact hroute sampleWorld "1" _ (some "openai/gpt-4o") .standard ⟨"openai", "gpt-4o"⟩ _ rfl rfl
      rfl rfl

/-- A reference to a variable that is not set is sent as it stands. -/
theorem Keys.unresolved_is_sent :
    ¬ ∀ (keys : Keys) (p literal : String), keys.Unresolved literal ∨ keys.Unreadable literal →
      keys.resolve p (some literal) = keys.resolve p none := by
  intro h
  have hliteral := h samplePipeline.keys "openai" "$\x7bUNSET\x7d"
    (.inl ⟨"UNSET", by decide +kernel, by decide +kernel⟩)
  exact absurd hliteral (by decide +kernel)

end TokenDealer
