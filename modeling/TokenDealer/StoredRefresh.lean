import TokenDealer.FlowFrame

set_option autoImplicit true

namespace TokenDealer

open Json

/-- A refresh token with the client that is registered for it. -/
def storedBlob (rt clientId clientSecret : String) : Value :=
  .object
    [("refresh_token", .string rt), ("client_id", .string clientId),
      ("client_secret", .string clientSecret)]

/-- A text stands in the source it is read from, between quotes and braces. -/
def ReadsWithin (text : Json.Text) (source : String) : Prop :=
  ∀ v key s, text.parse source = some v → v.getStr key = some s → s.length < source.length

/-- A bare token that reads as one with a client. -/
def LooksStored (text : Json.Text) (rt : String) : Prop :=
  ∃ v token, text.parse rt = some v ∧ v.getStr "refresh_token" = some token

/-- A token that is stored without loss: with a whole client, or bare and not in the form of the
other ones. -/
def Storable (text : Json.Text) (rt : String) : Option String → Option String → Prop
  | some _, some _ => True
  | none, none => ¬ LooksStored text rt
  | _, _ => False

section

variable {text : Json.Text}

theorem parseStoredRefresh_of_read (hparse : text.parse raw = some v)
    (htoken : v.getStr "refresh_token" = some token) :
    parseStoredRefresh text raw = (token, v.getStr "client_id", v.getStr "client_secret") := by
  have hfield : (v.get "refresh_token").bind Value.asStr = some token := htoken
  simp only [parseStoredRefresh, hparse, Option.bind_some, hfield, Option.map_some]
  rfl

theorem parseStoredRefresh_bare (h : ¬ LooksStored text raw) :
    parseStoredRefresh text raw = (raw, none, none) := by
  have hnone : (text.parse raw).bind (fun v =>
      ((v.get "refresh_token").bind Value.asStr).map fun rt => (v, rt)) = none := by
    cases hparse : text.parse raw with
    | none => rfl
    | some v =>
      cases htoken : (v.get "refresh_token").bind Value.asStr with
      | none => rw [Option.bind_some, htoken, Option.map_none]
      | some token => exact absurd ⟨v, token, hparse, htoken⟩ h
  simp only [parseStoredRefresh, hnone]

/-- A blob comes back with its client. -/
theorem parse_storedBlob (h : text.ReadsBack (storedBlob rt clientId clientSecret)) :
    parseStoredRefresh text (text.print (storedBlob rt clientId clientSecret)) =
      (rt, some clientId, some clientSecret) := by
  obtain ⟨v, hparse, hagrees⟩ := h
  have hstr : ∀ key, v.getStr key = (storedBlob rt clientId clientSecret).getStr key :=
    hagrees.getStr
  have htoken : v.getStr "refresh_token" = some rt := hstr _
  rw [parseStoredRefresh_of_read hparse htoken, hstr, hstr]
  rfl

/-- A bare token comes back without a client, and only if it does not read as another one. -/
theorem parse_bare_iff (hwithin : ReadsWithin text rt) {clientId clientSecret : Option String} :
    parseStoredRefresh text rt = (rt, clientId, clientSecret) ↔
      clientId = none ∧ clientSecret = none ∧ ¬ LooksStored text rt := by
  constructor
  · intro h
    have hbare : ¬ LooksStored text rt := by
      rintro ⟨v, token, hparse, htoken⟩
      have hshorter := hwithin v "refresh_token" token hparse htoken
      rw [parseStoredRefresh_of_read hparse htoken] at h
      have hsame : token = rt := congrArg Prod.fst h
      rw [hsame] at hshorter
      exact Nat.lt_irrefl _ hshorter
    rw [parseStoredRefresh_bare hbare] at h
    cases h
    exact ⟨rfl, rfl, hbare⟩
  · rintro ⟨rfl, rfl, hbare⟩
    exact parseStoredRefresh_bare hbare

theorem parse_serialize_iff {clientId clientSecret : Option String}
    (hprint : ∀ cid cs, clientId = some cid → clientSecret = some cs →
      text.ReadsBack (storedBlob rt cid cs))
    (hwithin : ReadsWithin text rt) :
    parseStoredRefresh text (serializeStoredRefresh text rt clientId clientSecret) =
      (rt, clientId, clientSecret) ↔ Storable text rt clientId clientSecret := by
  cases clientId with
  | none =>
    have hbare : serializeStoredRefresh text rt none clientSecret = rt := rfl
    rw [hbare, parse_bare_iff hwithin]
    cases clientSecret with
    | none => simp only [true_and, Storable]
    | some cs => simp only [reduceCtorEq, false_and, and_false, Storable]
  | some cid =>
    cases clientSecret with
    | none =>
      have hbare : serializeStoredRefresh text rt (some cid) none = rt := rfl
      rw [hbare, parse_bare_iff hwithin]
      simp only [reduceCtorEq, false_and, Storable]
    | some cs => exact iff_of_true (parse_storedBlob (hprint cid cs rfl rfl)) trivial

end

/-- A refresh that is given a token puts it into the store with the client that it has read. -/
theorem OAuthManager.refresh_stores (crypto : Crypto) (text : Json.Text) (world : OAuthWorld)
    {m : OAuthManager} {store : KeyStore} {creds : OAuthCredentials}
    {clientId clientSecret : Option String}
    (hget : (store.get crypto (oauthEntry p)).1 = .ok (some raw))
    (hconfig : m.configFor p = some cfg)
    (hgiven : exchanged text world cfg raw = some (creds, clientId, clientSecret))
    (htoken : creds.refreshToken = some rt) (hwritten : world.written = .ok ()) :
    ((m.refresh crypto text world store p).2.2.get crypto (oauthEntry p)).1 =
      .ok (some (serializeStoredRefresh text rt clientId clientSecret)) := by
  have hanswer : (m.configFor p).bind (fun cfg => exchanged text world cfg raw) =
      some (creds, clientId, clientSecret) := by
    rw [hconfig]
    exact hgiven
  have hfound : store.get crypto (oauthEntry p) =
      (.ok (some raw), (store.get crypto (oauthEntry p)).2) := Prod.ext hget rfl
  rw [refresh_of_stored crypto text world hfound, hanswer]
  dsimp only
  rw [adopt_snd, htoken, hwritten]
  dsimp only
  rw [KeyStore.get_after_set_self]

/-- A token is read back as it was stored, and a refresh keeps its client, exactly where the client
is whole, or there is none and the token does not look like one with a client. -/
theorem storedRefresh_roundtrips_iff (text : Json.Text) (rt : String)
    (clientId clientSecret : Option String)
    (hprint : ∀ cid cs, clientId = some cid → clientSecret = some cs →
      text.ReadsBack (storedBlob rt cid cs))
    (hwithin : ReadsWithin text rt) :
    (parseStoredRefresh text (serializeStoredRefresh text rt clientId clientSecret) =
      (rt, clientId, clientSecret) ↔ Storable text rt clientId clientSecret) ∧
    ∀ crypto world m store p raw cfg creds,
      (KeyStore.get crypto store (oauthEntry p)).1 = .ok (some raw) →
      OAuthManager.configFor m p = some cfg →
      OAuthManager.exchanged text world cfg raw = some (creds, clientId, clientSecret) →
      creds.refreshToken = some rt → world.written = .ok () →
        ∃ next, ((m.refresh crypto text world store p).2.2.get crypto (oauthEntry p)).1 =
            .ok (some next) ∧
          (parseStoredRefresh text next = (rt, clientId, clientSecret) ↔
            Storable text rt clientId clientSecret) := by
  have hiff := parse_serialize_iff hprint hwithin
  refine ⟨hiff, ?_⟩
  intro crypto world m store p raw cfg creds hget hconfig hgiven htoken hwritten
  exact ⟨_, OAuthManager.refresh_stores crypto text world hget hconfig hgiven htoken hwritten,
    hiff⟩

def blobSource : String :=
  "\x7b\"client_id\":\"cid\",\"client_secret\":\"cs\",\"refresh_token\":\"rt-1\"\x7d"

/-- A library that reads one blob. -/
def blobText : Json.Text :=
  .knowing (fun _ => blobSource) [(blobSource, (storedBlob "rt-1" "cid" "cs").sorted)]

theorem readsWithin_blobText (h : source ≠ blobSource) : ReadsWithin blobText source := by
  intro v key s hparse
  have hnone : blobText.parse source = none := by
    rw [blobText, Json.Text.knowing]
    exact Table.get_cons_of_ne h.symm _ _
  rw [hnone] at hparse
  cases hparse

theorem storedRefresh_roundtrips_sample :
    (parseStoredRefresh blobText (serializeStoredRefresh blobText "rt-1" (some "cid") (some "cs")) =
      ("rt-1", some "cid", some "cs") ↔ Storable blobText "rt-1" (some "cid") (some "cs")) ∧
    ∀ crypto world m store p raw cfg creds,
      (KeyStore.get crypto store (oauthEntry p)).1 = .ok (some raw) →
      OAuthManager.configFor m p = some cfg →
      OAuthManager.exchanged blobText world cfg raw = some (creds, some "cid", some "cs") →
      creds.refreshToken = some "rt-1" → world.written = .ok () →
        ∃ next, ((m.refresh crypto blobText world store p).2.2.get crypto (oauthEntry p)).1 =
            .ok (some next) ∧
          (parseStoredRefresh blobText next = ("rt-1", some "cid", some "cs") ↔
            Storable blobText "rt-1" (some "cid") (some "cs")) := by
  apply storedRefresh_roundtrips_iff
  · rintro _ _ ⟨⟩ ⟨⟩
    exact ⟨_, rfl, Json.Value.agrees_sorted _⟩
  · exact readsWithin_blobText (by decide)

/-- A client without a secret is not stored. -/
theorem client_without_secret_lost :
    ¬ ∀ (text : Json.Text) (rt : String) (clientId clientSecret : Option String),
      (∀ cid cs, clientId = some cid → clientSecret = some cs →
        text.ReadsBack (storedBlob rt cid cs)) → ReadsWithin text rt →
      parseStoredRefresh text (serializeStoredRefresh text rt clientId clientSecret) =
        (rt, clientId, clientSecret) := by
  intro h
  have hkept := h blobText "rt-1" (some "cid") none (fun _ _ _ hnone => by cases hnone)
    (readsWithin_blobText (by decide))
  have hread : parseStoredRefresh blobText (serializeStoredRefresh blobText "rt-1" (some "cid")
      none) = ("rt-1", none, none) := by decide +kernel
  rw [hread] at hkept
  cases hkept

end TokenDealer
