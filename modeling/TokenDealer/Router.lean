import TokenDealer.AuthGate
import TokenDealer.PercentEncoding
import TokenDealer.RedirectAgreement
import TokenDealer.RedirectRewriting
import TokenDealer.RouteTable

set_option autoImplicit true

namespace TokenDealer

open Routes

inductive Handler where
  | chatCompletions | messagesPassthrough | responsesPassthrough | listModels
  | imageGenerations | audioSpeech | videoGenerations | health | healthz | publicStats | sseEvents
  | reloadConfig | saveConfig | addProvider | listProviderTypes | testProvider
  | listProviderModels | removeProvider | updateTier | validateProviderType | addRule
  | deleteRule | setKey | deleteKey | setOauthRefresh | startOauth | oauthCallback
  | pasteAnthropicCode | setupOauthViaCli | startDeviceOauth | pollDeviceOauth | listPricing
  | syncPricingNow | uiRemoveProvider | rotatePassword | listUsers | createUser | deleteUser
  | adminCreateKey
  | index | dashboard | providersPage | providersNewStep1 | providersNewStep2 | oauthDonePage
  | providersPartial | tiersPage | logsPage | rulesPage | playgroundPage | playgroundSend
  | usersPage | accountPage | pricingPage | uiStyle | loginPage | setupPage | setupSubmit
  | login | logout | me | listOwnKeys | createOwnKey | deleteOwnKey | myUsage
  deriving DecidableEq, Repr

/-- The handlers of a path by their methods. -/
abbrev MethodRouter := List (String × Handler)

/-- The routes in the order in which they are added. -/
def routes : List (Pattern × MethodRouter) :=
  [([.lit "v1", .lit "chat", .lit "completions"], [("POST", .chatCompletions)]),
    ([.lit "v1", .lit "messages"], [("POST", .messagesPassthrough)]),
    ([.lit "v1", .lit "responses"], [("POST", .responsesPassthrough)]),
    ([.lit "v1", .lit "models"], [("GET", .listModels)]),
    ([.lit "v1", .lit "images", .lit "generations"], [("POST", .imageGenerations)]),
    ([.lit "v1", .lit "audio", .lit "speech"], [("POST", .audioSpeech)]),
    ([.lit "v1", .lit "videos", .lit "generations"], [("POST", .videoGenerations)]),
    ([.lit "v1", .lit "health"], [("GET", .health)]),
    ([.lit "health"], [("GET", .health)]),
    ([.lit "admin", .lit "config", .lit "reload"], [("POST", .reloadConfig)]),
    ([.lit "admin", .lit "config", .lit "save"], [("POST", .saveConfig)]),
    ([.lit "admin", .lit "providers"], [("POST", .addProvider), ("GET", .listProviderTypes)]),
    ([.lit "admin", .lit "providers", .lit "test"], [("POST", .testProvider)]),
    ([.lit "admin", .lit "providers", .lit "list-models"], [("POST", .listProviderModels)]),
    ([.lit "admin", .lit "providers", .capture "id"],
      [("POST", .removeProvider), ("DELETE", .removeProvider), ("PATCH", .removeProvider)]),
    ([.lit "admin", .lit "tiers", .capture "tier"],
      [("POST", .updateTier), ("PATCH", .updateTier), ("PUT", .updateTier)]),
    ([.lit "admin", .lit "provider-types", .lit "validate"], [("POST", .validateProviderType)]),
    ([.lit "admin", .lit "rules"], [("POST", .addRule)]),
    ([.lit "admin", .lit "rules", .capture "index"],
      [("POST", .deleteRule), ("DELETE", .deleteRule)]),
    ([.lit "admin", .lit "keys", .capture "provider_id"],
      [("POST", .setKey), ("DELETE", .deleteKey)]),
    ([.lit "admin", .lit "oauth", .capture "provider_id", .lit "refresh"],
      [("POST", .setOauthRefresh)]),
    ([.lit "admin", .lit "oauth", .capture "provider_id", .lit "start"],
      [("GET", .startOauth), ("POST", .startOauth)]),
    ([.lit "admin", .lit "oauth", .capture "provider_id", .lit "callback"],
      [("GET", .oauthCallback)]),
    ([.lit "admin", .lit "oauth", .capture "provider_id", .lit "paste"],
      [("POST", .pasteAnthropicCode)]),
    ([.lit "admin", .lit "oauth", .capture "provider_id", .lit "setup"],
      [("POST", .setupOauthViaCli)]),
    ([.lit "admin", .lit "oauth", .capture "provider_id", .lit "device", .lit "start"],
      [("POST", .startDeviceOauth)]),
    ([.lit "admin", .lit "oauth", .lit "device", .lit "poll"], [("POST", .pollDeviceOauth)]),
    ([.lit "admin", .lit "pricing"], [("GET", .listPricing)]),
    ([.lit "admin", .lit "pricing", .lit "sync"], [("POST", .syncPricingNow)]),
    ([.lit ""], [("GET", .index)]),
    ([.lit "ui"], [("GET", .index)]),
    ([.lit "ui", .lit ""], [("GET", .dashboard)]),
    ([.lit "ui", .lit "providers"], [("GET", .providersPage)]),
    ([.lit "ui", .lit "providers", .lit "new"], [("GET", .providersNewStep1)]),
    ([.lit "ui", .lit "providers", .lit "new", .lit "config"], [("GET", .providersNewStep2)]),
    ([.lit "ui", .lit "oauth", .lit "done"], [("GET", .oauthDonePage)]),
    ([.lit "ui", .lit "partials", .lit "providers"], [("GET", .providersPartial)]),
    ([.lit "ui", .lit "tiers"], [("GET", .tiersPage)]),
    ([.lit "ui", .lit "logs"], [("GET", .logsPage)]),
    ([.lit "ui", .lit "rules"], [("GET", .rulesPage)]),
    ([.lit "ui", .lit "playground"], [("GET", .playgroundPage), ("POST", .playgroundSend)]),
    ([.lit "ui", .lit "users"], [("GET", .usersPage)]),
    ([.lit "ui", .lit "account"], [("GET", .accountPage)]),
    ([.lit "ui", .lit "pricing"], [("GET", .pricingPage)]),
    ([.lit "ui", .lit "style.css"], [("GET", .uiStyle)]),
    ([.lit "ui", .lit "login"], [("GET", .loginPage)]),
    ([.lit "ui", .lit "setup"], [("GET", .setupPage), ("POST", .setupSubmit)]),
    ([.lit "admin", .lit "ui", .lit "remove", .capture "id"], [("POST", .uiRemoveProvider)]),
    ([.lit "auth", .lit "login"], [("POST", .login)]),
    ([.lit "auth", .lit "logout"], [("POST", .logout)]),
    ([.lit "auth", .lit "me"], [("GET", .me)]),
    ([.lit "auth", .lit "keys"], [("GET", .listOwnKeys), ("POST", .createOwnKey)]),
    ([.lit "auth", .lit "keys", .capture "id"], [("DELETE", .deleteOwnKey)]),
    ([.lit "auth", .lit "usage"], [("GET", .myUsage)]),
    ([.lit "admin", .lit "auth", .lit "rotate-password"], [("POST", .rotatePassword)]),
    ([.lit "admin", .lit "users"], [("GET", .listUsers), ("POST", .createUser)]),
    ([.lit "admin", .lit "users", .capture "id"], [("DELETE", .deleteUser)]),
    ([.lit "admin", .lit "users", .capture "id", .lit "keys"], [("POST", .adminCreateKey)]),
    ([.lit "v1", .lit "stats"], [("GET", .publicStats)]),
    ([.lit "healthz"], [("GET", .healthz)]),
    ([.lit "api", .lit "v1", .lit "events"], [("GET", .sseEvents)])]

structure Route where
  pattern : Pattern
  methods : MethodRouter
  deriving DecidableEq, Repr

def routeTable : List (Pattern × Route) :=
  routes.map fun (pattern, methods) => (pattern, ⟨pattern, methods⟩)

/-- A HEAD request is one for what a GET request gets. -/
def MethodRouter.handler (methods : MethodRouter) (method : String) : Option Handler :=
  (methods.lookup method).or (if method = "HEAD" then methods.lookup "GET" else none)

inductive Dispatch where
  | notFound
  | methodNotAllowed
  | handler (handler : Handler) (captures : List (String × String))
  deriving DecidableEq, Repr

def dispatch (takesEmpty : Bool) (method path : String) : Dispatch :=
  match segments path with
  | none => .notFound
  | some parts =>
    match find takesEmpty parts routeTable with
    | none => .notFound
    | some route =>
      match route.methods.handler method with
      | none => .methodNotAllowed
      | some h => .handler h (captures route.pattern parts)

/-- What a handler takes out of its path. -/
inductive PathArgument where
  | text (value : String)
  | index (n : Nat)
  deriving DecidableEq, Repr

/-- A plus sign at the front may be left out. -/
def withoutPlus : List Char → List Char
  | '+' :: cs => cs
  | cs => cs

/-- Decimal digits of a number that has room in 64 bits. -/
def parseU64 (value : String) : Option Nat :=
  let digits := withoutPlus value.toList
  if digits ≠ [] ∧ digits.all Char.isDigit ∧ Nat.ofDigitChars 10 digits 0 < UInt64.size then
    some (Nat.ofDigitChars 10 digits 0)
  else none

/-- Every handler takes the text as it is, but for the index of a rule that is to be deleted. -/
def Handler.readPath (h : Handler) (value : String) : Option PathArgument :=
  match h with
  | .deleteRule => (parseU64 value).map .index
  | _ => some (.text value)

/-- A capture as the handler gets it, its percent triples decoded. Where it does not, because the
bytes are no text or the text is no index, the request is answered 400 before the handler. -/
def Handler.pathArgument (h : Handler) (name : String) (captures : List (String × String)) :
    Option PathArgument :=
  ((captures.lookup name).bind fun value => fromUtf8 (Percent.decode value.toList)).bind h.readPath

theorem withoutPlus_toDigits (n : Nat) : withoutPlus (Nat.toDigits 10 n) = Nat.toDigits 10 n := by
  rw [withoutPlus.eq_def]
  split
  · next cs hdigits =>
    have hmem : '+' ∈ Nat.toDigits 10 n := by
      rw [hdigits]
      exact List.mem_cons_self
    exact absurd (Nat.isDigit_of_mem_toDigits (by decide) (by decide) hmem) (by decide)
  · rfl

/-- An index that a client writes in decimal digits is read as it is meant. -/
theorem parseU64_repr (h : n < UInt64.size) : parseU64 n.repr = some n := by
  have hall : (Nat.toDigits 10 n).all Char.isDigit = true := by
    rw [List.all_eq_true]
    exact fun c hc => Nat.isDigit_of_mem_toDigits (by decide) (by decide) hc
  rw [parseU64, Nat.toList_repr, withoutPlus_toDigits, Nat.ofDigitChars_ten_toDigits]
  exact if_pos ⟨Nat.toDigits_ne_nil, hall, h⟩

example : dispatch false "DELETE" "/admin/rules/3" = .handler .deleteRule [("index", "3")] := by
  decide

section Dispatch

variable {takesEmpty : Bool} {method path : String} {h : Handler}

theorem handler_mem {methods : MethodRouter} (hfound : methods.handler method = some h) :
    ∃ m, (m, h) ∈ methods ∧ (m = method ∨ m = "GET" ∧ method = "HEAD") := by
  have hmem : ∀ {m}, methods.lookup m = some h → (m, h) ∈ methods := by
    intro m hlookup
    obtain ⟨front, back, rfl, -⟩ := List.lookup_eq_some_iff.mp hlookup
    exact List.mem_append_right _ List.mem_cons_self
  rcases Option.or_eq_some_iff.mp hfound with hdirect | ⟨-, hhead⟩
  · exact ⟨method, hmem hdirect, .inl rfl⟩
  · split at hhead
    · next hmethod => exact ⟨"GET", hmem hhead, .inr ⟨rfl, hmethod⟩⟩
    · cases hhead

/-- A request reaches a handler of a route that takes its path. -/
theorem dispatch_handler (hdispatch : dispatch takesEmpty method path = .handler h values) :
    ∃ parts, segments path = some parts ∧ ∃ route ∈ routes,
      takes takesEmpty route.1 parts = true ∧ route.2.handler method = some h := by
  rw [dispatch] at hdispatch
  split at hdispatch
  · cases hdispatch
  · next parts hparts =>
    split at hdispatch
    · cases hdispatch
    · next route hfound =>
      obtain ⟨p, hmem, htakes, -⟩ := find_eq_some hfound
      obtain ⟨r, hr, hpair⟩ := List.mem_map.mp hmem
      cases hpair
      split at hdispatch
      · cases hdispatch
      · next hmethod =>
        cases hdispatch
        exact ⟨parts, hparts, r, hr, htakes, hmethod⟩

/-- A route is found where it precedes every other route that takes the path. -/
theorem dispatch_of_first {parts : List String} {route : Pattern × MethodRouter}
    (hparts : segments path = some parts) (hroute : route ∈ routes)
    (htakes : takes takesEmpty route.1 parts = true)
    (hfirst : ∀ r ∈ routes, takes takesEmpty r.1 parts = true →
      r = route ∨ precedes route.1 r.1 = true) :
    dispatch takesEmpty method path =
      match route.2.handler method with
      | none => .methodNotAllowed
      | some h => .handler h (captures route.1 parts) := by
  have hfound : find takesEmpty parts routeTable = some ⟨route.1, route.2⟩ := by
    have hmem : (route.1, (⟨route.1, route.2⟩ : Route)) ∈ routeTable :=
      List.mem_map.mpr ⟨route, hroute, rfl⟩
    apply find_of_first hmem htakes
    intro r hr hr_takes
    obtain ⟨r', hr', rfl⟩ := List.mem_map.mp hr
    refine (hfirst r' hr' hr_takes).imp_left ?_
    rintro rfl
    rfl
  rw [dispatch, hparts]
  dsimp only
  rw [hfound]

end Dispatch

/-- The paths that need no credentials. -/
def publicPaths : List String :=
  ["/health", "/v1/health", "/ui/style.css", "/v1/stats", "/ui/login", "/ui/login.html",
    "/ui/setup", "/v1/provider-types", "/admin/oauth/callback", "/admin/healthz"]

theorem isPublicPath_iff {path : String} :
    AuthMiddleware.isPublicPath path = true ↔ path ∈ publicPaths := by
  simp only [AuthMiddleware.isPublicPath, Bool.or_eq_true, decide_eq_true_eq, publicPaths,
    List.mem_cons, List.not_mem_nil, or_false, or_assoc]

/-- Every path that such a route takes needs credentials. -/
def Guards (p : Pattern) : Bool :=
  (match p with
    | .lit first :: _ :: _ => first ∈ ["v1", "ui", "admin"]
    | _ => false) &&
  publicPaths.all fun path => !(segments path).any fun parts => meets p (parts.map some)

theorem guarded_of_guards {p : Pattern} {parts : List String} {req : AuthRequest}
    (hguards : Guards p = true) (hparts : segments req.path = some parts)
    (htakes : takes takesEmpty p parts = true) (hmethod : req.method ≠ "OPTIONS") :
    req.Guarded := by
  obtain ⟨hfront, hpublic⟩ := Bool.and_eq_true_iff.mp hguards
  constructor
  · split at hfront
    · next first next rest =>
      have hfirst : first ∈ ["v1", "ui", "admin"] := of_decide_eq_true hfront
      cases parts with
      | nil => cases htakes
      | cons s parts =>
        cases parts with
        | nil => exact absurd (Bool.and_eq_true_iff.mp htakes).2 Bool.false_ne_true
        | cons t parts =>
          obtain rfl : first = s := of_decide_eq_true (Bool.and_eq_true_iff.mp htakes).1
          have hstarts := startsWith_of_segments hparts
          simp only [List.mem_cons, List.not_mem_nil, or_false] at hfirst
          rcases hfirst with rfl | rfl | rfl
          · exact .inl ⟨hstarts, hmethod⟩
          · exact .inr (.inl hstarts)
          · exact .inr (.inr hstarts)
    · cases hfront
  · rw [Bool.eq_false_iff, Ne, isPublicPath_iff]
    intro hmem
    have hmeets := List.all_eq_true.mp hpublic req.path hmem
    rw [hparts, Option.any_some, meets_of_takes htakes (fits_map_some parts)] at hmeets
    cases hmeets

namespace AuthMiddleware

/-- No credential of the request is accepted. -/
def Unproven (env : String → Option String) (store : UserStore) (auth : AuthConfig)
    (req : AuthRequest) : Prop :=
  tokenContext env store auth (extractToken req) = none ∧ sessionContext store req = none

variable {env : String → Option String} {store : UserStore} {auth : AuthConfig} {req : AuthRequest}

theorem middleware_unproven (h : Unproven env store auth req) :
    middleware env store auth req = anonymous auth req := by
  rw [middleware, h.1, h.2, Option.none_or]

/-- A request that bears nothing. -/
theorem unproven_bare (hauthorization : req.authorization = none) (hcookie : req.cookie = none) :
    Unproven env store auth req := by
  constructor
  · rw [extractToken, hauthorization]
    exact if_pos rfl
  · rw [sessionContext, hcookie]

/-- Without credentials it is passed on exactly if it needs none. -/
theorem anonymous_passes_iff (henabled : auth.enabled = true) :
    (∃ context, anonymous auth req = .next context) ↔ ¬ req.Guarded := by
  constructor
  · intro hpasses hguarded
    obtain ⟨context, hnext⟩ := hpasses
    rcases anonymous_refuses henabled hguarded with ⟨message, h⟩ | ⟨location, h⟩ <;>
      exact absurd (hnext.symm.trans h) (by intro heq; cases heq)
  · intro hopen
    rw [anonymous, henabled, Bool.not_true, if_neg Bool.false_ne_true]
    split
    · exact ⟨_, rfl⟩
    · next hpublic =>
      rw [Bool.not_eq_true] at hpublic
      rw [AuthRequest.Guarded, hpublic, and_iff_left rfl, not_or, not_or, not_and] at hopen
      obtain ⟨hv1, hui, hadmin⟩ := hopen
      rw [if_neg, if_neg]
      · exact ⟨_, rfl⟩
      · rw [Bool.or_eq_true, not_or]
        exact ⟨hui, hadmin⟩
      · rw [Bool.and_eq_true, decide_eq_true_eq, not_and]
        exact hv1

end AuthMiddleware

/-- What a client without credentials can get at. -/
def openHandlers : List Handler :=
  [.health, .healthz, .publicStats, .sseEvents, .index, .uiStyle, .loginPage, .setupPage,
    .setupSubmit, .login, .logout, .me, .listOwnKeys, .createOwnKey, .deleteOwnKey, .myUsage]

theorem route_open_or_guarded : ∀ route ∈ routes, ∀ m ∈ route.2,
    m.2 ∈ openHandlers ∨ Guards route.1 = true ∧ m.1 ≠ "OPTIONS" := by
  decide

/-- A request for each of them. -/
def openRequests : List (Handler × String × String) :=
  [(.health, "GET", "/health"), (.healthz, "GET", "/healthz"), (.publicStats, "GET", "/v1/stats"),
    (.sseEvents, "GET", "/api/v1/events"), (.index, "GET", "/"), (.uiStyle, "GET", "/ui/style.css"),
    (.loginPage, "GET", "/ui/login"), (.setupPage, "GET", "/ui/setup"),
    (.setupSubmit, "POST", "/ui/setup"), (.login, "POST", "/auth/login"),
    (.logout, "POST", "/auth/logout"), (.me, "GET", "/auth/me"),
    (.listOwnKeys, "GET", "/auth/keys"), (.createOwnKey, "POST", "/auth/keys"),
    (.deleteOwnKey, "DELETE", "/auth/keys/k1"),
    (.myUsage, "GET", "/auth/usage")]

instance (req : AuthRequest) : Decidable req.Guarded :=
  inferInstanceAs (Decidable ((_ ∨ _ ∨ _) ∧ _))

theorem openRequests_reach (takesEmpty : Bool) : ∀ h ∈ openHandlers, ∃ r ∈ openRequests,
    (∃ values, dispatch takesEmpty r.2.1 r.2.2 = .handler h values) ∧
      ¬ AuthRequest.Guarded { method := r.2.1, path := r.2.2 } := by
  have hall : ∀ takesEmpty, ∀ h ∈ openHandlers, ∃ r ∈ openRequests,
      (∃ values ∈ [[], [("id", "k1")]], dispatch takesEmpty r.2.1 r.2.2 = .handler h values) ∧
        ¬ AuthRequest.Guarded { method := r.2.1, path := r.2.2 } := by
    decide
  intro h hh
  obtain ⟨r, hr, ⟨values, -, hdispatch⟩, hopen⟩ := hall takesEmpty h hh
  exact ⟨r, hr, ⟨values, hdispatch⟩, hopen⟩

/-- A request that bears no accepted credential gets through to one of them. -/
theorem open_of_reached {env : String → Option String} {store : UserStore} {auth : AuthConfig}
    {req : AuthRequest} {h : Handler} (henabled : auth.enabled = true)
    (hunproven : AuthMiddleware.Unproven env store auth req)
    (hnext : AuthMiddleware.middleware env store auth req = .next context)
    (hdispatch : dispatch takesEmpty req.method req.path = .handler h values) :
    h ∈ openHandlers := by
  obtain ⟨parts, hparts, route, hroute, htakes, hhandler⟩ := dispatch_handler hdispatch
  obtain ⟨m, hm, hmethod⟩ := handler_mem hhandler
  rcases route_open_or_guarded route hroute (m, h) hm with hopen | ⟨hguards, hoptions⟩
  · exact hopen
  · have hne : req.method ≠ "OPTIONS" := by
      rcases hmethod with rfl | ⟨-, hhead⟩
      · exact hoptions
      · rw [hhead]
        decide
    rw [AuthMiddleware.middleware_unproven hunproven] at hnext
    exact absurd (guarded_of_guards hguards hparts htakes hne)
      ((AuthMiddleware.anonymous_passes_iff henabled).mp ⟨context, hnext⟩)

/-- Where authentication is on, these handlers and no others are reached without a credential that
is accepted, whatever the method, the path and the headers are. -/
theorem anonymous_reaches_iff (takesEmpty : Bool) (env : String → Option String)
    (store : UserStore) {auth : AuthConfig} (henabled : auth.enabled = true) (h : Handler) :
    (∃ req context values, AuthMiddleware.Unproven env store auth req ∧
        AuthMiddleware.middleware env store auth req = .next context ∧
        dispatch takesEmpty req.method req.path = .handler h values) ↔ h ∈ openHandlers := by
  constructor
  · intro hreached
    obtain ⟨req, context, values, hunproven, hnext, hdispatch⟩ := hreached
    exact open_of_reached henabled hunproven hnext hdispatch
  · intro hopen
    obtain ⟨⟨h', method, path⟩, -, ⟨values, hdispatch⟩, hfree⟩ :=
      openRequests_reach takesEmpty h hopen
    have hunproven : AuthMiddleware.Unproven env store auth { method := method, path := path } :=
      AuthMiddleware.unproven_bare rfl rfl
    obtain ⟨context, hnext⟩ := (AuthMiddleware.anonymous_passes_iff henabled).mpr hfree
    exact ⟨_, context, values, hunproven,
      (AuthMiddleware.middleware_unproven hunproven).trans hnext, hdispatch⟩

/-- The stream of events is open to everybody. -/
theorem anonymous_reaches_events :
    (∃ req context values,
      AuthMiddleware.Unproven (fun _ => none) ⟨fun _ => none, fun _ => none⟩ {} req ∧
        AuthMiddleware.middleware (fun _ => none) ⟨fun _ => none, fun _ => none⟩ {} req =
          .next context ∧
        dispatch false req.method req.path = .handler .sseEvents values) ↔
      Handler.sseEvents ∈ openHandlers :=
  anonymous_reaches_iff false (fun _ => none) ⟨fun _ => none, fun _ => none⟩ rfl .sseEvents

def providerPattern : Pattern := [.lit "admin", .lit "providers", .capture "id"]

/-- The routes beside that of a provider that take some of its paths. -/
def providerNeighbours : List (Pattern × MethodRouter) :=
  [([.lit "admin", .lit "providers", .lit "test"], [("POST", .testProvider)]),
    ([.lit "admin", .lit "providers", .lit "list-models"], [("POST", .listProviderModels)])]

/-- No other routes with a capture share a path with another route. -/
theorem routes_meet : ∀ route ∈ routes, captureNames route.1 ≠ [] →
    ∀ r ∈ routes, meets r.1 (shape route.1) = true →
      r = route ∨ route.1 = providerPattern ∧ r ∈ providerNeighbours := by
  decide

section Values

variable {v : String}

theorem fromUtf8_urlencoding (v : String) :
    fromUtf8 (Percent.decode (urlencoding v).toList) = some v := by
  rw [(isPercentEncoded_urlencoding v).decodes, fromUtf8_encode]

theorem urlencoding_ne_empty (hv : v ≠ "") : urlencoding v ≠ "" := by
  intro hempty
  have hback := fromUtf8_urlencoding v
  rw [hempty] at hback
  exact hv (Option.some.inj hback).symm

theorem slash_not_mem_urlencoding (v : String) : '/' ∉ (urlencoding v).toList :=
  (isPercentEncoded_urlencoding v).escaped.not_mem (by decide) (by decide) (by decide)

theorem urlencoding_eq_iff {word : String} (hword : urlencoding word = word) :
    urlencoding v = word ↔ v = word := by
  constructor
  · intro h
    have hback := fromUtf8_urlencoding v
    rw [h.trans hword.symm, fromUtf8_urlencoding] at hback
    exact (Option.some.inj hback).symm
  · rintro rfl
    exact hword

/-- The texts of the patterns have no slash in them. -/
theorem routes_no_slash : ∀ route ∈ routes, ∀ segment ∈ route.1, '/' ∉ segment.text.toList := by
  decide

/-- The path of a route with a value for its capture, as a client writes it. -/
def pathWith (p : Pattern) (v : String) : String := "/" ++ Str.join "/" (fill (urlencoding v) p)

theorem pattern_ne_nil {p : Pattern} (hname : captureNames p ≠ []) : p ≠ [] := by
  rintro rfl
  exact hname rfl

theorem segments_fill {route : Pattern × MethodRouter} (hroute : route ∈ routes)
    (hne : route.1 ≠ []) (hv : '/' ∉ v.toList) :
    segments ("/" ++ Str.join "/" (fill v route.1)) = some (fill v route.1) := by
  apply segments_join
  · cases hpattern : route.1 with
    | nil => exact absurd hpattern hne
    | cons segment p => cases segment <;> exact List.cons_ne_nil _ _
  · intro s hs
    rcases mem_fill hs with rfl | hlit
    · exact hv
    · exact routes_no_slash route hroute _ hlit

/-- Another route that takes the path of a route with a value in it is a neighbour of that of a
provider, with its name as the value. -/
theorem neighbour_of_takes {route r : Pattern × MethodRouter} (hroute : route ∈ routes)
    (hname : captureNames route.1 ≠ []) (hr : r ∈ routes)
    (htakes : takes takesEmpty r.1 (fill v route.1) = true) :
    r = route ∨ route.1 = providerPattern ∧ r ∈ providerNeighbours ∧
      r.1 = [.lit "admin", .lit "providers", .lit v] := by
  have hmeets := meets_of_takes htakes (fits_fill v route.1)
  rcases routes_meet route hroute hname r hr hmeets with rfl | ⟨hprovider, hneighbour⟩
  · exact .inl rfl
  · refine .inr ⟨hprovider, hneighbour, ?_⟩
    rw [hprovider] at htakes
    simp only [providerNeighbours, List.mem_cons, List.not_mem_nil, or_false] at hneighbour
    rcases hneighbour with rfl | rfl
    · obtain rfl : v = "test" := by
        simpa [takes, Segment.takes, fill, providerPattern, eq_comm] using htakes
      rfl
    · obtain rfl : v = "list-models" := by
        simpa [takes, Segment.takes, fill, providerPattern, eq_comm] using htakes
      rfl

theorem name_of_neighbour {r : Pattern × MethodRouter} (hr : r ∈ providerNeighbours)
    (hpattern : r.1 = [.lit "admin", .lit "providers", .lit v]) :
    v = "test" ∨ v = "list-models" := by
  simp only [providerNeighbours, List.mem_cons, List.not_mem_nil, or_false] at hr
  rcases hr with rfl | rfl
  · cases hpattern
    exact .inl rfl
  · cases hpattern
    exact .inr rfl

theorem exists_neighbour (hword : v = "test" ∨ v = "list-models") :
    ∃ n ∈ providerNeighbours, n.1 = [.lit "admin", .lit "providers", .lit v] := by
  rcases hword with rfl | rfl
  · exact ⟨_, List.mem_cons_self, rfl⟩
  · exact ⟨_, List.mem_cons_of_mem _ List.mem_cons_self, rfl⟩

/-- A value without a slash is captured as it stands, unless it is the name of a neighbour. -/
theorem dispatch_fill (takesEmpty : Bool) {route : Pattern × MethodRouter} (hroute : route ∈ routes)
    (hname : captureNames route.1 = [name])
    (hfree : ¬ (route.1 = providerPattern ∧ (v = "test" ∨ v = "list-models"))) (hv : v ≠ "")
    (hslash : '/' ∉ v.toList) (method : String) :
    dispatch takesEmpty method ("/" ++ Str.join "/" (fill v route.1)) =
      match route.2.handler method with
      | none => .methodNotAllowed
      | some h => .handler h [(name, v)] := by
  have hcaptures : captureNames route.1 ≠ [] := by
    rw [hname]
    exact List.cons_ne_nil name []
  have hfirst : ∀ r ∈ routes, takes takesEmpty r.1 (fill v route.1) = true →
      r = route ∨ precedes route.1 r.1 = true := by
    intro r hr htakes
    rcases neighbour_of_takes hroute hcaptures hr htakes with heq | ⟨hprovider, hmem, hpattern⟩
    · exact .inl heq
    · exact absurd ⟨hprovider, name_of_neighbour hmem hpattern⟩ hfree
  rw [dispatch_of_first (segments_fill hroute (pattern_ne_nil hcaptures) hslash) hroute
    (takes_fill takesEmpty hv route.1) hfirst, captures_fill, hname]
  rfl

theorem remove_not_neighbour : ∀ n ∈ providerNeighbours, n ∈ routes ∧
    ∀ m ∈ n.2, m.2 ≠ .removeProvider := by
  decide

theorem neighbour_unique : ∀ r ∈ providerNeighbours, ∀ n ∈ providerNeighbours,
    r.1 = n.1 → r = n := by
  decide

theorem provider_removes : ∀ route ∈ routes, route.1 = providerPattern →
    ∀ m ∈ route.2, m.2 = .removeProvider := by
  decide

/-- The name of a neighbour comes before the capture, and no handler of the neighbour's is that of
a provider. -/
theorem dispatch_neighbour (takesEmpty : Bool) {route : Pattern × MethodRouter}
    (hroute : route ∈ routes) (hprovider : route.1 = providerPattern)
    (hword : v = "test" ∨ v = "list-models") {method : String} {h : Handler}
    (hhandler : route.2.handler method = some h) (values : List (String × String)) :
    dispatch takesEmpty method ("/" ++ Str.join "/" (fill v route.1)) ≠ .handler h values := by
  obtain ⟨n, hn, hpattern⟩ := exists_neighbour hword
  obtain ⟨hmem, hothers⟩ := remove_not_neighbour n hn
  have hcaptures : captureNames route.1 ≠ [] := by
    rw [hprovider]
    exact List.cons_ne_nil "id" []
  have hslash : '/' ∉ v.toList := by
    rcases hword with rfl | rfl <;> decide
  have htakes : takes takesEmpty n.1 (fill v route.1) = true := by
    rw [hpattern, hprovider]
    simp [takes, Segment.takes, fill, providerPattern]
  have hfirst : ∀ r ∈ routes, takes takesEmpty r.1 (fill v route.1) = true →
      r = n ∨ precedes n.1 r.1 = true := by
    intro r hr hr_takes
    rcases neighbour_of_takes hroute hcaptures hr hr_takes with rfl | ⟨-, hr_mem, hr_pattern⟩
    · right
      rw [hpattern, hprovider]
      rfl
    · left
      exact neighbour_unique r hr_mem n hn (hr_pattern.trans hpattern.symm)
  rw [dispatch_of_first (segments_fill hroute (pattern_ne_nil hcaptures) hslash) hmem htakes hfirst]
  intro hdispatch
  split at hdispatch
  · cases hdispatch
  · next h' hfound =>
    cases hdispatch
    obtain ⟨m, hm, -⟩ := handler_mem hfound
    obtain ⟨m', hm', -⟩ := handler_mem hhandler
    exact hothers (m, h) hm (provider_removes route hroute hprovider (m', h) hm')

/-- The handler of a route with a capture gets what it reads of the value that was sent, and nothing
else, unless the route is that of a provider and the value is the name of one of its neighbours. -/
theorem captured_value_iff (takesEmpty : Bool) {route : Pattern × MethodRouter}
    (hroute : route ∈ routes) {name : String} (hname : captureNames route.1 = [name])
    {method : String} {h : Handler} (hhandler : route.2.handler method = some h) (hv : v ≠ "")
    (argument : PathArgument) :
    (∃ values, dispatch takesEmpty method (pathWith route.1 v) = .handler h values ∧
        h.pathArgument name values = some argument) ↔
      h.readPath v = some argument ∧
        ¬ (route.1 = providerPattern ∧ (v = "test" ∨ v = "list-models")) := by
  have hword : urlencoding v = "test" ∨ urlencoding v = "list-models" ↔
      v = "test" ∨ v = "list-models" :=
    or_congr (urlencoding_eq_iff (by decide)) (urlencoding_eq_iff (by decide))
  by_cases hneighbour : route.1 = providerPattern ∧ (v = "test" ∨ v = "list-models")
  · refine iff_of_false ?_ fun h => h.2 hneighbour
    intro harrives
    obtain ⟨values, hdispatch, -⟩ := harrives
    obtain ⟨hprovider, hv⟩ := hneighbour
    exact dispatch_neighbour takesEmpty hroute hprovider (hword.mpr hv) hhandler values hdispatch
  · rw [and_iff_left hneighbour]
    have hfree : ¬ (route.1 = providerPattern ∧
        (urlencoding v = "test" ∨ urlencoding v = "list-models")) := by
      rwa [hword]
    have hdispatch : dispatch takesEmpty method (pathWith route.1 v) =
        .handler h [(name, urlencoding v)] := by
      rw [pathWith, dispatch_fill takesEmpty hroute hname hfree (urlencoding_ne_empty hv)
        (slash_not_mem_urlencoding v), hhandler]
    have hread : h.pathArgument name [(name, urlencoding v)] = h.readPath v := by
      rw [Handler.pathArgument, List.lookup_cons_self, Option.bind_some, fromUtf8_urlencoding,
        Option.bind_some]
    constructor
    · intro harrives
      obtain ⟨values, hvalues, hargument⟩ := harrives
      rw [hdispatch] at hvalues
      cases hvalues
      exact hread.symm.trans hargument
    · intro hargument
      exact ⟨_, hdispatch, hread.trans hargument⟩

/-- A key with a slash in its id, and a rule that is not named by its index. -/
theorem captured_value_sample :
    ((∃ values, dispatch false "DELETE" (pathWith [.lit "auth", .lit "keys", .capture "id"] "a/b") =
          .handler .deleteOwnKey values ∧
        Handler.deleteOwnKey.pathArgument "id" values = some (.text "a/b")) ↔
      Handler.deleteOwnKey.readPath "a/b" = some (.text "a/b") ∧
        ¬ ([.lit "auth", .lit "keys", .capture "id"] = providerPattern ∧
          ("a/b" = "test" ∨ "a/b" = "list-models"))) ∧
    ∀ argument, ¬ ∃ values,
      dispatch false "DELETE" (pathWith [.lit "admin", .lit "rules", .capture "index"] "abc") =
          .handler .deleteRule values ∧
        Handler.deleteRule.pathArgument "index" values = some argument := by
  have hkeys :
      ([.lit "auth", .lit "keys", .capture "id"], [("DELETE", .deleteOwnKey)]) ∈ routes := by
    decide
  have hrules : ([.lit "admin", .lit "rules", .capture "index"],
      [("POST", .deleteRule), ("DELETE", .deleteRule)]) ∈ routes := by
    decide
  refine ⟨captured_value_iff false hkeys rfl rfl (by decide) _, ?_⟩
  intro argument
  rw [captured_value_iff false hrules rfl rfl (by decide) argument]
  have hnone : Handler.deleteRule.readPath "abc" = none := by decide
  rw [hnone]
  exact fun h => nomatch h.1

end Values

/-- What the login program asks of the server, behind its address. -/
def deviceStartPath (provider : String) : String := s!"/admin/oauth/{provider}/device/start"

def setupPath (provider : String) : String := s!"/admin/oauth/{provider}/setup"

def devicePollPath : String := "/admin/oauth/device/poll"

section Oauth

def deviceStartRoute : Pattern × MethodRouter :=
  ([.lit "admin", .lit "oauth", .capture "provider_id", .lit "device", .lit "start"],
    [("POST", .startDeviceOauth)])

def setupRoute : Pattern × MethodRouter :=
  ([.lit "admin", .lit "oauth", .capture "provider_id", .lit "setup"],
    [("POST", .setupOauthViaCli)])

def callbackRoute : Pattern × MethodRouter :=
  ([.lit "admin", .lit "oauth", .capture "provider_id", .lit "callback"], [("GET", .oauthCallback)])

/-- They are routes of their own, whose paths all need credentials. -/
theorem oauth_routes : ∀ route ∈ [deviceStartRoute, setupRoute, callbackRoute],
    route ∈ routes ∧ captureNames route.1 = ["provider_id"] ∧ route.1 ≠ providerPattern ∧
      Guards route.1 = true := by
  decide

theorem deviceStartPath_eq (p : String) :
    deviceStartPath p = "/" ++ Str.join "/" (fill p deviceStartRoute.1) := by
  have hpath : deviceStartPath p = "/admin/oauth/" ++ p ++ "/device/start" := rfl
  have hfront : "/admin/oauth/" = "/" ++ ("admin" ++ "/" ++ ("oauth" ++ "/")) := rfl
  have hback : "/device/start" = "/" ++ ("device" ++ "/" ++ "start") := rfl
  rw [hpath, hfront, hback]
  simp only [fill, deviceStartRoute, Str.join, String.append_assoc]

theorem setupPath_eq (p : String) : setupPath p = "/" ++ Str.join "/" (fill p setupRoute.1) := by
  have hpath : setupPath p = "/admin/oauth/" ++ p ++ "/setup" := rfl
  have hfront : "/admin/oauth/" = "/" ++ ("admin" ++ "/" ++ ("oauth" ++ "/")) := rfl
  have hback : "/setup" = "/" ++ "setup" := rfl
  rw [hpath, hfront, hback]
  simp only [fill, setupRoute, Str.join, String.append_assoc]

theorem callbackPath_eq (p : String) :
    callbackPath p = "/" ++ Str.join "/" (fill p callbackRoute.1) := by
  have hpath : callbackPath p = "/admin/oauth/" ++ p ++ "/callback" := rfl
  have hfront : "/admin/oauth/" = "/" ++ ("admin" ++ "/" ++ ("oauth" ++ "/")) := rfl
  have hback : "/callback" = "/" ++ "callback" := rfl
  rw [hpath, hfront, hback]
  simp only [fill, callbackRoute, Str.join, String.append_assoc]

variable {p : String}

theorem oauth_guarded {route : Pattern × MethodRouter}
    (hroute : route ∈ [deviceStartRoute, setupRoute, callbackRoute]) (hp : p ≠ "")
    (hslash : '/' ∉ p.toList) {req : AuthRequest} (hmethod : req.method ≠ "OPTIONS")
    (hpath : req.path = "/" ++ Str.join "/" (fill p route.1)) : req.Guarded := by
  obtain ⟨hmem, hname, -, hguards⟩ := oauth_routes route hroute
  have hne : route.1 ≠ [] := by
    apply pattern_ne_nil
    rw [hname]
    exact List.cons_ne_nil "provider_id" []
  refine guarded_of_guards hguards ?_ (takes_fill false hp route.1) hmethod
  rw [hpath]
  exact segments_fill hmem hne hslash

theorem oauth_dispatch {route : Pattern × MethodRouter}
    (hroute : route ∈ [deviceStartRoute, setupRoute, callbackRoute]) (takesEmpty : Bool)
    (hp : p ≠ "") (hslash : '/' ∉ p.toList) (method : String) :
    dispatch takesEmpty method ("/" ++ Str.join "/" (fill p route.1)) =
      match route.2.handler method with
      | none => .methodNotAllowed
      | some h => .handler h [("provider_id", p)] := by
  obtain ⟨hmem, hname, halone, -⟩ := oauth_routes route hroute
  exact dispatch_fill takesEmpty hmem hname (fun h => halone h.1) hp hslash method

/-- Without a percent sign the id is what stands in the path. -/
theorem pathArgument_plain {h : Handler} {argument : PathArgument}
    (hread : h.readPath p = some argument) (hpercent : '%' ∉ p.toList) :
    h.pathArgument "provider_id" [("provider_id", p)] = some argument := by
  rw [Handler.pathArgument, List.lookup_cons_self, Option.bind_some,
    Percent.decode_plain hpercent, fromUtf8_encode, Option.bind_some, hread]

namespace AuthMiddleware

/-- A request that needs credentials and bears none is passed on only where authentication is
off. -/
theorem bare_passes_iff {req : AuthRequest} (hauthorization : req.authorization = none)
    (hcookie : req.cookie = none) (hguarded : req.Guarded) (env : String → Option String)
    (store : UserStore) (auth : AuthConfig) :
    (∃ context, middleware env store auth req = .next context) ↔ auth.enabled = false := by
  rw [middleware_unproven (unproven_bare hauthorization hcookie)]
  constructor
  · intro hpasses
    rw [← Bool.not_eq_true]
    intro henabled
    exact (anonymous_passes_iff henabled).mp hpasses hguarded
  · intro hdisabled
    rw [anonymous, hdisabled]
    exact ⟨_, rfl⟩

end AuthMiddleware

/-- The login program stores a token only on a server without authentication, and its device flow
starts on none: what it asks first is answered that the method is not allowed. -/
theorem login_requests (takesEmpty : Bool) (env : String → Option String) (store : UserStore)
    (auth : AuthConfig) (hp : p ≠ "") (hslash : '/' ∉ p.toList) :
    dispatch takesEmpty "GET" (deviceStartPath p) = .methodNotAllowed ∧
    dispatch takesEmpty "POST" (setupPath p) = .handler .setupOauthViaCli [("provider_id", p)] ∧
    ('%' ∉ p.toList → Handler.setupOauthViaCli.pathArgument "provider_id" [("provider_id", p)] =
      some (.text p)) ∧
    ∀ ask ∈ [("GET", deviceStartPath p), ("POST", devicePollPath), ("POST", setupPath p)],
      (∃ context, AuthMiddleware.middleware env store auth
        { method := ask.1, path := ask.2 } = .next context) ↔ auth.enabled = false := by
  refine ⟨?_, ?_, ?_, ?_⟩
  · rw [deviceStartPath_eq]
    exact oauth_dispatch (by decide) takesEmpty hp hslash "GET"
  · rw [setupPath_eq]
    exact oauth_dispatch (by decide) takesEmpty hp hslash "POST"
  · exact pathArgument_plain rfl
  · intro ask hask
    apply AuthMiddleware.bare_passes_iff rfl rfl
    simp only [List.mem_cons, List.not_mem_nil, or_false] at hask
    rcases hask with rfl | rfl | rfl
    · exact oauth_guarded (by decide) hp hslash (by dsimp only; decide) (deviceStartPath_eq p)
    · decide
    · exact oauth_guarded (by decide) hp hslash (by dsimp only; decide) (setupPath_eq p)

theorem login_requests_kiro :
    dispatch false "GET" (deviceStartPath "kiro") = .methodNotAllowed ∧
    dispatch false "POST" (setupPath "kiro") =
      .handler .setupOauthViaCli [("provider_id", "kiro")] ∧
    ('%' ∉ "kiro".toList →
      Handler.setupOauthViaCli.pathArgument "provider_id" [("provider_id", "kiro")] =
        some (.text "kiro")) ∧
    ∀ ask ∈ [("GET", deviceStartPath "kiro"), ("POST", devicePollPath), ("POST", setupPath "kiro")],
      (∃ context, AuthMiddleware.middleware (fun _ => none) ⟨fun _ => none, fun _ => none⟩ {}
        { method := ask.1, path := ask.2 } = .next context) ↔ true = false :=
  login_requests false (fun _ => none) ⟨fun _ => none, fun _ => none⟩ {} (by decide) (by decide)

/-- The address that a start of a login sends the provider is the callback of the server at this
origin: the manifest has no address of its own for the provider, and this is the one that is asked
for or else made of the configured one. -/
def CallsBack (cfg : RouterConfig) (p : String) (body : Option Json.Value) (origin : Origin) :
    Prop :=
  (∃ flow, Manifest.lookupOauth p = some flow ∧ flow.redirectUri = "") ∧
    Admin.startRedirect cfg p body = origin.text ++ callbackPath p

/-- The addresses of the manifest are no callbacks of this server. -/
theorem Manifest.redirectUri_ne {flow : ManifestOAuthFlow} (h : lookupOauth p = some flow)
    (hne : flow.redirectUri ≠ "") (front : String) :
    flow.redirectUri ≠ front ++ callbackPath p := by
  have hmarker : Str.contains (front ++ callbackPath p) "/admin/oauth/" = true := by
    rw [Str.contains_iff, String.toList_append, toList_callbackPath]
    exact List.infix_append' _ _ _
  have hforeign : Str.contains flow.redirectUri "/admin/oauth/" = false := by
    rw [lookupOauth] at h
    obtain ⟨providerType, -, hflow⟩ := Option.bind_eq_some_iff.mp h
    cases providerType <;> cases hflow <;> first | exact absurd rfl hne | decide
  intro heq
  rw [heq, hmarker] at hforeign
  cases hforeign

theorem param_redirect_iff {w : FlowWorld} {cfg : RouterConfig} {body : Option Json.Value}
    {pending : PendingFlows} {url : String}
    (hurl : (Admin.startOauth w cfg p body pending).1.authorizeUrl = some url) (origin : Origin) :
    Query.param "redirect_uri" url = some (origin.text ++ callbackPath p) ↔
      CallsBack cfg p body origin := by
  obtain ⟨flow, hflow, hparam⟩ := Admin.param_startOauth hurl
  rw [hparam, Option.some.injEq, CallsBack, ManifestOAuthFlow.effectiveRedirect]
  by_cases hown : flow.redirectUri = ""
  · rw [if_pos hown, and_iff_right ⟨flow, hflow, hown⟩]
  · rw [if_neg hown]
    refine iff_of_false (Manifest.redirectUri_ne hflow hown origin.text) ?_
    rintro ⟨⟨flow', hflow', hown'⟩, -⟩
    cases hflow.symm.trans hflow'
    exact hown hown'

/-- A session authenticates nobody, so cookies do not help. -/
theorem unproven_cookies (env : String → Option String) (tools : StoreTools) (t : Tables)
    (now : Utc) (auth : AuthConfig) {req : AuthRequest}
    (hauthorization : req.authorization = none) :
    AuthMiddleware.Unproven env (t.userStore tools now) auth req := by
  constructor
  · rw [AuthMiddleware.extractToken, hauthorization]
    exact if_pos rfl
  · cases hcontext : AuthMiddleware.sessionContext (t.userStore tools now) req with
    | none => rfl
    | some context =>
      obtain ⟨_, value, _, _, -, -, hfound, -⟩ := AuthMiddleware.sessionContext_eq_some hcontext
      rw [AuthMiddleware.getSession_userStore] at hfound
      cases hfound

/-- A browser that a provider sends back bears no Authorization header. Where it is sent to the
callback of this server, which is routed, it is refused; and no such request, wherever it is sent,
gets through to the handler of the callbacks. The path that is let through without credentials is no
route. -/
theorem oauth_return_refused (takesEmpty : Bool) (env : String → Option String)
    (tools : StoreTools) (t : Tables) (now : Utc) {auth : AuthConfig}
    (henabled : auth.enabled = true) {w : FlowWorld} {cfg : RouterConfig}
    {body : Option Json.Value} {pending : PendingFlows} {url : String}
    (hurl : (Admin.startOauth w cfg p body pending).1.authorizeUrl = some url)
    (hslash : '/' ∉ p.toList) (hpercent : '%' ∉ p.toList) :
    (∀ origin : Origin,
      (Query.param "redirect_uri" url = some (origin.text ++ callbackPath p) ↔
        CallsBack cfg p body origin) ∧
      (origin.Configured cfg.configRedirect →
        Admin.startRedirect cfg p none = origin.text ++ callbackPath p)) ∧
    (dispatch takesEmpty "GET" (callbackPath p) = .handler .oauthCallback [("provider_id", p)] ∧
      Handler.oauthCallback.pathArgument "provider_id" [("provider_id", p)] = some (.text p)) ∧
    (∀ req : AuthRequest, req.authorization = none →
      (req.method = "GET" → req.path = callbackPath p →
        (AuthMiddleware.middleware env (t.userStore tools now) auth req).Refuses) ∧
      ∀ context values,
        AuthMiddleware.middleware env (t.userStore tools now) auth req = .next context →
          dispatch takesEmpty req.method req.path ≠ .handler .oauthCallback values) ∧
    ∀ method, dispatch takesEmpty method "/admin/oauth/callback" = .notFound := by
  have hp : p ≠ "" := by
    rintro rfl
    obtain ⟨flow, hflow, -⟩ := Admin.param_startOauth hurl
    have hnone : Manifest.lookupOauth "" = none := by decide
    rw [hnone] at hflow
    cases hflow
  refine ⟨?_, ⟨?_, pathArgument_plain rfl hpercent⟩, ?_, ?_⟩
  · intro origin
    exact ⟨param_redirect_iff hurl origin, fun h => Origin.rebuildRedirectUri_configured h p⟩
  · rw [callbackPath_eq]
    exact oauth_dispatch (by decide) takesEmpty hp hslash "GET"
  · intro req hauthorization
    have hunproven := unproven_cookies env tools t now auth hauthorization
    constructor
    · intro hmethod hpath
      have hroute : callbackRoute ∈ [deviceStartRoute, setupRoute, callbackRoute] := by decide
      have hguarded : req.Guarded := by
        refine oauth_guarded hroute hp hslash ?_ ?_
        · rw [hmethod]
          decide
        · rw [hpath, callbackPath_eq]
      rw [AuthMiddleware.middleware_unproven hunproven]
      exact AuthMiddleware.anonymous_refuses henabled hguarded
    · intro context values hnext hdispatch
      exact absurd (open_of_reached henabled hunproven hnext hdispatch) (by decide)
  · have hnone : ∀ takesEmpty, ∃ parts, segments "/admin/oauth/callback" = some parts ∧
        find takesEmpty parts routeTable = none := by
      intro takesEmpty
      refine ⟨["admin", "oauth", "callback"], by decide, ?_⟩
      cases takesEmpty <;> decide
    intro method
    obtain ⟨parts, hparts, hfound⟩ := hnone takesEmpty
    rw [dispatch, hparts]
    dsimp only
    rw [hfound]

/-- The server of a start that asks for its own callback. -/
def sampleOrigin : Origin where
  scheme := "http"
  authority := "localhost:8080"
  scheme_plain := by simp
  authority_plain := by simp
  authority_ne := by decide

/-- The page of the providers asks for the callback of the server that it is on, and the browser
comes back to it with the cookie of a user who is signed in. -/
theorem oauth_return_refused_sample :
    ∃ url, (startLogin (some pageBody)).1.authorizeUrl = some url ∧
      Query.param "redirect_uri" url = some (sampleOrigin.text ++ callbackPath "openai") ∧
      (AuthMiddleware.middleware AuthMiddleware.sampleEnv
        (AuthMiddleware.sampleTables.userStore Tables.sampleStoreTools Tables.sampleNow) {}
        { cookie := some (AuthMiddleware.sessionCookie ++ "=s1"), method := "GET",
          path := callbackPath "openai" }).Refuses := by
  have hurl : (Admin.startOauth RouterState.sampleFlowWorld
      RouterState.sampleRouter.app.config.memory "openai" (some pageBody)
      RouterState.sampleRouter.oauth.pending).1.authorizeUrl = some _ := rfl
  have henabled : ({} : AuthConfig).enabled = true := rfl
  obtain ⟨haddress, -, hreturn, -⟩ := oauth_return_refused false AuthMiddleware.sampleEnv
    Tables.sampleStoreTools AuthMiddleware.sampleTables Tables.sampleNow henabled hurl
    (by decide) (by decide)
  refine ⟨_, rfl, (haddress sampleOrigin).1.mpr ⟨⟨_, lookupOauth_openai, rfl⟩, rfl⟩, ?_⟩
  exact (hreturn _ rfl).1 rfl rfl

end Oauth

end TokenDealer
