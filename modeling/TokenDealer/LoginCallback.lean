import TokenDealer.RedirectAgreement

set_option autoImplicit true

namespace TokenDealer

namespace LoginCli

inductive CallbackResult where
  | ok (code state : String)
  | error (message : String)
  deriving DecidableEq, Repr

def statusText : Nat → String
  | 200 => "OK"
  | 400 => "Bad Request"
  | _ => "Status"

def responseText (status : Nat) (contentType body : String) : String :=
  "HTTP/1.1 " ++ toString status ++ " " ++ statusText status ++ "\r\n" ++
    "content-type: " ++ contentType ++ "\r\n" ++
    "content-length: " ++ toString (Utf8.encode body.toList).length ++ "\r\n" ++
    "connection: close\r\n\r\n" ++ body

/-- What a connection is read as, line by line with their line breaks. Behind the last line the
reads are empty. -/
def readLine : List (Except String String) → Except String (String × List (Except String String))
  | [] => .ok ("", [])
  | .error e :: _ => .error e
  | .ok line :: rest => .ok (line, rest)

def drainHeaders : List (Except String String) → Except String Unit
  | [] => .ok ()
  | .error e :: _ => .error e
  | .ok line :: rest => if line = "\r\n" ∨ line = "" then .ok () else drainHeaders rest

/-- The parameters that are looked for, empty until they are found. -/
structure CallbackQuery where
  code : String := ""
  state : String := ""
  error : String := ""
  deriving DecidableEq, Repr

def CallbackQuery.set (query : CallbackQuery) (pair : String × String) : CallbackQuery :=
  if pair.1 = "code" then { query with code := pair.2 }
  else if pair.1 = "state" then { query with state := pair.2 }
  else if pair.1 = "error" then { query with error := pair.2 }
  else query

/-- The result for the parameters, and the page that is sent to the browser. -/
def callbackReply (expectedState : String) (query : CallbackQuery) : CallbackResult × String :=
  if query.error ≠ "" then
    (.error ("provider error: " ++ query.error),
      responseText 400 "text/html"
        ("<html><body style='font-family:sans-serif'><h1>OAuth error</h1><p>Provider returned " ++
          "<code>" ++ query.error ++ "</code>. You can close this window.</p></body></html>"))
  else if query.state ≠ expectedState then
    (.error "state mismatch (different browser session?)",
      responseText 400 "text/html"
        "<html><body><h1>State mismatch</h1><p>You can close this window.</p></body></html>")
  else
    (.ok query.code query.state,
      responseText 200 "text/html"
        ("<html><body style='font-family:sans-serif;padding:2em'><h1>✓ Token-dealer</h1>" ++
          "<p>You can close this window. The CLI is exchanging the code now.</p></body></html>"))

/-- A connection to the loopback listener. The parser of addresses gives the pairs of the query. -/
def acceptCallback (queryPairs : String → Except String (List (String × String)))
    (lines : List (Except String String)) (expectedState : String) :
    Except String (CallbackResult × String) := do
  let (requestLine, rest) ← readLine lines
  match Str.splitOnce ' ' requestLine with
  | none => .error "bad request line"
  | some (pathQuery, _) =>
    let (_, path) := (Str.splitOnce ' ' pathQuery).getD ("GET", pathQuery)
    let pairs ← queryPairs ("http://127.0.0.1" ++ path)
    let query := pairs.foldl CallbackQuery.set {}
    drainHeaders rest
    .ok (callbackReply expectedState query)

/-- A parser that finds no query where there is no question mark, and takes letters behind the
last number of a host for a part of its name. -/
structure ParsesUrls (queryPairs : String → Except String (List (String × String))) : Prop where
  no_query : ∀ url pairs, '?' ∉ url.toList → queryPairs url = .ok pairs → pairs = []
  name : ∃ pairs, queryPairs "http://127.0.0.1GET" = .ok pairs

/-- The query of a callback has the code and the state, and no error. -/
structure Carries (query code state : String) : Prop where
  blank : ' ' ∉ query.toList
  pairs : ∃ others,
    (Query.members query.toList).Perm (("code", code) :: ("state", state) :: others) ∧
      ∀ p ∈ others, p.1 ∉ ["code", "state", "error"]

def Accepted (result : Except String (CallbackResult × String)) (code : String) : Prop :=
  ∃ state page, result = .ok (.ok code state, page)

/-- The callback of a provider is accepted, whatever else it says and with whatever headers. -/
def AcceptsCallback (queryPairs : String → Except String (List (String × String)))
    (code state : String) : Prop :=
  ∀ (query : String) (headers : List String), Carries query code state →
    (∀ h ∈ headers, h ≠ "\r\n" ∧ h ≠ "") →
    Accepted (acceptCallback queryPairs
      (.ok ("GET" ++ " " ++ ("/callback?" ++ query ++ " HTTP/1.1\r\n")) ::
        (headers.map .ok ++ [.ok "\r\n"])) state) code

/-- The state that is asked for with a target. -/
def stateParam (target : String) : Option String :=
  (((Query.params target).filter fun p => p.1 = "state").getLast?).map Prod.snd

/-- No request whose state is another one is accepted. -/
def RejectsOthers (queryPairs : String → Except String (List (String × String)))
    (state : String) : Prop :=
  ∀ (method target version : String) (lines : List (Except String String)) (other : String),
    ' ' ∉ method.toList → '?' ∉ method.toList → stateParam target = some other → other ≠ state →
    ∀ code, ¬ Accepted (acceptCallback queryPairs
      (.ok (method ++ " " ++ (target ++ " " ++ version)) :: lines) state) code

theorem drainHeaders_blank {headers : List String} (h : ∀ l ∈ headers, l ≠ "\r\n" ∧ l ≠ "") :
    drainHeaders (headers.map .ok ++ [.ok "\r\n"]) = .ok () := by
  induction headers with
  | nil => rfl
  | cons line headers ih =>
    obtain ⟨hline, hrest⟩ := List.forall_mem_cons.mp h
    rw [List.map_cons, List.cons_append, drainHeaders, if_neg (not_or.mpr hline)]
    exact ih hrest

theorem splitOnce_of_not_mem {sep : Char} {s : String} (h : sep ∉ s.toList) :
    Str.splitOnce sep s = none := by
  rw [Str.splitOnce, Str.cutAt_eq_none h]
  rfl

/-- The request line is cut at its first blank, and what is taken for the path is the method. -/
theorem acceptCallback_method {method : String} (h : ' ' ∉ method.toList)
    (queryPairs : String → Except String (List (String × String))) (rest state : String)
    (lines : List (Except String String)) :
    acceptCallback queryPairs (.ok (method ++ " " ++ rest) :: lines) state =
      (do
        let pairs ← queryPairs ("http://127.0.0.1" ++ method)
        drainHeaders lines
        .ok (callbackReply state (pairs.foldl CallbackQuery.set {}))) := by
  have hcut : Str.splitOnce ' ' (method ++ " " ++ rest) = some (method, rest) :=
    Str.splitOnce_append h rest
  simp only [acceptCallback, readLine, bind, Except.bind, hcut, splitOnce_of_not_mem h,
    Option.getD_none]

theorem accepted_callbackReply {state : String} {query : CallbackQuery}
    (h : Accepted (.ok (callbackReply state query)) code) :
    query.state = state ∧ query.code = code := by
  obtain ⟨found, page, h⟩ := h
  rw [callbackReply] at h
  split at h
  · cases h
  · split at h
    · cases h
    · next hstate =>
      cases h
      exact ⟨not_not.mp hstate, rfl⟩

/-- Nothing of a request is read: it is accepted if no state is expected, and without a code. -/
theorem accepted_of_method {queryPairs : String → Except String (List (String × String))}
    (hurls : ParsesUrls queryPairs) (hblank : ' ' ∉ method.toList) (hmark : '?' ∉ method.toList)
    (h : Accepted (acceptCallback queryPairs (.ok (method ++ " " ++ rest) :: lines) state) code) :
    state = "" ∧ code = "" := by
  rw [acceptCallback_method hblank] at h
  cases hpairs : queryPairs ("http://127.0.0.1" ++ method) with
  | error e =>
    rw [hpairs] at h
    obtain ⟨found, page, h⟩ := h
    cases h
  | ok pairs =>
    have hnone : pairs = [] := by
      apply hurls.no_query _ _ _ hpairs
      rw [String.toList_append, List.mem_append, not_or]
      exact ⟨by decide, hmark⟩
    rw [hpairs, hnone] at h
    cases hdrained : drainHeaders lines with
    | error e =>
      rw [hdrained] at h
      obtain ⟨found, page, h⟩ := h
      cases h
    | ok u =>
      rw [hdrained] at h
      obtain ⟨hstate, hcode⟩ := accepted_callbackReply h
      exact ⟨hstate.symm, hcode.symm⟩

theorem accepted_get {queryPairs : String → Except String (List (String × String))}
    (hurls : ParsesUrls queryPairs) {lines : List (Except String String)}
    (hlines : drainHeaders lines = .ok ()) (rest : String) :
    Accepted (acceptCallback queryPairs (.ok ("GET" ++ " " ++ rest) :: lines) "") "" := by
  obtain ⟨pairs, hpairs⟩ := hurls.name
  have hnone : pairs = [] := hurls.no_query _ _ (by decide) hpairs
  have hurl : queryPairs ("http://127.0.0.1" ++ "GET") = .ok [] := by
    rw [← hnone]
    exact hpairs
  rw [acceptCallback_method (by decide), hurl, hlines]
  exact ⟨"", _, rfl⟩

theorem blank_not_mem_urlencoding (s : String) : ' ' ∉ (urlencoding s).toList := by
  have hplain : ∀ n < 256, isUnreserved (UInt8.ofNat n) = true → Char.ofNat n ≠ ' ' := by
    decide +kernel
  rw [urlencoding_eq]
  apply unreservedBytes.not_mem_escape
  · intro b hb
    exact hplain b.toNat b.toNat_lt (by rwa [UInt8.ofNat_toNat])
  · decide
  · decide

theorem carries_render (code state : String) :
    Carries (unreservedBytes.render [("code", code), ("state", state)]) code state := by
  constructor
  · have htext : unreservedBytes.render [("code", code), ("state", state)] =
        "code=" ++ urlencoding code ++ "&state=" ++ urlencoding state := by
      have hrender : unreservedBytes.render [("code", code), ("state", state)] =
          unreservedBytes.member ("code", code) ++ "&" ++
            unreservedBytes.member ("state", state) := rfl
      rw [hrender, member_eq "code" (by decide), member_eq "state" (by decide)]
      simp only [String.append_assoc]
      rfl
    rw [htext]
    simp only [String.toList_append, List.mem_append, not_or]
    exact ⟨⟨⟨by decide, blank_not_mem_urlencoding code⟩, by decide⟩,
      blank_not_mem_urlencoding state⟩
  · refine ⟨[], ?_, List.forall_mem_nil _⟩
    rw [unreservedBytes.members_render]

/-- The callback is not read, so it is accepted where there is nothing to read, and another one is
rejected where there is: no code and state are handled as they should be. -/
theorem callback_never_handled {queryPairs : String → Except String (List (String × String))}
    (hurls : ParsesUrls queryPairs) (code state : String) :
    (AcceptsCallback queryPairs code state ↔ code = "" ∧ state = "") ∧
      (RejectsOthers queryPairs state ↔ state ≠ "") ∧
      ¬ (AcceptsCallback queryPairs code state ∧ RejectsOthers queryPairs state) := by
  have haccepts : AcceptsCallback queryPairs code state ↔ code = "" ∧ state = "" := by
    constructor
    · intro h
      have hdone := h _ [] (carries_render code state) (List.forall_mem_nil _)
      obtain ⟨hstate, hcode⟩ := accepted_of_method hurls (by decide) (by decide) hdone
      exact ⟨hcode, hstate⟩
    · rintro ⟨rfl, rfl⟩ query headers - hheaders
      exact accepted_get hurls (drainHeaders_blank hheaders) _
  have hrejects : RejectsOthers queryPairs state ↔ state ≠ "" := by
    constructor
    · rintro h rfl
      have hother : stateParam "/callback?state=x" = some "x" := by decide +kernel
      exact h "GET" "/callback?state=x" "HTTP/1.1\r\n" [] "x" (by decide) (by decide) hother
        (by decide) "" (accepted_get hurls rfl _)
    · intro hne method target version lines other hblank hmark _ _ code haccepted
      exact hne (accepted_of_method hurls hblank hmark haccepted).1
  refine ⟨haccepts, hrejects, ?_⟩
  rintro ⟨h, hothers⟩
  exact hrejects.mp hothers (haccepts.mp h).2

/-- A parser that reads the query behind the first question mark. -/
def sampleQueryPairs (url : String) : Except String (List (String × String)) :=
  .ok (Query.params url)

theorem parsesUrls_sample : ParsesUrls sampleQueryPairs := by
  refine ⟨?_, _, rfl⟩
  intro url pairs hmark hpairs
  cases hpairs
  rw [Query.params, splitOnce_of_not_mem hmark]

theorem callback_never_handled_sample :
    (AcceptsCallback sampleQueryPairs "ac-1" "xai.1" ↔ "ac-1" = "" ∧ "xai.1" = "") ∧
      (RejectsOthers sampleQueryPairs "xai.1" ↔ "xai.1" ≠ "") ∧
      ¬ (AcceptsCallback sampleQueryPairs "ac-1" "xai.1" ∧
        RejectsOthers sampleQueryPairs "xai.1") :=
  callback_never_handled parsesUrls_sample "ac-1" "xai.1"

/-- The callback with the right state is told that its state is another one. -/
theorem callback_refused :
    ¬ ∀ (queryPairs : String → Except String (List (String × String))) (code state : String),
      ParsesUrls queryPairs →
        AcceptsCallback queryPairs code state ∧ RejectsOthers queryPairs state := by
  intro h
  have hcarries : Carries "code=ac-1&state=xai.1" "ac-1" "xai.1" :=
    ⟨by decide, [], by decide +kernel, List.forall_mem_nil _⟩
  have hdone := (h sampleQueryPairs "ac-1" "xai.1" parsesUrls_sample).1 _ [] hcarries
    (List.forall_mem_nil _)
  obtain ⟨found, page, hdone⟩ := hdone
  cases hdone

end LoginCli

end TokenDealer
