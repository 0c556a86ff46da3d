import TokenDealer.ParseInbound
import TokenDealer.SpecificityOptimal

set_option autoImplicit true

namespace TokenDealer

/-- An index that is out of bounds ends the program. -/
def indexed (xs : List α) (i : Nat) : Except String α :=
  match xs[i]? with
  | some a => .ok a
  | none =>
    let len := xs.length
    .error s!"index out of bounds: the len is {len} but the index is {i}"

/-- The positions from one on, where the end of the list less a number is that position. -/
def lastChecked (n : Nat) (xs : List α) : Except String (List α) :=
  if n ≤ xs.length then .ok (xs.drop (xs.length - n))
  else .error "attempt to subtract with overflow"

namespace Scorer

variable (tools : TextTools)

/-- The scorer, with its index into the pieces of the model string checked. -/
def scoreChecked (config : RouterConfig) (ctx : ScoringContext) : Except String ScoreResult :=
  match ctx.tierHeader.bind Tier.parse with
  | some t => .ok ⟨t, none⟩
  | none =>
    let model := ctx.inbound.model
    let parts := Str.splitn 3 '/' model
    let byProvider : Except String ScoreResult :=
      if parts.length = 2 then do
        let p ← indexed parts 0
        if (Manifest.resolveAlias p).isSome then return ⟨.standard, some model⟩
        else return ⟨assignTier tools config ctx.inbound, none⟩
      else .ok ⟨assignTier tools config ctx.inbound, none⟩
    if parts.length = 3 then do
      let t ← indexed parts 0
      match Tier.parse t with
      | some t => return ⟨t, some model⟩
      | none => byProvider
    else byProvider

variable {tools}

theorem scoreChecked_eq (config : RouterConfig) (ctx : ScoringContext) :
    scoreChecked tools config ctx = .ok (score tools config ctx) := by
  rw [scoreChecked, score]
  cases ctx.tierHeader.bind Tier.parse with
  | some t => rfl
  | none =>
    dsimp only
    rw [refTier, isAliasRef]
    rcases Str.splitn 3 '/' ctx.inbound.model with _ | ⟨a, _ | ⟨b, _ | ⟨c, _ | ⟨d, rest⟩⟩⟩⟩
    · rfl
    · rfl
    · cases halias : (Manifest.resolveAlias a).isSome with
      | true => simp [indexed, halias, bind, Except.bind, pure, Except.pure]
      | false => simp [indexed, halias, bind, Except.bind, pure, Except.pure]
    · cases htier : Tier.parse a with
      | some t => simp [indexed, htier, bind, Except.bind, pure, Except.pure]
      | none => simp [indexed, htier, bind, Except.bind]
    · simp

theorem toNat_saturatingAdd (a b : UInt32) :
    (saturatingAdd a b).toNat = min (a.toNat + b.toNat) (UInt32.size - 1) := by
  rw [saturatingAdd]
  split
  · next h =>
    rw [UInt32.toNat_add, Nat.mod_eq_of_lt h, Nat.min_eq_left (Nat.le_sub_one_of_lt h)]
  · next h =>
    rw [Nat.min_eq_right (Nat.le_trans (Nat.sub_le _ _) (Nat.le_of_not_lt h))]
    rfl

/-- The tokens of a request, each message counted in 32 bits. -/
def tokenSum (tools : TextTools) (messages : List InboundMessage) : Nat :=
  (messages.map fun m => tools.encodedLen (messageText m) % UInt32.size).sum

/-- The count of a long request stays at the highest number there is. -/
theorem toNat_approxTokenCount (messages : List InboundMessage) :
    (approxTokenCount tools messages).toNat =
      min (tokenSum tools messages) (UInt32.size - 1) := by
  have hfrom : ∀ start : UInt32, (messages.foldl (fun count m =>
      saturatingAdd count (UInt32.ofNat (tools.encodedLen (messageText m)))) start).toNat =
      min (start.toNat + tokenSum tools messages) (UInt32.size - 1) := by
    induction messages with
    | nil =>
      intro start
      exact (Nat.min_eq_left (Nat.le_sub_one_of_lt start.toNat_lt)).symm
    | cons m rest ih =>
      intro start
      rw [List.foldl_cons, ih, toNat_saturatingAdd, UInt32.toNat_ofNat', tokenSum, tokenSum,
        List.map_cons, List.sum_cons]
      simp only [UInt32.size]
      omega
  have hzero := hfrom 0
  rwa [UInt32.toNat_zero, Nat.zero_add] at hzero

end Scorer

namespace Specificity

section

variable (tools : TextTools) (order : List SpecificityCategory) (config : SpecificityConfig)
  (inbound : InboundRequest) (headerOverride : Option String) (recent : List SpecificityCategory)

def addedChecked (counts : SpecificityCategory → Nat)
    (entries : List (SpecificityCategory × Nat)) : Except String (SpecificityCategory → Nat) :=
  match Tally.addChecked UInt32.size counts entries with
  | some counts => .ok counts
  | none => .error "attempt to add with overflow"

def stickyChecked : Except String (List (SpecificityCategory × Nat)) :=
  if stickyAgreementMin ≤ recent.length then do
    let last ← lastChecked stickyHistoryWindow recent
    match last.eraseDups with
    | [cat] => return [(cat, stickyBias.toNat)]
    | _ => return []
  else .ok []

def lastUserTextChecked : Except String String :=
  match inbound.messages.reverse.find? fun m => m.role = "user" with
  | some m => .ok (extractText m.content)
  | none => (indexed inbound.messages 0).map fun m => extractText m.content

/-- The detector, with its indices and its additions checked. -/
def detectChecked : Except String (Option SpecificityDecision) :=
  if config.enabled then
    match headerDecision config headerOverride with
    | some decision => .ok (some decision)
    | none => do
      let counts ← addedChecked (fun _ => 0) (toolEntries tools inbound)
      let text ← lastUserTextChecked inbound
      let counts ← addedChecked counts (keywordEntries (tools.lowercase text))
      let sticky ← stickyChecked recent
      let counts ← addedChecked counts sticky
      return bestDecision config order (.ofCounts counts)
  else .ok none

end

section

variable {tools : TextTools} {order : List SpecificityCategory} {config : SpecificityConfig}
  {inbound : InboundRequest} {headerOverride : Option String} {recent : List SpecificityCategory}

/-- The window of the last requests is no longer than what is there when it is looked at. -/
theorem stickyChecked_eq (recent : List SpecificityCategory) :
    stickyChecked recent = .ok (stickyEntries recent) := by
  rw [stickyChecked, stickyEntries]
  by_cases hlen : stickyAgreementMin ≤ recent.length
  · have hwindow : lastChecked stickyHistoryWindow recent =
        .ok (recent.drop (recent.length - stickyHistoryWindow)) := if_pos hlen
    rw [if_pos hlen, if_pos hlen, hwindow]
    generalize recent.drop (recent.length - stickyHistoryWindow) = last
    change (match last.eraseDups with
      | [cat] => pure [(cat, stickyBias.toNat)]
      | _ => pure []) = _
    rcases last.eraseDups with _ | ⟨cat, _ | ⟨other, rest⟩⟩ <;> rfl
  · rw [if_neg hlen, if_neg hlen]

theorem lastUserTextChecked_eq_ok :
    lastUserTextChecked inbound = .ok text ↔ lastUserText inbound = some text := by
  rw [lastUserTextChecked, lastUserText]
  cases inbound.messages.reverse.find? fun m => m.role = "user" with
  | some m => simp only [Except.ok.injEq, Option.some_or, Option.map_some, Option.some.injEq]
  | none =>
    cases inbound.messages with
    | nil => simp [indexed, Except.map]
    | cons m rest => simp [indexed, Except.map]

theorem addedChecked_eq_ok : addedChecked counts entries = .ok counts' ↔
    Tally.addChecked UInt32.size counts entries = some counts' := by
  rw [addedChecked]
  cases Tally.addChecked UInt32.size counts entries with
  | none => simp only [reduceCtorEq]
  | some c => simp only [Except.ok.injEq, Option.some.injEq]

theorem addChecked_scoreEntries :
    Tally.addChecked UInt32.size (fun _ => 0) (scoreEntries tools inbound recent text) =
        some counts ↔
      (∀ cat, count tools inbound recent text cat < UInt32.size) ∧
        counts = count tools inbound recent text := by
  have hall : Tally.addAll (fun _ => 0) (scoreEntries tools inbound recent text) =
      count tools inbound recent text := by
    funext cat
    rw [Tally.addAll_apply, Nat.zero_add, count]
  have hfrom : ∀ cat, count tools inbound recent text cat =
      0 + Tally.total cat (scoreEntries tools inbound recent text) :=
    fun cat => (Nat.zero_add _).symm
  constructor
  · intro h
    have hfits := Tally.fits_of_addChecked (fun _ => by decide) h
    refine ⟨fun cat => hfrom cat ▸ hfits cat, ?_⟩
    rw [Tally.addChecked_of_fits hfits, hall] at h
    exact (Option.some.inj h).symm
  · intro h
    obtain ⟨hfits, rfl⟩ := h
    rw [Tally.addChecked_of_fits fun cat => hfrom cat ▸ hfits cat, hall]

/-- The three loops of additions go through when the scores fit in the end. -/
theorem detectChecked_eq_ok (h : Scoring config headerOverride) :
    detectChecked tools order config inbound headerOverride recent = .ok decision ↔
      ∃ text, lastUserText inbound = some text ∧
        (∀ cat, count tools inbound recent text cat < UInt32.size) ∧
        decision = bestDecision config order
          (.ofCounts (count tools inbound recent text)) := by
  rw [detectChecked, if_pos h.enabled, h.undecided]
  simp only [Toml.bind_eq_ok, addedChecked_eq_ok, lastUserTextChecked_eq_ok, stickyChecked_eq,
    pure, Except.pure, Except.ok.injEq, exists_eq_left']
  constructor
  · rintro ⟨counts, htools, text, htext, counts', hkeywords, final, hsticky, rfl⟩
    have hadded : Tally.addChecked UInt32.size (fun _ => 0)
        (scoreEntries tools inbound recent text) = some final := by
      rw [scoreEntries, Tally.addChecked_append, Tally.addChecked_append, htools,
        Option.bind_some, hkeywords, Option.bind_some, hsticky]
    obtain ⟨hfits, rfl⟩ := addChecked_scoreEntries.mp hadded
    exact ⟨text, htext, hfits, rfl⟩
  · rintro ⟨text, htext, hfits, rfl⟩
    have hadded := addChecked_scoreEntries.mpr ⟨hfits, rfl⟩
    rw [scoreEntries, Tally.addChecked_append, Tally.addChecked_append] at hadded
    obtain ⟨counts', hfront, hsticky⟩ := Option.bind_eq_some_iff.mp hadded
    obtain ⟨counts, htools, hkeywords⟩ := Option.bind_eq_some_iff.mp hfront
    exact ⟨counts, htools, text, htext, counts', hkeywords, _, hsticky, rfl⟩

/-- The detector that is checked does what the other one does, when it gets to the end. -/
theorem detect_of_checked
    (h : detectChecked tools order config inbound headerOverride recent = .ok decision) :
    detect tools order config inbound headerOverride recent = .ok decision := by
  by_cases hscoring : Scoring config headerOverride
  · obtain ⟨text, htext, -, rfl⟩ := (detectChecked_eq_ok hscoring).mp h
    rw [detect_scoring hscoring, htext]
  · cases henabled : config.enabled with
    | false =>
      rw [detectChecked, if_neg (by rw [henabled]; exact Bool.false_ne_true)] at h
      rw [detect_off henabled, h]
    | true =>
      cases hheader : headerDecision config headerOverride with
      | none => exact absurd ⟨henabled, hheader⟩ hscoring
      | some d =>
        rw [detectChecked, if_pos henabled, hheader] at h
        rw [detect, if_pos henabled, hheader, ← h]

theorem detectChecked_not_scoring (h : ¬ Scoring config headerOverride) :
    ∃ decision, detectChecked tools order config inbound headerOverride recent = .ok decision := by
  rw [detectChecked]
  cases henabled : config.enabled with
  | false => exact ⟨none, if_neg Bool.false_ne_true⟩
  | true =>
    cases hheader : headerDecision config headerOverride with
    | none => exact absurd ⟨henabled, hheader⟩ h
    | some decision => exact ⟨some decision, if_pos rfl⟩

theorem count_of_noStrayKeywords (h : NoStrayKeywords tools inbound)
    (htext : lastUserText inbound = some text) (cat : SpecificityCategory) :
    count tools inbound recent text cat = dueScore tools inbound recent cat := by
  cases huser : userText inbound with
  | some text' =>
    cases htext.symm.trans (lastUserText_of_user huser)
    exact count_of_user huser cat
  | none =>
    obtain ⟨m, hm, rfl⟩ := Option.map_eq_some_iff.mp ((lastUserText_of_no_user huser) ▸ htext)
    have hzero := total_keywordEntries_eq_zero_iff.mpr (h (userText_eq_none_iff.mp huser) m hm)
    rw [count_of_no_user huser, hzero cat, Nat.add_zero]

/-- The keywords of a request without a message of the user count nothing when there are none. -/
theorem noStrayKeywords_iff : NoStrayKeywords tools inbound ↔
    ((∀ m ∈ inbound.messages, m.role ≠ "user") → ∀ text, lastUserText inbound = some text →
      ∀ cat, Tally.total cat (keywordEntries (tools.lowercase text)) = 0) := by
  refine forall_congr' fun hno => ?_
  rw [lastUserText_of_no_user (userText_eq_none_iff.mpr hno)]
  constructor
  · intro h text htext
    obtain ⟨m, hm, rfl⟩ := Option.map_eq_some_iff.mp htext
    exact total_keywordEntries_eq_zero_iff.mpr (h m hm)
  · intro h m hm
    exact total_keywordEntries_eq_zero_iff.mp (h _ (Option.map_eq_some_iff.mpr ⟨m, hm, rfl⟩))

end

end Specificity

open Specificity

/-- A request goes through the routing layer: every step of it ends, with no index out of bounds and
no count that overflows, and no keywords count but the user's. -/
structure RoutesSafely (tools : TextTools) (text : Json.Text) (config : RouterConfig)
    (tierHeader headerOverride : Option String) (order recent : List SpecificityCategory)
    (inbound : InboundRequest) : Prop where
  scores : ∃ result, Scorer.scoreChecked tools config ⟨inbound, tierHeader⟩ = .ok result
  counts : (Scorer.approxTokenCount tools inbound.messages).toNat =
    min (Scorer.tokenSum tools inbound.messages) (UInt32.size - 1)
  detects : ∃ decision,
    detectChecked tools order config.specificity inbound headerOverride recent = .ok decision
  converts : ∀ tier model provider requestId, ∃ canonical,
    inbound.intoCanonical text tier model provider requestId = .ok canonical
  keywords : Scoring config.specificity headerOverride →
    (∀ m ∈ inbound.messages, m.role ≠ "user") → ∀ read, lastUserText inbound = some read →
      ∀ cat, Tally.total cat (keywordEntries (tools.lowercase read)) = 0

/-- What makes the scores of a request safe to work out: it has a message, its scores fit in 32 bits
and the keywords are the user's. -/
structure SafeToScore (tools : TextTools) (recent : List SpecificityCategory)
    (inbound : InboundRequest) : Prop where
  messages : inbound.messages ≠ []
  fits : ∀ cat, dueScore tools inbound recent cat < UInt32.size
  keywords : NoStrayKeywords tools inbound

section

variable {tools : TextTools} {config : RouterConfig} {headerOverride : Option String}
  {recent : List SpecificityCategory} {inbound : InboundRequest}

theorem SafeToScore.detects (h : SafeToScore tools recent inbound)
    (hscoring : Scoring config.specificity headerOverride) (order : List SpecificityCategory) :
    ∃ decision,
      detectChecked tools order config.specificity inbound headerOverride recent =
        .ok decision := by
  obtain ⟨text, htext⟩ : ∃ text, lastUserText inbound = some text :=
    Option.ne_none_iff_exists'.mp fun hnone =>
      h.messages (lastUserText_eq_none_iff.mp hnone)
  refine ⟨_, (detectChecked_eq_ok hscoring).mpr ⟨text, htext, fun cat => ?_, rfl⟩⟩
  rw [count_of_noStrayKeywords h.keywords htext]
  exact h.fits cat

theorem safeToScore_of_detects (hscoring : Scoring config.specificity headerOverride)
    (hkeywords : NoStrayKeywords tools inbound)
    (h : detectChecked tools order config.specificity inbound headerOverride recent =
      .ok decision) : SafeToScore tools recent inbound := by
  obtain ⟨text, htext, hfits, -⟩ := (detectChecked_eq_ok hscoring).mp h
  refine ⟨fun hnone => ?_, fun cat => ?_, hkeywords⟩
  · rw [lastUserText_eq_none_iff.mpr hnone] at htext
    cases htext
  · rw [← count_of_noStrayKeywords hkeywords htext]
    exact hfits cat

end

/-- A body that is accepted ends the program only in the detector: with no message at all, or with
more tools than 32 bits can count. There too keywords count that are not the user's. -/
theorem routes_safely_iff {serde : Serde} {body : Json.Value} {pre : PreRouting}
    (_hparse : parseInbound serde body = .ok pre) (tools : TextTools) (text : Json.Text)
    (config : RouterConfig) (tierHeader headerOverride : Option String)
    (order recent : List SpecificityCategory) :
    RoutesSafely tools text config tierHeader headerOverride order recent pre.request ↔
      (Scoring config.specificity headerOverride → SafeToScore tools recent pre.request) := by
  constructor
  · intro h hscoring
    obtain ⟨decision, hdecision⟩ := h.detects
    exact safeToScore_of_detects hscoring (noStrayKeywords_iff.mpr (h.keywords hscoring))
      hdecision
  · intro h
    refine ⟨⟨_, Scorer.scoreChecked_eq config _⟩, Scorer.toNat_approxTokenCount _, ?_,
      fun _ _ _ _ => ⟨_, rfl⟩, fun hscoring => noStrayKeywords_iff.mp (h hscoring).keywords⟩
    by_cases hscoring : Scoring config.specificity headerOverride
    · exact (h hscoring).detects hscoring order
    · exact detectChecked_not_scoring hscoring

/-- A reader that has no numbers to read. -/
def sampleSerde : Serde := ⟨fun _ => 0, fun _ => "refused"⟩

/-- A configuration with a model for code. -/
def codingConfig : RouterConfig := { samplePipeline.config with specificity := codingOnly }

def chatBody (messages : List Json.Value) : Json.Value :=
  .object [("model", .string "auto"), ("messages", .array messages)]

def toolNamed (name : String) : Json.Value :=
  .object [("type", .string "function"),
    ("function", .object [("name", .string name), ("parameters", .null)])]

/-- A question with keywords, and two tools of different categories. -/
def coderBody : Json.Value :=
  .object [("model", .string "auto"),
    ("messages", .array [.object [("role", .string "user"),
      ("content", .string "debug the rust compiler")]]),
    ("tools", .array [toolNamed "git_blame", toolNamed "browser_click"])]

def coderRequest : InboundRequest where
  model := "auto"
  messages := [⟨"user", .string "debug the rust compiler", none, none, none⟩]
  tools := some [⟨"function", "git_blame", none, .null⟩, ⟨"function", "browser_click", none, .null⟩]

theorem coderRequest_safe : SafeToScore sampleTools [] coderRequest where
  messages := List.cons_ne_nil _ _
  fits cat := by
    have hentries : toolEntries sampleTools coderRequest = [(.coding, 3), (.webBrowsing, 3)] := by
      decide +kernel
    have htools : Tally.total cat (toolEntries sampleTools coderRequest) ≤ 3 := by
      rw [hentries]
      cases cat <;> decide
    have hkeywords := keywordEntries_le "debug the rust compiler" cat
    have hscore : dueScore sampleTools coderRequest [] cat =
        Tally.total cat (toolEntries sampleTools coderRequest ++
          keywordEntries "debug the rust compiler" ++ []) := rfl
    rw [hscore, List.append_nil, Tally.total_append, UInt32.size]
    omega
  keywords hno := absurd rfl (hno _ List.mem_cons_self)

theorem routes_safely_sample :
    parseInbound sampleSerde coderBody = .ok ⟨"auto", coderRequest⟩ ∧
      RoutesSafely sampleTools samplePipeline.text codingConfig none none
        SpecificityCategory.all [] coderRequest := by
  have hparse : parseInbound sampleSerde coderBody = .ok ⟨"auto", coderRequest⟩ := rfl
  exact ⟨hparse, (routes_safely_iff hparse sampleTools samplePipeline.text codingConfig none none
    SpecificityCategory.all []).mpr fun _ => coderRequest_safe⟩

/-- A body without messages is accepted and then ends the program. -/
theorem empty_messages_panic :
    parseInbound sampleSerde (chatBody []) = .ok ⟨"auto", { model := "auto", messages := [] }⟩ ∧
      detect sampleTools SpecificityCategory.all codingConfig.specificity
          { model := "auto", messages := [] } none [] =
        .error "index out of bounds: the len is 0 but the index is 0" ∧
      ¬ RoutesSafely sampleTools samplePipeline.text codingConfig none none
        SpecificityCategory.all [] { model := "auto", messages := [] } := by
  refine ⟨rfl, rfl, fun h => ?_⟩
  obtain ⟨decision, hdecision⟩ := h.detects
  cases hdecision

end TokenDealer
