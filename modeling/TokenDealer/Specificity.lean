import TokenDealer.ChatRoute
import TokenDealer.ConfigToml

set_option autoImplicit true

namespace TokenDealer

namespace SpecificityCategory

/-- The names that a header may use for a category. -/
def parse (s : String) : Option SpecificityCategory :=
  if s = "coding" then some .coding
  else if s = "web_browsing" ∨ s = "web-browsing" ∨ s = "browsing" then some .webBrowsing
  else if s = "data_analysis" ∨ s = "data-analysis" ∨ s = "analysis" then some .dataAnalysis
  else if s = "image_generation" ∨ s = "image-generation" ∨ s = "image" then some .imageGeneration
  else if s = "video_generation" ∨ s = "video-generation" ∨ s = "video" then some .videoGeneration
  else if s = "social_media" ∨ s = "social-media" ∨ s = "social" then some .socialMedia
  else if s = "email_management" ∨ s = "email-management" ∨ s = "email" then some .emailManagement
  else if s = "calendar_management" ∨ s = "calendar-management" ∨ s = "calendar" then
    some .calendarManagement
  else if s = "trading" then some .trading
  else none

end SpecificityCategory

namespace Specificity

def defaultThreshold : SpecificityCategory → UInt32
  | .coding => 2
  | .webBrowsing => 3
  | .dataAnalysis => 3
  | .imageGeneration => 4
  | .videoGeneration => 4
  | .socialMedia => 3
  | .emailManagement => 3
  | .calendarManagement => 3
  | .trading => 3

def defaultKeywords : SpecificityCategory → List (String × UInt32)
  | .coding =>
    [("code", 1), ("function", 1), ("bug", 1), ("compile", 2), ("debug", 2), ("refactor", 2),
      ("syntax", 1), ("import", 1), ("class", 1), ("method", 1), ("variable", 1), ("library", 1),
      ("api", 1), ("endpoint", 1), ("compiler", 2), ("runtime", 1), ("thread", 1), ("async", 1),
      ("promise", 1), ("kernel", 1), ("typescript", 2), ("python", 1), ("javascript", 1),
      ("rust", 2), ("golang", 2), ("java", 1), ("kotlin", 1), ("swift", 1), ("html", 1),
      ("css", 1), ("react", 1), ("vue", 1), ("angular", 1), ("git", 1), ("commit", 1),
      ("merge", 1), ("rebase", 1), ("stack trace", 2), ("stacktrace", 2), ("exception", 1),
      ("stack overflow", 2), ("lint", 1), ("eslint", 2), ("prettier", 2)]
  | .webBrowsing =>
    [("http", 1), ("https", 1), ("url", 1), ("website", 1), ("webpage", 1), ("browse", 2),
      ("navigate", 1), ("click", 1), ("crawl", 2), ("scrape", 2), ("fetch", 1), ("download", 1),
      ("bookmark", 2), ("browser", 2), ("chrome", 1), ("firefox", 1), ("safari", 1), ("page", 1),
      ("link", 1), ("anchor", 1), ("form", 1), ("input field", 1), ("cookie", 1), ("session", 1)]
  | .dataAnalysis =>
    [("dataset", 2), ("dataframe", 2), ("sql", 1), ("query", 1), ("select", 1), ("where", 1),
      ("join", 1), ("group by", 2), ("aggregate", 2), ("sum", 1), ("average", 1), ("mean", 1),
      ("median", 1), ("histogram", 2), ("scatter", 2), ("regression", 2), ("correlation", 2),
      ("p-value", 2), ("statistics", 1), ("pandas", 2), ("numpy", 2), ("matplotlib", 2),
      ("csv", 1), ("excel", 1), ("table", 1), ("pivot", 1), ("chart", 1), ("graph", 1),
      ("plot", 1), ("visualize", 2), ("dashboard", 1), ("kpi", 2), ("metric", 1), ("benchmark", 1)]
  | .imageGeneration =>
    [("image", 1), ("picture", 1), ("photo", 1), ("illustration", 2), ("draw", 2), ("paint", 2),
      ("render", 1), ("sketch", 2), ("midjourney", 3), ("dall-e", 3), ("stable diffusion", 3),
      ("sdxl", 3), ("firefly", 3), ("leonardo", 3), ("imagen", 3), ("flux", 2), ("comfyui", 3),
      ("automatic1111", 3), ("a1111", 2), ("prompt", 1), ("negative prompt", 3), ("seed", 1),
      ("guidance", 1), ("denoise", 2), ("upscale", 2), ("inpaint", 2), ("outpaint", 2),
      ("diffusion", 2), ("checkpoint", 1), ("lora", 2)]
  | .videoGeneration =>
    [("video", 1), ("clip", 1), ("movie", 1), ("animation", 2), ("animate", 2), ("sora", 3),
      ("runway", 3), ("kling", 3), ("pika", 3), ("veo", 3), ("luma", 3), ("hailuo", 3),
      ("frame", 1), ("fps", 1), ("scene", 1), ("shot", 1), ("storyboard", 2), ("film", 1),
      ("render", 1), ("motion", 2), ("temporal", 1), ("keyframe", 2), ("interpolation", 2),
      ("diffusion", 1), ("video diffusion", 3)]
  | .socialMedia =>
    [("tweet", 2), ("post", 1), ("thread", 1), ("retweet", 2), ("like", 1), ("share", 1),
      ("follower", 1), ("engagement", 2), ("hashtag", 2), ("mention", 1), ("dm", 2),
      ("instagram", 2), ("facebook", 2), ("twitter", 2), ("x.com", 2), ("linkedin", 2),
      ("tiktok", 2), ("youtube", 1), ("reddit", 2), ("mastodon", 2), ("bluesky", 2),
      ("hootsuite", 3), ("buffer", 2), ("impressions", 2), ("reach", 1), ("virality", 2),
      ("influencer", 2), ("trending", 2)]
  | .emailManagement =>
    [("email", 1), ("inbox", 2), ("outbox", 2), ("draft", 1), ("reply", 1), ("forward", 2),
      ("cc", 1), ("bcc", 1), ("subject", 1), ("attachment", 2), ("signature", 1), ("gmail", 3),
      ("outlook", 3), ("superhuman", 3), ("smtp", 2), ("imap", 2), ("pop3", 2), ("mailgun", 3),
      ("sendgrid", 3), ("newsletter", 2), ("unsubscribe", 2), ("spam", 1), ("phishing", 2),
      ("mail merge", 3)]
  | .calendarManagement =>
    [("calendar", 2), ("meeting", 1), ("appointment", 2), ("schedule", 1), ("reschedule", 2),
      ("invite", 1), ("attendee", 2), ("agenda", 2), ("reminder", 1), ("google calendar", 3),
      ("gcal", 3), ("calendly", 3), ("reclaim", 3), ("cal.com", 3), ("ics", 2), ("ical", 2),
      ("timezone", 1), ("recurring", 2), ("slot", 1), ("availability", 2), ("booking", 2),
      ("rsvp", 2), ("event", 1), ("venue", 1)]
  | .trading =>
    [("trade", 2), ("stock", 1), ("equity", 1), ("option", 1), ("future", 1), ("bond", 1),
      ("etf", 2), ("crypto", 2), ("bitcoin", 2), ("ethereum", 2), ("btc", 2), ("eth", 2),
      ("buy", 1), ("sell", 2), ("short", 1), ("long", 1), ("limit order", 3), ("market order", 3),
      ("stop loss", 3), ("take profit", 3), ("portfolio", 2), ("position", 1), ("hedge", 2),
      ("leverage", 2), ("margin", 1), ("dividend", 2), ("earnings", 2), ("p/e", 2), ("rsi", 2),
      ("macd", 2), ("moving average", 3), ("bollinger", 3), ("candlestick", 3), ("robinhood", 3),
      ("coinbase", 3), ("binance", 3), ("kalshi", 3), ("polymarket", 3), ("alpaca", 3)]

def toolPrefixToCategory : List (String × SpecificityCategory) :=
  [("browser_", .webBrowsing), ("playwright_", .webBrowsing), ("web_", .webBrowsing),
    ("scrape_", .webBrowsing), ("fetch_", .webBrowsing), ("code_", .coding), ("editor_", .coding),
    ("lint_", .coding), ("git_", .coding), ("image_", .imageGeneration),
    ("midjourney_", .imageGeneration), ("firefly_", .imageGeneration),
    ("leonardo_", .imageGeneration), ("dalle_", .imageGeneration), ("imagen_", .imageGeneration),
    ("sora_", .videoGeneration), ("runway_", .videoGeneration), ("kling_", .videoGeneration),
    ("pika_", .videoGeneration), ("veo_", .videoGeneration), ("video_", .videoGeneration),
    ("social_", .socialMedia), ("hootsuite_", .socialMedia), ("buffer_", .socialMedia),
    ("twitter_", .socialMedia), ("email_", .emailManagement), ("gmail_", .emailManagement),
    ("outlook_", .emailManagement), ("smtp_", .emailManagement), ("imap_", .emailManagement),
    ("superhuman_", .emailManagement), ("calendar_", .calendarManagement),
    ("gcal_", .calendarManagement), ("calendly_", .calendarManagement),
    ("reclaim_", .calendarManagement), ("ics_", .calendarManagement), ("trade_", .trading),
    ("exchange_", .trading), ("robinhood_", .trading), ("kalshi_", .trading),
    ("coinbase_", .trading), ("binance_", .trading), ("alpaca_", .trading)]

def toolMatchWeight : UInt32 := 3

def stickyHistoryWindow : Nat := 3

def stickyAgreementMin : Nat := 3

def stickyBias : UInt32 := 2

end Specificity

structure SpecificityDecision where
  category : SpecificityCategory
  score : UInt32
  threshold : UInt32
  primary : Option String
  reason : String
  deriving DecidableEq, Repr

namespace SpecificityConfig

def ruleFor (config : SpecificityConfig) (cat : SpecificityCategory) : Option SpecificityRule :=
  config.rules.find? fun r => r.category = cat

def thresholdFor (config : SpecificityConfig) (cat : SpecificityCategory) : Option UInt32 :=
  (config.ruleFor cat).bind SpecificityRule.threshold

def primaryFor (config : SpecificityConfig) (cat : SpecificityCategory) : Option String :=
  (config.ruleFor cat).map SpecificityRule.primary

end SpecificityConfig

namespace Specificity

/-- The score of every category. An addition past 32 bits wraps. -/
abbrev Scores := SpecificityCategory → UInt32

def Scores.add (scores : Scores) (cat : SpecificityCategory) (weight : UInt32) : Scores :=
  fun c => if c = cat then scores c + weight else scores c

def extractText : Json.Value → String
  | .string s => s
  | .array parts => Str.join "\n" (Scorer.partTexts parts)
  | _ => ""

/-- Without a message of the user the first one is taken, and there is none in an empty request. -/
def lastUserText (inbound : InboundRequest) : Option String :=
  ((inbound.messages.reverse.find? fun m => m.role = "user").or inbound.messages.head?).map
    fun m => extractText m.content

def addToolMatches (tools : TextTools) (inbound : InboundRequest) (scores : Scores) : Scores :=
  (inbound.tools.getD []).foldl
    (fun scores tool =>
      toolPrefixToCategory.foldl
        (fun scores (front, cat) =>
          if Str.startsWith (tools.lowercase tool.function.name) front then
            scores.add cat toolMatchWeight
          else scores)
        scores)
    scores

def addKeywords (text : String) (scores : Scores) : Scores :=
  SpecificityCategory.all.foldl
    (fun scores cat =>
      (defaultKeywords cat).foldl
        (fun scores (kw, weight) =>
          if Str.contains text kw then scores.add cat weight else scores)
        scores)
    scores

/-- The last requests count when they agree. -/
def addSticky (recent : List SpecificityCategory) (scores : Scores) : Scores :=
  if stickyAgreementMin ≤ recent.length then
    match (recent.drop (recent.length - stickyHistoryWindow)).eraseDups with
    | [cat] => scores.add cat stickyBias
    | _ => scores
  else scores

structure Candidate where
  category : SpecificityCategory
  score : UInt32
  threshold : UInt32
  deriving DecidableEq, Repr

def consider (config : SpecificityConfig) (scores : Scores) (best : Option Candidate)
    (cat : SpecificityCategory) : Option Candidate :=
  let score := scores cat
  let threshold := (config.thresholdFor cat).getD (defaultThreshold cat)
  if score < threshold then best
  else if (config.primaryFor cat).isNone then best
  else
    match best with
    | some b =>
      if score < b.score then best
      else if score = b.score ∧ threshold ≤ b.threshold then best
      else some ⟨cat, score, threshold⟩
    | none => some ⟨cat, score, threshold⟩

def headerDecision (config : SpecificityConfig) (headerOverride : Option String) :
    Option SpecificityDecision := do
  let h ← headerOverride
  let cat ← SpecificityCategory.parse h
  let primary ← config.primaryFor cat
  some
    { category := cat
      score := UInt32.ofNat (UInt32.size - 1)
      threshold := 0
      primary := some primary
      reason := s!"header override (x-router-specificity={h})" }

def bestDecision (config : SpecificityConfig) (order : List SpecificityCategory)
    (scores : Scores) : Option SpecificityDecision := do
  let best ← order.foldl (consider config scores) none
  let primary ← config.primaryFor best.category
  let cat := best.category.asStr
  let score := best.score
  let threshold := best.threshold
  some
    { category := best.category
      score := score
      threshold := threshold
      primary := some primary
      reason := s!"detected {cat} (score={score}, threshold={threshold})" }

/-- The categories are gone through in the order of a hash map, which is left open. A request
without messages to read is an index out of bounds. -/
def detect (tools : TextTools) (order : List SpecificityCategory) (config : SpecificityConfig)
    (inbound : InboundRequest) (headerOverride : Option String)
    (recent : List SpecificityCategory) : Except String (Option SpecificityDecision) :=
  if config.enabled then
    match headerDecision config headerOverride with
    | some decision => .ok (some decision)
    | none =>
      match lastUserText inbound with
      | none => .error "index out of bounds: the len is 0 but the index is 0"
      | some text =>
        let scores := addToolMatches tools inbound fun _ => 0
        let scores := addKeywords (tools.lowercase text) scores
        .ok (bestDecision config order (addSticky recent scores))
  else .ok none

theorem detect_off (hoff : config.enabled = false) (tools : TextTools)
    (order : List SpecificityCategory) (inbound : InboundRequest)
    (headerOverride : Option String) (recent : List SpecificityCategory) :
    detect tools order config inbound headerOverride recent = .ok none := by
  rw [detect, if_neg (by rw [hoff]; exact Bool.false_ne_true)]

/-- What the chat handler routes by is the primary that the detector decides on. -/
theorem specificityPrimary_detect {request : ChatRequest}
    (hdetect : detect tools order config.specificity request.scoring.inbound headerOverride [] =
      .ok decision)
    (hdetected : request.detected = decision.bind SpecificityDecision.primary) :
    specificityPrimary config request = decision.bind SpecificityDecision.primary := by
  rw [specificityPrimary]
  cases henabled : config.specificity.enabled with
  | true => rw [if_pos rfl, hdetected]
  | false =>
    rw [detect_off henabled, Except.ok.injEq] at hdetect
    rw [if_neg Bool.false_ne_true, ← hdetect, Option.bind_none]

/-- The tools and the last words of the user are all that the detector reads of a request. -/
theorem detect_congr {inbound inbound' : InboundRequest} (htools : inbound'.tools = inbound.tools)
    (htext : lastUserText inbound' = lastUserText inbound) (tools : TextTools)
    (order : List SpecificityCategory) (config : SpecificityConfig)
    (headerOverride : Option String) (recent : List SpecificityCategory) :
    detect tools order config inbound' headerOverride recent =
      detect tools order config inbound headerOverride recent := by
  rw [detect, detect, htext, addToolMatches, addToolMatches, htools]

end Specificity

end TokenDealer
