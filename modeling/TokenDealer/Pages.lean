import Mathlib.Data.List.Nodup
import TokenDealer.ConfigToml
import TokenDealer.LogQueries
import TokenDealer.Markup
import TokenDealer.StrPieces

set_option autoImplicit true

namespace TokenDealer

open Markup

def escapeChar (c : Char) : List Char :=
  match c with
  | '&' => ['&', 'a', 'm', 'p', ';']
  | '<' => ['&', 'l', 't', ';']
  | '>' => ['&', 'g', 't', ';']
  | '"' => ['&', 'q', 'u', 'o', 't', ';']
  | '\'' => ['&', '#', '3', '9', ';']
  | c => [c]

def htmlEscape (s : String) : String := String.ofList (s.toList.flatMap escapeChar)

/-- The contexts in which the pages put data. -/
def holeContexts : List Context := [.text, .double]

section Escapes

variable {context : Context}

theorem plain_hole (hcontext : context ∈ holeContexts) {c : Char}
    (hc : c ≠ '<' ∧ c ≠ '&' ∧ c ≠ '"') :
    plain context c = (.inside context, [context.event c]) := by
  obtain ⟨hlt, hamp, hquot⟩ := hc
  simp only [holeContexts, List.mem_cons, List.not_mem_nil, or_false] at hcontext
  rcases hcontext with rfl | rfl
  · rw [plain, if_neg hlt, if_neg hamp]
    rfl
  · rw [plain, if_neg hquot, if_neg hamp]
    rfl

theorem stands_escapeChar (hcontext : context ∈ holeContexts) (c : Char) :
    Stands context (escapeChar c) [c] := by
  unfold escapeChar
  split
  case h_6 hamp hlt _ hquot _ =>
    apply stands_plain
    intro d hd
    obtain rfl := List.mem_singleton.mp hd
    exact plain_hole hcontext ⟨hlt, hamp, hquot⟩
  all_goals
    simp only [holeContexts, List.mem_cons, List.not_mem_nil, or_false] at hcontext
    rcases hcontext with rfl | rfl <;> decide

/-- An escaped text stands for the text. -/
theorem stands_htmlEscape (hcontext : context ∈ holeContexts) (s : String) :
    Stands context (htmlEscape s).toList s.toList := by
  rw [htmlEscape, String.toList_ofList]
  exact stands_flatMap fun c _ => stands_escapeChar hcontext c

/-- A text without characters of markup stands for itself. -/
theorem stands_self (hcontext : context ∈ holeContexts) {s : String}
    (hs : ∀ c ∈ s.toList, c ≠ '<' ∧ c ≠ '&' ∧ c ≠ '"') : Stands context s.toList s.toList := by
  apply stands_plain
  intro c hc
  exact plain_hole hcontext (hs c hc)

/-- Digits, and the other characters of a number. -/
def isNumeric (c : Char) : Bool := c.isDigit || c ∈ ['.', '-', 'i', 'n', 'f', 'N', 'a', '$']

theorem not_markup_of_isNumeric {c : Char} (h : isNumeric c = true) :
    c ≠ '<' ∧ c ≠ '&' ∧ c ≠ '"' := by
  refine ⟨?_, ?_, ?_⟩ <;>
  · rintro rfl
    exact absurd h (by decide)

theorem isNumeric_toString (n : Nat) : ∀ c ∈ (toString n).toList, isNumeric c = true := by
  intro c hc
  have hrepr : (toString n).toList = Nat.toDigits 10 n := Nat.toList_repr
  rw [hrepr] at hc
  rw [isNumeric, Nat.isDigit_of_mem_toDigits (by decide) (by decide) hc, Bool.true_or]

end Escapes

/-- A number with so many digits behind the point, the nearest one, of two the even one. -/
def rounded (digits : Nat) (q : ℚ) : Nat :=
  let n := q.num.natAbs * 10 ^ digits
  let whole := n / q.den
  if q.den < 2 * (n % q.den) ∨ 2 * (n % q.den) = q.den ∧ whole % 2 = 1 then whole + 1 else whole

def padded (digits n : Nat) : String :=
  String.ofList (List.replicate (digits - (toString n).length) '0') ++ toString n

/-- A float with so many digits behind the point. -/
def fixedPoint (digits : Nat) : Double → String
  | .finite q _ =>
    (if q < 0 then "-" else "") ++ toString (rounded digits q / 10 ^ digits) ++ "." ++
      padded digits (rounded digits q % 10 ^ digits)
  | .infinite negative => if negative then "-inf" else "inf"
  | .nan => "NaN"

example : fixedPoint 5 0.125 = "0.12500" ∧ fixedPoint 1 (.ofRat (-1 / 4)) = "-0.2" := by
  decide +kernel

theorem isNumeric_fixedPoint (digits : Nat) (x : Double) :
    ∀ c ∈ (fixedPoint digits x).toList, isNumeric c = true := by
  cases x with
  | finite q =>
    have hsign : ∀ c ∈ (if q < 0 then "-" else "").toList, isNumeric c = true := by
      split <;> exact forall_mem_of_all (by decide)
    have hpadded : ∀ c ∈ (padded digits (rounded digits q % 10 ^ digits)).toList,
        isNumeric c = true := by
      intro c hc
      rw [padded, String.toList_append, String.toList_ofList, List.mem_append] at hc
      rcases hc with hc | hc
      · rw [(List.mem_replicate.mp hc).2]
        decide
      · exact isNumeric_toString _ c hc
    intro c hc
    rw [fixedPoint, String.toList_append, String.toList_append, String.toList_append,
      List.mem_append, List.mem_append, List.mem_append] at hc
    rcases hc with ((hc | hc) | hc) | hc
    · exact hsign c hc
    · exact isNumeric_toString _ c hc
    · rw [List.mem_singleton.mp hc]
      decide
    · exact hpadded c hc
  | infinite negative =>
    have hplus : ∀ c ∈ "inf".toList, isNumeric c = true := forall_mem_of_all (by decide)
    have hminus : ∀ c ∈ "-inf".toList, isNumeric c = true := forall_mem_of_all (by decide)
    cases negative with
    | false => exact hplus
    | true => exact hminus
  | nan =>
    have hnan : ∀ c ∈ "NaN".toList, isNumeric c = true := forall_mem_of_all (by decide)
    exact hnan

section Logs

/-- What a row of the logs page has places for. -/
inductive LogHole where
  | ts | tier | provider | model | inTok | outTok | cost | latency | fallbackCount | finish
  deriving DecidableEq, Repr

def logsEmpty : String :=
  "<div class=\"center-empty\">No requests logged yet. Make a chat completion to populate " ++
    "this view.</div>"

def logRow : List (Piece LogHole) :=
  [.lit "<tr>\n              <td><code class=\"kbd\">", .hole .ts,
    .lit "</code></td>\n              <td><span class=\"badge healthy\">", .hole .tier,
    .lit "</span></td>\n              <td><code>", .hole .provider, .lit "/", .hole .model,
    .lit "</code></td>\n              <td>", .hole .inTok, .lit " → ", .hole .outTok,
    .lit "</td>\n              <td>", .hole .cost,
    .lit "</td>\n              <td>", .hole .latency,
    .lit "ms</td>\n              <td>", .hole .fallbackCount,
    .lit "</td>\n              <td>", .hole .finish,
    .lit "</td>\n            </tr>"]

def logCost (r : RequestRow) : String :=
  match r.costUsd with
  | some c => "$" ++ fixedPoint 5 c
  | none => "—"

def logData (r : RequestRow) : LogHole → String
  | .ts => htmlEscape r.createdAt
  | .tier => htmlEscape r.tier
  | .provider => htmlEscape r.routedProvider
  | .model => htmlEscape r.routedModel
  | .inTok => toString (r.inputTokens.getD 0).toNat
  | .outTok => toString (r.outputTokens.getD 0).toNat
  | .cost => logCost r
  | .latency => toString r.totalLatencyMs
  | .fallbackCount => toString r.fallbackCount
  | .finish => htmlEscape (r.finishReason.getD "—")

def logsHead : List (Piece Empty) :=
  [.lit "<table>\n  <thead><tr><th>Time</th><th>Tier</th><th>Route</th><th>Tokens (in→out)</th>",
    .lit "<th>Cost</th><th>Latency</th><th>Fallbacks</th><th>Finish</th></tr></thead>\n  <tbody>"]

def tableFoot : List (Piece Empty) := [.lit "</tbody>\n</table>"]

def renderLogsRows (rows : List RequestRow) : String :=
  if rows = [] then logsEmpty
  else table logsHead tableFoot (rows.map fun r => fill logRow (logData r))

def logShown (r : RequestRow) : LogHole → String
  | .ts => r.createdAt
  | .tier => r.tier
  | .provider => r.routedProvider
  | .model => r.routedModel
  | .inTok => toString (r.inputTokens.getD 0).toNat
  | .outTok => toString (r.outputTokens.getD 0).toNat
  | .cost => logCost r
  | .latency => toString r.totalLatencyMs
  | .fallbackCount => toString r.fallbackCount
  | .finish => r.finishReason.getD "—"

def logLayout : List (List (List (Char ⊕ LogHole))) :=
  [[[.inr .ts], [.inr .tier], [.inr .provider, .inl '/', .inr .model],
    [.inr .inTok, .inl ' ', .inl '→', .inl ' ', .inr .outTok], [.inr .cost],
    [.inr .latency, .inl 'm', .inl 's'], [.inr .fallbackCount], [.inr .finish]]]

theorem logRow_draws : Draws holeContexts logRow logLayout :=
  draws_sound
    [.inl _, .inr .ts, .inl _, .inr .tier, .inl _, .inr .provider, .inl _, .inr .model, .inl _,
      .inr .inTok, .inl _, .inr .outTok, .inl _, .inr .cost, .inl _, .inr .latency, .inl _,
      .inr .fallbackCount, .inl _, .inr .finish, .inl _] rfl (by decide +kernel)

def logsTitles : List String :=
  ["Time", "Tier", "Route", "Tokens (in→out)", "Cost", "Latency", "Fallbacks", "Finish"]

theorem logsHead_draws : Draws [] logsHead [words logsTitles] :=
  draws_sound [.inl _, .inl _] rfl (by decide)

theorem tableFoot_draws : Draws [] tableFoot [] :=
  draws_sound [.inl _] rfl (by decide)

theorem stands_logCost (hcontext : context ∈ holeContexts) (r : RequestRow) :
    Stands context (logCost r).toList (logCost r).toList := by
  apply stands_self hcontext
  intro c hc
  rw [logCost] at hc
  split at hc
  · rw [String.toList_append, List.mem_append] at hc
    rcases hc with hc | hc
    · obtain rfl := List.mem_singleton.mp hc
      decide
    · exact not_markup_of_isNumeric (isNumeric_fixedPoint 5 _ c hc)
  · obtain rfl := List.mem_singleton.mp hc
    decide

theorem stands_toString (hcontext : context ∈ holeContexts) (n : Nat) :
    Stands context (toString n).toList (toString n).toList :=
  stands_self hcontext fun c hc => not_markup_of_isNumeric (isNumeric_toString n c hc)

theorem stands_logData (r : RequestRow) (i : LogHole) (hcontext : context ∈ holeContexts) :
    Stands context (logData r i).toList (logShown r i).toList := by
  cases i with
  | ts => exact stands_htmlEscape hcontext r.createdAt
  | tier => exact stands_htmlEscape hcontext r.tier
  | provider => exact stands_htmlEscape hcontext r.routedProvider
  | model => exact stands_htmlEscape hcontext r.routedModel
  | inTok => exact stands_toString hcontext _
  | outTok => exact stands_toString hcontext _
  | cost => exact stands_logCost hcontext r
  | latency => exact stands_toString hcontext _
  | fallbackCount => exact stands_toString hcontext _
  | finish => exact stands_htmlEscape hcontext _

/-- What a row of the page says of a request. -/
def logCells (r : RequestRow) : List String :=
  [r.createdAt, r.tier, r.routedProvider ++ "/" ++ r.routedModel,
    toString (r.inputTokens.getD 0).toNat ++ " → " ++ toString (r.outputTokens.getD 0).toNat,
    logCost r, toString r.totalLatencyMs ++ "ms", toString r.fallbackCount,
    r.finishReason.getD "—"]

theorem shows_logRow (r : RequestRow) :
    Shows (fill logRow (logData r)) [(logCells r).map String.toList] (frame logRow) := by
  have hfill := logRow_draws.fill fun i _ hcontext => stands_logData r i hcontext
  have hcells : logLayout.map (List.map (List.flatMap (put fun i => (logShown r i).toList))) =
      [(logCells r).map String.toList] := by
    simp only [logLayout, logCells, logShown, put, List.map_cons, List.map_nil, List.flatMap_cons,
      List.flatMap_nil, List.append_nil, String.toList_append, List.append_assoc]
    rfl
  rwa [hcells] at hfill

theorem shows_logs {rows : List RequestRow} (hne : rows ≠ []) :
    Shows (renderLogsRows rows) ((logsTitles :: rows.map logCells).map (List.map String.toList))
      (frame logsHead ++ rows.flatMap (fun _ => frame logRow) ++ frame tableFoot) := by
  rw [renderLogsRows, if_neg hne]
  exact shows_table logsHead_draws tableFoot_draws fun r _ => shows_logRow r

end Logs

section Rules

inductive RuleHole where
  | i | cond | tier
  deriving DecidableEq, Repr

def rulesEmpty : String :=
  "<div class=\"center-empty\" id=\"rule-list\">No rules. Add one above.</div>"

def ruleRow : List (Piece RuleHole) :=
  [.lit "<tr id=\"rule-", .hole .i, .lit "\">\n              <td><code>", .hole .i,
    .lit "</code></td>\n              <td><code>", .hole .cond,
    .lit "</code></td>\n              <td><span class=\"badge healthy\">", .hole .tier,
    .lit "</span></td>\n              <td><form hx-post=\"/admin/rules/", .hole .i,
    .lit "\" hx-target=\"#rule-list\" hx-swap=\"outerHTML\" hx-confirm=\"Delete rule ", .hole .i,
    .lit "?\" class=\"inline\"><button class=\"danger\" type=\"submit\">Delete</button></form>",
    .lit "</td>\n            </tr>"]

def renderCondition (cond : DetectionCondition) : String :=
  let parts := (cond.hasTools.map fun t => s!"has_tools = {t}").toList ++
    (cond.inputTokensGt.map fun n => s!"input_tokens > {n}").toList ++
    (match cond.promptContains with
      | some kws => if kws = [] then [] else ["prompt_contains: " ++ Str.join ", " kws]
      | none => [])
  if parts = [] then "(always)" else Str.join " AND " parts

def ruleData (rule : DetectionRule × Nat) : RuleHole → String
  | .i => toString rule.2
  | .cond => htmlEscape (renderCondition rule.1.condition)
  | .tier => htmlEscape rule.1.tier

def rulesHead : List (Piece Empty) :=
  [.lit "<table id=\"rule-list\">\n  <thead><tr><th>#</th><th>Condition</th><th>Tier</th><th></th>",
    .lit "</tr></thead>\n  <tbody>"]

def renderRulesList (rules : List DetectionRule) : String :=
  if rules = [] then rulesEmpty
  else table rulesHead tableFoot (rules.zipIdx.map fun rule => fill ruleRow (ruleData rule))

def ruleShown (rule : DetectionRule × Nat) : RuleHole → String
  | .i => toString rule.2
  | .cond => renderCondition rule.1.condition
  | .tier => rule.1.tier

def ruleLayout : List (List (List (Char ⊕ RuleHole))) :=
  [[[.inr .i], [.inr .cond], [.inr .tier], "Delete".toList.map .inl]]

theorem ruleRow_draws : Draws holeContexts ruleRow ruleLayout :=
  draws_sound
    [.inl _, .inr .i, .inl _, .inr .i, .inl _, .inr .cond, .inl _, .inr .tier, .inl _, .inr .i,
      .inl _, .inr .i, .inl _, .inl _] rfl (by decide +kernel)

def rulesTitles : List String := ["#", "Condition", "Tier", ""]

theorem rulesHead_draws : Draws [] rulesHead [words rulesTitles] :=
  draws_sound [.inl _, .inl _] rfl (by decide)

def ruleCells (rule : DetectionRule × Nat) : List String :=
  [toString rule.2, renderCondition rule.1.condition, rule.1.tier, "Delete"]

theorem stands_ruleData (rule : DetectionRule × Nat) (hole : RuleHole)
    (hcontext : context ∈ holeContexts) :
    Stands context (ruleData rule hole).toList (ruleShown rule hole).toList := by
  cases hole with
  | i => exact stands_toString hcontext rule.2
  | cond => exact stands_htmlEscape hcontext _
  | tier => exact stands_htmlEscape hcontext rule.1.tier

theorem shows_ruleRow (rule : DetectionRule × Nat) :
    Shows (fill ruleRow (ruleData rule)) [(ruleCells rule).map String.toList] (frame ruleRow) := by
  have hfill := ruleRow_draws.fill fun hole _ hcontext => stands_ruleData rule hole hcontext
  have hcells : ruleLayout.map (List.map (List.flatMap
      (put fun hole => (ruleShown rule hole).toList))) = [(ruleCells rule).map String.toList] := by
    simp only [ruleLayout, ruleCells, ruleShown, put, flatMap_put_inl, List.map_cons, List.map_nil,
      List.flatMap_cons, List.flatMap_nil, List.append_nil]
  rwa [hcells] at hfill

theorem shows_rules {rules : List DetectionRule} (hne : rules ≠ []) :
    Shows (renderRulesList rules)
      ((rulesTitles :: rules.zipIdx.map ruleCells).map (List.map String.toList))
      (frame rulesHead ++ rules.zipIdx.flatMap (fun _ => frame ruleRow) ++ frame tableFoot) := by
  rw [renderRulesList, if_neg hne]
  exact shows_table rulesHead_draws tableFoot_draws fun rule _ => shows_ruleRow rule

end Rules

section Tiers

inductive TierHole where
  | k | primary | fallbacks | downgrade | allow
  deriving DecidableEq, Repr

def tiersEmpty : String :=
  "<div class=\"center-empty\">No tiers configured. Add a <code>[tiers.*]</code> block to " ++
    "<code>token-dealer.toml</code> and POST <code>/admin/config/reload</code>.</div>"

def tierRow : List (Piece TierHole) :=
  [.lit "<tr id=\"tier-", .hole .k, .lit "\">\n              <td><strong>", .hole .k,
    .lit "</strong></td>\n              <td><form hx-post=\"/admin/tiers/", .hole .k,
    .lit "\" hx-target=\"#tier-", .hole .k,
    .lit "\" hx-swap=\"outerHTML\" hx-trigger=\"submit\" class=\"inline\">",
    .lit "<input name=\"primary\" value=\"", .hole .primary,
    .lit "\" /></form></td>\n              <td><code>", .hole .fallbacks,
    .lit "</code></td>\n              <td>", .hole .downgrade,
    .lit "</td>\n              <td>", .hole .allow, .lit "</td>\n            </tr>"]

/-- The tiers that come first, in this order. -/
def tierOrder : List String :=
  ["simple", "standard", "complex", "reasoning", "high_context", "multimodal"]

/-- Where a tier is put: the others come behind by the lengths of their names. -/
def tierRank (k : String) : Nat :=
  (tierOrder.findIdx? (· = k)).getD (tierOrder.length + k.utf8ByteSize)

def tierData (t : String × TierConfig) : TierHole → String
  | .k => htmlEscape t.1
  | .primary => htmlEscape t.2.primary
  | .fallbacks => htmlEscape (Str.join ", " t.2.fallbacks)
  | .downgrade => htmlEscape (t.2.downgradeTo.getD "—")
  | .allow => if t.2.allowTierDowngrade then "yes" else "no"

def tiersHead : List (Piece Empty) :=
  [.lit "<table>\n  <thead><tr><th>Tier</th><th>Primary model</th><th>Fallbacks</th>",
    .lit "<th>Downgrade to</th><th>Allow downgrade</th></tr></thead>\n  <tbody>"]

/-- The tiers as a map lists them, which may be in any order. -/
def renderTiersList (tiers : List (String × TierConfig)) : String :=
  if tiers = [] then tiersEmpty
  else
    table tiersHead tableFoot ((tiers.mergeSort fun a b => tierRank a.1 ≤ tierRank b.1).map fun t =>
      fill tierRow (tierData t))

def tierShown (t : String × TierConfig) : TierHole → String
  | .k => t.1
  | .primary => t.2.primary
  | .fallbacks => Str.join ", " t.2.fallbacks
  | .downgrade => t.2.downgradeTo.getD "—"
  | .allow => if t.2.allowTierDowngrade then "yes" else "no"

def tierLayout : List (List (List (Char ⊕ TierHole))) :=
  [[[.inr .k], [.inr .primary], [.inr .fallbacks], [.inr .downgrade], [.inr .allow]]]

theorem tierRow_draws : Draws holeContexts tierRow tierLayout :=
  draws_sound
    [.inl _, .inr .k, .inl _, .inr .k, .inl _, .inr .k, .inl _, .inr .k, .inl _, .inl _,
      .inr .primary, .inl _, .inr .fallbacks, .inl _, .inr .downgrade, .inl _, .inr .allow, .inl _]
    rfl (by decide +kernel)

def tiersTitles : List String :=
  ["Tier", "Primary model", "Fallbacks", "Downgrade to", "Allow downgrade"]

theorem tiersHead_draws : Draws [] tiersHead [words tiersTitles] :=
  draws_sound [.inl _, .inl _] rfl (by decide)

def tierCells (t : String × TierConfig) : List String :=
  [t.1, t.2.primary, Str.join ", " t.2.fallbacks, t.2.downgradeTo.getD "—",
    if t.2.allowTierDowngrade then "yes" else "no"]

theorem stands_tierData (t : String × TierConfig) (i : TierHole)
    (hcontext : context ∈ holeContexts) :
    Stands context (tierData t i).toList (tierShown t i).toList := by
  cases i with
  | k => exact stands_htmlEscape hcontext t.1
  | primary => exact stands_htmlEscape hcontext t.2.primary
  | fallbacks => exact stands_htmlEscape hcontext _
  | downgrade => exact stands_htmlEscape hcontext _
  | allow =>
    have hyes : ∀ c ∈ "yes".toList, c ≠ '<' ∧ c ≠ '&' ∧ c ≠ '"' := forall_mem_of_all (by decide)
    have hno : ∀ c ∈ "no".toList, c ≠ '<' ∧ c ≠ '&' ∧ c ≠ '"' := forall_mem_of_all (by decide)
    rw [tierData, tierShown]
    split
    · exact stands_self hcontext hyes
    · exact stands_self hcontext hno

theorem shows_tierRow (t : String × TierConfig) :
    Shows (fill tierRow (tierData t)) [(tierCells t).map String.toList] (frame tierRow) := by
  have hfill := tierRow_draws.fill fun i _ hcontext => stands_tierData t i hcontext
  have hcells : tierLayout.map (List.map (List.flatMap (put fun i => (tierShown t i).toList))) =
      [(tierCells t).map String.toList] := by
    simp only [tierLayout, tierCells, tierShown, put, List.map_cons, List.map_nil,
      List.flatMap_cons, List.flatMap_nil, List.append_nil]
  rwa [hcells] at hfill

theorem shows_tiers {tiers : List (String × TierConfig)} (hne : tiers ≠ []) :
    Shows (renderTiersList tiers)
      ((tiersTitles :: (tiers.mergeSort fun a b => tierRank a.1 ≤ tierRank b.1).map tierCells).map
        (List.map String.toList))
      (frame tiersHead ++ (tiers.mergeSort fun a b => tierRank a.1 ≤ tierRank b.1).flatMap
        (fun _ => frame tierRow) ++ frame tableFoot) := by
  rw [renderTiersList, if_neg hne]
  exact shows_table tiersHead_draws tableFoot_draws fun t _ => shows_tierRow t

theorem lt_length_of_known (hknown : tierOrder.findIdx? (· = k) = some i) :
    i < tierOrder.length := by
  obtain ⟨hi, -, -⟩ := List.findIdx?_eq_some_iff_getElem.mp hknown
  exact hi

/-- Two tiers come at the same place only if neither is one of the first and their names are of the
same length. -/
theorem tierRank_eq_iff (hne : k ≠ k') : tierRank k = tierRank k' ↔
    k ∉ tierOrder ∧ k' ∉ tierOrder ∧ k.utf8ByteSize = k'.utf8ByteSize := by
  have hmem : ∀ k : String, k ∉ tierOrder ↔ tierOrder.findIdx? (· = k) = none := by
    intro k
    rw [List.findIdx?_eq_none_iff]
    constructor
    · intro hout x hx
      exact decide_eq_false fun heq => hout (heq ▸ hx)
    · intro hall hin
      exact absurd rfl (of_decide_eq_false (hall k hin))
  rw [hmem, hmem, tierRank, tierRank]
  cases hk : tierOrder.findIdx? (· = k) with
  | some i =>
    refine iff_of_false ?_ (by intro h; cases h.1)
    have hi := lt_length_of_known hk
    cases hk' : tierOrder.findIdx? (· = k') with
    | some j =>
      obtain ⟨hi, hik, -⟩ := List.findIdx?_eq_some_iff_getElem.mp hk
      obtain ⟨hj, hjk, -⟩ := List.findIdx?_eq_some_iff_getElem.mp hk'
      intro heq
      obtain rfl : i = j := heq
      exact hne ((of_decide_eq_true hik).symm.trans (of_decide_eq_true hjk))
    | none =>
      rw [Option.getD_some, Option.getD_none]
      omega
  | none =>
    cases hk' : tierOrder.findIdx? (· = k') with
    | some j =>
      refine iff_of_false ?_ (by intro h; cases h.2.1)
      have hj := lt_length_of_known hk'
      rw [Option.getD_some, Option.getD_none]
      omega
    | none => simp only [Option.getD_none, Nat.add_left_cancel_iff, true_and]

/-- The order of the tiers on the page. -/
def tiersLe (a b : String × TierConfig) : Bool := tierRank a.1 ≤ tierRank b.1

theorem isRanking_tiersLe : OrderBy.IsRanking tiersLe :=
  OrderBy.isRanking_key fun t : String × TierConfig => tierRank t.1

theorem tiersTable {tiers : List (String × TierConfig)} (hne : tiers ≠ []) :
    tableRows (renderTiersList tiers) = tiersTitles :: (tiers.mergeSort tiersLe).map tierCells :=
  (shows_tiers hne).tableRows_words

/-- Lists of tiers of other names differ in what they show. -/
theorem eq_of_tierCells {xs ys : List (String × TierConfig)}
    (hinj : ∀ a ∈ xs, ∀ b ∈ ys, a.1 = b.1 → a = b) (h : xs.map tierCells = ys.map tierCells) :
    xs = ys := by
  induction xs generalizing ys with
  | nil =>
    cases ys with
    | nil => rfl
    | cons b ys => cases h
  | cons a xs ih =>
    cases ys with
    | nil => cases h
    | cons b ys =>
      obtain ⟨hhead, htail⟩ := List.cons.inj h
      have hname : a.1 = b.1 := (List.cons.inj hhead).1
      rw [hinj a List.mem_cons_self b List.mem_cons_self hname]
      rw [ih (fun a ha b hb => hinj a (List.mem_cons_of_mem _ ha) b (List.mem_cons_of_mem _ hb))
        htail]

theorem eq_of_name {tiers : List (String × TierConfig)} (hnames : (tiers.map Prod.fst).Nodup)
    (ha : a ∈ tiers) (hb : b ∈ tiers) (h : a.1 = b.1) : a = b :=
  List.inj_on_of_nodup_map hnames ha hb h

/-- Each tier is on the page with what is configured for it, whatever order the map lists them in;
the page is the same for every such order exactly if no two names that it does not know are of the
same length. -/
theorem tiers_page (tiers : List (String × TierConfig)) (hne : tiers ≠ [])
    (hnames : (tiers.map Prod.fst).Nodup) :
    (∀ scan : List (String × TierConfig), scan.Perm tiers →
      ∃ shown : List (String × TierConfig), shown.Perm tiers ∧
      shown.Pairwise (fun a b => tierRank a.1 ≤ tierRank b.1) ∧
      tableRows (renderTiersList scan) = tiersTitles :: shown.map tierCells) ∧
    ((∀ scan : List (String × TierConfig), scan.Perm tiers →
        renderTiersList scan = renderTiersList tiers) ↔
      ∀ a ∈ tiers, ∀ b ∈ tiers, a.1 ∉ tierOrder → b.1 ∉ tierOrder →
        a.1.utf8ByteSize = b.1.utf8ByteSize → a.1 = b.1) := by
  have hscan_ne : ∀ scan : List (String × TierConfig), scan.Perm tiers → scan ≠ [] := by
    rintro scan hscan rfl
    exact hne hscan.nil_eq.symm
  constructor
  · intro scan hscan
    refine ⟨scan.mergeSort tiersLe, (List.mergeSort_perm scan tiersLe).trans hscan, ?_,
      tiersTable (hscan_ne scan hscan)⟩
    exact (List.pairwise_mergeSort isRanking_tiersLe.trans isRanking_tiersLe.total scan).imp
      of_decide_eq_true
  · have hsettled := OrderBy.mergeSort_settled_iff isRanking_tiersLe
      (List.Nodup.of_map Prod.fst hnames)
    have hpages : (∀ scan : List (String × TierConfig), scan.Perm tiers →
        renderTiersList scan = renderTiersList tiers) ↔
        ∀ scan : List (String × TierConfig), scan.Perm tiers →
          scan.mergeSort tiersLe = tiers.mergeSort tiersLe := by
      constructor
      · intro hsame scan hscan
        have hrows := congrArg tableRows (hsame scan hscan)
        rw [tiersTable (hscan_ne scan hscan), tiersTable hne] at hrows
        apply eq_of_tierCells _ (List.cons.inj hrows).2
        intro a ha b hb
        exact eq_of_name hnames (hscan.mem_iff.mp (List.mem_mergeSort.mp ha))
          (List.mem_mergeSort.mp hb)
      · intro hsame scan hscan
        have hsorted : (scan.mergeSort fun a b => decide (tierRank a.1 ≤ tierRank b.1)) =
            tiers.mergeSort fun a b => decide (tierRank a.1 ≤ tierRank b.1) := hsame scan hscan
        rw [renderTiersList, renderTiersList, if_neg (hscan_ne scan hscan), if_neg hne, hsorted]
    rw [hpages, hsettled]
    constructor
    · intro hanti a ha b hb haout hbout hsize
      by_contra hname
      have heq : tierRank a.1 = tierRank b.1 :=
        (tierRank_eq_iff hname).mpr ⟨haout, hbout, hsize⟩
      exact hname (congrArg Prod.fst (hanti a ha b hb (decide_eq_true heq.le)
        (decide_eq_true heq.ge)))
    · intro hdistinct a ha b hb hab hba
      apply eq_of_name hnames ha hb
      by_contra hname
      have heq : tierRank a.1 = tierRank b.1 :=
        Nat.le_antisymm (of_decide_eq_true hab) (of_decide_eq_true hba)
      obtain ⟨haout, hbout, hsize⟩ := (tierRank_eq_iff hname).mp heq
      exact hname (hdistinct a ha b hb haout hbout hsize)

def sampleTiers : List (String × TierConfig) :=
  [("bulk", { primary := "groq/llama" }), ("simple", { primary := "openai/gpt-4o-mini" })]

theorem tiers_page_sample :
    (∀ scan : List (String × TierConfig), scan.Perm sampleTiers →
      ∃ shown : List (String × TierConfig), shown.Perm sampleTiers ∧
      shown.Pairwise (fun a b => tierRank a.1 ≤ tierRank b.1) ∧
      tableRows (renderTiersList scan) = tiersTitles :: shown.map tierCells) ∧
    ((∀ scan : List (String × TierConfig), scan.Perm sampleTiers →
        renderTiersList scan = renderTiersList sampleTiers) ↔
      ∀ a ∈ sampleTiers, ∀ b ∈ sampleTiers, a.1 ∉ tierOrder → b.1 ∉ tierOrder →
        a.1.utf8ByteSize = b.1.utf8ByteSize → a.1 = b.1) :=
  tiers_page sampleTiers (List.cons_ne_nil _ _) (by decide)

end Tiers

section Providers

inductive ProviderHole where
  | id | typeName | base | model | key
  deriving DecidableEq, Repr

/-- How the key of a provider is put: the variable that it is read from, or a mask. -/
inductive KeyShape where
  | env
  | masked
  | absent
  deriving DecidableEq, Repr

namespace ProviderConfig

def isLocal (p : ProviderConfig) : Bool := p.providerType ∈ [.ollama, .llamaCpp, .lmStudio]

/-- The name of the variant in lower case. -/
def typeName (p : ProviderConfig) : String :=
  match p.providerType with
  | .opencodeGo => "opencodego"
  | .opencodeZen => "opencodezen"
  | .githubCopilot => "githubcopilot"
  | .ollamaCloud => "ollamacloud"
  | .llamaCpp => "llamacpp"
  | .lmStudio => "lmstudio"
  | t => t.asStr

def keyShape (p : ProviderConfig) : KeyShape :=
  match p.key with
  | some k =>
    if Str.startsWith k "$\x7b" && Str.endsWith k "\x7d" then .env
    else if k ≠ "" then .masked else .absent
  | none => .absent

/-- The name between the braces, or a bullet for each byte, eight at most. -/
def keyText (p : ProviderConfig) : String :=
  match p.keyShape with
  | .env => String.ofList ((p.key.getD "").toList.drop 2).dropLast
  | .masked => String.ofList (List.replicate (min (p.key.getD "").utf8ByteSize 8) '•')
  | .absent => "—"

end ProviderConfig

def providersEmpty : String :=
  "<div class=\"center-empty\" id=\"provider-list\">No providers configured. Add one above, or " ++
    "uncomment a block in <code>token-dealer.toml</code> and POST " ++
    "<code>/admin/config/reload</code>.</div>"

def keyDisp : KeyShape → List (Piece ProviderHole)
  | .env => [.lit "<span class=\"muted\">env: ", .hole .key, .lit "</span>"]
  | .masked => [.lit "<span class=\"kbd\">", .hole .key, .lit "</span>"]
  | .absent => [.lit "<span class=\"muted\">", .hole .key, .lit "</span>"]

def badge (isLocal : Bool) : List (Piece ProviderHole) :=
  [.lit (if isLocal then "<span class=\"badge local\">local</span>"
    else "<span class=\"badge healthy\">cloud</span>")]

def providerRow (isLocal : Bool) (shape : KeyShape) : List (Piece ProviderHole) :=
  [.lit "<tr id=\"provider-", .hole .id, .lit "\">\n              <td><strong>", .hole .id,
    .lit "</strong></td>\n              <td><code>", .hole .typeName, .lit "</code> "] ++
  badge isLocal ++
  [.lit "</td>\n              <td>", .hole .base, .lit "</td>\n              <td><code>",
    .hole .model, .lit "</code></td>\n              <td>"] ++
  keyDisp shape ++
  [.lit "</td>\n              <td><form hx-post=\"/admin/ui/remove/", .hole .id,
    .lit "\" hx-target=\"#provider-list\" hx-swap=\"outerHTML\" hx-confirm=\"Remove provider ",
    .hole .id, .lit "?\" class=\"inline\"><button class=\"danger\" type=\"submit\">Remove</button>",
    .lit "</form></td>\n            </tr>"]

def providerData (p : ProviderConfig) : ProviderHole → String
  | .id => htmlEscape p.id
  | .typeName => p.typeName
  | .base => htmlEscape (p.baseUrl.getD "(manifest default)")
  | .model => htmlEscape (p.defaultModel.getD "(manifest default)")
  | .key => p.keyText

def providersHead : List (Piece Empty) :=
  [.lit "<table id=\"provider-list\">\n  <thead><tr><th>ID</th><th>Type</th><th>Base URL</th>",
    .lit "<th>Default model</th><th>Key</th><th></th></tr></thead>\n  <tbody>"]

def renderProvidersList (providers : List ProviderConfig) : String :=
  if providers = [] then providersEmpty
  else
    table providersHead tableFoot (providers.map fun p =>
      fill (providerRow p.isLocal p.keyShape) (providerData p))

def providerShown (p : ProviderConfig) : ProviderHole → String
  | .id => p.id
  | .typeName => p.typeName
  | .base => p.baseUrl.getD "(manifest default)"
  | .model => p.defaultModel.getD "(manifest default)"
  | .key => p.keyText

def badgeText (isLocal : Bool) : String := if isLocal then " local" else " cloud"

def keyFront : KeyShape → String
  | .env => "env: "
  | .masked | .absent => ""

def providerLayout (isLocal : Bool) (shape : KeyShape) : List (List (List (Char ⊕ ProviderHole))) :=
  [[[.inr .id], .inr .typeName :: (badgeText isLocal).toList.map .inl, [.inr .base],
    [.inr .model], (keyFront shape).toList.map .inl ++ [.inr .key], "Remove".toList.map .inl]]

theorem providerRow_draws (isLocal : Bool) (shape : KeyShape) :
    Draws holeContexts (providerRow isLocal shape) (providerLayout isLocal shape) := by
  cases isLocal <;> cases shape <;>
  · apply draws_sound
      [.inl _, .inr .id, .inl _, .inr .id, .inl _, .inr .typeName, .inl _, .inl _, .inl _,
        .inr .base, .inl _, .inr .model, .inl _, .inl _, .inr .key, .inl _, .inl _, .inr .id,
        .inl _, .inr .id, .inl _, .inl _]
    · rfl
    · decide +kernel

def providersTitles : List String := ["ID", "Type", "Base URL", "Default model", "Key", ""]

theorem providersHead_draws : Draws [] providersHead [words providersTitles] :=
  draws_sound [.inl _, .inl _] rfl (by decide)

/-- What a row of the page says of a provider. -/
def providerCells (p : ProviderConfig) : List String :=
  [p.id, p.typeName ++ badgeText p.isLocal, p.baseUrl.getD "(manifest default)",
    p.defaultModel.getD "(manifest default)", keyFront p.keyShape ++ p.keyText, "Remove"]

theorem typeName_letters (p : ProviderConfig) :
    ∀ c ∈ p.typeName.toList, c ≠ '<' ∧ c ≠ '&' ∧ c ≠ '"' := by
  rw [ProviderConfig.typeName]
  cases p.providerType <;> exact forall_mem_of_all (by decide)

/-- The variable that a key is read from has no characters of markup in its name. -/
def ProviderConfig.PlainKey (p : ProviderConfig) : Prop :=
  p.keyShape = .env → ∀ c ∈ p.keyText.toList, c ≠ '<' ∧ c ≠ '&' ∧ c ≠ '"'

theorem keyText_plain {p : ProviderConfig} (hkey : p.PlainKey) :
    ∀ c ∈ p.keyText.toList, c ≠ '<' ∧ c ≠ '&' ∧ c ≠ '"' := by
  cases hshape : p.keyShape with
  | env => exact hkey hshape
  | masked =>
    intro c hc
    rw [ProviderConfig.keyText, hshape, String.toList_ofList] at hc
    rw [(List.mem_replicate.mp hc).2]
    decide
  | absent =>
    intro c hc
    rw [ProviderConfig.keyText, hshape] at hc
    have hdash : ∀ c ∈ "—".toList, c ≠ '<' ∧ c ≠ '&' ∧ c ≠ '"' := forall_mem_of_all (by decide)
    exact hdash c hc

theorem stands_providerData {p : ProviderConfig} (hkey : p.PlainKey) (hole : ProviderHole)
    (hcontext : context ∈ holeContexts) :
    Stands context (providerData p hole).toList (providerShown p hole).toList := by
  cases hole with
  | id => exact stands_htmlEscape hcontext p.id
  | typeName => exact stands_self hcontext (typeName_letters p)
  | base => exact stands_htmlEscape hcontext _
  | model => exact stands_htmlEscape hcontext _
  | key => exact stands_self hcontext (keyText_plain hkey)

theorem shows_providerRow {p : ProviderConfig} (hkey : p.PlainKey) :
    Shows (fill (providerRow p.isLocal p.keyShape) (providerData p))
      [(providerCells p).map String.toList] (frame (providerRow p.isLocal p.keyShape)) := by
  have hfill := (providerRow_draws p.isLocal p.keyShape).fill
    fun hole _ hcontext => stands_providerData hkey hole hcontext
  have hcells : (providerLayout p.isLocal p.keyShape).map (List.map (List.flatMap
      (put fun hole => (providerShown p hole).toList))) =
      [(providerCells p).map String.toList] := by
    simp only [providerLayout, providerCells, providerShown, put, flatMap_put_inl, List.map_cons,
      List.map_nil, List.flatMap_cons, List.flatMap_nil, List.flatMap_append, List.append_nil,
      String.toList_append]
  rwa [hcells] at hfill

theorem shows_providers {providers : List ProviderConfig} (hne : providers ≠ [])
    (hkeys : ∀ p ∈ providers, p.PlainKey) :
    Shows (renderProvidersList providers)
      ((providersTitles :: providers.map providerCells).map (List.map String.toList))
      (frame providersHead ++
        providers.flatMap (fun p => frame (providerRow p.isLocal p.keyShape)) ++
        frame tableFoot) := by
  rw [renderProvidersList, if_neg hne]
  exact shows_table providersHead_draws tableFoot_draws fun p hp => shows_providerRow (hkeys p hp)

/-- The list of the providers shows each as it is configured and has no tags but its own, for any
ids, addresses and models. -/
theorem providers_page {providers : List ProviderConfig} (hne : providers ≠ [])
    (hkeys : ∀ p ∈ providers, p.PlainKey) :
    tableRows (renderProvidersList providers) = providersTitles :: providers.map providerCells ∧
    tags (renderProvidersList providers) = frame providersHead ++
      providers.flatMap (fun p => frame (providerRow p.isLocal p.keyShape)) ++ frame tableFoot :=
  ⟨(shows_providers hne hkeys).tableRows_words, (shows_providers hne hkeys).tags⟩

def sampleProviders : List ProviderConfig :=
  [{ id := "a\"><b>", providerType := .openai, key := some "$\x7bOPENAI_API_KEY\x7d" },
    { id := "local", providerType := .ollama, key := some "secret" }]

theorem providers_page_sample :
    tableRows (renderProvidersList sampleProviders) =
      providersTitles :: sampleProviders.map providerCells ∧
    tags (renderProvidersList sampleProviders) = frame providersHead ++
      sampleProviders.flatMap (fun p => frame (providerRow p.isLocal p.keyShape)) ++
      frame tableFoot := by
  apply providers_page (List.cons_ne_nil _ _)
  intro p hp _
  simp only [List.mem_cons, List.not_mem_nil, or_false] at hp
  rcases hp with rfl | rfl <;> exact forall_mem_of_all (by decide)

end Providers

namespace Admin

/-- The characters are replaced one after the other. -/
def htmlEscape (s : String) : String :=
  Str.replace (Str.replace (Str.replace s "&" "&amp;") "<" "&lt;") ">" "&gt;"

def testResult (ok : Bool) : List (Piece Unit) :=
  [.lit (if ok then "<div class=\"test-result ok\">" else "<div class=\"test-result error\">"),
    .hole (), .lit "</div>"]

/-- What a test of a provider came to, as the page gets it. -/
def htmlTestResult (ok : Bool) (message : String) : String :=
  fill (testResult ok) fun _ => htmlEscape message

theorem toList_replace_single (s : String) (o : Char) (by' : String) :
    (Str.replace s (String.ofList [o]) by').toList =
      s.toList.flatMap fun c => if c = o then by'.toList else [c] := by
  rw [Str.replace, String.toList_ofList, String.toList_ofList]
  induction s.toList with
  | nil => rfl
  | cons c cs ih =>
    rw [List.flatMap_cons, ← ih, Str.replaceList]
    by_cases hc : c = o
    · subst hc
      have hfound : (Str.dropFront [c] (c :: cs)).isSome = true :=
        Str.isSome_dropFront.mpr ⟨cs, rfl⟩
      rw [if_pos hfound, if_pos rfl]
      rfl
    · have hnone : ¬ (Str.dropFront [o] (c :: cs)).isSome = true := by
        rw [Str.isSome_dropFront, List.cons_prefix_cons]
        exact fun h => hc h.1.symm
      rw [if_neg hnone, if_neg hc]
      rfl

/-- Nothing that is put in for one character is replaced again. -/
theorem toList_htmlEscape (s : String) : (htmlEscape s).toList = s.toList.flatMap fun c =>
    if c = '&' then "&amp;".toList else if c = '<' then "&lt;".toList
    else if c = '>' then "&gt;".toList else [c] := by
  have hamp : ("&" : String) = String.ofList ['&'] := rfl
  have hlt : ("<" : String) = String.ofList ['<'] := rfl
  have hgt : (">" : String) = String.ofList ['>'] := rfl
  rw [htmlEscape, hamp, hlt, hgt, toList_replace_single, toList_replace_single,
    toList_replace_single, List.flatMap_assoc, List.flatMap_assoc]
  congr 1
  funext c
  by_cases hc_amp : c = '&'
  · subst hc_amp
    decide
  · by_cases hc_lt : c = '<'
    · subst hc_lt
      decide
    · simp only [if_neg hc_amp, if_neg hc_lt, List.flatMap_singleton]

theorem stands_htmlEscape (s : String) : Stands .text (htmlEscape s).toList s.toList := by
  rw [toList_htmlEscape]
  apply stands_flatMap
  intro c _
  by_cases hamp : c = '&'
  · rw [if_pos hamp, hamp]
    decide
  · by_cases hlt : c = '<'
    · rw [if_neg hamp, if_pos hlt, hlt]
      decide
    · by_cases hgt : c = '>'
      · rw [if_neg hamp, if_neg hlt, if_pos hgt, hgt]
        decide
      · rw [if_neg hamp, if_neg hlt, if_neg hgt]
        apply stands_plain
        intro d hd
        rw [List.mem_singleton.mp hd, plain, if_neg hlt, if_neg hamp]
        rfl

theorem testResult_draws (ok : Bool) : Draws [.text] (testResult ok) [] := by
  cases ok <;>
  · apply draws_sound [.inl _, .inr (), .inl _]
    · rfl
    · decide

theorem shows_testResult (ok : Bool) (message : String) :
    Shows (htmlTestResult ok message) [] (frame (testResult ok)) := by
  have hmessage : ∀ _ : Unit, ∀ context ∈ [Context.text],
      Stands context (htmlEscape message).toList message.toList := by
    intro _ context hcontext
    rw [List.mem_singleton.mp hcontext]
    exact stands_htmlEscape message
  exact (testResult_draws ok).fill hmessage

end Admin

theorem flatMap_const_of_length {γ δ : Type} {xs : List γ} {ys : List δ}
    (h : xs.length = ys.length) (events : List Event) :
    xs.flatMap (fun _ => events) = ys.flatMap fun _ => events := by
  induction xs generalizing ys with
  | nil =>
    cases ys with
    | nil => rfl
    | cons y ys => cases h
  | cons x xs ih =>
    cases ys with
    | nil => cases h
    | cons y ys => rw [List.flatMap_cons, List.flatMap_cons, ih (Nat.succ.inj h)]

theorem ne_nil_of_length {γ δ : Type} {xs : List γ} {ys : List δ} (h : xs.length = ys.length)
    (hne : xs ≠ []) : ys ≠ [] := by
  rintro rfl
  exact hne (List.eq_nil_of_length_eq_zero h)

/-- Nothing that is logged, configured or answered adds a tag or an attribute to a page: the tags
depend on how many rows there are. -/
theorem pages_tags :
    (∀ rows rows' : List RequestRow, rows.length = rows'.length →
      tags (renderLogsRows rows) = tags (renderLogsRows rows')) ∧
    (∀ rules rules' : List DetectionRule, rules.length = rules'.length →
      tags (renderRulesList rules) = tags (renderRulesList rules')) ∧
    (∀ tiers tiers' : List (String × TierConfig), tiers.length = tiers'.length →
      tags (renderTiersList tiers) = tags (renderTiersList tiers')) ∧
    ∀ (ok : Bool) (message message' : String),
      tags (Admin.htmlTestResult ok message) = tags (Admin.htmlTestResult ok message') := by
  refine ⟨?_, ?_, ?_, ?_⟩
  · intro rows rows' hlength
    by_cases hne : rows = []
    · subst hne
      rw [List.eq_nil_of_length_eq_zero hlength.symm]
    · rw [(shows_logs hne).tags, (shows_logs (ne_nil_of_length hlength hne)).tags,
        flatMap_const_of_length hlength]
  · intro rules rules' hlength
    by_cases hne : rules = []
    · subst hne
      rw [List.eq_nil_of_length_eq_zero hlength.symm]
    · have hindexed : rules.zipIdx.length = rules'.zipIdx.length := by
        rw [List.length_zipIdx, List.length_zipIdx, hlength]
      rw [(shows_rules hne).tags, (shows_rules (ne_nil_of_length hlength hne)).tags,
        flatMap_const_of_length hindexed]
  · intro tiers tiers' hlength
    by_cases hne : tiers = []
    · subst hne
      rw [List.eq_nil_of_length_eq_zero hlength.symm]
    · have hsorted : (tiers.mergeSort fun a b => tierRank a.1 ≤ tierRank b.1).length =
          (tiers'.mergeSort fun a b => tierRank a.1 ≤ tierRank b.1).length := by
        rw [List.length_mergeSort, List.length_mergeSort, hlength]
      rw [(shows_tiers hne).tags, (shows_tiers (ne_nil_of_length hlength hne)).tags,
        flatMap_const_of_length hsorted]
  · intro ok message message'
    rw [(Admin.shows_testResult ok message).tags, (Admin.shows_testResult ok message').tags]

/-- What the logs page asks for. -/
def logsFilter : LogFilter := { limit := 100 }

theorem listed_ne_nil {rows : List StoredRequest} {listed : List RequestRow} (hne : rows ≠ [])
    (h : LatestRequests logsFilter rows listed) : listed ≠ [] := by
  rintro rfl
  have hcount := h.count
  have hall : rows.countP logsFilter.admits = rows.length :=
    List.countP_eq_length.mpr fun r _ => rfl
  rw [hall, List.length_nil] at hcount
  have hpos : 0 < rows.length := List.length_pos_of_ne_nil hne
  have hlimit : 0 < logsFilter.rowLimit := by decide
  omega

/-- After any statements on the log, whatever order its rows are scanned in, the logs page shows the
latest hundred requests with what was logged of them. -/
theorem logs_page (foreignKeys : Bool) (events : List LogStoreEvent) {scan : List StoredRequest}
    (hscan : scan.Perm (LogStore.logged foreignKeys events)) :
    LatestRequests logsFilter (LogStore.logged foreignKeys events) (listRequests logsFilter scan) ∧
    (∀ r ∈ LogStore.logged foreignKeys events, .insertRequest r.created r.log ∈ events) ∧
    (LogStore.logged foreignKeys events ≠ [] →
      tableRows (renderLogsRows (listRequests logsFilter scan)) =
        logsTitles :: (listRequests logsFilter scan).map logCells) := by
  have hlatest := LogStore.latestRequests_list _ logsFilter hscan
  refine ⟨hlatest, fun r hr => LogStore.mem_logged hr, ?_⟩
  intro hne
  exact (shows_logs (listed_ne_nil hne hlatest)).tableRows_words

theorem logs_page_sample :
    LatestRequests logsFilter (LogStore.logged true LogStore.sampleEvents)
      (listRequests logsFilter (LogStore.logged true LogStore.sampleEvents)) ∧
    (∀ r ∈ LogStore.logged true LogStore.sampleEvents,
      .insertRequest r.created r.log ∈ LogStore.sampleEvents) ∧
    (LogStore.logged true LogStore.sampleEvents ≠ [] →
      tableRows (renderLogsRows (listRequests logsFilter
          (LogStore.logged true LogStore.sampleEvents))) =
        logsTitles :: (listRequests logsFilter
          (LogStore.logged true LogStore.sampleEvents)).map logCells) :=
  logs_page true LogStore.sampleEvents (.refl _)

end TokenDealer
