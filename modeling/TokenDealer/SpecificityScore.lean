import TokenDealer.Specificity
import TokenDealer.Tally

set_option autoImplicit true

namespace TokenDealer

namespace Specificity

section

variable (tools : TextTools) (inbound : InboundRequest)

/-- What each tool adds for each front that its name has. -/
def toolEntries : List (SpecificityCategory × Nat) :=
  (inbound.tools.getD []).flatMap fun tool =>
    (toolPrefixToCategory.filter fun (front, _) =>
      Str.startsWith (tools.lowercase tool.function.name) front).map fun (_, cat) =>
        (cat, toolMatchWeight.toNat)

def categoryEntries (text : String) (cat : SpecificityCategory) :
    List (SpecificityCategory × Nat) :=
  ((defaultKeywords cat).filter fun (kw, _) => Str.contains text kw).map fun (_, weight) =>
    (cat, weight.toNat)

/-- What the keywords add that a text contains. -/
def keywordEntries (text : String) : List (SpecificityCategory × Nat) :=
  SpecificityCategory.all.flatMap (categoryEntries text)

def stickyEntries (recent : List SpecificityCategory) : List (SpecificityCategory × Nat) :=
  if stickyAgreementMin ≤ recent.length then
    match (recent.drop (recent.length - stickyHistoryWindow)).eraseDups with
    | [cat] => [(cat, stickyBias.toNat)]
    | _ => []
  else []

/-- All that is added to the scores of a request, in the order of the additions. -/
def scoreEntries (recent : List SpecificityCategory) (text : String) :
    List (SpecificityCategory × Nat) :=
  toolEntries tools inbound ++ keywordEntries (tools.lowercase text) ++ stickyEntries recent

def count (recent : List SpecificityCategory) (text : String) (cat : SpecificityCategory) : Nat :=
  Tally.total cat (scoreEntries tools inbound recent text)

end

/-- Counts as the scores of 32 bits that they come to. -/
def Scores.ofCounts (counts : SpecificityCategory → Nat) : Scores :=
  fun cat => UInt32.ofNat (counts cat)

theorem Scores.add_ofCounts (counts : SpecificityCategory → Nat) (cat : SpecificityCategory)
    (weight : UInt32) :
    (ofCounts counts).add cat weight = ofCounts (Tally.add counts cat weight.toNat) := by
  funext c
  rw [add, ofCounts, ofCounts, Tally.add]
  split
  · rw [UInt32.ofNat_add, UInt32.ofNat_toNat]
  · rfl

/-- A loop of weighted additions, of which only some are made. -/
theorem foldl_add_ofCounts (rows : List α) (p : α → Bool) (key : α → SpecificityCategory)
    (weight : α → UInt32) (counts : SpecificityCategory → Nat) :
    rows.foldl (fun scores row => if p row then scores.add (key row) (weight row) else scores)
        (Scores.ofCounts counts) =
      Scores.ofCounts (Tally.addAll counts
        ((rows.filter p).map fun row => (key row, (weight row).toNat))) := by
  induction rows generalizing counts with
  | nil => rfl
  | cons row rest ih =>
    rw [List.foldl_cons, List.filter_cons]
    cases hrow : p row with
    | false =>
      rw [if_neg Bool.false_ne_true, if_neg Bool.false_ne_true]
      exact ih counts
    | true =>
      rw [if_pos rfl, if_pos rfl, Scores.add_ofCounts, ih]
      rfl

/-- Two loops, one in the other. -/
theorem foldl_ofCounts {step : Scores → α → Scores}
    {entries : α → List (SpecificityCategory × Nat)}
    (hstep : ∀ counts a, step (Scores.ofCounts counts) a =
      Scores.ofCounts (Tally.addAll counts (entries a)))
    (items : List α) (counts : SpecificityCategory → Nat) :
    items.foldl step (Scores.ofCounts counts) =
      Scores.ofCounts (Tally.addAll counts (items.flatMap entries)) := by
  induction items generalizing counts with
  | nil => rfl
  | cons a rest ih =>
    rw [List.foldl_cons, hstep, ih, List.flatMap_cons, Tally.addAll_append]

section

variable {tools : TextTools} {inbound : InboundRequest}

theorem addToolMatches_ofCounts (counts : SpecificityCategory → Nat) :
    addToolMatches tools inbound (Scores.ofCounts counts) =
      Scores.ofCounts (Tally.addAll counts (toolEntries tools inbound)) := by
  apply foldl_ofCounts
  intro counts tool
  exact foldl_add_ofCounts toolPrefixToCategory
    (fun row => Str.startsWith (tools.lowercase tool.function.name) row.1) Prod.snd
    (fun _ => toolMatchWeight) counts

theorem addKeywords_ofCounts (text : String) (counts : SpecificityCategory → Nat) :
    addKeywords text (Scores.ofCounts counts) =
      Scores.ofCounts (Tally.addAll counts (keywordEntries text)) := by
  apply foldl_ofCounts
  intro counts cat
  exact foldl_add_ofCounts (defaultKeywords cat) (fun row => Str.contains text row.1)
    (fun _ => cat) Prod.snd counts

theorem addSticky_ofCounts (recent : List SpecificityCategory)
    (counts : SpecificityCategory → Nat) :
    addSticky recent (Scores.ofCounts counts) =
      Scores.ofCounts (Tally.addAll counts (stickyEntries recent)) := by
  rw [addSticky, stickyEntries]
  generalize (recent.drop (recent.length - stickyHistoryWindow)).eraseDups = seen
  split
  · rcases seen with _ | ⟨cat, _ | ⟨other, rest⟩⟩
    · rfl
    · exact Scores.add_ofCounts counts cat stickyBias
    · rfl
  · rfl

theorem keyword_ne_empty (cat : SpecificityCategory) : ∀ row ∈ defaultKeywords cat, row.1 ≠ "" := by
  cases cat <;> decide

/-- An empty text adds nothing. -/
theorem keywordEntries_empty : keywordEntries "" = [] := by
  rw [keywordEntries, List.flatMap_eq_nil_iff]
  intro cat _
  rw [categoryEntries, List.map_eq_nil_iff, List.filter_eq_nil_iff]
  intro row hrow
  dsimp only
  rw [Str.contains_empty (keyword_ne_empty cat row hrow)]
  exact Bool.false_ne_true

/-- The scores of a request come from a single list of additions. -/
theorem scores_eq (recent : List SpecificityCategory) (text : String) :
    addSticky recent (addKeywords (tools.lowercase text)
        (addToolMatches tools inbound fun _ => 0)) =
      Scores.ofCounts (count tools inbound recent text) := by
  have hzero : (fun _ => 0 : Scores) = Scores.ofCounts fun _ => 0 := rfl
  rw [hzero, addToolMatches_ofCounts, addKeywords_ofCounts, addSticky_ofCounts,
    ← Tally.addAll_append, ← Tally.addAll_append, ← List.append_assoc]
  congr 1
  funext cat
  rw [Tally.addAll_apply, Nat.zero_add, count, scoreEntries]

/-- The detector gets to the scores: it is on and the header does not decide. -/
structure Scoring (config : SpecificityConfig) (headerOverride : Option String) : Prop where
  enabled : config.enabled = true
  undecided : headerDecision config headerOverride = none

variable {config : SpecificityConfig} {headerOverride : Option String}

theorem detect_scoring (h : Scoring config headerOverride)
    (order recent : List SpecificityCategory) :
    detect tools order config inbound headerOverride recent =
      match lastUserText inbound with
      | none => .error "index out of bounds: the len is 0 but the index is 0"
      | some text =>
        .ok (bestDecision config order (Scores.ofCounts (count tools inbound recent text))) := by
  rw [detect, if_pos h.enabled, h.undecided]
  cases lastUserText inbound with
  | none => rfl
  | some text =>
    dsimp only
    rw [scores_eq]

variable (tools) in
/-- Otherwise the decision has nothing to do with the request. -/
theorem detect_not_scoring (h : ¬ Scoring config headerOverride) :
    ∃ decision, ∀ (order : List SpecificityCategory) (inbound : InboundRequest)
      (recent : List SpecificityCategory),
      detect tools order config inbound headerOverride recent = .ok decision := by
  cases henabled : config.enabled with
  | false => exact ⟨none, fun order inbound recent => detect_off henabled tools order inbound
      headerOverride recent⟩
  | true =>
    cases hheader : headerDecision config headerOverride with
    | none => exact absurd ⟨henabled, hheader⟩ h
    | some decision =>
      refine ⟨some decision, fun order inbound recent => ?_⟩
      rw [detect, if_pos henabled, hheader]

end

end Specificity

end TokenDealer
