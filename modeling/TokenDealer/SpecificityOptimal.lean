import TokenDealer.SpecificityChoice

set_option autoImplicit true

namespace TokenDealer

namespace Specificity

/-- The text of the last message of the user. -/
def userText (inbound : InboundRequest) : Option String :=
  (inbound.messages.reverse.find? fun m => m.role = "user").map fun m => extractText m.content

section

variable (tools : TextTools) (inbound : InboundRequest)

def userKeywords : List (SpecificityCategory × Nat) :=
  ((userText inbound).map fun text => keywordEntries (tools.lowercase text)).getD []

/-- What the score of a category is to be: the fronts of all tools, the keywords of the last message
of the user and the bias count. -/
def dueScore (recent : List SpecificityCategory) (cat : SpecificityCategory) : Nat :=
  Tally.total cat (toolEntries tools inbound ++ userKeywords tools inbound ++ stickyEntries recent)

/-- Where the user has no message, the first message has no keyword. -/
def NoStrayKeywords : Prop :=
  (∀ m ∈ inbound.messages, m.role ≠ "user") → ∀ m, inbound.messages.head? = some m →
    ∀ cat, ∀ row ∈ defaultKeywords cat,
      Str.contains (tools.lowercase (extractText m.content)) row.1 = false

/-- What the decision is to be under given scores. -/
def Optimal (config : SpecificityConfig) (score : SpecificityCategory → Nat) :
    Option SpecificityDecision → Prop
  | none => ∀ cat, ¬ Eligible config score cat
  | some d => IsChoice config score d.category ∧ d.score.toNat = score d.category ∧
      d.threshold = activation config d.category ∧ d.primary = config.primaryFor d.category

end

section

variable {tools : TextTools} {config : SpecificityConfig} {inbound : InboundRequest}
  {recent : List SpecificityCategory}

theorem userText_eq_none_iff :
    userText inbound = none ↔ ∀ m ∈ inbound.messages, m.role ≠ "user" := by
  simp only [userText, Option.map_eq_none_iff, List.find?_eq_none, List.mem_reverse,
    decide_eq_true_eq, ne_eq]

theorem lastUserText_of_user (h : userText inbound = some text) :
    lastUserText inbound = some text := by
  obtain ⟨m, hm, rfl⟩ := Option.map_eq_some_iff.mp h
  rw [lastUserText, hm]
  rfl

/-- Without a message of the user it is the first message that is read. -/
theorem lastUserText_of_no_user (h : userText inbound = none) :
    lastUserText inbound = inbound.messages.head?.map fun m => extractText m.content := by
  rw [lastUserText, Option.map_eq_none_iff.mp h, Option.none_or]

theorem lastUserText_eq_none_iff : lastUserText inbound = none ↔ inbound.messages = [] := by
  constructor
  · intro h
    rw [lastUserText, Option.map_eq_none_iff, Option.or_eq_none_iff] at h
    exact List.head?_eq_none_iff.mp h.2
  · intro h
    rw [lastUserText, h]
    rfl

theorem count_of_user (h : userText inbound = some text) (cat : SpecificityCategory) :
    count tools inbound recent text cat = dueScore tools inbound recent cat := by
  rw [count, scoreEntries, dueScore, userKeywords, h]
  rfl

theorem count_of_no_user (h : userText inbound = none) (text : String)
    (cat : SpecificityCategory) :
    count tools inbound recent text cat = dueScore tools inbound recent cat +
      Tally.total cat (keywordEntries (tools.lowercase text)) := by
  rw [count, scoreEntries, dueScore, userKeywords, h]
  simp only [Option.map_none, Option.getD_none, List.append_nil, Tally.total_append]
  omega

/-- All keywords there are, with their weights. -/
def vocabulary (cat : SpecificityCategory) : List (SpecificityCategory × Nat) :=
  (defaultKeywords cat).map fun (_, weight) => (cat, weight.toNat)

theorem keywordEntries_le (text : String) (cat : SpecificityCategory) :
    Tally.total cat (keywordEntries text) ≤ 100 := by
  have hall : Tally.total cat (SpecificityCategory.all.flatMap vocabulary) ≤ 100 := by
    cases cat <;> decide +kernel
  refine Nat.le_trans (Tally.total_flatMap_le (fun c => ?_) cat _) hall
  exact List.filter_sublist.map _

theorem weight_pos (cat : SpecificityCategory) :
    ∀ row ∈ defaultKeywords cat, row.2.toNat ≠ 0 := by
  cases cat <;> decide

theorem mem_keywordEntries {e : SpecificityCategory × Nat} : e ∈ keywordEntries text ↔
    ∃ cat, ∃ row ∈ defaultKeywords cat, Str.contains text row.1 = true ∧
      (cat, row.2.toNat) = e := by
  simp only [keywordEntries, categoryEntries, List.mem_flatMap, mem_all, true_and,
    List.mem_map, List.mem_filter, and_assoc]

theorem total_keywordEntries_eq_zero_iff :
    (∀ cat, Tally.total cat (keywordEntries text) = 0) ↔
      ∀ cat, ∀ row ∈ defaultKeywords cat, Str.contains text row.1 = false := by
  constructor
  · intro h cat row hrow
    rw [Bool.eq_false_iff]
    intro hcontains
    exact weight_pos cat row hrow (Tally.total_eq_zero_iff.mp (h cat) _
      (mem_keywordEntries.mpr ⟨cat, row, hrow, hcontains, rfl⟩) rfl)
  · intro h cat
    apply Tally.total_eq_zero_iff.mpr
    intro e he _
    obtain ⟨c, row, hrow, hcontains, -⟩ := mem_keywordEntries.mp he
    rw [h c row hrow] at hcontains
    cases hcontains

/-- A configuration with a model for one category only, at any score. -/
def onlyRule (cat : SpecificityCategory) : SpecificityConfig where
  enabled := true
  rules := [⟨cat, "openai/gpt-4o", some 0⟩]

theorem eligible_onlyRule {score : SpecificityCategory → Nat} :
    Eligible (onlyRule cat) score c ↔ c = cat := by
  rw [Eligible, activation, SpecificityConfig.primaryFor, SpecificityConfig.thresholdFor,
    SpecificityConfig.ruleFor, onlyRule]
  by_cases hc : cat = c
  · simp [hc]
  · simp [hc, Ne.symm hc]

theorem optimal_bestDecision {scores : Scores} (hall : Complete order) :
    Optimal config scores.value (bestDecision config order scores) := by
  rw [bestDecision_eq]
  cases hchoice : choice config scores order with
  | none => exact (choice_eq_none_iff hall).mp hchoice
  | some cat => exact ⟨isChoice_of_choice hall hchoice, rfl, rfl, rfl⟩

/-- When one category alone can be chosen the decision shows its score. -/
theorem score_of_optimal {score : SpecificityCategory → Nat} {scores : Scores}
    (hall : Complete order)
    (h : Optimal (onlyRule cat) score (bestDecision (onlyRule cat) order scores)) :
    scores.value cat = score cat := by
  rw [bestDecision_eq] at h
  cases hchoice : choice (onlyRule cat) scores order with
  | none => exact absurd (eligible_onlyRule.mpr rfl) ((choice_eq_none_iff hall).mp hchoice cat)
  | some c =>
    have hc : c = cat := eligible_onlyRule.mp (mem_choice hchoice)
    rw [hchoice, hc] at h
    exact h.2.1

/-- The scores are right when they fit and no keyword comes from elsewhere. -/
theorem wrappedScore_eq_iff (htext : lastUserText inbound = some text) :
    wrappedScore tools inbound recent text = dueScore tools inbound recent ↔
      (∀ cat, dueScore tools inbound recent cat < UInt32.size) ∧ NoStrayKeywords tools inbound := by
  cases huser : userText inbound with
  | some text' =>
    have hsame : text = text' :=
      Option.some.inj (htext.symm.trans (lastUserText_of_user huser))
    subst hsame
    have hpresent : NoStrayKeywords tools inbound := by
      intro hno
      rw [userText_eq_none_iff.mpr hno] at huser
      cases huser
    rw [and_iff_left hpresent]
    constructor
    · intro h cat
      rw [← h]
      exact Nat.mod_lt _ (by decide)
    · intro h
      funext cat
      rw [wrappedScore, count_of_user huser, Nat.mod_eq_of_lt (h cat)]
  | none =>
    obtain ⟨m, hm, rfl⟩ : ∃ m, inbound.messages.head? = some m ∧ extractText m.content = text := by
      rw [lastUserText_of_no_user huser] at htext
      exact Option.map_eq_some_iff.mp htext
    have hstray : NoStrayKeywords tools inbound ↔ ∀ cat,
        Tally.total cat (keywordEntries (tools.lowercase (extractText m.content))) = 0 := by
      rw [total_keywordEntries_eq_zero_iff]
      constructor
      · exact fun h => h (userText_eq_none_iff.mp huser) m hm
      · intro h _ m' hm'
        cases hm.symm.trans hm'
        exact h
    rw [hstray, funext_iff, ← forall_and]
    refine forall_congr' fun cat => ?_
    have hsmall := keywordEntries_le (tools.lowercase (extractText m.content)) cat
    rw [wrappedScore, count_of_no_user huser]
    simp only [UInt32.size] at hsmall ⊢
    omega

end

/-- For every configuration and every order of the map the decision is the best that the tools, the
last message of the user and the last requests call for, unless a score does not fit its 32 bits or
the keywords are those of a message that is not the user's. -/
theorem detect_optimal_iff (tools : TextTools) {inbound : InboundRequest}
    (hmessages : inbound.messages ≠ []) (recent : List SpecificityCategory) :
    (∀ config headerOverride order, Scoring config headerOverride →
      order.Perm SpecificityCategory.all → ∃ decision,
        detect tools order config inbound headerOverride recent = .ok decision ∧
        Optimal config (dueScore tools inbound recent) decision) ↔
      (∀ cat, dueScore tools inbound recent cat < UInt32.size) ∧
        NoStrayKeywords tools inbound := by
  obtain ⟨text, htext⟩ : ∃ text, lastUserText inbound = some text :=
    Option.ne_none_iff_exists'.mp fun h => hmessages (lastUserText_eq_none_iff.mp h)
  have hvalue : (Scores.ofCounts (count tools inbound recent text)).value =
      wrappedScore tools inbound recent text := value_ofCounts _
  rw [← wrappedScore_eq_iff htext]
  constructor
  · intro h
    funext cat
    obtain ⟨decision, hdecision, hoptimal⟩ := h (onlyRule cat) none SpecificityCategory.all
      ⟨rfl, rfl⟩ (.refl _)
    rw [detect_scoring ⟨rfl, rfl⟩, htext] at hdecision
    cases hdecision
    rw [← hvalue]
    exact score_of_optimal (complete_of_perm (.refl _)) hoptimal
  · intro h config headerOverride order hscoring hperm
    refine ⟨bestDecision config order (Scores.ofCounts (count tools inbound recent text)), ?_, ?_⟩
    · rw [detect_scoring hscoring, htext]
    · rw [← h, ← hvalue]
      exact optimal_bestDecision (complete_of_perm hperm)

theorem detect_optimal_sample :
    browsingAndSocialChat.messages ≠ [] ∧
      ∀ config headerOverride order, Scoring config headerOverride →
        order.Perm SpecificityCategory.all → ∃ decision,
          detect sampleTools order config browsingAndSocialChat headerOverride [] = .ok decision ∧
          Optimal config (dueScore sampleTools browsingAndSocialChat []) decision := by
  have hmessages : browsingAndSocialChat.messages ≠ [] := List.cons_ne_nil _ _
  refine ⟨hmessages, (detect_optimal_iff sampleTools hmessages []).mpr ⟨fun cat => ?_, ?_⟩⟩
  · have huser : userText browsingAndSocialChat = some "" := rfl
    rw [← count_of_user huser, count, browsingAndSocial_entries]
    cases cat <;> decide
  · intro h
    exact absurd rfl (h _ List.mem_cons_self)

/-- A model for code, under the stock threshold. -/
def codingOnly : SpecificityConfig where
  enabled := true
  rules := [⟨.coding, "openai/gpt-4o", none⟩]

/-- A request that has only instructions of the system. -/
def instructionsOnly : InboundRequest where
  model := "auto"
  messages := [{ role := "system", content := .string "rust" }]

/-- The word in the instructions is counted as the user's, and the request is sent to the model for
code. -/
theorem instructions_counted :
    ¬ ∃ decision,
      detect sampleTools SpecificityCategory.all codingOnly instructionsOnly none [] =
          .ok decision ∧
        Optimal codingOnly (dueScore sampleTools instructionsOnly []) decision := by
  rintro ⟨decision, hdecision, hoptimal⟩
  have htext : lastUserText instructionsOnly = some "rust" := rfl
  have hdue : dueScore sampleTools instructionsOnly [] = fun _ => 0 := rfl
  have hcount : count sampleTools instructionsOnly [] "rust" .coding =
      Tally.total .coding (keywordEntries "rust") := by
    have hlower : sampleTools.lowercase "rust" = "rust" := rfl
    have hcoding : dueScore sampleTools instructionsOnly [] .coding = 0 := congrFun hdue _
    rw [count_of_no_user rfl, hcoding, Nat.zero_add, hlower]
  have hfound : 2 ≤ Tally.total .coding (keywordEntries "rust") :=
    Tally.le_total (e := (SpecificityCategory.coding, 2))
      (mem_keywordEntries.mpr ⟨.coding, ("rust", 2), by decide, by decide, rfl⟩)
  have heligible : Eligible codingOnly
      (Scores.ofCounts (count sampleTools instructionsOnly [] "rust")).value .coding := by
    refine ⟨rfl, ?_⟩
    rw [value_ofCounts]
    dsimp only
    have hsmall := keywordEntries_le "rust" .coding
    rw [hcount, Nat.mod_eq_of_lt (Nat.lt_of_le_of_lt hsmall (by decide))]
    exact hfound
  rw [detect_scoring ⟨rfl, rfl⟩, htext, Except.ok.injEq, bestDecision_eq] at hdecision
  subst hdecision
  cases hchoice : choice codingOnly
      (Scores.ofCounts (count sampleTools instructionsOnly [] "rust"))
      SpecificityCategory.all with
  | none => exact (choice_eq_none_iff (complete_of_perm (.refl _))).mp hchoice _ heligible
  | some cat =>
    rw [hchoice, hdue] at hoptimal
    have hzero := hoptimal.1.eligible
    have hthreshold : 0 < (activation codingOnly cat).toNat := by cases cat <;> decide
    exact absurd hzero.2 (not_le.mpr hthreshold)

end Specificity

end TokenDealer
