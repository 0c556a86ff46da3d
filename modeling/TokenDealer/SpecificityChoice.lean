import Mathlib.Data.List.MinMax
import Mathlib.Data.Prod.Lex
import TokenDealer.ModelReferences
import TokenDealer.SpecificityScore

set_option autoImplicit true

namespace TokenDealer

namespace Specificity

section

variable (config : SpecificityConfig) (score : SpecificityCategory → Nat)

def activation (cat : SpecificityCategory) : UInt32 :=
  (config.thresholdFor cat).getD (defaultThreshold cat)

/-- The category has a primary and its score is at its threshold or above. -/
def Eligible (cat : SpecificityCategory) : Prop :=
  (config.primaryFor cat).isSome ∧ (activation config cat).toNat ≤ score cat

instance : DecidablePred (Eligible config score) :=
  fun cat => inferInstanceAs (Decidable ((config.primaryFor cat).isSome ∧ _))

/-- An eligible category of the highest score, and of the highest threshold among those. -/
structure IsChoice (cat : SpecificityCategory) : Prop where
  eligible : Eligible config score cat
  highest : ∀ c, Eligible config score c → score c ≤ score cat
  strictest : ∀ c, Eligible config score c → score c = score cat →
    activation config c ≤ activation config cat

/-- Scores come first, then thresholds. -/
def rank (cat : SpecificityCategory) : Nat ×ₗ Nat :=
  toLex (score cat, (activation config cat).toNat)

end

section

variable {config : SpecificityConfig} {score : SpecificityCategory → Nat}

theorem rank_le_iff : rank config score a ≤ rank config score b ↔
    score a ≤ score b ∧ (score a = score b → activation config a ≤ activation config b) := by
  rw [rank, rank, Prod.Lex.toLex_le_toLex, UInt32.le_iff_toNat_le]
  dsimp only
  omega

theorem isChoice_iff : IsChoice config score a ↔
    Eligible config score a ∧ ∀ c, Eligible config score c →
      rank config score c ≤ rank config score a := by
  constructor
  · intro h
    exact ⟨h.eligible, fun c hc => rank_le_iff.mpr ⟨h.highest c hc, h.strictest c hc⟩⟩
  · intro h
    obtain ⟨heligible, hle⟩ := h
    exact ⟨heligible, fun c hc => (rank_le_iff.mp (hle c hc)).1,
      fun c hc => (rank_le_iff.mp (hle c hc)).2⟩

end

/-- A score of 32 bits as a number. -/
def Scores.value (scores : Scores) (cat : SpecificityCategory) : Nat := (scores cat).toNat

section

variable (config : SpecificityConfig) (scores : Scores)

def candidate (cat : SpecificityCategory) : Candidate :=
  ⟨cat, scores cat, activation config cat⟩

/-- The best of the eligible categories, the first of several. -/
def choice (order : List SpecificityCategory) : Option SpecificityCategory :=
  (order.filter fun cat => Eligible config scores.value cat).argmax (rank config scores.value)

def decisionFor (cat : SpecificityCategory) : SpecificityDecision :=
  let name := cat.asStr
  let score := scores cat
  let threshold := activation config cat
  { category := cat
    score := score
    threshold := threshold
    primary := config.primaryFor cat
    reason := s!"detected {name} (score={score}, threshold={threshold})" }

end

section

variable {config : SpecificityConfig} {scores : Scores}

/-- A category that does not pass the two tests changes nothing. -/
theorem consider_of_not_eligible (h : ¬ Eligible config scores.value cat)
    (best : Option Candidate) : consider config scores best cat = best := by
  unfold consider
  dsimp only
  split
  · rfl
  · next hscore =>
    split
    · rfl
    · next hprimary =>
      rw [UInt32.lt_iff_toNat_lt, not_lt] at hscore
      rw [Option.isNone_iff_eq_none, ← ne_eq, Option.ne_none_iff_isSome] at hprimary
      exact absurd ⟨hprimary, hscore⟩ h

/-- One that does takes the place of the best so far when it ranks above it. -/
theorem consider_of_eligible (h : Eligible config scores.value cat)
    (best : Option SpecificityCategory) :
    consider config scores (best.map (candidate config scores)) cat =
      (List.argAux (fun b c => rank config scores.value c < rank config scores.value b) best
        cat).map (candidate config scores) := by
  obtain ⟨hprimary, hscore⟩ := h
  have hreached : ¬ scores cat < activation config cat := by
    rw [UInt32.lt_iff_toNat_lt, not_lt]
    exact hscore
  have hnamed : ¬ (config.primaryFor cat).isNone = true := by
    rw [Option.isNone_iff_eq_none, ← ne_eq, Option.ne_none_iff_isSome]
    exact hprimary
  unfold consider
  dsimp only
  rw [← activation, if_neg hreached, if_neg hnamed]
  cases best with
  | none => rfl
  | some b =>
    have hrank : rank config scores.value b < rank config scores.value cat ↔
        ¬ (scores cat < scores b ∨
          scores cat = scores b ∧ activation config cat ≤ activation config b) := by
      rw [← not_le, rank_le_iff, Scores.value, Scores.value, UInt32.lt_iff_toNat_lt,
        ← UInt32.toNat_inj, Nat.le_iff_lt_or_eq]
      exact not_congr ⟨fun h => h.1.imp_right fun heq => ⟨heq, h.2 heq⟩,
        fun h => ⟨h.imp_right And.left, fun heq => (h.resolve_left heq.not_lt).2⟩⟩
    change (if scores cat < scores b then some (candidate config scores b)
      else if scores cat = scores b ∧ activation config cat ≤ activation config b then
        some (candidate config scores b)
      else some (candidate config scores cat)) =
      (if rank config scores.value b < rank config scores.value cat then some cat
        else some b).map (candidate config scores)
    by_cases hlow : scores cat < scores b
    · rw [if_pos hlow, if_neg fun h => hrank.mp h (.inl hlow)]
      rfl
    · rw [if_neg hlow]
      by_cases htie : scores cat = scores b ∧ activation config cat ≤ activation config b
      · rw [if_pos htie, if_neg fun h => hrank.mp h (.inr htie)]
        rfl
      · rw [if_neg htie, if_pos (hrank.mpr (not_or.mpr ⟨hlow, htie⟩))]
        rfl

theorem foldl_consider (order : List SpecificityCategory) :
    order.foldl (consider config scores) none =
      (choice config scores order).map (candidate config scores) := by
  have hseen : ∀ best : Option SpecificityCategory,
      order.foldl (consider config scores) (best.map (candidate config scores)) =
        ((order.filter fun cat => Eligible config scores.value cat).foldl
          (List.argAux fun b c => rank config scores.value c < rank config scores.value b)
          best).map (candidate config scores) := by
    induction order with
    | nil => exact fun best => rfl
    | cons cat rest ih =>
      intro best
      rw [List.foldl_cons, List.filter_cons]
      by_cases h : Eligible config scores.value cat
      · rw [if_pos (decide_eq_true h), consider_of_eligible h, ih]
        rfl
      · rw [if_neg fun hd => h (of_decide_eq_true hd), consider_of_not_eligible h, ih]
  exact hseen none

theorem mem_choice (h : choice config scores order = some cat) :
    Eligible config scores.value cat := by
  have hmem := List.argmax_mem (Option.mem_def.mpr h)
  exact of_decide_eq_true (List.mem_filter.mp hmem).2

theorem bestDecision_eq (order : List SpecificityCategory) :
    bestDecision config order scores =
      (choice config scores order).map (decisionFor config scores) := by
  rw [bestDecision, foldl_consider]
  cases hchoice : choice config scores order with
  | none => rfl
  | some cat =>
    obtain ⟨primary, hprimary⟩ := Option.isSome_iff_exists.mp (mem_choice hchoice).1
    simp only [Option.map_some, Option.bind_eq_bind, Option.bind_some, candidate, hprimary,
      decisionFor]

/-- Every category comes up. -/
def Complete (order : List SpecificityCategory) : Prop := ∀ cat, cat ∈ order

theorem isChoice_of_choice (hall : Complete order) (h : choice config scores order = some cat) :
    IsChoice config scores.value cat := by
  rw [isChoice_iff]
  refine ⟨mem_choice h, fun c hc => ?_⟩
  have hmem : c ∈ order.filter fun cat => Eligible config scores.value cat :=
    List.mem_filter.mpr ⟨hall c, decide_eq_true hc⟩
  exact List.le_of_mem_argmax hmem (Option.mem_def.mpr h)

theorem choice_eq_none_iff (hall : Complete order) :
    choice config scores order = none ↔ ∀ cat, ¬ Eligible config scores.value cat := by
  rw [choice, List.argmax_eq_none, List.filter_eq_nil_iff]
  simp only [decide_eq_true_eq]
  exact ⟨fun h cat => h cat (hall cat), fun h cat _ => h cat⟩

/-- Of several that tie the one that comes first is taken. -/
theorem choice_cons (h : IsChoice config scores.value cat) (rest : List SpecificityCategory) :
    choice config scores (cat :: rest) = some cat := by
  obtain ⟨heligible, hle⟩ := isChoice_iff.mp h
  rw [choice, List.filter_cons, if_pos (decide_eq_true heligible), List.argmax_cons]
  cases hrest : (rest.filter fun cat => Eligible config scores.value cat).argmax
      (rank config scores.value) with
  | none => rfl
  | some c =>
    have hmem := List.argmax_mem (Option.mem_def.mpr hrest)
    exact if_neg (not_lt.mpr (hle c (of_decide_eq_true (List.mem_filter.mp hmem).2)))

end

theorem mem_all (cat : SpecificityCategory) : cat ∈ SpecificityCategory.all := by
  cases cat <;> decide

theorem complete_of_perm (h : order.Perm SpecificityCategory.all) : Complete order :=
  fun cat => h.mem_iff.mpr (mem_all cat)

/-- The order that starts with a category. -/
theorem perm_cons_erase (cat : SpecificityCategory) :
    (cat :: SpecificityCategory.all.erase cat).Perm SpecificityCategory.all :=
  (List.perm_cons_erase (mem_all cat)).symm

section

variable (tools : TextTools) (config : SpecificityConfig) (inbound : InboundRequest)
  (headerOverride : Option String) (recent : List SpecificityCategory)

/-- What the detector decides, of which the reason is only for the log. -/
def decided (order : List SpecificityCategory) :
    Except String (Option (SpecificityCategory × Option String)) :=
  (detect tools order config inbound headerOverride recent).map fun decision =>
    decision.map fun d => (d.category, d.primary)

/-- The order in which the map is gone through never shows. -/
def Reproducible : Prop :=
  ∀ order order', order.Perm SpecificityCategory.all → order'.Perm SpecificityCategory.all →
    decided tools config inbound headerOverride recent order =
      decided tools config inbound headerOverride recent order'

/-- The score of a category, as far as 32 bits hold it. -/
def wrappedScore (text : String) (cat : SpecificityCategory) : Nat :=
  count tools inbound recent text cat % UInt32.size

/-- Two categories share the first place. -/
def Ties (score : SpecificityCategory → Nat) : Prop :=
  ∃ a b, a ≠ b ∧ IsChoice config score a ∧ IsChoice config score b

end

section

variable {tools : TextTools} {config : SpecificityConfig} {inbound : InboundRequest}
  {headerOverride : Option String} {recent : List SpecificityCategory}

theorem value_ofCounts (counts : SpecificityCategory → Nat) :
    (Scores.ofCounts counts).value = fun cat => counts cat % UInt32.size := by
  funext cat
  exact UInt32.toNat_ofNat'

theorem decided_scoring (h : Scoring config headerOverride)
    (htext : lastUserText inbound = some text) (order : List SpecificityCategory) :
    decided tools config inbound headerOverride recent order =
      .ok ((choice config (Scores.ofCounts (count tools inbound recent text)) order).map
        fun cat => (cat, config.primaryFor cat)) := by
  rw [decided, detect_scoring h, htext]
  dsimp only
  rw [bestDecision_eq, Except.map, Option.map_map]
  rfl

theorem reproducible_of_no_ties {scores : Scores} (h : ¬ Ties config scores.value)
    (hall : Complete order) (hall' : Complete order') :
    choice config scores order = choice config scores order' := by
  cases hchoice : choice config scores order with
  | none => exact ((choice_eq_none_iff hall').mpr ((choice_eq_none_iff hall).mp hchoice)).symm
  | some a =>
    cases hchoice' : choice config scores order' with
    | none =>
      have hnone := (choice_eq_none_iff hall').mp hchoice' a
      exact absurd (mem_choice hchoice) hnone
    | some b =>
      by_contra hne
      exact h ⟨a, b, fun hab => hne (congrArg some hab), isChoice_of_choice hall hchoice,
        isChoice_of_choice hall' hchoice'⟩

/-- The decision depends on the order of the map exactly where two categories share the first
place. -/
theorem reproducible_iff (tools : TextTools) (config : SpecificityConfig)
    (inbound : InboundRequest) (headerOverride : Option String)
    (recent : List SpecificityCategory) :
    Reproducible tools config inbound headerOverride recent ↔
      (Scoring config headerOverride → ∀ text, lastUserText inbound = some text →
        ¬ Ties config (wrappedScore tools inbound recent text)) := by
  by_cases hscoring : Scoring config headerOverride
  · rw [forall_prop_of_true hscoring]
    cases htext : lastUserText inbound with
    | none =>
      refine iff_of_true (fun order order' _ _ => ?_) fun text h => by cases h
      rw [decided, decided, detect_scoring hscoring, detect_scoring hscoring, htext]
    | some text =>
      have hvalue : wrappedScore tools inbound recent text =
          (Scores.ofCounts (count tools inbound recent text)).value := (value_ofCounts _).symm
      constructor
      · intro h text' htext' hties
        cases htext'
        rw [hvalue] at hties
        obtain ⟨a, b, hne, ha, hb⟩ := hties
        have hsame := h _ _ (perm_cons_erase a) (perm_cons_erase b)
        rw [decided_scoring hscoring htext, decided_scoring hscoring htext, choice_cons ha,
          choice_cons hb] at hsame
        cases hsame
        exact hne rfl
      · intro h order order' hperm hperm'
        have hties := h text rfl
        rw [hvalue] at hties
        rw [decided_scoring hscoring htext, decided_scoring hscoring htext,
          reproducible_of_no_ties hties (complete_of_perm hperm) (complete_of_perm hperm')]
  · refine iff_of_true (fun order order' _ _ => ?_) fun h => absurd h hscoring
    obtain ⟨decision, hdecision⟩ := detect_not_scoring tools hscoring
    rw [decided, decided, hdecision, hdecision]

end

/-- Models for two categories, under the stock thresholds. -/
def browsingAndSocial : SpecificityConfig where
  enabled := true
  rules := [⟨.webBrowsing, "openai/gpt-4o", none⟩, ⟨.socialMedia, "openai/gpt-4o-mini", none⟩]

/-- A request with a tool of each of the two. -/
def browsingAndSocialChat : InboundRequest :=
  { model := "auto"
    messages := [{ role := "user", content := .string "" }]
    tools := some [⟨"function", ⟨"web_search", none, .object []⟩⟩,
      ⟨"function", ⟨"social_post", none, .object []⟩⟩] }

theorem browsingAndSocial_entries :
    scoreEntries sampleTools browsingAndSocialChat [] "" =
      [(.webBrowsing, 3), (.socialMedia, 3)] := by
  have hkeywords : keywordEntries (sampleTools.lowercase "") = [] := keywordEntries_empty
  rw [scoreEntries, hkeywords]
  decide +kernel

/-- The same request goes to one model or to the other. -/
theorem decision_left_to_order :
    ¬ Reproducible sampleTools browsingAndSocial browsingAndSocialChat none [] := by
  intro h
  have hsame := h SpecificityCategory.all SpecificityCategory.all.reverse (.refl _)
    (List.reverse_perm _)
  have hcount : count sampleTools browsingAndSocialChat [] "" =
      fun cat => Tally.total cat [(.webBrowsing, 3), (.socialMedia, 3)] := by
    funext cat
    rw [count, browsingAndSocial_entries]
  have htext : lastUserText browsingAndSocialChat = some "" := rfl
  rw [decided_scoring ⟨rfl, rfl⟩ htext, decided_scoring ⟨rfl, rfl⟩ htext, hcount] at hsame
  exact absurd hsame (by decide +kernel)

end Specificity

end TokenDealer
