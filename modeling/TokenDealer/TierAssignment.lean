import Mathlib.Data.List.Sort
import Mathlib.Data.Prod.Lex
import Mathlib.Data.String.Basic
import TokenDealer.Discovery
import TokenDealer.Grouping

set_option autoImplicit true

namespace TokenDealer

namespace ProviderModelRow

/-- The name that a primary is written as. -/
def name (m : ProviderModelRow) : String := m.providerId ++ "/" ++ m.modelId

/-- The order in which the discovered models are listed. -/
def ListedBefore (m m' : ProviderModelRow) : Prop :=
  toLex (m.providerId, m.modelId) ≤ toLex (m'.providerId, m'.modelId)

instance : DecidableRel ListedBefore := fun _ _ => inferInstanceAs (Decidable (_ ≤ _))

instance : Std.Total ListedBefore := ⟨fun _ _ => le_total _ _⟩

instance : IsTrans ProviderModelRow ListedBefore := ⟨fun _ _ _ => le_trans⟩

theorem ListedBefore.modelId_le {m m' : ProviderModelRow} (h : m.ListedBefore m')
    (hsame : m.providerId = m'.providerId) : m.modelId ≤ m'.modelId := by
  rcases Prod.Lex.toLex_le_toLex.mp h with hlt | ⟨-, hle⟩
  · exact absurd hsame hlt.ne
  · exact hle

end ProviderModelRow

namespace Discovery

/-- The discovered models by provider and model. -/
def listDiscovered (rows : List ProviderModelRow) : List ProviderModelRow :=
  rows.insertionSort ProviderModelRow.ListedBefore

/-- The models of each provider, in the order in which they are listed. -/
def byProvider (discovered : List ProviderModelRow) : String → Option (List String) :=
  Grouping.group (discovered.map fun m => (m.providerId, m.modelId))

/-- The models in the order in which the map of the providers is walked. -/
def walkOf (entries : List (String × List String)) : List ProviderModelRow :=
  (Grouping.flatten entries).map fun x => ⟨x.1, x.2⟩

/-- A walk over the providers of a pool of models, in any order of them. -/
def WalksOver (rows : List ProviderModelRow) (walk : List ProviderModelRow) : Prop :=
  ∃ entries, Grouping.Iterates (byProvider (listDiscovered rows)) entries ∧ walk = walkOf entries

/-- A finite price. -/
abbrev Price := { q : ℚ // Double.Fits q }

def Price.double (p : Price) : Double := .finite p.1 p.2

/-- The price of a model that is above zero and within the limit. -/
def affordable (pricing : PricingStore) (maxInput : Double) (m : ProviderModelRow) :
    Option (Price × ProviderModelRow) :=
  match modelPrice pricing m with
  | some (.finite q h) =>
    if 0 < q ∧ Double.le (.finite q h) maxInput = true then some (⟨q, h⟩, m) else none
  | _ => none

/-- The model that a tier is given, with its price. -/
def chosenModel (pricing : PricingStore) (maxInput : Double) (walk : List ProviderModelRow) :
    Option (Price × ProviderModelRow) :=
  (walk.filterMap (affordable pricing maxInput)).argmin Prod.fst

/-- The tiers that are given a model, each with its model. -/
def assignedModels (pricing : PricingStore) (config : RouterConfig)
    (walk : List ProviderModelRow) : List (Tier × ProviderModelRow) :=
  tierLimits.filterMap fun (tier, maxInput) =>
    match config.primaryForTier tier with
    | some _ => none
    | none => (chosenModel pricing maxInput walk).map fun best => (tier, best.2)

section Statement

variable (pricing : PricingStore) (config : RouterConfig) (rows : List ProviderModelRow)

/-- A model costs so much, which is neither below the floor nor above the ceiling. -/
structure WithinBounds (maxInput : Double) (m : ProviderModelRow) (price : Double) : Prop where
  costs : modelPrice pricing m = some price
  floor_le : Double.le (.ofBits config.discovery.minInputPricePer1m) price = true
  le_ceiling : Double.le price maxInput = true

/-- The tiers without a primary, and no others, are given a model of the least price within the
bounds where there is one. -/
structure Optimal (assigned : List (Tier × ProviderModelRow)) : Prop where
  unset : ∀ tier m, (tier, m) ∈ assigned → config.primaryForTier tier = none
  least : ∀ tier maxInput, (tier, maxInput) ∈ tierLimits → ∀ m, (tier, m) ∈ assigned →
    m ∈ rows ∧ ∃ price, WithinBounds pricing config maxInput m price ∧
      ∀ m' ∈ rows, ∀ price', WithinBounds pricing config maxInput m' price' →
        Double.le price price' = true
  complete : ∀ tier maxInput, (tier, maxInput) ∈ tierLimits →
    config.primaryForTier tier = none → ∀ m ∈ rows, ∀ price,
      WithinBounds pricing config maxInput m price → ∃ m', (tier, m') ∈ assigned

/-- Of the models that are cheapest above zero and within the ceiling, the first of its
provider. -/
structure FirstCheapest (maxInput : Double) (m : ProviderModelRow) (p : Price) : Prop where
  mem : m ∈ rows
  costs : modelPrice pricing m = some p.double
  pos : 0 < p.1
  le_ceiling : Double.le p.double maxInput = true
  least : ∀ m' ∈ rows, ∀ p' : Price, modelPrice pricing m' = some p'.double → 0 < p'.1 → p ≤ p'
  first : ∀ m' ∈ rows, m'.providerId = m.providerId → m'.modelId < m.modelId →
    modelPrice pricing m' ≠ some p.double

/-- Within the ceiling the models above zero are the ones that reach the floor, and providers that
share the lowest price share the name of their first model at it. -/
structure Decided (maxInput : Double) : Prop where
  floor : ∀ m ∈ rows, ∀ price, modelPrice pricing m = some price →
    Double.le price maxInput = true →
      (Double.lt 0 price = true ↔
        Double.le (.ofBits config.discovery.minInputPricePer1m) price = true)
  names : ∀ m m' p p', FirstCheapest pricing rows maxInput m p →
    FirstCheapest pricing rows maxInput m' p' → m.name = m'.name

end Statement

section Choice

variable {pricing : PricingStore} {config : RouterConfig} {m : ProviderModelRow} {maxInput : Double}

theorem Price.double_le {p p' : Price} : Double.le p.double p'.double = true ↔ p ≤ p' :=
  Double.finite_le_finite

theorem Price.zero_lt_double {p : Price} : Double.lt 0 p.double = true ↔ 0 < p.1 :=
  Double.zero_lt_finite

theorem Price.double_inj {p p' : Price} (h : some p.double = some p'.double) : p = p' := by
  cases p
  cases p'
  cases h
  rfl

theorem modelPrice_ne_nan (pricing : PricingStore) (m : ProviderModelRow) :
    modelPrice pricing m ≠ some .nan := by
  rw [modelPrice, PricingStore.get, Option.map_map]
  intro h
  obtain ⟨row, -, hrow⟩ := Option.map_eq_some_iff.mp h
  apply row.input_ne_nan
  exact Double.eq_nan_of_mul_ofNat (by decide) (by decide) hrow

theorem affordable_eq_some_iff {best : Price × ProviderModelRow} :
    affordable pricing maxInput m = some best ↔
      best.2 = m ∧ modelPrice pricing m = some best.1.double ∧ 0 < best.1.1 ∧
        Double.le best.1.double maxInput = true := by
  constructor
  · intro h
    rw [affordable] at h
    split at h
    · next q hfits hq =>
      split at h
      · next hbounds =>
        cases h
        exact ⟨rfl, hq, hbounds⟩
      · cases h
    · cases h
  · rintro ⟨rfl, hprice, hbounds⟩
    rw [affordable, hprice]
    exact if_pos hbounds

theorem mem_filterMap_affordable_iff {models : List ProviderModelRow} {p : Price} :
    (p, m) ∈ models.filterMap (affordable pricing maxInput) ↔
      m ∈ models ∧ affordable pricing maxInput m = some (p, m) := by
  rw [List.mem_filterMap]
  constructor
  · rintro ⟨m', hmem, hm'⟩
    obtain ⟨rfl, -⟩ := affordable_eq_some_iff.mp hm'
    exact ⟨hmem, hm'⟩
  · rintro ⟨hmem, hm⟩
    exact ⟨m, hmem, hm⟩

/-- Taking one more model into account is one step of the search for the least price. -/
theorem considerModel_eq (hmax : maxInput.isFinite = true)
    (best : Option (Price × ProviderModelRow)) (m : ProviderModelRow) :
    considerModel pricing maxInput (best.map fun b => (b.1.double, b.2.name)) m =
      ((affordable pricing maxInput m).elim best (List.argAux (fun b c => b.1 < c.1) best)).map
        fun b => (b.1.double, b.2.name) := by
  obtain ⟨hfits, hmax⟩ := Double.eq_finite hmax
  rw [considerModel, affordable]
  cases hprice : modelPrice pricing m with
  | none => rfl
  | some candidate =>
    cases candidate with
    | nan => exact absurd hprice (modelPrice_ne_nan pricing m)
    | infinite negative =>
      rw [hmax, Double.zero_def]
      cases negative <;> rfl
    | finite q h =>
      rw [hmax]
      dsimp only
      simp only [Bool.or_eq_true, Double.finite_lt_finite, Double.finite_le_zero,
        Double.finite_le_finite]
      by_cases hbounds : 0 < q ∧ q ≤ maxInput.toRat
      · rw [if_pos hbounds, if_neg]
        · cases best with
          | none => rfl
          | some b =>
            simp only [Option.map_some, Option.elim_some, List.argAux]
            by_cases hlt : (⟨q, h⟩ : Price) < b.1
            · rw [if_pos hlt, if_neg]
              · rfl
              · exact fun hle => not_le.mpr hlt (Price.double_le.mp hle)
            · rw [if_neg hlt, if_pos]
              · rfl
              · exact Price.double_le.mpr (not_lt.mp hlt)
        · rw [not_or, not_lt, not_le]
          exact hbounds.symm
      · rw [if_neg hbounds, if_pos]
        · rfl
        · by_contra hnone
          exact hbounds ⟨not_le.mp fun h => hnone (.inr h), not_lt.mp fun h => hnone (.inl h)⟩

theorem foldl_considerModel (hmax : maxInput.isFinite = true) (walk : List ProviderModelRow)
    (best : Option (Price × ProviderModelRow)) :
    walk.foldl (considerModel pricing maxInput)
        (best.map fun b => (b.1.double, b.2.name)) =
      ((walk.filterMap (affordable pricing maxInput)).foldl
        (List.argAux fun b c => b.1 < c.1) best).map fun b => (b.1.double, b.2.name) := by
  induction walk generalizing best with
  | nil => rfl
  | cons m walk ih =>
    rw [List.foldl_cons, considerModel_eq hmax, ih, List.filterMap_cons]
    cases affordable pricing maxInput m <;> rfl

/-- The search for the cheapest model, with its outcome written as a name. -/
theorem cheapestModel_eq (pricing : PricingStore) (hmax : maxInput.isFinite = true)
    (walk : List ProviderModelRow) :
    cheapestModel pricing maxInput walk =
      (chosenModel pricing maxInput walk).map fun b => (b.1.double, b.2.name) :=
  foldl_considerModel hmax walk none

theorem tierLimits_isFinite : ∀ x ∈ tierLimits, x.2.isFinite = true := by
  decide +kernel

theorem autoAssignTiers_eq (pricing : PricingStore) (config : RouterConfig)
    (walk : List ProviderModelRow) :
    autoAssignTiers pricing config walk =
      (assignedModels pricing config walk).map fun a => (a.1.asStr, a.2.name) := by
  rw [autoAssignTiers, assignedModels, List.map_filterMap]
  apply List.filterMap_congr
  rintro ⟨tier, maxInput⟩ hlimit
  dsimp only
  cases config.primaryForTier tier with
  | some primary => rfl
  | none =>
    rw [cheapestModel_eq pricing (tierLimits_isFinite _ hlimit)]
    cases chosenModel pricing maxInput walk <;> rfl

/-- The choice is the first of the least: nothing before it is as cheap. -/
theorem chosenModel_eq_some_iff {walk : List ProviderModelRow} {q : Price} :
    chosenModel pricing maxInput walk = some (q, m) ↔
      ∃ front back, walk = front ++ m :: back ∧ affordable pricing maxInput m = some (q, m) ∧
        (∀ m' ∈ front, ∀ q', affordable pricing maxInput m' = some (q', m') → q < q') ∧
        ∀ m' ∈ back, ∀ q', affordable pricing maxInput m' = some (q', m') → q ≤ q' := by
  rw [chosenModel, Grouping.argmin_eq_some_iff_append]
  constructor
  · rintro ⟨front, back, hsplit, hfront, hback⟩
    obtain ⟨before, rest, rfl, hbefore, hrest⟩ := List.filterMap_eq_append_iff.mp hsplit
    obtain ⟨skipped, m', after, rfl, hskipped, hm', hafter⟩ := List.filterMap_eq_cons_iff.mp hrest
    obtain ⟨hself, -⟩ := affordable_eq_some_iff.mp hm'
    dsimp only at hself
    subst hself
    refine ⟨before ++ skipped, after, (List.append_assoc ..).symm, hm', ?_, ?_⟩
    · intro m' hmem q' hq'
      rcases List.mem_append.mp hmem with hmem | hmem
      · exact hfront (q', m') (hbefore ▸ mem_filterMap_affordable_iff.mpr ⟨hmem, hq'⟩)
      · cases (hskipped m' hmem).symm.trans hq'
    · intro m' hmem q' hq'
      exact hback (q', m') (hafter ▸ mem_filterMap_affordable_iff.mpr ⟨hmem, hq'⟩)
  · rintro ⟨front, back, rfl, hm, hfront, hback⟩
    refine ⟨front.filterMap (affordable pricing maxInput),
      back.filterMap (affordable pricing maxInput), ?_, ?_, ?_⟩
    · rw [List.filterMap_append, List.filterMap_cons_some hm]
    · rintro ⟨q', m'⟩ hmem
      obtain ⟨hmem, hq'⟩ := mem_filterMap_affordable_iff.mp hmem
      exact hfront m' hmem q' hq'
    · rintro ⟨q', m'⟩ hmem
      obtain ⟨hmem, hq'⟩ := mem_filterMap_affordable_iff.mp hmem
      exact hback m' hmem q' hq'

end Choice

section Walks

variable {pricing : PricingStore} {config : RouterConfig} {rows walk : List ProviderModelRow}
  {m : ProviderModelRow} {maxInput : Double} {q : Price}

theorem mem_keyed_iff {x : String × String} :
    x ∈ (listDiscovered rows).map (fun m => (m.providerId, m.modelId)) ↔
      ProviderModelRow.mk x.1 x.2 ∈ rows := by
  rw [List.mem_map, listDiscovered]
  constructor
  · rintro ⟨m, hm, rfl⟩
    exact (List.mem_insertionSort _).mp hm
  · intro hm
    exact ⟨_, (List.mem_insertionSort _).mpr hm, rfl⟩

theorem WalksOver.mem_iff (h : WalksOver rows walk) : m ∈ walk ↔ m ∈ rows := by
  obtain ⟨entries, hentries, rfl⟩ := h
  rw [walkOf, List.mem_map]
  constructor
  · rintro ⟨x, hx, rfl⟩
    exact mem_keyed_iff.mp (hentries.mem_flatten_iff.mp hx)
  · intro hm
    exact ⟨(m.providerId, m.modelId), hentries.mem_flatten_iff.mpr (mem_keyed_iff.mpr hm), rfl⟩

theorem listDiscovered_pairwise (rows : List ProviderModelRow) :
    (listDiscovered rows).Pairwise ProviderModelRow.ListedBefore :=
  List.pairwise_insertionSort _ rows

/-- The models of one provider come by their ids in every walk. -/
theorem WalksOver.pairwise (h : WalksOver rows walk) :
    walk.Pairwise fun m m' => m.providerId = m'.providerId → m.modelId ≤ m'.modelId := by
  obtain ⟨entries, hentries, rfl⟩ := h
  have hlisted : ((listDiscovered rows).map fun m => (m.providerId, m.modelId)).Pairwise
      fun x y => x.1 = y.1 → x.2 ≤ y.2 := by
    rw [List.pairwise_map]
    exact (listDiscovered_pairwise rows).imp ProviderModelRow.ListedBefore.modelId_le
  rw [walkOf, List.pairwise_map]
  refine (hentries.pairwise hlisted).imp ?_
  intro x y hxy hsame
  exact hxy hsame hsame

theorem exists_walk (rows : List ProviderModelRow) : ∃ walk, WalksOver rows walk := by
  obtain ⟨entries, h⟩ := Grouping.exists_iterates
    ((listDiscovered rows).map fun m => (m.providerId, m.modelId))
  exact ⟨_, entries, h, rfl⟩

/-- A walk may begin with the models of any provider. -/
theorem exists_walk_front (hm : m ∈ rows) :
    ∃ rest, WalksOver rows
      ((listDiscovered rows).filter (fun m' => m'.providerId = m.providerId) ++ rest) := by
  have hkey : m.providerId ∈
      ((listDiscovered rows).map fun m => (m.providerId, m.modelId)).map Prod.fst :=
    List.mem_map.mpr ⟨(m.providerId, m.modelId), mem_keyed_iff.mpr hm, rfl⟩
  obtain ⟨entries, rest, hentries, hflatten⟩ := Grouping.exists_iterates_front hkey
  refine ⟨rest.map fun x => ⟨x.1, x.2⟩, entries, hentries, ?_⟩
  rw [walkOf, hflatten, List.map_append, List.filter_map, List.map_map]
  congr 1
  exact (List.map_id'' (fun _ => rfl) _).symm

theorem WalksOver.firstCheapest (h : WalksOver rows walk)
    (hchosen : chosenModel pricing maxInput walk = some (q, m)) :
    FirstCheapest pricing rows maxInput m q := by
  obtain ⟨front, back, rfl, hm, hfront, hback⟩ := chosenModel_eq_some_iff.mp hchosen
  obtain ⟨-, hcosts, hpos, hle⟩ := affordable_eq_some_iff.mp hm
  obtain ⟨-, hpairwise, -⟩ := List.pairwise_append.mp h.pairwise
  refine ⟨h.mem_iff.mp List.mem_append_cons_self, hcosts, hpos, hle, ?_, ?_⟩
  · intro m' hm' q' hcosts' hpos'
    by_cases hle' : Double.le q'.double maxInput = true
    · have haffordable : affordable pricing maxInput m' = some (q', m') :=
        affordable_eq_some_iff.mpr ⟨rfl, hcosts', hpos', hle'⟩
      rcases List.mem_append.mp (h.mem_iff.mpr hm') with hmem | hmem
      · exact (hfront m' hmem q' haffordable).le
      · rcases List.mem_cons.mp hmem with rfl | hmem
        · exact (Price.double_inj (hcosts.symm.trans hcosts')).le
        · exact hback m' hmem q' haffordable
    · by_contra hlt
      exact hle' (Double.le_trans (Price.double_le.mpr (not_le.mp hlt).le) hle)
  · intro m' hm' hsame hlt hcosts'
    rcases List.mem_append.mp (h.mem_iff.mpr hm') with hmem | hmem
    · have haffordable : affordable pricing maxInput m' = some (q, m') :=
        affordable_eq_some_iff.mpr ⟨rfl, hcosts', hpos, hle⟩
      exact lt_irrefl q (hfront m' hmem q haffordable)
    · rcases List.mem_cons.mp hmem with rfl | hmem
      · exact lt_irrefl _ hlt
      · have hrow := (List.pairwise_cons.mp hpairwise).1 m' hmem hsame.symm
        exact not_lt_of_ge hrow hlt

theorem FirstCheapest.affordable_eq (h : FirstCheapest pricing rows maxInput m q) :
    affordable pricing maxInput m = some (q, m) :=
  affordable_eq_some_iff.mpr ⟨rfl, h.costs, h.pos, h.le_ceiling⟩

/-- The walk that begins with its provider gives the tier this model. -/
theorem FirstCheapest.exists_walk (h : FirstCheapest pricing rows maxInput m q) :
    ∃ walk, WalksOver rows walk ∧ chosenModel pricing maxInput walk = some (q, m) := by
  obtain ⟨rest, hwalk⟩ := exists_walk_front h.mem
  refine ⟨_, hwalk, chosenModel_eq_some_iff.mpr ?_⟩
  have hgroup : m ∈ (listDiscovered rows).filter fun m' => m'.providerId = m.providerId := by
    exact List.mem_filter.mpr ⟨(List.mem_insertionSort _).mpr h.mem, decide_eq_true rfl⟩
  obtain ⟨front, back, hsplit, hnew⟩ := List.eq_append_cons_of_mem hgroup
  have hleast : ∀ m' ∈ rows, ∀ q', affordable pricing maxInput m' = some (q', m') → q ≤ q' := by
    intro m' hm' q' haffordable
    obtain ⟨-, hcosts', hpos', -⟩ := affordable_eq_some_iff.mp haffordable
    exact h.least m' hm' q' hcosts' hpos'
  have hmem : ∀ m' ∈ front, m' ∈ rows ∧ m'.providerId = m.providerId := by
    intro m' hm'
    have hfilter : m' ∈ (listDiscovered rows).filter fun m' => m'.providerId = m.providerId := by
      rw [hsplit]
      exact List.mem_append_left _ hm'
    obtain ⟨hlisted, hsame⟩ := List.mem_filter.mp hfilter
    exact ⟨(List.mem_insertionSort _).mp hlisted, of_decide_eq_true hsame⟩
  have hpairwise : (front ++ m :: (back ++ rest)).Pairwise
      fun m m' => m.providerId = m'.providerId → m.modelId ≤ m'.modelId := by
    have hall := hwalk.pairwise
    rw [hsplit, List.append_assoc] at hall
    exact hall
  refine ⟨front, back ++ rest, by rw [hsplit, List.append_assoc, List.cons_append],
    h.affordable_eq, ?_, ?_⟩
  · intro m' hm' q' haffordable
    obtain ⟨hrow, hsame⟩ := hmem m' hm'
    refine lt_of_le_of_ne (hleast m' hrow q' haffordable) ?_
    rintro rfl
    have hle := (List.pairwise_append.mp hpairwise).2.2 m' hm' m List.mem_cons_self hsame
    obtain ⟨-, hcosts', -⟩ := affordable_eq_some_iff.mp haffordable
    rcases hle.lt_or_eq with hlt | heq
    · exact h.first m' hrow hsame hlt hcosts'
    · have hm : m' = m := by
        cases m'
        cases m
        cases hsame
        cases heq
        rfl
      exact hnew (hm ▸ hm')
  · intro m' hm' q' haffordable
    refine hleast m' (hwalk.mem_iff.mp ?_) q' haffordable
    rw [hsplit, List.append_assoc]
    exact List.mem_append_right _ (List.mem_cons_of_mem m hm')

end Walks

section Assignment

variable {pricing : PricingStore} {config : RouterConfig} {rows walk : List ProviderModelRow}
  {m : ProviderModelRow} {tier : Tier} {maxInput : Double}

/-- A tier has one limit. -/
theorem tierLimits_unique (h : (tier, maxInput) ∈ tierLimits) (h' : (tier, other) ∈ tierLimits) :
    maxInput = other := by
  have hall : ∀ x ∈ tierLimits, ∀ y ∈ tierLimits, x.1 = y.1 → x.2 = y.2 := by decide +kernel
  exact hall _ h _ h' rfl

theorem mem_assignedModels_iff :
    (tier, m) ∈ assignedModels pricing config walk ↔
      config.primaryForTier tier = none ∧ ∃ maxInput q, (tier, maxInput) ∈ tierLimits ∧
        chosenModel pricing maxInput walk = some (q, m) := by
  rw [assignedModels, List.mem_filterMap]
  constructor
  · rintro ⟨⟨tier', maxInput⟩, hlimit, hgiven⟩
    dsimp only at hgiven
    cases hprimary : config.primaryForTier tier' with
    | some primary =>
      rw [hprimary] at hgiven
      cases hgiven
    | none =>
      rw [hprimary] at hgiven
      obtain ⟨⟨q, m'⟩, hchosen, heq⟩ := Option.map_eq_some_iff.mp hgiven
      cases heq
      exact ⟨hprimary, maxInput, q, hlimit, hchosen⟩
  · rintro ⟨hprimary, maxInput, q, hlimit, hchosen⟩
    refine ⟨(tier, maxInput), hlimit, ?_⟩
    dsimp only
    rw [hprimary, hchosen]
    rfl

theorem WalksOver.exists_chosen (h : WalksOver rows walk) (hm : m ∈ rows)
    (haffordable : affordable pricing maxInput m = some (q, m)) :
    ∃ q' m', chosenModel pricing maxInput walk = some (q', m') := by
  cases hchosen : chosenModel pricing maxInput walk with
  | some best => exact ⟨best.1, best.2, rfl⟩
  | none =>
    have hnone := List.filterMap_eq_nil_iff.mp (List.argmin_eq_none.mp hchosen)
    cases (hnone m (h.mem_iff.mpr hm)).symm.trans haffordable

/-- What is priced above zero and within a finite ceiling is finite. -/
theorem affordable_of_priced {price : Double} (hmax : maxInput.isFinite = true)
    (hcosts : modelPrice pricing m = some price)
    (hpos : Double.lt 0 price = true) (hle : Double.le price maxInput = true) :
    ∃ q : Price, price = q.double ∧ affordable pricing maxInput m = some (q, m) := by
  obtain ⟨hfits, hmax⟩ := Double.eq_finite hmax
  rw [Double.zero_def] at hpos
  cases price with
  | finite q h =>
    exact ⟨⟨q, h⟩, rfl, affordable_eq_some_iff.mpr
      ⟨rfl, hcosts, Double.finite_lt_finite.mp hpos, hle⟩⟩
  | infinite negative =>
    rw [hmax] at hle
    cases negative with
    | false => cases hle
    | true => cases hpos
  | nan => cases hle

theorem FirstCheapest.withinBounds (h : FirstCheapest pricing rows maxInput m q)
    (hfloor : ∀ m ∈ rows, ∀ price, modelPrice pricing m = some price →
      Double.le price maxInput = true →
        (Double.lt 0 price = true ↔
          Double.le (.ofBits config.discovery.minInputPricePer1m) price = true)) :
    WithinBounds pricing config maxInput m q.double := by
  have hpos := Price.zero_lt_double.mpr h.pos
  exact ⟨h.costs, (hfloor m h.mem _ h.costs h.le_ceiling).mp hpos, h.le_ceiling⟩

/-- Where the floor decides what is above zero, a model within the bounds can be afforded. -/
theorem Decided.affordable_eq {price : Double} (h : Decided pricing config rows maxInput)
    (hmax : maxInput.isFinite = true) (hm : m ∈ rows)
    (hbounds : WithinBounds pricing config maxInput m price) :
    ∃ q : Price, price = q.double ∧ affordable pricing maxInput m = some (q, m) := by
  have hpos := (h.floor m hm price hbounds.costs hbounds.le_ceiling).mpr hbounds.floor_le
  exact affordable_of_priced hmax hbounds.costs hpos hbounds.le_ceiling

/-- Where the floor decides what is above zero, every walk ends in the best assignment. -/
theorem WalksOver.optimal (h : WalksOver rows walk)
    (hdecided : ∀ tier maxInput, (tier, maxInput) ∈ tierLimits →
      config.primaryForTier tier = none → Decided pricing config rows maxInput) :
    Optimal pricing config rows (assignedModels pricing config walk) := by
  refine ⟨?_, ?_, ?_⟩
  · intro tier m hgiven
    exact (mem_assignedModels_iff.mp hgiven).1
  · intro tier maxInput hlimit m hgiven
    obtain ⟨hprimary, other, q, hother, hchosen⟩ := mem_assignedModels_iff.mp hgiven
    cases tierLimits_unique hother hlimit
    have hfirst := h.firstCheapest hchosen
    have htier := hdecided tier _ hlimit hprimary
    refine ⟨hfirst.mem, q.double, hfirst.withinBounds htier.floor, ?_⟩
    intro m' hm' price' hbounds
    obtain ⟨q', rfl, haffordable⟩ :=
      htier.affordable_eq (tierLimits_isFinite _ hlimit) hm' hbounds
    obtain ⟨-, hcosts, hpos, -⟩ := affordable_eq_some_iff.mp haffordable
    exact Price.double_le.mpr (hfirst.least m' hm' q' hcosts hpos)
  · intro tier maxInput hlimit hprimary m hm price hbounds
    obtain ⟨q, rfl, haffordable⟩ := (hdecided tier maxInput hlimit hprimary).affordable_eq
      (tierLimits_isFinite _ hlimit) hm hbounds
    obtain ⟨q', m', hchosen⟩ := h.exists_chosen hm haffordable
    exact ⟨m', mem_assignedModels_iff.mpr ⟨hprimary, maxInput, q', hlimit, hchosen⟩⟩

/-- The best assignment is reached only where the floor decides what is above zero. -/
theorem WalksOver.floor_of_optimal (h : WalksOver rows walk)
    (hoptimal : Optimal pricing config rows (assignedModels pricing config walk))
    (hlimit : (tier, maxInput) ∈ tierLimits) (hprimary : config.primaryForTier tier = none)
    (hm : m ∈ rows) {price : Double} (hcosts : modelPrice pricing m = some price)
    (hle : Double.le price maxInput = true) :
    Double.lt 0 price = true ↔
      Double.le (.ofBits config.discovery.minInputPricePer1m) price = true := by
  constructor
  · intro hpos
    obtain ⟨q, rfl, haffordable⟩ :=
      affordable_of_priced (tierLimits_isFinite _ hlimit) hcosts hpos hle
    obtain ⟨q', m', hchosen⟩ := h.exists_chosen hm haffordable
    have hfirst := h.firstCheapest hchosen
    obtain ⟨-, price', hbounds, -⟩ := hoptimal.least tier maxInput hlimit m'
      (mem_assignedModels_iff.mpr ⟨hprimary, maxInput, q', hlimit, hchosen⟩)
    cases hbounds.costs.symm.trans hfirst.costs
    have hleast := hfirst.least m hm q hcosts (Price.zero_lt_double.mp hpos)
    exact Double.le_trans hbounds.floor_le (Price.double_le.mpr hleast)
  · intro hfloor
    have hbounds : WithinBounds pricing config maxInput m price := ⟨hcosts, hfloor, hle⟩
    obtain ⟨m', hgiven⟩ := hoptimal.complete tier maxInput hlimit hprimary m hm price hbounds
    obtain ⟨-, price', hbounds', hleast⟩ := hoptimal.least tier maxInput hlimit m' hgiven
    obtain ⟨-, other, q, hother, hchosen⟩ := mem_assignedModels_iff.mp hgiven
    cases tierLimits_unique hother hlimit
    have hfirst := h.firstCheapest hchosen
    cases hbounds'.costs.symm.trans hfirst.costs
    exact Double.zero_lt_of_lt_of_le (Price.zero_lt_double.mpr hfirst.pos)
      (hleast m hm price hbounds)

/-- The assignments of two walks agree where the cheapest models are of one name. -/
theorem WalksOver.autoAssignTiers_eq (h : WalksOver rows walk) (h' : WalksOver rows walk')
    (hdecided : ∀ tier maxInput, (tier, maxInput) ∈ tierLimits →
      config.primaryForTier tier = none → Decided pricing config rows maxInput) :
    autoAssignTiers pricing config walk = autoAssignTiers pricing config walk' := by
  rw [autoAssignTiers, autoAssignTiers]
  apply List.filterMap_congr
  rintro ⟨tier, maxInput⟩ hlimit
  dsimp only
  cases hprimary : config.primaryForTier tier with
  | some primary => rfl
  | none =>
    have hmax := tierLimits_isFinite _ hlimit
    rw [cheapestModel_eq pricing hmax, cheapestModel_eq pricing hmax]
    cases hchosen : chosenModel pricing maxInput walk with
    | none =>
      cases hchosen' : chosenModel pricing maxInput walk' with
      | none => rfl
      | some best =>
        have hfirst := h'.firstCheapest hchosen'
        obtain ⟨q, m, hsome⟩ := h.exists_chosen hfirst.mem hfirst.affordable_eq
        cases hchosen.symm.trans hsome
    | some best =>
      have hfirst := h.firstCheapest hchosen
      obtain ⟨q, m, hsome⟩ := h'.exists_chosen hfirst.mem hfirst.affordable_eq
      have hnames := (hdecided tier maxInput hlimit hprimary).names _ _ _ _ hfirst
        (h'.firstCheapest hsome)
      rw [hsome]
      simp only [Option.map_some, hnames]

/-- Assignments that agree on every walk give a tier one name. -/
theorem names_of_same
    (hsame : ∀ walk walk', WalksOver rows walk → WalksOver rows walk' →
      autoAssignTiers pricing config walk = autoAssignTiers pricing config walk')
    (hlimit : (tier, maxInput) ∈ tierLimits) (hprimary : config.primaryForTier tier = none)
    (hm : FirstCheapest pricing rows maxInput m q)
    (hm' : FirstCheapest pricing rows maxInput m' q') : m.name = m'.name := by
  obtain ⟨walk, hwalk, hchosen⟩ := hm.exists_walk
  obtain ⟨walk', hwalk', hchosen'⟩ := hm'.exists_walk
  have hgiven : (tier, m) ∈ assignedModels pricing config walk :=
    mem_assignedModels_iff.mpr ⟨hprimary, maxInput, q, hlimit, hchosen⟩
  have hnamed : (tier.asStr, m.name) ∈ autoAssignTiers pricing config walk' := by
    rw [← hsame walk walk' hwalk hwalk', Discovery.autoAssignTiers_eq]
    exact List.mem_map.mpr ⟨_, hgiven, rfl⟩
  rw [Discovery.autoAssignTiers_eq] at hnamed
  obtain ⟨⟨tier', other⟩, hother, heq⟩ := List.mem_map.mp hnamed
  obtain ⟨htier, hname⟩ := Prod.mk.inj heq
  have hparsed := congrArg Tier.parse htier
  rw [Tier.parse_asStr, Tier.parse_asStr] at hparsed
  cases hparsed
  obtain ⟨-, limit, q'', hlimit', hchosen''⟩ := mem_assignedModels_iff.mp hother
  cases tierLimits_unique hlimit hlimit'
  cases hchosen'.symm.trans hchosen''
  exact hname.symm

end Assignment

/-- The tiers without a primary are given the cheapest models within the bounds, the same ones in
every order of the providers, exactly when the floor decides which models are above zero and the
providers agree on the cheapest one. -/
theorem autoAssignTiers_optimal_iff (pricing : PricingStore) (config : RouterConfig)
    (rows : List ProviderModelRow) :
    ((∀ walk, WalksOver rows walk →
        autoAssignTiers pricing config walk =
            (assignedModels pricing config walk).map (fun a => (a.1.asStr, a.2.name)) ∧
          Optimal pricing config rows (assignedModels pricing config walk)) ∧
      ∀ walk walk', WalksOver rows walk → WalksOver rows walk' →
        autoAssignTiers pricing config walk = autoAssignTiers pricing config walk') ↔
      ∀ tier maxInput, (tier, maxInput) ∈ tierLimits → config.primaryForTier tier = none →
        Decided pricing config rows maxInput := by
  constructor
  · rintro ⟨hbest, hsame⟩ tier maxInput hlimit hprimary
    obtain ⟨walk, hwalk⟩ := exists_walk rows
    refine ⟨?_, ?_⟩
    · intro m hm price hcosts hle
      exact hwalk.floor_of_optimal (hbest walk hwalk).2 hlimit hprimary hm hcosts hle
    · intro m m' q q' hm hm'
      exact names_of_same hsame hlimit hprimary hm hm'
  · intro hdecided
    refine ⟨?_, ?_⟩
    · intro walk hwalk
      exact ⟨Discovery.autoAssignTiers_eq pricing config walk, hwalk.optimal hdecided⟩
    · intro walk walk' hwalk hwalk'
      exact hwalk.autoAssignTiers_eq hwalk' hdecided

/-- Five cents for a million tokens. -/
def samplePricing : PricingStore :=
  ⟨Sql.KeyTable.empty.upsert
    ⟨"tiny", 0.05 / 1000, 0.2 / 1000, 8192, 1, by decide +kernel, by decide +kernel⟩⟩

example : autoAssignTiers samplePricing {} [⟨"groq", "tiny"⟩, ⟨"openai", "tiny"⟩] ≠
    autoAssignTiers samplePricing {} [⟨"openai", "tiny"⟩, ⟨"groq", "tiny"⟩] := by
  decide +kernel

/-- A model below the default floor of ten cents is assigned all the same. -/
theorem cheap_model_assigned :
    ¬ ∀ (pricing : PricingStore) (config : RouterConfig) (rows walk : List ProviderModelRow),
      WalksOver rows walk → Optimal pricing config rows (assignedModels pricing config walk) := by
  intro hall
  obtain ⟨walk, hwalk⟩ := exists_walk [⟨"openai", "tiny"⟩]
  have hlimit : (Tier.simple, (2 : Double)) ∈ tierLimits := List.mem_cons_self
  have hcosts : modelPrice samplePricing ⟨"openai", "tiny"⟩ = some 0.05 := by
    decide +kernel
  have hfloor := (hwalk.floor_of_optimal (hall samplePricing {} _ walk hwalk) hlimit rfl
    List.mem_cons_self hcosts (by decide +kernel)).mp (by decide +kernel)
  revert hfloor
  decide +kernel

example : Double.le (.ofBits ({} : RouterConfig).discovery.minInputPricePer1m)
    (storedPrice 0.10) = true := by
  decide +kernel

end Discovery

end TokenDealer
