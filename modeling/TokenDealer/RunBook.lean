import TokenDealer.AnsweringCall
import TokenDealer.FallbackBook
import TokenDealer.FallbackStop

set_option autoImplicit true

namespace TokenDealer

theorem chainFrom_nodup (position : Nat) (refs : List String) :
    (chainFrom position refs).Nodup := by
  induction refs generalizing position with
  | nil => exact List.nodup_nil
  | cons ref rest ih =>
    rw [chainFrom]
    refine List.nodup_cons.mpr ⟨fun h => ?_, ih (position + 1)⟩
    exact absurd (position_chainFrom h) (Nat.not_succ_le_self position)

theorem RoutingPlan.chain_nodup (plan : RoutingPlan) : plan.chain.Nodup := chainFrom_nodup 0 _

/-- The calls of a run for one entry of its chain. -/
def callsFor (entry : ChainEntry) (calls : List UpstreamCall) : List UpstreamCall :=
  calls.filter (·.entry = entry)

namespace Visited

variable {plan : RoutingPlan} {resolve : String → Option ProviderHandle} {hook : HealthHook}

theorem call_entry (h : Visited plan resolve hook visit v) (hcall : c ∈ v.calls) :
    c.entry = v.entry := by
  cases h with
  | skipped _ _ _ hcalls =>
    rw [hcalls] at hcall
    exact absurd hcall List.not_mem_nil
  | once _ _ _ _ hfirst hcalls =>
    rw [hcalls] at hcall
    cases List.mem_singleton.mp hcall
    rw [hfirst]
    rfl
  | twice _ _ _ _ hfirst hagain hcalls =>
    rw [hcalls] at hcall
    rcases List.mem_cons.mp hcall with rfl | hcall
    · rw [hfirst]
      rfl
    · cases List.mem_singleton.mp hcall
      rw [hagain]
      rfl

theorem calls_length (h : Visited plan resolve hook visit v) : v.calls.length ≤ 2 := by
  cases h with
  | skipped _ _ _ hcalls => exact hcalls ▸ Nat.zero_le 2
  | once _ _ _ _ _ hcalls => exact hcalls ▸ Nat.le_succ 1
  | twice _ _ _ _ _ _ hcalls => exact hcalls ▸ Nat.le_refl 2

theorem callsFor_self (h : Visited plan resolve hook visit v) :
    callsFor v.entry v.calls = v.calls :=
  List.filter_eq_self.mpr fun _ hcall => decide_eq_true (h.call_entry hcall)

theorem callsFor_of_ne (h : Visited plan resolve hook visit v) (hne : v.entry ≠ entry) :
    callsFor entry v.calls = [] :=
  List.filter_eq_nil_iff.mpr fun _ hcall heq =>
    hne ((h.call_entry hcall).symm.trans (of_decide_eq_true heq))

end Visited

theorem HealthHook.record_apply_of_ne {p q : String} (h : p ≠ q) (hook : HealthHook)
    (health : HealthRegistry) (outcome : AttemptOutcome) (now : Instant) :
    hook.record health q outcome now p = health p := by
  rw [record]
  split
  · exact Function.update_of_ne h _ _
  · exact Function.update_of_ne h _ _

/-- A call leaves the health of every other provider as it was. -/
theorem healthAfter_of_ne {p : String} (h : handle.providerId ≠ p) (plan : RoutingPlan)
    (hook : HealthHook) (entry : ChainEntry) (isRetry : Bool) (reply : Reply) (now : Instant)
    (health : HealthRegistry) :
    (callOf plan hook entry isRetry handle reply now health).healthAfter p = health p :=
  HealthHook.record_apply_of_ne h.symm hook health _ _

theorem Visited.health_of_not_called {plan : RoutingPlan}
    {resolve : String → Option ProviderHandle} {hook : HealthHook} {p : String}
    (h : Visited plan resolve hook visit v) (hp : ∀ call ∈ v.calls, call.handle.providerId ≠ p) :
    v.healthAfter p = v.health p := by
  cases h with
  | skipped _ _ _ _ _ hhealth => rw [hhealth]
  | once _ _ _ _ hfirst hcalls _ hhealth =>
    rw [hcalls, hfirst] at hp
    rw [hhealth, hfirst]
    exact healthAfter_of_ne (hp _ List.mem_cons_self) ..
  | twice _ _ _ _ hfirst hagain hcalls _ hhealth =>
    rw [hcalls, hagain, hfirst] at hp
    have hne := hp _ List.mem_cons_self
    rw [hhealth, hagain, hfirst]
    exact (healthAfter_of_ne hne ..).trans (healthAfter_of_ne hne ..)

/-- Every visit begins at the time and with the health map that the one before it ended with. -/
def Threaded : List VisitRecord → Instant → HealthRegistry → HealthRegistry → Prop
  | [], _, health, final => final = health
  | v :: visits, now, health, final =>
    v.reachedAt = now ∧ v.health = health ∧ Threaded visits v.leftAt v.healthAfter final

/-- The books of the loop from one entry of the chain on, one record an entry it gets to. -/
inductive RunBook (plan : RoutingPlan) (resolve : String → Option ProviderHandle)
    (hook : HealthHook) (started : Instant) (upstream : Nat → Visit) :
    List ChainEntry → ExecState → List VisitRecord → ExecState → AppResult ExecutionResult →
      Prop where
  | exhausted (message : String) :
      RunBook plan resolve hook started upstream [] st [] st (.error (.internal message))
  | overBudget
      (hstep : executeEntry plan resolve hook started entry (upstream entry.position) st =
        (final, some (.error (.internal message))))
      (hbudget : plan.requestBudget ≤ st.now + (upstream entry.position).beforeBudget - started)
      (hcalls : final.calls = st.calls) (hhealth : final.health = st.health) :
      RunBook plan resolve hook started upstream (entry :: rest) st [] final
        (.error (.internal message))
  | stop
      (hstep : executeEntry plan resolve hook started v.entry (upstream v.entry.position) st =
        (final, some result))
      (hbudget : v.testedAt (upstream v.entry.position) - started < plan.requestBudget)
      (hvisited : Visited plan resolve hook (upstream v.entry.position) v)
      (hbooked : BookedBy v st final) (hgoes : GoesOn v st final (some result)) :
      RunBook plan resolve hook started upstream (v.entry :: rest) st [v] final result
  | next
      (hstep : executeEntry plan resolve hook started v.entry (upstream v.entry.position) st =
        (st', none))
      (hbudget : v.testedAt (upstream v.entry.position) - started < plan.requestBudget)
      (hvisited : Visited plan resolve hook (upstream v.entry.position) v)
      (hbooked : BookedBy v st st') (hgoes : GoesOn v st st' none)
      (hrest : RunBook plan resolve hook started upstream rest st' visits final result) :
      RunBook plan resolve hook started upstream (v.entry :: rest) st (v :: visits) final result

theorem executeChain_book (plan : RoutingPlan) (resolve : String → Option ProviderHandle)
    (hook : HealthHook) (started : Instant) (upstream : Nat → Visit) (chain : List ChainEntry)
    (st : ExecState) :
    ∃ visits, RunBook plan resolve hook started upstream chain st visits
      (executeChain plan resolve hook started upstream chain st).1
      (executeChain plan resolve hook started upstream chain st).2 := by
  induction chain generalizing st with
  | nil => exact ⟨[], .exhausted _⟩
  | cons entry rest ih =>
    have hentry := executeEntry_book plan resolve hook started entry (upstream entry.position) st
    rw [executeChain]
    cases hstep : executeEntry plan resolve hook started entry (upstream entry.position) st with
    | mk st' verdict =>
      rw [hstep] at hentry
      cases verdict with
      | some result =>
        cases hentry with
        | overBudget hbudget hcalls hhealth message =>
          exact ⟨[], .overBudget hstep hbudget hcalls hhealth⟩
        | booked v hv hbudget hvisited hbooked hgoes =>
          subst hv
          exact ⟨[v], .stop hstep hbudget hvisited hbooked hgoes⟩
      | none =>
        cases hentry with
        | booked v hv hbudget hvisited hbooked hgoes =>
          subst hv
          obtain ⟨visits, hrest⟩ := ih st'
          exact ⟨v :: visits, .next hstep hbudget hvisited hbooked hgoes hrest⟩

namespace RunBook

variable {plan : RoutingPlan} {resolve : String → Option ProviderHandle} {hook : HealthHook}

theorem entries_prefix
    (h : RunBook plan resolve hook started upstream chain st visits final result) :
    visits.map (·.entry) <+: chain := by
  induction h with
  | exhausted | overBudget => exact List.nil_prefix
  | stop => exact ⟨_, rfl⟩
  | next _ _ _ _ _ _ ih => exact (List.prefix_cons_inj _).mpr ih

theorem visited (h : RunBook plan resolve hook started upstream chain st visits final result) :
    ∀ v ∈ visits, Visited plan resolve hook (upstream v.entry.position) v := by
  induction h with
  | exhausted | overBudget => exact fun v h => absurd h List.not_mem_nil
  | stop _ _ hvisited => exact List.forall_mem_singleton.mpr hvisited
  | next _ _ hvisited _ _ _ ih => exact List.forall_mem_cons.mpr ⟨hvisited, ih⟩

theorem threaded (h : RunBook plan resolve hook started upstream chain st visits final result) :
    Threaded visits st.now st.health final.health := by
  induction h with
  | exhausted => rfl
  | overBudget _ _ _ hhealth => exact hhealth
  | stop _ _ _ hbooked => exact ⟨hbooked.reachedAt, hbooked.found, hbooked.left⟩
  | next _ _ _ hbooked _ _ ih =>
    rw [hbooked.leftAt, hbooked.left] at ih
    exact ⟨hbooked.reachedAt, hbooked.found, ih⟩

theorem calls (h : RunBook plan resolve hook started upstream chain st visits final result) :
    final.calls = st.calls ++ visits.flatMap (·.calls) := by
  induction h with
  | exhausted => exact (List.append_nil _).symm
  | overBudget _ _ hcalls => rw [hcalls, List.flatMap_nil, List.append_nil]
  | stop _ _ _ hbooked => rw [hbooked.calls, List.flatMap_singleton]
  | next _ _ _ hbooked _ _ ih => rw [ih, hbooked.calls, List.flatMap_cons, List.append_assoc]

/-- What a run reports once an entry has served it. -/
theorem served (h : RunBook plan resolve hook started upstream chain st visits final (.ok r)) :
    ∃ before last, visits = before ++ [last] ∧ last.Serves ∧ (∀ v ∈ before, v.Fails) ∧
      r.attempts = st.attempts ++ visits.flatMap (·.attempts) ∧
      r.providersTried = st.providersTried ++ visits.map (·.provider) ∧
      r.fallbackCount = st.fallbackCount + before.length := by
  generalize hresult : (Except.ok r : AppResult ExecutionResult) = result at h
  induction h with
  | exhausted | overBudget => cases hresult
  | stop _ _ _ hbooked hgoes =>
    cases hgoes with
    | serves hserves hcount response =>
      cases hresult
      refine ⟨[], _, rfl, hserves, fun _ h => absurd h List.not_mem_nil, ?_, hbooked.tried, hcount⟩
      rw [List.flatMap_singleton]
      exact hbooked.attempts
    | stops e => cases hresult
  | next _ _ _ hbooked hgoes _ ih =>
    obtain ⟨before, last, rfl, hserves, hbefore, hattempts, htried, hcount⟩ := ih hresult
    cases hgoes with
    | passes hfails hpassed =>
      refine ⟨_ :: before, last, rfl, hserves, List.forall_mem_cons.mpr ⟨hfails, hbefore⟩, ?_, ?_,
        ?_⟩
      · rw [hattempts, hbooked.attempts, List.flatMap_cons, List.append_assoc]
      · rw [htried, hbooked.tried, List.append_assoc]
        rfl
      · rw [hcount, hpassed, List.length_cons, Nat.add_right_comm, Nat.add_assoc]

end RunBook

section Calls

variable {plan : RoutingPlan} {resolve : String → Option ProviderHandle} {hook : HealthHook}
  {upstream : Nat → Visit} {visits : List VisitRecord}

theorem callsFor_append (entry : ChainEntry) (calls calls' : List UpstreamCall) :
    callsFor entry (calls ++ calls') = callsFor entry calls ++ callsFor entry calls' :=
  List.filter_append _ _

theorem callsFor_eq_nil (h : ∀ v ∈ visits, Visited plan resolve hook (upstream v.entry.position) v)
    (hentry : entry ∉ visits.map (·.entry)) :
    callsFor entry (visits.flatMap (·.calls)) = [] := by
  induction visits with
  | nil => rfl
  | cons v visits ih =>
    obtain ⟨hv, hvisits⟩ := List.forall_mem_cons.mp h
    have hne : v.entry ≠ entry := fun heq => hentry (List.mem_cons.mpr (.inl heq.symm))
    rw [List.flatMap_cons, callsFor_append, hv.callsFor_of_ne hne, List.nil_append]
    exact ih hvisits fun hmem => hentry (List.mem_cons_of_mem _ hmem)

/-- No two visits share an entry, so a visit's calls are all there are for its entry. -/
theorem callsFor_visit (h : ∀ v ∈ visits, Visited plan resolve hook (upstream v.entry.position) v)
    (hnodup : (visits.map (·.entry)).Nodup) (hv : v ∈ visits) :
    callsFor v.entry (visits.flatMap (·.calls)) = v.calls := by
  induction visits with
  | nil => exact absurd hv List.not_mem_nil
  | cons w visits ih =>
    obtain ⟨hw, hvisits⟩ := List.forall_mem_cons.mp h
    obtain ⟨hfresh, hnodup⟩ := List.nodup_cons.mp hnodup
    rw [List.flatMap_cons, callsFor_append]
    rcases List.mem_cons.mp hv with rfl | hv
    · rw [hw.callsFor_self, callsFor_eq_nil hvisits hfresh, List.append_nil]
    · have hmem : v.entry ∈ visits.map (·.entry) := List.mem_map_of_mem hv
      have hne : w.entry ≠ v.entry := by
        intro heq
        rw [← heq] at hmem
        exact hfresh hmem
      rw [hw.callsFor_of_ne hne, List.nil_append]
      exact ih hvisits hnodup hv

theorem callsFor_length (h : ∀ v ∈ visits, Visited plan resolve hook (upstream v.entry.position) v)
    (hnodup : (visits.map (·.entry)).Nodup) (entry : ChainEntry) :
    (callsFor entry (visits.flatMap (·.calls))).length ≤ 2 := by
  by_cases hentry : entry ∈ visits.map (·.entry)
  · obtain ⟨v, hv, rfl⟩ := List.mem_map.mp hentry
    exact callsFor_visit h hnodup hv ▸ (h v hv).calls_length
  · rw [callsFor_eq_nil h hentry]
    exact Nat.zero_le 2

/-- The health of a provider that no visit has called goes through a run as it is. -/
theorem Threaded.health_of_not_called {p : String} (h : Threaded visits now health final)
    (hvisited : ∀ v ∈ visits, Visited plan resolve hook (upstream v.entry.position) v)
    (hp : ∀ call ∈ visits.flatMap (·.calls), call.handle.providerId ≠ p) : final p = health p := by
  induction visits generalizing now health with
  | nil => exact congrFun h p
  | cons v visits ih =>
    obtain ⟨-, hhealth, hrest⟩ := h
    obtain ⟨hv, hvisits⟩ := List.forall_mem_cons.mp hvisited
    rw [List.flatMap_cons] at hp
    obtain ⟨hhere, hlater⟩ := List.forall_mem_append.mp hp
    rw [ih hrest hvisits hlater, hv.health_of_not_called hhere, hhealth]

end Calls

section Conditions

variable (plan : RoutingPlan) (resolve : String → Option ProviderHandle) (hook : HealthHook)

/-- The executor is in time for an entry, its provider is up and there is an adapter for it. -/
def IsCalled (started : Instant) (entry : ChainEntry) (visit : Visit) (st : ExecState) : Prop :=
  st.now + visit.beforeBudget - started < plan.requestBudget ∧
    st.health.isAvailable entry.provider
      (st.now + visit.beforeBudget + visit.beforeAvailable) = true ∧
    (resolve entry.provider).isSome

/-- A condition on what happens outside holds at every entry that the executor calls, given the
time at which it looks at the budget there. -/
def WheneverCalled (P : Visit → Instant → Prop) (started : Instant) (upstream : Nat → Visit) :
    List ChainEntry → ExecState → Prop
  | [], _ => True
  | entry :: rest, st =>
    (IsCalled plan resolve started entry (upstream entry.position) st →
      P (upstream entry.position) (st.now + (upstream entry.position).beforeBudget)) ∧
    ∀ st', executeEntry plan resolve hook started entry (upstream entry.position) st =
        (st', none) → WheneverCalled P started upstream rest st'

variable {plan resolve hook}

theorem Visited.called_iff (h : Visited plan resolve hook visit v) :
    v.calls ≠ [] ↔ v.health.isAvailable v.entry.provider (v.checkedAt visit) = true ∧
      (resolve v.entry.provider).isSome := by
  cases h with
  | skipped hskip _ _ hcalls =>
    refine ⟨fun h => absurd hcalls h, fun ⟨hup, hsome⟩ => ?_⟩
    rcases hskip with hdown | hnone
    · exact absurd hup (Bool.eq_false_iff.mp hdown)
    · rw [hnone] at hsome
      exact absurd hsome Bool.false_ne_true
  | once hup hresolve _ _ _ hcalls =>
    exact ⟨fun _ => ⟨hup, hresolve ▸ rfl⟩, fun _ => hcalls ▸ List.cons_ne_nil _ _⟩
  | twice hup hresolve _ _ _ _ hcalls =>
    exact ⟨fun _ => ⟨hup, hresolve ▸ rfl⟩, fun _ => hcalls ▸ List.cons_ne_nil _ _⟩

theorem isCalled_iff (h : Visited plan resolve hook visit v) (hbooked : BookedBy v st final)
    (hbudget : v.testedAt visit - started < plan.requestBudget) :
    IsCalled plan resolve started v.entry visit st ↔ v.calls ≠ [] := by
  rw [h.called_iff, VisitRecord.checkedAt, VisitRecord.testedAt, hbooked.reachedAt, hbooked.found]
  rw [VisitRecord.testedAt, hbooked.reachedAt] at hbudget
  exact and_iff_right hbudget

theorem RunBook.wheneverCalled_iff (P : Visit → Instant → Prop)
    (h : RunBook plan resolve hook started upstream chain st visits final result) :
    WheneverCalled plan resolve hook P started upstream chain st ↔
      ∀ v ∈ visits, v.calls ≠ [] →
        P (upstream v.entry.position) (v.testedAt (upstream v.entry.position)) := by
  induction h with
  | exhausted => exact ⟨fun _ v hv => absurd hv List.not_mem_nil, fun _ => trivial⟩
  | overBudget hstep hbudget =>
    refine ⟨fun _ v hv => absurd hv List.not_mem_nil, fun _ => ⟨?_, fun st' h => ?_⟩⟩
    · exact fun hcalled => absurd hcalled.1 (Nat.not_lt_of_ge hbudget)
    · cases hstep.symm.trans h
  | stop hstep hbudget hvisited hbooked =>
    rw [WheneverCalled, isCalled_iff hvisited hbooked hbudget, List.forall_mem_singleton,
      VisitRecord.testedAt, hbooked.reachedAt]
    refine and_iff_left fun st' h => ?_
    cases hstep.symm.trans h
  | next hstep hbudget hvisited hbooked _ _ ih =>
    rw [WheneverCalled, isCalled_iff hvisited hbooked hbudget, List.forall_mem_cons, ← ih,
      VisitRecord.testedAt, hbooked.reachedAt]
    refine and_congr_right fun _ => ⟨fun h => h _ hstep, fun h st' heq => ?_⟩
    cases hstep.symm.trans heq
    exact h

end Conditions

/-- The books of a whole run: the visits it made, in the order of its chain. -/
structure Ledger (plan : RoutingPlan) (resolve : String → Option ProviderHandle)
    (hook : HealthHook) (upstream : Nat → Visit) (health : HealthRegistry) (now : Instant)
    (visits : List VisitRecord) (final : ExecState) : Prop where
  entries : visits.map (·.entry) <+: plan.chain
  visited : ∀ v ∈ visits, Visited plan resolve hook (upstream v.entry.position) v
  threaded : Threaded visits now health final.health
  calls : final.calls = visits.flatMap (·.calls)

/-- What the result of a served run says, given the visits before the serving one and that one. -/
structure ServedBy (before : List VisitRecord) (last : VisitRecord) (r : ExecutionResult) :
    Prop where
  providersTried : r.providersTried = (before ++ [last]).map (·.entry.provider)
  fallbackCount : r.fallbackCount = r.providersTried.length - 1
  attempts : r.attempts = (before ++ [last]).flatMap (·.attempts)
  success : ∃ init a, r.attempts = init ++ [a] ∧ a.outcome = .success ∧
    a.provider = last.entry.provider ∧ ∀ b ∈ init, b.outcome ≠ .success

/-- The handle that the resolver gives out is one of the provider that it was asked for. -/
def NamesProvider (resolve : String → Option ProviderHandle) : Prop :=
  ∀ p handle, resolve p = some handle → handle.providerId = p

theorem Visited.provider_eq {plan : RoutingPlan} {resolve : String → Option ProviderHandle}
    {hook : HealthHook} (h : Visited plan resolve hook visit v) (hnames : NamesProvider resolve) :
    v.provider = v.entry.provider := by
  cases h with
  | skipped _ _ _ _ _ _ hprovider => exact hprovider
  | once _ hresolve _ _ _ _ _ _ hprovider => exact hprovider.trans (hnames _ _ hresolve)
  | twice _ hresolve _ _ _ _ _ _ _ hprovider => exact hprovider.trans (hnames _ _ hresolve)

theorem servedBy_of_serves (hproviders : ∀ v ∈ before ++ [last], v.provider = v.entry.provider)
    (hlast : last.Serves) (hbefore : ∀ v ∈ before, v.Fails)
    (hattempts : r.attempts = (before ++ [last]).flatMap (·.attempts))
    (htried : r.providersTried = (before ++ [last]).map (·.provider))
    (hcount : r.fallbackCount = before.length) : ServedBy before last r := by
  refine ⟨htried.trans (List.map_congr_left hproviders), ?_, hattempts, ?_⟩
  · rw [htried, List.length_map, List.length_append, hcount]
    rfl
  · obtain ⟨init, a, ha, hsuccess, hprovider, hinit⟩ := hlast
    refine ⟨before.flatMap (·.attempts) ++ init, a, ?_, hsuccess, ?_, ?_⟩
    · rw [hattempts, List.flatMap_append, List.flatMap_singleton, ha, List.append_assoc]
    · exact hprovider.trans (hproviders last (List.mem_append_right _ List.mem_cons_self))
    · refine List.forall_mem_append.mpr ⟨fun b hb => ?_, hinit⟩
      obtain ⟨v, hv, hb⟩ := List.mem_flatMap.mp hb
      exact hbefore v hv b hb

section Run

variable {plan : RoutingPlan} {resolve : String → Option ProviderHandle}

theorem execute_ledger (plan : RoutingPlan) (resolve : String → Option ProviderHandle)
    (hook : HealthHook) (upstream : Nat → Visit) (health : HealthRegistry) (now : Instant) :
    ∃ visits, RunBook plan resolve hook now upstream plan.chain { now, health } visits
        (execute plan resolve hook upstream health now).1
        (execute plan resolve hook upstream health now).2 ∧
      Ledger plan resolve hook upstream health now visits
        (execute plan resolve hook upstream health now).1 := by
  obtain ⟨visits, hbook⟩ := executeChain_book plan resolve hook now upstream plan.chain
    { now, health }
  exact ⟨visits, hbook, hbook.entries_prefix, hbook.visited, hbook.threaded, hbook.calls⟩

theorem Ledger.nodup (h : Ledger plan resolve hook upstream health now visits final) :
    (visits.map (·.entry)).Nodup :=
  h.entries.sublist.nodup plan.chain_nodup

theorem Ledger.callsFor_length (h : Ledger plan resolve hook upstream health now visits final)
    (entry : ChainEntry) : (callsFor entry final.calls).length ≤ 2 := by
  rw [h.calls]
  exact TokenDealer.callsFor_length h.visited h.nodup entry

theorem Ledger.health_of_not_called
    (h : Ledger plan resolve hook upstream health now visits final) (p : String)
    (hp : ∀ call ∈ final.calls, call.handle.providerId ≠ p) : final.health p = health p := by
  rw [h.calls] at hp
  exact h.threaded.health_of_not_called h.visited hp

/-- The bookkeeping of a run: one visit an entry of a prefix of the chain, at most two calls an
entry, and no trace in the health map of a provider that was not called. -/
theorem execute_bookkeeping (hnames : NamesProvider resolve) (hook : HealthHook)
    (upstream : Nat → Visit) (health : HealthRegistry) (now : Instant) :
    ∃ visits, Ledger plan resolve hook upstream health now visits
        (execute plan resolve hook upstream health now).1 ∧
      (∀ r, (execute plan resolve hook upstream health now).2 = .ok r →
        ∃ before last, visits = before ++ [last] ∧ ServedBy before last r) ∧
      (∀ entry,
        (callsFor entry (execute plan resolve hook upstream health now).1.calls).length ≤ 2) ∧
      ∀ p, (∀ call ∈ (execute plan resolve hook upstream health now).1.calls,
          call.handle.providerId ≠ p) →
        (execute plan resolve hook upstream health now).1.health p = health p := by
  obtain ⟨visits, hbook, hledger⟩ := execute_ledger plan resolve hook upstream health now
  refine ⟨visits, hledger, ?_, hledger.callsFor_length, hledger.health_of_not_called⟩
  intro r hr
  rw [hr] at hbook
  obtain ⟨before, last, rfl, hserves, hbefore, hattempts, htried, hcount⟩ := hbook.served
  exact ⟨before, last, rfl, servedBy_of_serves
    (fun v hv => (hledger.visited v hv).provider_eq hnames) hserves hbefore hattempts htried
    (hcount.trans (Nat.zero_add _))⟩

theorem namesProvider_sampleResolve : NamesProvider sampleResolve := by
  intro p handle h
  cases h
  rfl

theorem execute_bookkeeping_sample :
    ∃ visits, Ledger (samplePlan "a/m" ["b/m"]) sampleResolve ⟨3, 60⟩ limitedThenRefused .new 0
        visits (execute (samplePlan "a/m" ["b/m"]) sampleResolve ⟨3, 60⟩ limitedThenRefused .new
          0).1 ∧
      (∀ r, (execute (samplePlan "a/m" ["b/m"]) sampleResolve ⟨3, 60⟩ limitedThenRefused .new
          0).2 = .ok r →
        ∃ before last, visits = before ++ [last] ∧ ServedBy before last r) ∧
      (∀ entry, (callsFor entry (execute (samplePlan "a/m" ["b/m"]) sampleResolve ⟨3, 60⟩
        limitedThenRefused .new 0).1.calls).length ≤ 2) ∧
      ∀ p, (∀ call ∈ (execute (samplePlan "a/m" ["b/m"]) sampleResolve ⟨3, 60⟩
          limitedThenRefused .new 0).1.calls, call.handle.providerId ≠ p) →
        (execute (samplePlan "a/m" ["b/m"]) sampleResolve ⟨3, 60⟩ limitedThenRefused .new
          0).1.health p = HealthRegistry.new p :=
  execute_bookkeeping namesProvider_sampleResolve ⟨3, 60⟩ limitedThenRefused .new 0

end Run

end TokenDealer
