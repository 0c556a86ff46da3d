import TokenDealer.FallbackReach
import TokenDealer.Pipeline

set_option autoImplicit true

namespace TokenDealer

/-- Every upstream call of every run carries the provider and the model its entry names. -/
def NamesEntries (pipe : Pipeline) (routed : RoutingOutput) : Prop :=
  ∀ upstream health now, ∀ call ∈ (pipe.run routed upstream health now).1.calls,
    call.request.selectedProvider = call.entry.provider ∧
      call.request.selectedModel = call.entry.model

/-- Every registered provider in the chain is asked for the model it serves by default. -/
def AsksForDefaults (pipe : Pipeline) (routed : RoutingOutput) : Prop :=
  ∀ entry ∈ (pipe.planFor routed).chain, ∀ adapter,
    pipe.registry entry.provider = some adapter → adapter.defaultModel = entry.model

namespace Pipeline

theorem resolveHandle_eq_some {pipe : Pipeline} :
    pipe.resolveHandle p = some handle ↔
      ∃ adapter, pipe.registry p = some adapter ∧
        handle = ⟨p, adapter.defaultModel, adapter, pipe.ownKey p⟩ := by
  rw [resolveHandle]
  cases pipe.registry p with
  | none => simp only [reduceCtorEq, false_and, exists_false]
  | some adapter => simp only [Option.some.injEq, exists_eq_left', eq_comm]

theorem requestBudget_eq_zero (pipe : Pipeline) (routed : RoutingOutput) :
    (pipe.planFor routed).requestBudget = 0 ↔ pipe.config.retry.requestBudgetMs = 0 := by
  have hbudget : (pipe.planFor routed).requestBudget =
      fromMillis pipe.config.retry.requestBudgetMs := rfl
  rw [hbudget, fromMillis, Nat.mul_eq_zero]
  exact or_iff_left (by decide)

/-- What an upstream is sent: the entry's provider, and the adapter's default model. -/
theorem run_call {pipe : Pipeline} {routed : RoutingOutput}
    (hcall : call ∈ (pipe.run routed upstream health now).1.calls) :
    call.entry ∈ (pipe.planFor routed).chain ∧
      ∃ adapter, pipe.registry call.entry.provider = some adapter ∧
        call.handle = ⟨call.entry.provider, adapter.defaultModel, adapter,
          pipe.ownKey call.entry.provider⟩ ∧
        call.request = canonicalFor (pipe.planFor routed) call.handle := by
  obtain ⟨hmem, hresolved, hrequest⟩ := execute_callOf upstream health now call hcall
  obtain ⟨adapter, hadapter, hhandle⟩ := resolveHandle_eq_some.mp hresolved
  exact ⟨hmem, adapter, hadapter, hhandle, hrequest⟩

/-- Under timeouts everywhere each entry of a registered provider is called. -/
theorem run_timedOut (pipe : Pipeline) (routed : RoutingOutput)
    (hbudget : pipe.config.retry.requestBudgetMs ≠ 0)
    (hentry : entry ∈ (pipe.planFor routed).chain)
    (hadapter : pipe.registry entry.provider = some adapter) :
    ∃ call ∈ (pipe.run routed timedOut .new 0).1.calls, call.entry = entry := by
  have hpos : 0 < (pipe.planFor routed).requestBudget :=
    Nat.pos_of_ne_zero fun h => hbudget ((pipe.requestBudget_eq_zero routed).mp h)
  have hresolve := resolveHandle_eq_some.mpr ⟨adapter, hadapter, rfl⟩
  obtain ⟨call, hcall, hspec, -⟩ := execute_timedOut pipe.healthHook hpos hentry hresolve
  exact ⟨call, hcall, hspec⟩

theorem run_noBudget {pipe : Pipeline} (h : pipe.config.retry.requestBudgetMs = 0)
    (routed : RoutingOutput) : (pipe.run routed upstream health now).1.calls = [] :=
  execute_noBudget ((pipe.requestBudget_eq_zero routed).mpr h) upstream health now

end Pipeline

/-- The executor asks every provider for its default model whatever the entry names, so the runs
of a routing output are faithful to the chain exactly when the chain names these models, or when
there is no budget for any call. -/
theorem names_entries_iff (pipe : Pipeline) (routed : RoutingOutput) :
    NamesEntries pipe routed ↔
      pipe.config.retry.requestBudgetMs = 0 ∨ AsksForDefaults pipe routed := by
  constructor
  · intro h
    by_cases hbudget : pipe.config.retry.requestBudgetMs = 0
    · exact .inl hbudget
    · refine .inr ?_
      intro entry hentry adapter hadapter
      obtain ⟨call, hcall, rfl⟩ := pipe.run_timedOut routed hbudget hentry hadapter
      obtain ⟨-, hmodel⟩ := h timedOut .new 0 call hcall
      obtain ⟨-, adapter', hadapter', hhandle, hrequest⟩ := Pipeline.run_call hcall
      rw [hadapter] at hadapter'
      cases hadapter'
      rw [← hmodel, hrequest, hhandle]
      rfl
  · rintro (hbudget | hdefaults) upstream health now call hcall
    · rw [Pipeline.run_noBudget hbudget] at hcall
      exact absurd hcall List.not_mem_nil
    · obtain ⟨hmem, adapter, hadapter, hhandle, hrequest⟩ := Pipeline.run_call hcall
      rw [hrequest, hhandle]
      exact ⟨rfl, hdefaults call.entry hmem adapter hadapter⟩

/-- A request for a smaller OpenAI model is sent to the default one. -/
theorem names_entries_fails :
    ¬ NamesEntries samplePipeline (sampleRouted "gpt-4o-mini" "sk-own") := by
  intro h
  obtain ⟨-, hmodel⟩ := h (fun _ => .instant
    (.ok ⟨"r", "gpt-4o", "openai", [.text "hello"], some "stop", {}⟩) timeout) .new 0 _
    (List.mem_singleton_self _)
  exact absurd hmodel (by decide)

end TokenDealer
