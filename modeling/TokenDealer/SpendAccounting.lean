import TokenDealer.ChatRun

set_option autoImplicit true

namespace TokenDealer

/-- What a request uses, as it is counted. -/
def usageFigures (usage : Usage) (cost : Option Double) : UsageFigures where
  inputTokens := usage.inputTokens.toNat
  outputTokens := usage.outputTokens.toNat
  costUsd := cost.getD 0
  requestCount := 1

namespace Finished

/-- The row that the budget check of the caller reads when the request is over. -/
def row (f : Finished) : UsageRow := Accounts.budgetRow f.time (budgetUser f.toInFlight.user)

def cost (f : Finished) : Option Double :=
  match f.outcome with
  | .completed _ cost | .streamed _ cost => cost
  | .failed _ => none

/-- Tokens, cost and count of a request that was answered. -/
def figures (f : Finished) : UsageFigures :=
  match f.outcome with
  | .completed result cost => usageFigures result.response.usage cost
  | .streamed usage cost => usageFigures usage cost
  | .failed _ => 0

/-- What a request has to add to a row. -/
def due (r : UsageRow) (f : Finished) : UsageFigures := if f.row = r then f.figures else 0

/-- What it has added. -/
def credited (r : UsageRow) (f : Finished) : UsageFigures :=
  if f.recorded then f.due r else 0

theorem figures_costUsd (f : Finished) : f.figures.costUsd = f.cost.getD 0 := by
  rw [figures, cost]
  cases f.outcome <;> rfl

end Finished

/-- A completion that is recorded has a user and a cost. -/
theorem recordCompletion_eq_some
    (h : recordCompletion accounts now userId usage cost = some accounts') :
    (∃ c, cost = some c) ∧
      accounts.upsertUsage (Accounts.budgetRow now userId) (usageFigures usage cost) =
        .ok accounts' := by
  cases userId with
  | none => cases h
  | some uid =>
    cases cost with
    | none => cases h
    | some c =>
      refine ⟨⟨c, rfl⟩, ?_⟩
      cases hrecord : accounts.recordUsage now uid usage.inputTokens usage.outputTokens c with
      | error e =>
        rw [recordCompletion, hrecord] at h
        cases h
      | ok recorded =>
        rw [recordCompletion, hrecord] at h
        cases h
        exact hrecord

theorem recordCompletion_isSome {accounts : Accounts} {cost : Double}
    (huser : ∃ u ∈ accounts.tables.users.rows, u.id = uid) (hcost : cost.isFinite = true)
    (now : Utc) (usage : Usage) :
    (recordCompletion accounts now (some uid) usage (some cost)).isSome = true := by
  have hrow : ∃ accounts', accounts.upsertUsage ⟨uid, Accounts.dayText now⟩
      (usageFigures usage (some cost)) = .ok accounts' :=
    Accounts.upsertUsage_isOk huser hcost
  obtain ⟨accounts', hupsert⟩ := hrow
  have hrecord : accounts.recordUsage now uid usage.inputTokens usage.outputTokens cost =
      .ok accounts' := hupsert
  rw [recordCompletion, hrecord]
  rfl

namespace ChatService

/-- The callers under way are the users the requests are stamped with. -/
def Stamped (s : ChatService) : Prop := ∀ r ∈ s.inFlight, r.routed.userId = budgetUser r.user

/-- A row holds what it held at first, with what has been recorded of the requests since added to
it, one after the other. -/
def Balanced (start : Accounts) (s : ChatService) : Prop :=
  ∀ r, s.accounts.spent r =
    (s.finished.map (Finished.credited r)).foldl (· + ·) (start.spent r)

section Steps

variable {s : ChatService} {start : Accounts}

theorem Balanced.finish (h : Balanced start s) (index : Nat) (f : Finished)
    (hrecorded : f.recorded = false) : Balanced start (s.finish index f) := by
  intro r
  have hnone : f.credited r = 0 := by
    rw [Finished.credited, hrecorded]
    rfl
  show s.accounts.spent r =
    ((s.finished ++ [f]).map (Finished.credited r)).foldl (· + ·) (start.spent r)
  rw [List.map_append, List.foldl_append, ← h r, List.map_singleton, hnone]
  exact (add_zero _).symm

theorem Balanced.complete (h : Balanced start s) (e : Answering) {r : InFlight}
    (hstamped : r.routed.userId = budgetUser r.user) (result : ExecutionResult) :
    Balanced start (s.complete e r result) := by
  intro row
  generalize hcost : completionCost s.pricing result.response = cost
  generalize hrecorded :
    recordCompletion s.accounts e.now r.routed.userId result.response.usage cost = recorded
  have hfinished : (s.complete e r result).finished =
      s.finished ++ [⟨r, e.now, .completed result cost, recorded.isSome⟩] := by
    rw [← hrecorded, ← hcost]
    rfl
  have haccounts : (s.complete e r result).accounts = recorded.getD s.accounts := by
    rw [← hrecorded, ← hcost]
    rfl
  rw [hfinished, haccounts, List.map_append, List.foldl_append, ← h row, List.map_singleton,
    List.foldl_cons, List.foldl_nil]
  cases recorded with
  | none => exact (add_zero _).symm
  | some accounts =>
    obtain ⟨-, hupsert⟩ := recordCompletion_eq_some hrecorded
    rw [hstamped] at hupsert
    obtain ⟨-, hspent⟩ := Accounts.upsertUsage_eq_ok hupsert
    rw [Option.getD_some, hspent row]
    apply congrArg
    rw [Finished.credited, Finished.due]
    simp only [Option.isSome_some, if_true, eq_comm]
    rfl

theorem Balanced.step (hbalanced : Balanced start s) (hstamped : Stamped s) (e : ChatEvent) :
    Balanced start (s.step e) := by
  have hmove := moves_step s e
  generalize s.step e = s' at hmove ⊢
  cases hmove with
  | stays hspent => exact fun r => (hspent r).trans (hbalanced r)
  | arrives | runs => exact hbalanced
  | @completes e r after result hr =>
    exact hbalanced.complete e (hstamped r (List.mem_of_getElem? hr)) result
  | @drops e index f hends hr hcompleted hrecorded => exact hbalanced.finish index f hrecorded

theorem Stamped.step (h : Stamped s) (e : ChatEvent) : Stamped (s.step e) := by
  intro r hr
  rcases inFlight_step hr with hr | ⟨a, -, huser, hadmission⟩
  · exact h r hr
  · obtain ⟨-, hrouted⟩ := ChatArrival.admission_dispatched hadmission
    rw [huser]
    exact (ChatArrival.routed_dispatched hrouted).1

/-- It can be told who used what at which price: no stream has ended well, the caller is a user
who is there, and the model that answered has a price, at which the cost is finite. -/
def Accountable (s : ChatService) (f : Finished) : Prop :=
  match f.outcome with
  | .failed _ => True
  | .streamed .. => False
  | .completed result _ =>
    (∃ uid, budgetUser f.toInFlight.user = some uid ∧
      ∃ u ∈ s.accounts.tables.users.rows, u.id = uid) ∧
    ∃ cost, completionCost s.pricing result.response = some cost ∧ cost.isFinite = true

/-- Whatever request the event ends is accountable. -/
def EndsAccountably (s : ChatService) (e : ChatEvent) : Prop := ∀ f, s.Ends e f → s.Accountable f

/-- An accountable request is recorded, unless it has nothing to add. -/
theorem recorded_of_accountable (hstamped : Stamped s) (hends : s.Ends e f)
    (h : s.Accountable f) : f.figures = 0 ∨ f.recorded = true := by
  cases hends with
  | failed | broken => exact .inl rfl
  | streamed => exact h.elim
  | @completed e r after result hr =>
    right
    obtain ⟨⟨uid, huser, hthere⟩, cost, hcost, hfinite⟩ := h
    have hid : r.routed.userId = some uid :=
      (hstamped r (List.mem_of_getElem? hr)).trans huser
    show (recordCompletion s.accounts e.now r.routed.userId result.response.usage
      (completionCost s.pricing result.response)).isSome = true
    rw [hcost, hid]
    exact recordCompletion_isSome hthere hfinite e.now result.response.usage

/-- Only completions are recorded, of users who are there, at a price. -/
theorem recorded_spec (hstamped : Stamped s) (hends : s.Ends e f) (h : f.recorded = true) :
    ∃ result cost uid, f.outcome = .completed result (some cost) ∧
      budgetUser f.toInFlight.user = some uid ∧
      ∃ u ∈ s.accounts.tables.users.rows, u.id = uid := by
  cases hends with
  | failed | broken | streamed => cases h
  | @completed e r after result hr =>
    obtain ⟨accounts, hrecorded⟩ := Option.isSome_iff_exists.mp h
    obtain ⟨⟨cost, hcost⟩, hupsert⟩ := recordCompletion_eq_some hrecorded
    have hthere := Accounts.upsertUsage_user hupsert
    cases huser : r.routed.userId with
    | none =>
      rw [huser] at hrecorded
      cases hrecorded
    | some uid =>
      rw [huser] at hthere
      rw [hcost]
      exact ⟨result, cost, uid, rfl,
        (hstamped r (List.mem_of_getElem? hr)).symm.trans huser, hthere⟩

end Steps

section Runs

variable {pricing : PricingStore} {accounts : Accounts} {logs : LogTables}
  {events : List ChatEvent}

theorem stamped_throughout {P : ChatService → ChatEvent → Prop}
    (hrun : (start pricing accounts logs).Throughout P events) :
    (start pricing accounts logs).Throughout (fun s e => Stamped s ∧ P s e) events := by
  apply Machine.throughout_invariant (fun s e h _ => h.step e) _ hrun
  exact fun r hr => absurd hr List.not_mem_nil

/-- In every run the rows hold what was recorded, and nothing else. -/
theorem balanced_run (pricing : PricingStore) (accounts : Accounts) (logs : LogTables)
    (events : List ChatEvent) : Balanced accounts ((start pricing accounts logs).run events) := by
  apply Machine.run_invariant (fun s e h hs => h.step hs.1 e) _
    (stamped_throughout (Machine.throughout_true _ events))
  exact fun r => rfl

/-- Where every request that is answered can be accounted for, each has been added once to the row
that the budget check of its caller reads: the counts are their sum, and so is the cost where no
addition to it is rounded. -/
theorem accounting_complete (hrun : (start pricing accounts logs).Throughout EndsAccountably events)
    (r : UsageRow) :
    let dues := ((start pricing accounts logs).run events).finished.map (Finished.due r)
    let before := accounts.spent r
    let after := ((start pricing accounts logs).run events).accounts.spent r
    after = dues.foldl (· + ·) before ∧
      after.toUsageCounts = before.toUsageCounts + (dues.map UsageFigures.toUsageCounts).sum ∧
      (Double.SumsExactly before.costUsd (dues.map UsageFigures.costUsd) →
        after.costUsd.toRat =
          before.costUsd.toRat + (dues.map fun due => due.costUsd.toRat).sum) := by
  have hrecorded : ∀ f ∈ ((start pricing accounts logs).run events).finished,
      f.figures = 0 ∨ f.recorded = true := by
    apply Machine.run_invariant (I := fun s => ∀ f ∈ s.finished, f.figures = 0 ∨ f.recorded = true)
      _ _ (stamped_throughout hrun)
    · intro s e hfinished h
      obtain ⟨hstamped, hends⟩ := h
      apply forall_finished_step hfinished
      exact fun f hf => recorded_of_accountable hstamped hf (hends f hf)
    · exact fun f hf => absurd hf List.not_mem_nil
  have hcredited : ((start pricing accounts logs).run events).finished.map (Finished.credited r) =
      ((start pricing accounts logs).run events).finished.map (Finished.due r) := by
    apply List.map_congr_left
    intro f hf
    rcases hrecorded f hf with hnothing | hrecorded
    · rw [Finished.credited, Finished.due, hnothing, ite_self, ite_self]
    · rw [Finished.credited, if_pos hrecorded]
  intro dues before after
  have hadded : after = dues.foldl (· + ·) before := by
    have hbalanced := balanced_run pricing accounts logs events r
    rwa [hcredited] at hbalanced
  refine ⟨hadded, ?_, ?_⟩
  · rw [hadded]
    exact UsageFigures.foldl_counts before dues
  · intro hexact
    rw [hadded, UsageFigures.foldl_costUsd, hexact.toRat_foldl, List.map_map]
    rfl

end Runs

/-- Ann asks with a key of the given kind, and is answered. -/
def sampleDay (via : String) : List ChatEvent :=
  [.arrive (sampleArrival sampleBudgets (sampleUser "ann" via) "1"),
    .answer (sampleAnswering (.ok sampleResponse))]

theorem sampleDay_accountable :
    sampleStart.Throughout EndsAccountably (sampleDay "api_key") := by
  refine ⟨?_, ?_, trivial⟩
  · intro f hf
    cases hf
  · intro f hf
    cases hf with
    | failed => trivial
    | @completed e r after result hr hstream hrun =>
      -- What holds of the request under way, and of the executor's run for it, is evaluated.
      have hcaller : (sampleStart.run ((sampleDay "api_key").take 1)).inFlight[0]?.map
          (fun r => budgetUser r.user) = some (some "ann") := by
        decide +kernel
      have hanswer : (sampleStart.run ((sampleDay "api_key").take 1)).inFlight[0]?.map
          (fun r => (samplePipeline.run r.routed (sampleAnswering (.ok sampleResponse)).upstream
            .new 0).2.toOption.map fun result => completionCost
              (sampleStart.run ((sampleDay "api_key").take 1)).pricing result.response) =
            some (some (some 10)) := by
        decide +kernel
      have hr' : (sampleStart.run ((sampleDay "api_key").take 1)).inFlight[0]? = some r := hr
      have hrun' : samplePipeline.run r.routed (sampleAnswering (.ok sampleResponse)).upstream
          .new 0 = (after, .ok result) := hrun
      rw [hr', Option.map_some] at hcaller hanswer
      rw [hrun'] at hanswer
      have hcost := Option.some.inj (Option.some.inj hanswer)
      exact ⟨⟨"ann", Option.some.inj hcaller, by decide +kernel⟩, 10, hcost, by decide +kernel⟩

/-- Ann's row has the count of her request and its ten dollars. -/
theorem accounting_complete_sample :
    let dues := (sampleStart.run (sampleDay "api_key")).finished.map
      (Finished.due ⟨"ann", Accounts.dayText 0⟩)
    let before := sampleAccounts.spent ⟨"ann", Accounts.dayText 0⟩
    let after := (sampleStart.run (sampleDay "api_key")).accounts.spent ⟨"ann", Accounts.dayText 0⟩
    after = dues.foldl (· + ·) before ∧
      after.toUsageCounts = before.toUsageCounts + (dues.map UsageFigures.toUsageCounts).sum ∧
      after.costUsd.toRat =
        before.costUsd.toRat + (dues.map fun due => due.costUsd.toRat).sum := by
  obtain ⟨hadded, hcounts, hcost⟩ :=
    accounting_complete sampleDay_accountable ⟨"ann", Accounts.dayText 0⟩
  exact ⟨hadded, hcounts, hcost (by decide +kernel)⟩

/-- Ann asks for a stream, and its chunks report what it used. -/
def sampleStreamDay : List ChatEvent :=
  [.arrive (sampleArrival sampleBudgets (sampleUser "ann" "api_key") "1" true),
    .endStream ⟨0, samplePipeline, some sampleResponse.usage, 0⟩]

/-- An answer to the shared key is added to no row, and neither is one that is streamed: the counts
of the row stay as they were. -/
theorem accounting_incomplete :
    (∃ r, ((sampleStart.run (sampleDay "legacy_key")).accounts.spent r).toUsageCounts ≠
      (sampleAccounts.spent r).toUsageCounts +
        ((sampleStart.run (sampleDay "legacy_key")).finished.map
          fun f => (f.due r).toUsageCounts).sum) ∧
    ∃ r, ((sampleStart.run sampleStreamDay).accounts.spent r).toUsageCounts ≠
      (sampleAccounts.spent r).toUsageCounts + ((sampleStart.run sampleStreamDay).finished.map
        fun f => (f.due r).toUsageCounts).sum :=
  ⟨⟨⟨"", Accounts.dayText 0⟩, by decide +kernel⟩, ⟨"ann", Accounts.dayText 0⟩, by decide +kernel⟩

end ChatService

end TokenDealer
