import TokenDealer.StreamReasons

set_option autoImplicit true

namespace TokenDealer

open Json Incremental

/-- A stream with one end: at most one chunk has a finish reason, no content follows it, and where
the upstream gave reasons it is one of them. -/
structure OneTerminal (given : List String) (chunks : List CanonicalChunk) : Prop where
  single : (reasons chunks).length ≤ 1
  last : chunks.Pairwise fun c d => c.finishReason.isSome → ¬ d.IsContent
  reason : given ≠ [] → ∀ r ∈ reasons chunks, r ∈ given

section Chunks

variable {given : List String} {chunks : List CanonicalChunk}

theorem reasons_eq_nil : reasons chunks = [] ↔ ∀ c ∈ chunks, c.finishReason = none :=
  List.filterMap_eq_nil_iff

/-- Without a finish reason there is no end to be single. -/
theorem oneTerminal_of_no_reason (h : reasons chunks = []) : OneTerminal given chunks where
  single := by
    rw [h]
    exact Nat.zero_le 1
  last := by
    apply List.pairwise_of_forall_mem_list
    intro c hc d _ hfinish
    rw [reasons_eq_nil.mp h c hc] at hfinish
    exact absurd hfinish Bool.false_ne_true
  reason _ r hr := by
    rw [h] at hr
    cases hr

/-- Around a chunk with a reason, no other chunk may have one, and behind it none may have
content. -/
theorem oneTerminal_around {before after : List CanonicalChunk} {c : CanonicalChunk}
    (hc : c.finishReason = some r) :
    OneTerminal given (before ++ c :: after) ↔
      reasons before = [] ∧ reasons after = [] ∧ (∀ d ∈ after, ¬ d.IsContent) ∧
        (given = [] ∨ r ∈ given) := by
  have hreasons : reasons (before ++ c :: after) = reasons before ++ r :: reasons after := by
    rw [reasons_append]
    exact congrArg _ (List.filterMap_cons_some hc)
  constructor
  · intro h
    have hsingle := h.single
    rw [hreasons, List.length_append, List.length_cons] at hsingle
    have hbefore : reasons before = [] := List.length_eq_zero_iff.mp (by omega)
    have hafter : reasons after = [] := List.length_eq_zero_iff.mp (by omega)
    refine ⟨hbefore, hafter, ?_, ?_⟩
    · have hlast := (List.pairwise_cons.mp (List.pairwise_append.mp h.last).2.1).1
      intro d hd
      exact hlast d hd (Option.isSome_of_eq_some hc)
    · apply or_iff_not_imp_left.mpr
      intro hgiven
      refine h.reason hgiven r ?_
      rw [hreasons]
      exact List.mem_append_right _ List.mem_cons_self
  · intro h
    obtain ⟨hbefore, hafter, hcontent, hgiven⟩ := h
    refine ⟨?_, ?_, ?_⟩
    · rw [hreasons, hbefore, hafter]
      exact Nat.le_refl 1
    · have hfirst : OneTerminal given before := oneTerminal_of_no_reason hbefore
      have hrest : OneTerminal given after := oneTerminal_of_no_reason hafter
      refine List.pairwise_append.mpr ⟨hfirst.last, List.pairwise_cons.mpr ⟨?_, hrest.last⟩, ?_⟩
      · exact fun d hd _ => hcontent d hd
      · intro a ha d _ hfinish
        rw [reasons_eq_nil.mp hbefore a ha] at hfinish
        exact absurd hfinish Bool.false_ne_true
    · intro hne r' hr'
      rw [hreasons, hbefore, hafter] at hr'
      rw [List.mem_singleton.mp hr']
      exact hgiven.resolve_left hne

end Chunks

theorem StreamId.not_isContent_endChunk (ids : StreamId) (reason : Option String)
    (usage : Option Usage) : ¬ (ids.endChunk reason usage).IsContent := by
  intro h
  obtain ⟨t, ht, -⟩ | h := h
  · cases ht
  · cases h

theorem StreamId.isContent_textChunk (ids : StreamId) (t : String) (reason : Option String) :
    (ids.textChunk t reason).IsContent ↔ t ≠ "" := by
  constructor
  · intro h
    obtain ⟨t', ht, hne⟩ | h := h
    · cases ht
      exact hne
    · cases h
  · exact fun h => .inl ⟨t, rfl, h⟩

/-- Text chunks before chunks of an end have no content where the texts have none. -/
theorem StreamId.forall_not_isContent (ids : StreamId) (ts : List String)
    (reason : Option String) {ends : List CanonicalChunk} (h : ∀ c ∈ ends, ¬ c.IsContent) :
    (∀ c ∈ ts.map (ids.textChunk · reason) ++ ends, ¬ c.IsContent) ↔ ∀ t ∈ ts, t = "" := by
  rw [List.forall_mem_append, and_iff_left h, List.forall_mem_map]
  apply forall₂_congr
  intro t _
  rw [isContent_textChunk, not_ne_iff]

theorem forall_mem_toList {o : Option String} : (∀ t ∈ o.toList, t = "") ↔ o.getD "" = "" := by
  cases o with
  | none => exact iff_of_true (List.forall_mem_nil _) rfl
  | some t => exact List.forall_mem_singleton

namespace Anthropic

variable (ids : StreamId)

theorem silent_emit (s : String) (vs : List Value) :
    (∀ c ∈ (emit (onValue ids) s vs).2, ¬ c.IsContent) ↔ ∀ v ∈ vs, (saidText v).getD "" = "" := by
  apply forall_mem_emit
  intro s v
  rw [onValue_eq, ← forall_mem_toList]
  apply ids.forall_not_isContent
  intro c hc
  obtain ⟨usage, -, rfl⟩ := List.mem_map.mp hc
  exact ids.not_isContent_endChunk _ _

theorem finish_emit (vs : List Value) :
    (machine ids).finish (emit (onValue ids) "" vs).1 =
      if ∀ v ∈ vs, (saidText v).getD "" = "" then []
      else [ids.endChunk (some "end_turn") none] := by
  have hempty : (emit (onValue ids) "" vs).1 = "" ↔ ∀ v ∈ vs, (saidText v).getD "" = "" := by
    rw [state_emit, concat_filterMap_eq_empty]
  simp only [machine, ne_eq, hempty, ite_not]

/-- The reasons that are put out are among those given. -/
theorem mem_givenReason (vs : List Value) (h : r ∈ vs.filterMap sentReason) :
    r ∈ vs.filterMap givenReason := by
  obtain ⟨v, hv, hsent⟩ := List.mem_filterMap.mp h
  rw [sentReason] at hsent
  split at hsent
  · exact List.mem_filterMap.mpr ⟨v, hv, hsent⟩
  · cases hsent

/-- Events that end once: at most one of them is put out with a reason and there is no text, or none
is and the closing chunk has the reason that was given, if any was. -/
def EndsOnce (vs : List Value) : Prop :=
  ((∀ v ∈ vs, (saidText v).getD "" = "") ∧ (vs.filterMap sentReason).length ≤ 1) ∨
  (vs.filterMap sentReason = [] ∧
    (vs.filterMap givenReason = [] ∨ "end_turn" ∈ vs.filterMap givenReason))

theorem oneTerminal_iff (vs : List Value) :
    OneTerminal (vs.filterMap givenReason)
        ((emit (onValue ids) "" vs).2 ++ (machine ids).finish (emit (onValue ids) "" vs).1) ↔
      EndsOnce vs := by
  have hreasons := reasons_emit ids "" vs
  rw [finish_emit, EndsOnce]
  by_cases hsilent : ∀ v ∈ vs, (saidText v).getD "" = ""
  · rw [if_pos hsilent, List.append_nil]
    have hcontent := (silent_emit ids "" vs).mpr hsilent
    constructor
    · intro h
      have hsingle := h.single
      rw [hreasons] at hsingle
      exact .inl ⟨hsilent, hsingle⟩
    · intro h
      have hsingle : (vs.filterMap sentReason).length ≤ 1 := by
        obtain h | h := h
        · exact h.2
        · rw [h.1]
          exact Nat.zero_le 1
      refine ⟨?_, ?_, ?_⟩
      · rw [hreasons]
        exact hsingle
      · exact List.pairwise_of_forall_mem_list fun _ _ d hd _ => hcontent d hd
      · intro _ r hr
        rw [hreasons] at hr
        exact mem_givenReason vs hr
  · rw [if_neg hsilent, oneTerminal_around rfl, hreasons]
    simp only [hsilent, false_and, false_or]
    exact ⟨fun h => ⟨h.1, h.2.2.2⟩, fun h => ⟨h.1, rfl, List.forall_mem_nil _, h.2⟩⟩

end Anthropic

namespace Google

variable (ids : StreamId)

theorem ne_empty_of_mem_saidTexts (h : t ∈ saidTexts v) : t ≠ "" := by
  obtain ⟨part, -, hpart⟩ := List.mem_filterMap.mp h
  obtain ⟨t', -, ht'⟩ := Option.bind_eq_some_iff.mp hpart
  split at ht'
  · next hne => exact Option.some.inj ht' ▸ hne
  · cases ht'

theorem silent_emit (s : Option Usage) (vs : List Value) :
    (∀ c ∈ (emit (onValue ids) s vs).2, ¬ c.IsContent) ↔ ∀ v ∈ vs, saidTexts v = [] := by
  apply forall_mem_emit
  intro s v
  have hnil : saidTexts v = [] ↔ ∀ t ∈ saidTexts v, t = "" := by
    rw [List.eq_nil_iff_forall_not_mem]
    exact forall₂_congr fun t ht => (iff_false_intro (ne_empty_of_mem_saidTexts ht)).symm
  rw [onValue_eq, hnil]
  apply ids.forall_not_isContent
  intro c hc
  split at hc
  · rw [List.mem_singleton.mp hc]
    exact ids.not_isContent_endChunk _ _
  · cases hc

theorem sentReasons_eq_nil (v : Value) : sentReasons v = [] ↔ givenReason v = none := by
  rw [sentReasons]
  cases givenReason v with
  | none => exact iff_of_true rfl rfl
  | some r => exact iff_of_false (List.cons_ne_nil r _) (Option.some_ne_none r)

/-- The closing chunk is there once any event had usage. -/
theorem finish_emit (vs : List Value) :
    ((machine ids).finish (emit (onValue ids) none vs).1 = [] ∧
        ∀ v ∈ vs, v.get "usageMetadata" = none) ∨
      ∃ usage, (machine ids).finish (emit (onValue ids) none vs).1 =
          [ids.endChunk (some "stop") (some usage)] ∧
        ∃ v ∈ vs, (v.get "usageMetadata").isSome := by
  have husage := isSome_state_emit ids none vs
  simp only [machine]
  cases hstate : (emit (onValue ids) none vs).1 with
  | none =>
    rw [hstate] at husage
    refine .inl ⟨rfl, ?_⟩
    intro v hv
    apply Option.not_isSome_iff_eq_none.mp
    exact fun h => Bool.false_ne_true (husage.mpr (.inr ⟨v, hv, h⟩))
  | some usage =>
    rw [hstate] at husage
    exact .inr ⟨usage, rfl, (husage.mp rfl).resolve_left Bool.false_ne_true⟩

theorem reasons_emit_eq_nil (s : Option Usage) (vs : List Value) :
    reasons (emit (onValue ids) s vs).2 = [] ↔ ∀ v ∈ vs, givenReason v = none := by
  rw [reasons_emit, List.flatMap_eq_nil_iff]
  exact forall₂_congr fun v _ => sentReasons_eq_nil v

/-- What is put out for events of which one has a reason. -/
theorem emit_split (h : givenReason v = some r) (before after : List Value) :
    ∃ s usage, emit (onValue ids) none (before ++ v :: after) =
      ((emit (onValue ids) s after).1,
        (emit (onValue ids) none before).2 ++ (saidTexts v).map (ids.textChunk · (some r)) ++
          ids.endChunk (some r) usage :: (emit (onValue ids) s after).2) := by
  refine ⟨(givenUsage v).or (emit (onValue ids) none before).1,
    (givenUsage v).or (emit (onValue ids) none before).1, ?_⟩
  rw [emit_append]
  simp only [emit, onValue_eq, h, Option.isSome_some, if_true, List.append_assoc,
    List.cons_append, List.nil_append]

theorem oneTerminal_split (h : givenReason v = some r) (before after : List Value) :
    OneTerminal ((before ++ v :: after).filterMap givenReason)
        ((emit (onValue ids) none (before ++ v :: after)).2 ++
          (machine ids).finish (emit (onValue ids) none (before ++ v :: after)).1) ↔
      (∀ w ∈ before ++ v :: after, w.get "usageMetadata" = none) ∧
      (∀ w ∈ before ++ after, givenReason w = none) ∧ saidTexts v = [] ∧
      ∀ w ∈ after, saidTexts w = [] := by
  have hgiven : r ∈ (before ++ v :: after).filterMap givenReason :=
    List.mem_filterMap.mpr ⟨v, List.mem_append_right _ List.mem_cons_self, h⟩
  have hfinish := finish_emit ids (before ++ v :: after)
  obtain ⟨s, usage, hemit⟩ := emit_split ids h before after
  have htexts : reasons ((saidTexts v).map (ids.textChunk · (some r))) = [] ↔
      saidTexts v = [] := by
    rw [ids.reasons_textChunks, Option.toList_some, List.flatMap_singleton,
      List.replicate_eq_nil_iff, List.length_eq_zero_iff]
  rw [hemit] at hfinish ⊢
  dsimp only at hfinish ⊢
  rw [List.append_assoc, List.cons_append, oneTerminal_around rfl, reasons_append,
    reasons_append, List.append_eq_nil_iff, List.append_eq_nil_iff, reasons_emit_eq_nil,
    reasons_emit_eq_nil, htexts]
  obtain ⟨hnil, husage⟩ | ⟨final, hfinal, w, hw, husage⟩ := hfinish
  · rw [hnil, List.append_nil, silent_emit, List.forall_mem_append (p := (givenReason · = none))]
    constructor
    · intro h
      obtain ⟨⟨hbefore, hsaid⟩, ⟨hreasons, -⟩, hsilent, -⟩ := h
      exact ⟨husage, ⟨hbefore, hreasons⟩, hsaid, hsilent⟩
    · intro h
      obtain ⟨-, ⟨hbefore, hreasons⟩, hsaid, hsilent⟩ := h
      exact ⟨⟨hbefore, hsaid⟩, ⟨hreasons, rfl⟩, hsilent, .inr hgiven⟩
  · rw [hfinal]
    apply iff_of_false
    · intro h
      cases h.2.1.2
    · intro h
      rw [h.1 w hw] at husage
      cases husage

/-- Events that end once: none of them gives a reason, or one does, without text in it or behind it
and without usage anywhere. -/
def EndsOnce (vs : List Value) : Prop :=
  (∀ v ∈ vs, givenReason v = none) ∨
  ∃ before v after, vs = before ++ v :: after ∧ (givenReason v).isSome ∧
    (∀ w ∈ vs, w.get "usageMetadata" = none) ∧
    (∀ w ∈ before ++ after, givenReason w = none) ∧ saidTexts v = [] ∧
    ∀ w ∈ after, saidTexts w = []

theorem oneTerminal_iff (vs : List Value) :
    OneTerminal (vs.filterMap givenReason)
        ((emit (onValue ids) none vs).2 ++
          (machine ids).finish (emit (onValue ids) none vs).1) ↔ EndsOnce vs := by
  constructor
  · intro h
    by_cases hnone : ∀ v ∈ vs, givenReason v = none
    · exact .inl hnone
    · simp only [not_forall] at hnone
      obtain ⟨v, hv, hreason⟩ := hnone
      obtain ⟨before, after, rfl⟩ := List.append_of_mem hv
      obtain ⟨r, hr⟩ := Option.ne_none_iff_exists'.mp hreason
      exact .inr ⟨before, v, after, rfl, Option.isSome_of_eq_some hr,
        (oneTerminal_split ids hr before after).mp h⟩
  · intro h
    obtain hnone | ⟨before, v, after, rfl, hreason, hrest⟩ := h
    · have hempty : vs.filterMap givenReason = [] := List.filterMap_eq_nil_iff.mpr hnone
      have hreasons := (reasons_emit_eq_nil ids none vs).mpr hnone
      obtain ⟨hfinish, -⟩ | ⟨usage, hfinish, -⟩ := finish_emit ids vs
      · rw [hfinish, List.append_nil]
        exact oneTerminal_of_no_reason hreasons
      · rw [hfinish, oneTerminal_around rfl, hempty]
        exact ⟨hreasons, rfl, List.forall_mem_nil _, .inl rfl⟩
    · obtain ⟨r, hr⟩ := Option.isSome_iff_exists.mp hreason
      exact (oneTerminal_split ids hr before after).mpr hrest

end Google

namespace Responses

variable (ids : StreamId)

/-- The reason that an event gives for the end of the answer, under OpenAI's name. -/
def givenReason (v : Value) : Option String :=
  if v.getStr "type" = some "response.completed" then some "stop"
  else if v.getStr "type" = some "response.incomplete" then
    (((v.get "response").bind fun resp => resp.get "incomplete_details").bind fun details =>
      details.getStr "reason").map fun reason =>
        if reason = "max_output_tokens" then "length" else reason
  else none

theorem givenReason_completed (h : completed v = some resp) : givenReason v = some "stop" := by
  rw [completed] at h
  split at h
  · next htype => exact if_pos htype
  · cases h

theorem not_isSome_givenUsage (h : completed v = none) : ¬ (givenUsage v).isSome := by
  rw [givenUsage, h]
  exact Bool.false_ne_true

theorem saidText_completed (h : completed v = some resp) : saidText v = none := by
  rw [completed] at h
  split at h
  · next htype =>
    rw [saidText, htype]
    exact if_neg (by decide)
  · cases h

theorem silent_emit (s : State) (vs : List Value) :
    (∀ c ∈ (emit (onValue ids) s vs).2, ¬ c.IsContent) ↔ ∀ v ∈ vs, (saidText v).getD "" = "" := by
  apply forall_mem_emit
  intro s v
  rw [onValue_eq, ← forall_mem_toList]
  apply ids.forall_not_isContent
  intro c hc
  obtain ⟨resp, -, rfl⟩ := List.mem_map.mp hc
  exact ids.not_isContent_endChunk _ _

theorem reasons_emit_eq_nil (s : State) (vs : List Value) :
    reasons (emit (onValue ids) s vs).2 = [] ↔ ∀ v ∈ vs, completed v = none := by
  rw [reasons_emit, List.map_eq_nil_iff, List.filterMap_eq_nil_iff]

/-- The closing chunk is there after text without usage. -/
theorem finish_emit (vs : List Value) :
    (machine ids).finish (emit (onValue ids) {} vs).1 =
      if (∀ v ∈ vs, (saidText v).getD "" = "") ∨ ∃ v ∈ vs, (givenUsage v).isSome then []
      else [ids.endChunk (some "stop") none] := by
  have hsaid : (emit (onValue ids) {} vs).1.acc ≠ "" ↔
      ¬ ∀ v ∈ vs, (saidText v).getD "" = "" := by
    rw [acc_emit, ne_eq, concat_filterMap_eq_empty]
  have husage : (emit (onValue ids) {} vs).1.lastUsage = none ↔
      ¬ ∃ v ∈ vs, (givenUsage v).isSome := by
    rw [lastUsage_emit]
    simp only [true_and, not_exists, not_and, Option.not_isSome_iff_eq_none]
  simp only [machine, hsaid, husage, ← not_or, ite_not]

/-- What is put out for events of which one says that the response is completed. -/
theorem emit_split (h : completed v = some resp) (before after : List Value) :
    ∃ s usage, emit (onValue ids) {} (before ++ v :: after) =
      ((emit (onValue ids) s after).1,
        (emit (onValue ids) {} before).2 ++
          ids.endChunk (some "stop") usage :: (emit (onValue ids) s after).2) := by
  refine ⟨(onValue ids (emit (onValue ids) {} before).1 v).1,
    (givenUsage v).or (emit (onValue ids) {} before).1.lastUsage, ?_⟩
  rw [emit_append]
  simp only [emit, onValue_eq, h, saidText_completed h, Option.toList_none, Option.toList_some,
    List.map_nil, List.map_singleton, List.nil_append, List.cons_append]

/-- When the closing chunk is left out of a stream of which one event alone completes a response,
without text behind it. -/
theorem closed_iff (h : completed v = some resp) (hbefore : ∀ w ∈ before, completed w = none)
    (hafter : ∀ w ∈ after, completed w = none) (hsilent : ∀ w ∈ after, (saidText w).getD "" = "") :
    ((∀ w ∈ before ++ v :: after, (saidText w).getD "" = "") ∨
        ∃ w ∈ before ++ v :: after, (givenUsage w).isSome) ↔
      (∀ w ∈ before, (saidText w).getD "" = "") ∨ (givenUsage v).isSome := by
  have hsaid : (saidText v).getD "" = "" := by
    rw [saidText_completed h]
    rfl
  rw [List.forall_mem_append, List.forall_mem_cons]
  apply or_congr
  · exact and_iff_left ⟨hsaid, hsilent⟩
  · constructor
    · intro hsome
      obtain ⟨w, hw, hsome⟩ := hsome
      obtain hw | hw := List.mem_append.mp hw
      · exact absurd hsome (not_isSome_givenUsage (hbefore w hw))
      · cases hw with
        | head => exact hsome
        | tail _ hw => exact absurd hsome (not_isSome_givenUsage (hafter w hw))
    · exact fun hsome => ⟨v, List.mem_append_right _ List.mem_cons_self, hsome⟩

theorem oneTerminal_split (h : completed v = some resp) (before after : List Value) :
    OneTerminal ((before ++ v :: after).filterMap givenReason)
        ((emit (onValue ids) {} (before ++ v :: after)).2 ++
          (machine ids).finish (emit (onValue ids) {} (before ++ v :: after)).1) ↔
      (∀ w ∈ before ++ after, completed w = none) ∧ (∀ w ∈ after, (saidText w).getD "" = "") ∧
      ((∀ w ∈ before, (saidText w).getD "" = "") ∨ (givenUsage v).isSome) := by
  have hgiven : "stop" ∈ (before ++ v :: after).filterMap givenReason :=
    List.mem_filterMap.mpr
      ⟨v, List.mem_append_right _ List.mem_cons_self, givenReason_completed h⟩
  have hfinish := finish_emit ids (before ++ v :: after)
  obtain ⟨s, usage, hemit⟩ := emit_split ids h before after
  rw [hemit] at hfinish ⊢
  dsimp only at hfinish ⊢
  rw [List.append_assoc, List.cons_append, oneTerminal_around rfl, reasons_append,
    List.append_eq_nil_iff, reasons_emit_eq_nil, reasons_emit_eq_nil, hfinish,
    List.forall_mem_append (p := fun w => completed w = none)]
  constructor
  · intro hone
    obtain ⟨hbefore, ⟨hcompleted, hclosing⟩, hcontent, -⟩ := hone
    have hsilent := (silent_emit ids s after).mp fun d hd =>
      hcontent d (List.mem_append_left _ hd)
    refine ⟨⟨hbefore, hcompleted⟩, hsilent, (closed_iff h hbefore hcompleted hsilent).mp ?_⟩
    apply Classical.byContradiction
    intro hnot
    rw [if_neg hnot] at hclosing
    cases hclosing
  · intro hone
    obtain ⟨⟨hbefore, hcompleted⟩, hsilent, husage⟩ := hone
    rw [if_pos ((closed_iff h hbefore hcompleted hsilent).mpr husage), List.append_nil, silent_emit]
    exact ⟨hbefore, ⟨hcompleted, rfl⟩, hsilent, .inr hgiven⟩

/-- Events that end once: no response is completed, and there is no text or the reason of the
closing chunk was given, if any was; or one is, without text behind it, and with usage if there is
text. -/
def EndsOnce (vs : List Value) : Prop :=
  ((∀ v ∈ vs, completed v = none) ∧
    ((∀ v ∈ vs, (saidText v).getD "" = "") ∨ vs.filterMap givenReason = [] ∨
      "stop" ∈ vs.filterMap givenReason)) ∨
  ∃ before v after, vs = before ++ v :: after ∧ (completed v).isSome ∧
    (∀ w ∈ before ++ after, completed w = none) ∧
    (∀ w ∈ after, (saidText w).getD "" = "") ∧
    ((∀ w ∈ before, (saidText w).getD "" = "") ∨ (givenUsage v).isSome)

theorem oneTerminal_iff (vs : List Value) :
    OneTerminal (vs.filterMap givenReason)
        ((emit (onValue ids) {} vs).2 ++ (machine ids).finish (emit (onValue ids) {} vs).1) ↔
      EndsOnce vs := by
  have hopen : (∀ v ∈ vs, completed v = none) →
      (OneTerminal (vs.filterMap givenReason)
          ((emit (onValue ids) {} vs).2 ++ (machine ids).finish (emit (onValue ids) {} vs).1) ↔
        (∀ v ∈ vs, (saidText v).getD "" = "") ∨ vs.filterMap givenReason = [] ∨
          "stop" ∈ vs.filterMap givenReason) := by
    intro hnone
    have hreasons := (reasons_emit_eq_nil ids {} vs).mpr hnone
    have husage : ¬ ∃ v ∈ vs, (givenUsage v).isSome := by
      intro h
      obtain ⟨v, hv, hsome⟩ := h
      exact not_isSome_givenUsage (hnone v hv) hsome
    rw [finish_emit]
    by_cases hsilent : ∀ v ∈ vs, (saidText v).getD "" = ""
    · rw [if_pos (.inl hsilent), List.append_nil]
      exact iff_of_true (oneTerminal_of_no_reason hreasons) (.inl hsilent)
    · rw [if_neg (not_or.mpr ⟨hsilent, husage⟩), oneTerminal_around rfl,
        or_iff_right hsilent]
      exact ⟨fun h => h.2.2.2, fun h => ⟨hreasons, rfl, List.forall_mem_nil _, h⟩⟩
  constructor
  · intro h
    by_cases hnone : ∀ v ∈ vs, completed v = none
    · exact .inl ⟨hnone, (hopen hnone).mp h⟩
    · simp only [not_forall] at hnone
      obtain ⟨v, hv, hcompleted⟩ := hnone
      obtain ⟨before, after, rfl⟩ := List.append_of_mem hv
      obtain ⟨resp, hresp⟩ := Option.ne_none_iff_exists'.mp hcompleted
      exact .inr ⟨before, v, after, rfl, Option.isSome_of_eq_some hresp,
        (oneTerminal_split ids hresp before after).mp h⟩
  · intro h
    obtain ⟨hnone, hrest⟩ | ⟨before, v, after, rfl, hcompleted, hrest⟩ := h
    · exact (hopen hnone).mpr hrest
    · obtain ⟨resp, hresp⟩ := Option.isSome_iff_exists.mp hcompleted
      exact (oneTerminal_split ids hresp before after).mpr hrest

end Responses

/-- Which streams that do not fail have one terminal chunk with the reason that the upstream gave:
exactly those whose events end once, as the loop of their adapter sees it. -/
theorem terminal_chunk_iff (text : Json.Text) (ids : StreamId)
    {input : List (AppResult (List UInt8))} (hend : failure input = none) :
    (OneTerminal
        (((SseAdapter.anthropic.machine text ids).values text input).filterMap
          Anthropic.givenReason)
        (received ((SseAdapter.anthropic.machine text ids).stream text input)) ↔
      Anthropic.EndsOnce ((SseAdapter.anthropic.machine text ids).values text input)) ∧
    (OneTerminal
        (((SseAdapter.google.machine text ids).values text input).filterMap Google.givenReason)
        (received ((SseAdapter.google.machine text ids).stream text input)) ↔
      Google.EndsOnce ((SseAdapter.google.machine text ids).values text input)) ∧
    (OneTerminal
        (((SseAdapter.responses.machine text ids).values text input).filterMap
          Responses.givenReason)
        (received ((SseAdapter.responses.machine text ids).stream text input)) ↔
      Responses.EndsOnce ((SseAdapter.responses.machine text ids).values text input)) := by
  have hnot : ¬ (failure input).isSome := by
    rw [hend]
    exact Bool.false_ne_true
  simp only [StreamMachine.received_stream, if_neg hnot]
  exact ⟨Anthropic.oneTerminal_iff ids _, Google.oneTerminal_iff ids _,
    Responses.oneTerminal_iff ids _⟩

/-- An answer without text has its one terminal chunk. -/
theorem terminal_chunk_iff_sample :
    OneTerminal
      (((SseAdapter.anthropic.machine Anthropic.eventText ⟨"m", "claude"⟩).values
        Anthropic.eventText [.ok (streamBytes [Anthropic.stopSource])]).filterMap
          Anthropic.givenReason)
      (received ((SseAdapter.anthropic.machine Anthropic.eventText ⟨"m", "claude"⟩).stream
        Anthropic.eventText [.ok (streamBytes [Anthropic.stopSource])])) := by
  apply (terminal_chunk_iff Anthropic.eventText ⟨"m", "claude"⟩ rfl).1.mpr
  rw [Anthropic.values_eventText _ (by simp), List.filterMap_cons_some Anthropic.parse_stopSource]
  refine .inl ⟨?_, Nat.le_refl 1⟩
  intro v hv
  rw [List.mem_singleton.mp hv]
  rfl

/-- An answer with text has two, the one that the service sent and one that is made up. -/
theorem anthropic_ends_twice :
    reasons (received ((SseAdapter.anthropic.machine Anthropic.eventText ⟨"m", "claude"⟩).stream
        Anthropic.eventText [.ok (streamBytes [Anthropic.textSource, Anthropic.stopSource])])) =
      ["end_turn", "end_turn"] ∧
    ¬ OneTerminal
      (((SseAdapter.anthropic.machine Anthropic.eventText ⟨"m", "claude"⟩).values
        Anthropic.eventText
          [.ok (streamBytes [Anthropic.textSource, Anthropic.stopSource])]).filterMap
            Anthropic.givenReason)
      (received ((SseAdapter.anthropic.machine Anthropic.eventText ⟨"m", "claude"⟩).stream
        Anthropic.eventText
          [.ok (streamBytes [Anthropic.textSource, Anthropic.stopSource])])) := by
  have hsources : ∀ p ∈ [Anthropic.textSource, Anthropic.stopSource],
      p ∈ [Anthropic.textSource, Anthropic.stopSource] := fun p hp => hp
  have hreasons : reasons (received
      ((SseAdapter.anthropic.machine Anthropic.eventText ⟨"m", "claude"⟩).stream
        Anthropic.eventText [.ok (streamBytes [Anthropic.textSource, Anthropic.stopSource])])) =
      ["end_turn", "end_turn"] := by
    rw [StreamMachine.received_stream, Anthropic.values_eventText _ hsources,
      List.filterMap_cons_some Anthropic.parse_textSource,
      List.filterMap_cons_some Anthropic.parse_stopSource]
    rfl
  refine ⟨hreasons, ?_⟩
  intro h
  have hsingle := h.single
  rw [hreasons] at hsingle
  exact absurd hsingle (by decide)

end TokenDealer
