import TokenDealer.Incremental

set_option autoImplicit true

namespace Incremental

section Pair

variable {α : Type} (d : α)

/-- Blocks that are each closed by the doubled symbol and do not have it before, and a rest that
does not have it at all. -/
structure Blocks (xs : List α) (blocks : List (List α)) (rest : List α) : Prop where
  layout : xs = blocks.flatMap (fun block => block ++ [d, d]) ++ rest
  closed : ∀ block ∈ blocks, ¬ [d, d] <:+: block ++ [d]
  unclosed : ¬ [d, d] <:+: rest

variable {d}

theorem pair_infix_cons : [d, d] <:+: a :: b :: xs ↔ (a = d ∧ b = d) ∨ [d, d] <:+: b :: xs := by
  rw [List.infix_cons_iff]
  simp only [List.cons_prefix_cons, List.nil_prefix, and_true, eq_comm]

theorem not_pair_infix_short (h : xs.length < 2) : ¬ [d, d] <:+: xs :=
  fun hi => absurd hi.length_le (Nat.not_le.mpr h)

variable [DecidableEq α]

variable (d)

/-- Where the symbol first stands twice in a row. -/
def findPair : List α → Option Nat
  | a :: b :: rest => if a = d ∧ b = d then some 0 else (findPair (b :: rest)).map (· + 1)
  | _ => none

variable {d}

theorem findPair_eq_none : findPair d xs = none ↔ ¬ [d, d] <:+: xs := by
  induction xs with
  | nil => exact iff_of_true rfl (not_pair_infix_short Nat.two_pos)
  | cons a xs ih =>
    cases xs with
    | nil => exact iff_of_true rfl (not_pair_infix_short Nat.one_lt_two)
    | cons b rest =>
      rw [findPair, pair_infix_cons, not_or]
      by_cases hab : a = d ∧ b = d
      · rw [if_pos hab]
        exact iff_of_false nofun fun h => h.1 hab
      · rw [if_neg hab, Option.map_eq_none_iff, ih]
        exact (and_iff_right hab).symm

theorem findPair_block (h : ¬ [d, d] <:+: block ++ [d]) (rest : List α) :
    findPair d (block ++ d :: d :: rest) = some block.length := by
  induction block with
  | nil =>
    rw [List.nil_append, findPair, if_pos ⟨rfl, rfl⟩]
    rfl
  | cons a block ih =>
    cases block with
    | nil =>
      have ha : ¬ (a = d ∧ d = d) := fun ha => h (pair_infix_cons.mpr (.inl ha))
      have hrest := ih (not_pair_infix_short Nat.one_lt_two)
      rw [List.nil_append] at hrest
      rw [List.cons_append, List.nil_append, findPair, if_neg ha, hrest]
      rfl
    | cons b block =>
      have hab : ¬ (a = d ∧ b = d) := fun hab => h (pair_infix_cons.mpr (.inl hab))
      have hrest := ih fun hi => h (pair_infix_cons.mpr (.inr hi))
      rw [List.cons_append] at hrest
      rw [List.cons_append, List.cons_append, findPair, if_neg hab, hrest]
      rfl

theorem findPair_eq_some (h : findPair d xs = some n) : ∃ block rest,
    xs = block ++ d :: d :: rest ∧ block.length = n ∧ ¬ [d, d] <:+: block ++ [d] := by
  induction xs generalizing n with
  | nil => cases h
  | cons a xs ih =>
    cases xs with
    | nil => cases h
    | cons b rest =>
      rw [findPair] at h
      by_cases hab : a = d ∧ b = d
      · rw [if_pos hab] at h
        cases h
        obtain ⟨rfl, rfl⟩ := hab
        exact ⟨[], rest, rfl, rfl, not_pair_infix_short Nat.one_lt_two⟩
      · rw [if_neg hab] at h
        obtain ⟨m, hm, rfl⟩ := Option.map_eq_some_iff.mp h
        obtain ⟨block, rest', hxs, rfl, hblock⟩ := ih hm
        refine ⟨a :: block, rest', by rw [hxs, List.cons_append], rfl, ?_⟩
        -- the block goes on with `b`, be it the block's own or the first of the closing pair
        obtain ⟨tail, htail⟩ : ∃ tail, block ++ [d] = b :: tail := by
          cases block with
          | nil => exact ⟨[], by rw [(List.cons.inj hxs).1]; rfl⟩
          | cons c block => exact ⟨block ++ [d], by rw [(List.cons.inj hxs).1]; rfl⟩
        rw [List.cons_append, htail, pair_infix_cons, not_or]
        exact ⟨hab, htail ▸ hblock⟩

variable (d)

def pairCut (xs : List α) : Cut α (List α) :=
  match findPair d xs with
  | none => .more
  | some pos => .frame (xs.take pos) ((xs.drop pos).drop 2)

variable {d}

theorem pairCut_eq_more : pairCut d xs = .more ↔ ¬ [d, d] <:+: xs := by
  rw [← findPair_eq_none, pairCut]
  cases findPair d xs with
  | none => exact iff_of_true rfl rfl
  | some pos => exact iff_of_false nofun nofun

theorem pairCut_eq_frame : pairCut d xs = .frame block rest ↔
    xs = block ++ d :: d :: rest ∧ ¬ [d, d] <:+: block ++ [d] := by
  constructor
  · intro h
    rw [pairCut] at h
    cases hp : findPair d xs with
    | none =>
      rw [hp] at h
      cases h
    | some pos =>
      obtain ⟨front, back, hxs, rfl, hfront⟩ := findPair_eq_some hp
      rw [hp] at h
      cases h
      rw [hxs, List.take_left, List.drop_left]
      exact ⟨rfl, hfront⟩
  · intro h
    obtain ⟨rfl, hblock⟩ := h
    rw [pairCut, findPair_block hblock]
    dsimp only
    rw [List.take_left, List.drop_left]
    rfl

theorem pairCut_ne_refuse (xs : List α) : pairCut d xs ≠ .refuse := by
  rw [pairCut]
  cases findPair d xs <;> exact nofun

variable (d)

/-- Blocks come off one by one, each with the doubled symbol that closes it. -/
def pairCutter : Cutter α (List α) where
  cut := pairCut d
  shrinks {buf b rest} h := by
    obtain ⟨rfl, -⟩ := pairCut_eq_frame.mp h
    rw [List.length_append, List.length_cons, List.length_cons]
    omega
  frame_append {buf b rest} more h := by
    obtain ⟨rfl, hb⟩ := pairCut_eq_frame.mp h
    refine pairCut_eq_frame.mpr ⟨?_, hb⟩
    rw [List.append_assoc, List.cons_append, List.cons_append]
  refuse_append {buf} more h := absurd h (pairCut_ne_refuse buf)

variable {d}

/-- A drain takes off the blocks of its buffer. -/
theorem drain_blocks (xs : List α) :
    ∃ blocks rest, (pairCutter d).drain xs = some (blocks, rest) ∧ Blocks d xs blocks rest := by
  induction xs using (pairCutter d).drain_induction with
  | more xs h =>
    exact ⟨[], xs, (pairCutter d).drain_more h, rfl, List.forall_mem_nil _, pairCut_eq_more.mp h⟩
  | refuse xs h => exact absurd h (pairCut_ne_refuse xs)
  | frame xs block rest h ih =>
    obtain ⟨blocks, left, hdrain, hblocks⟩ := ih
    obtain ⟨hxs, hblock⟩ := pairCut_eq_frame.mp h
    refine ⟨block :: blocks, left, ?_, ?_, ?_, hblocks.unclosed⟩
    · rw [(pairCutter d).drain_frame h, hdrain]
      rfl
    · rw [hxs, hblocks.layout, List.flatMap_cons, List.append_assoc, List.append_assoc]
      rfl
    · exact List.forall_mem_cons.mpr ⟨hblock, hblocks.closed⟩

/-- There is one way to lay out a buffer in blocks. -/
theorem Blocks.drain (h : Blocks d xs blocks rest) :
    (pairCutter d).drain xs = some (blocks, rest) := by
  obtain ⟨hlayout, hclosed, hrest⟩ := h
  induction blocks generalizing xs with
  | nil =>
    cases hlayout
    exact (pairCutter d).drain_more (pairCut_eq_more.mpr hrest)
  | cons block blocks ih =>
    rw [List.forall_mem_cons] at hclosed
    rw [List.flatMap_cons, List.append_assoc, List.append_assoc] at hlayout
    have hcut : (pairCutter d).cut xs =
        .frame block (blocks.flatMap (fun block => block ++ [d, d]) ++ rest) :=
      pairCut_eq_frame.mpr ⟨hlayout, hclosed.1⟩
    rw [(pairCutter d).drain_frame hcut, ih rfl hclosed.2]
    rfl

theorem Blocks.unique (h : Blocks d xs blocks rest) (h' : Blocks d xs blocks' rest') :
    blocks' = blocks ∧ rest' = rest := by
  have heq := h'.drain.symm.trans h.drain
  cases heq
  exact ⟨rfl, rfl⟩

end Pair

section Bodies

variable {α β : Type} (d : α) (body : β → List α)

/-- Bodies that are each closed by the symbol. -/
def closed (ls : List β) : List α := ls.flatMap fun l => body l ++ [d]

/-- Bodies with the symbol between them. -/
def sepBy : List β → List α
  | [] => []
  | [l] => body l
  | l :: l' :: ls => body l ++ d :: sepBy (l' :: ls)

/-- Groups of bodies, each cut off by an empty body behind it, and the bodies left over. An empty
body at the front of a group cuts nothing off. -/
def cutEmpty [DecidableEq α] : List β → List β → List (List β) × List β
  | acc, [] => ([], acc)
  | acc, l :: ls =>
    if body l = [] ∧ acc ≠ [] then
      let (groups, rest) := cutEmpty [] ls
      (acc :: groups, rest)
    else cutEmpty (acc ++ [l]) ls

variable {d body}

theorem closed_cons (l : β) (ls : List β) :
    closed d body (l :: ls) = body l ++ d :: closed d body ls := List.append_assoc _ _ _

theorem closed_append (ls ms : List β) :
    closed d body (ls ++ ms) = closed d body ls ++ closed d body ms := List.flatMap_append

theorem sepBy_concat {ls : List β} (h : ls ≠ []) : sepBy d body ls ++ [d] = closed d body ls := by
  induction ls with
  | nil => exact absurd rfl h
  | cons l ls ih =>
    cases ls with
    | nil => exact (List.append_nil _).symm
    | cons l' ls =>
      have hrest := ih (List.cons_ne_nil l' ls)
      rw [sepBy, List.append_assoc, List.cons_append, hrest, closed_cons l]

/-- A body without the symbol in it does not matter to where the symbol is doubled. -/
theorem pair_infix_body {p : List α} (h : d ∉ p) (xs : List α) :
    [d, d] <:+: p ++ xs ↔ [d, d] <:+: xs := by
  induction p with
  | nil => exact Iff.rfl
  | cons a p ih =>
    have ha : a ≠ d := fun he => h (he ▸ List.mem_cons_self)
    have hp : d ∉ p := fun hm => h (List.mem_cons_of_mem _ hm)
    rw [← ih hp, List.cons_append]
    cases hpx : p ++ xs with
    | nil =>
      exact iff_of_false (not_pair_infix_short Nat.one_lt_two) (not_pair_infix_short Nat.two_pos)
    | cons b ys =>
      rw [pair_infix_cons]
      exact or_iff_right fun hab => ha hab.1

theorem head?_closed (hbody : ∀ l ∈ ls, d ∉ body l) (hne : ∀ l ∈ ls, body l ≠ []) :
    (closed d body ls).head? ≠ some d := by
  cases ls with
  | nil => exact nofun
  | cons l ls =>
    have hl := hbody l List.mem_cons_self
    cases hb : body l with
    | nil => exact absurd hb (hne l List.mem_cons_self)
    | cons a p =>
      rw [closed_cons, hb]
      intro ha
      rw [hb] at hl
      exact hl (Option.some.inj ha ▸ List.mem_cons_self)

/-- The symbol is doubled only where a body behind the first is empty. -/
theorem not_pair_infix_closed (hbody : ∀ l ∈ ls, d ∉ body l) (hne : ∀ l ∈ ls.tail, body l ≠ []) :
    ¬ [d, d] <:+: closed d body ls := by
  induction ls with
  | nil => exact not_pair_infix_short Nat.two_pos
  | cons l ls ih =>
    have hrest : ∀ l ∈ ls, d ∉ body l := fun l hl => hbody l (List.mem_cons_of_mem _ hl)
    have hclosed := ih hrest fun l hl => hne l (List.mem_of_mem_tail hl)
    have hhead := head?_closed hrest hne
    rw [closed_cons, pair_infix_body (hbody l List.mem_cons_self)]
    cases hc : closed d body ls with
    | nil => exact not_pair_infix_short Nat.one_lt_two
    | cons a xs =>
      rw [hc] at hclosed hhead
      rw [pair_infix_cons, not_or]
      exact ⟨fun ha => hhead (congrArg some ha.2), hclosed⟩

/-- Bodies that are each closed by the symbol are laid out in the groups that empty bodies cut
off. -/
theorem blocks_closed [DecidableEq α] {acc ls : List β} (hacc : ∀ l ∈ acc, d ∉ body l)
    (hne : ∀ l ∈ acc.tail, body l ≠ []) (hls : ∀ l ∈ ls, d ∉ body l) :
    Blocks d (closed d body (acc ++ ls)) ((cutEmpty body acc ls).1.map (sepBy d body))
      (closed d body (cutEmpty body acc ls).2) := by
  induction ls generalizing acc with
  | nil =>
    rw [List.append_nil]
    exact ⟨rfl, List.forall_mem_nil _, not_pair_infix_closed hacc hne⟩
  | cons l ls ih =>
    have hl := hls l List.mem_cons_self
    have hrest : ∀ l ∈ ls, d ∉ body l := fun l hl => hls l (List.mem_cons_of_mem _ hl)
    rw [cutEmpty]
    split
    · next hcut =>
      obtain ⟨hempty, hacc'⟩ := hcut
      obtain ⟨hlayout, hclosed, hunclosed⟩ :=
        ih (List.forall_mem_nil _) (List.forall_mem_nil _) hrest
      refine ⟨?_, ?_, hunclosed⟩
      · rw [List.nil_append] at hlayout
        rw [closed_append, closed_cons, hempty, List.nil_append, hlayout, ← sepBy_concat hacc',
          List.map_cons, List.flatMap_cons]
        simp only [List.append_assoc, List.cons_append, List.nil_append]
      · rw [List.map_cons, List.forall_mem_cons, sepBy_concat hacc']
        exact ⟨not_pair_infix_closed hacc hne, hclosed⟩
    · next hcut =>
      rw [List.append_cons]
      apply ih _ _ hrest
      · intro m hm
        obtain hm | hm := List.mem_append.mp hm
        · exact hacc m hm
        · exact List.mem_singleton.mp hm ▸ hl
      · cases acc with
        | nil => exact List.forall_mem_nil _
        | cons a acc =>
          have hfull : body l ≠ [] := fun he => hcut ⟨he, List.cons_ne_nil a acc⟩
          intro m hm
          obtain hm | hm := List.mem_append.mp hm
          · exact hne m hm
          · exact List.mem_singleton.mp hm ▸ hfull

/-- The items up to the last one of a kind. -/
def upToLast (p : β → Bool) : List β → List β
  | [] => []
  | l :: ls => if (l :: ls).any p then l :: upToLast p ls else []

theorem upToLast_eq_nil {p : β → Bool} (h : ls.any p = false) : upToLast p ls = [] := by
  cases ls with
  | nil => rfl
  | cons l ls =>
    rw [upToLast, h]
    rfl

/-- An item that nothing is read from does not matter before the last one. -/
theorem filterMap_upToLast_cons {p : β → Bool} {f : β → Option γ} (hl : f l = none) (ls : List β) :
    (upToLast p (l :: ls)).filterMap f = (upToLast p ls).filterMap f := by
  rw [upToLast]
  cases hany : (l :: ls).any p with
  | false =>
    rw [List.any_cons, Bool.or_eq_false_iff] at hany
    rw [upToLast_eq_nil hany.2]
    rfl
  | true => rw [if_pos rfl, List.filterMap_cons_none hl]

/-- What the groups hold of something that empty bodies do not have is what stands before the last
empty body. -/
theorem filterMap_cutEmpty [DecidableEq α] {f : β → Option γ} (hf : ∀ l, body l = [] → f l = none)
    (acc ls : List β) :
    (cutEmpty body acc ls).1.flatMap (List.filterMap f) =
      (if ls.any fun l => body l = [] then acc.filterMap f else []) ++
        (upToLast (fun l => body l = []) ls).filterMap f := by
  induction ls generalizing acc with
  | nil => rfl
  | cons l ls ih =>
    rw [cutEmpty]
    by_cases hl : body l = []
    · rw [filterMap_upToLast_cons (hf l hl), List.any_cons, decide_eq_true hl, Bool.true_or,
        if_pos rfl]
      by_cases hacc : acc = []
      · rw [if_neg fun h => h.2 hacc, hacc, List.nil_append, ih,
          List.filterMap_cons_none (hf l hl), List.filterMap_nil, ite_self]
      · rw [if_pos ⟨hl, hacc⟩, List.flatMap_cons, ih, List.filterMap_nil, ite_self,
          List.nil_append]
    · rw [if_neg fun h => hl h.1, ih, upToLast, List.any_cons, decide_eq_false hl, Bool.false_or,
        List.filterMap_append]
      cases hany : ls.any fun l => decide (body l = []) with
      | false =>
        rw [upToLast_eq_nil hany]
        rfl
      | true =>
        rw [if_pos rfl, if_pos rfl, if_pos rfl, List.append_assoc, ← List.filterMap_append]
        rfl

end Bodies

section Transducer

variable {σ β γ δ : Type} (step : σ → β → σ × List γ)

/-- What a machine puts out for its inputs one after the other, and the state it ends in. -/
def emit : σ → List β → σ × List γ
  | s, [] => (s, [])
  | s, b :: bs =>
    let (s', out) := step s b
    let (s'', outs) := emit s' bs
    (s'', out ++ outs)

theorem emit_append (s : σ) (as bs : List β) :
    emit step s (as ++ bs) =
      ((emit step (emit step s as).1 bs).1,
        (emit step s as).2 ++ (emit step (emit step s as).1 bs).2) := by
  induction as generalizing s with
  | nil => rfl
  | cons a as ih =>
    simp only [List.cons_append, emit]
    rw [ih, List.append_assoc]

variable {f : σ → δ → σ × List γ} {step}

/-- Something of a kind is put out for an input if and only if one of its parts is of a kind that
has it put out, in whatever state. -/
theorem exists_mem_emit {p : γ → Prop} {q : β → Prop}
    (h : ∀ s b, (∃ c ∈ (step s b).2, p c) ↔ q b) (s : σ) (bs : List β) :
    (∃ c ∈ (emit step s bs).2, p c) ↔ ∃ b ∈ bs, q b := by
  induction bs generalizing s with
  | nil => simp only [emit, List.not_mem_nil, false_and, exists_false]
  | cons b bs ih =>
    have hrest := ih (step s b).1
    simp only [emit, List.mem_append, List.mem_cons, or_and_right, exists_or, exists_eq_left]
    rw [h s b, hrest]

theorem forall_mem_emit {p : γ → Prop} {q : β → Prop}
    (h : ∀ s b, (∀ c ∈ (step s b).2, p c) ↔ q b) (s : σ) (bs : List β) :
    (∀ c ∈ (emit step s bs).2, p c) ↔ ∀ b ∈ bs, q b := by
  induction bs generalizing s with
  | nil => exact iff_of_true (List.forall_mem_nil _) (List.forall_mem_nil _)
  | cons b bs ih => rw [emit, List.forall_mem_append, h, ih, List.forall_mem_cons]

/-- What is picked from the output depends on the inputs alone where it does so step by step. -/
theorem filterMap_emit {p : γ → Option δ} {q : β → List δ}
    (h : ∀ s b, (step s b).2.filterMap p = q b) (s : σ) (bs : List β) :
    (emit step s bs).2.filterMap p = bs.flatMap q := by
  induction bs generalizing s with
  | nil => rfl
  | cons b bs ih => rw [emit, List.filterMap_append, h, ih, List.flatMap_cons]

/-- A machine whose inputs are lists that it works through goes through them joined. -/
theorem emit_flatMap {g : δ → List β} (hf : ∀ s d, f s d = emit step s (g d)) (s : σ)
    (ds : List δ) : emit f s ds = emit step s (ds.flatMap g) := by
  induction ds generalizing s with
  | nil => rfl
  | cons d ds ih =>
    rw [List.flatMap_cons, emit_append, ← hf, ← ih]
    rfl

/-- A machine that passes over some inputs goes through the others. -/
theorem emit_filterMap {g : δ → Option β} (hnone : ∀ s d, g d = none → f s d = (s, []))
    (hsome : ∀ s d b, g d = some b → f s d = step s b) (s : σ) (ds : List δ) :
    emit f s ds = emit step s (ds.filterMap g) := by
  induction ds generalizing s with
  | nil => rfl
  | cons d ds ih =>
    rw [List.filterMap_cons, emit]
    cases hg : g d with
    | none =>
      rw [hnone s d hg]
      exact ih s
    | some b =>
      rw [hsome s d b hg]
      dsimp only [emit]
      rw [ih]

end Transducer

end Incremental
