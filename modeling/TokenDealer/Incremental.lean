set_option autoImplicit true

namespace Incremental

/-- One look at the front of a buffer: it holds no whole frame yet, it can never hold one, or a
frame comes off and leaves a rest. -/
inductive Cut (α β : Type) where
  | more
  | refuse
  | frame (b : β) (rest : List α)

/-- A way to cut frames off a buffer. A frame takes something off the buffer, and what was
decided about a buffer stays decided when more input arrives behind it. -/
structure Cutter (α β : Type) where
  cut : List α → Cut α β
  shrinks : ∀ {buf b rest}, cut buf = .frame b rest → rest.length < buf.length
  frame_append : ∀ {buf b rest} (more : List α), cut buf = .frame b rest →
    cut (buf ++ more) = .frame b (rest ++ more)
  refuse_append : ∀ {buf} (more : List α), cut buf = .refuse → cut (buf ++ more) = .refuse

variable {α β : Type} (C : Cutter α β)

namespace Cutter

/-- Cutting frames off until none is whole. The fuel bounds the number of frames. -/
def drainFuel : Nat → List α → Option (List β × List α)
  | 0, buf => some ([], buf)
  | n + 1, buf =>
    match C.cut buf with
    | .more => some ([], buf)
    | .refuse => none
    | .frame b rest =>
      match drainFuel n rest with
      | none => none
      | some (bs, left) => some (b :: bs, left)

def drain (buf : List α) : Option (List β × List α) := C.drainFuel (buf.length + 1) buf

/-- The frames put before those of a later drain. -/
def prepend (bs : List β) : Option (List β × List α) → Option (List β × List α)
  | none => none
  | some (cs, left) => some (bs ++ cs, left)

/-- Feeding chunks one after another, each appended to what the drain before it left over. -/
def feed : List α → List (List α) → Option (List β × List α)
  | buf, [] => some ([], buf)
  | buf, chunk :: chunks =>
    match C.drain (buf ++ chunk) with
    | none => none
    | some (bs, left) => prepend bs (feed left chunks)

@[simp] theorem prepend_nil (r : Option (List β × List α)) : prepend [] r = r := by
  cases r <;> rfl

@[simp] theorem prepend_some (bs cs : List β) (left : List α) :
    prepend bs (some (cs, left)) = some (bs ++ cs, left) := rfl

theorem prepend_eq_some {r : Option (List β × List α)} (h : prepend bs r = some (ds, left)) :
    ∃ cs, r = some (cs, left) ∧ ds = bs ++ cs := by
  cases r with
  | none => cases h
  | some p =>
    cases h
    exact ⟨p.1, rfl, rfl⟩

theorem isSome_prepend (bs : List β) (r : Option (List β × List α)) :
    (prepend bs r).isSome = r.isSome := by
  cases r <;> rfl

theorem prepend_eq_none {r : Option (List β × List α)} (h : prepend bs r = none) : r = none := by
  cases r with
  | none => rfl
  | some p => cases h

theorem prepend_prepend (as bs : List β) (r : Option (List β × List α)) :
    prepend as (prepend bs r) = prepend (as ++ bs) r := by
  cases r with
  | none => rfl
  | some p => simp only [prepend, List.append_assoc]

/-- Fuel beyond the length of the buffer is never used. -/
theorem drainFuel_eq (h : buf.length < n) (h' : buf.length < m) :
    C.drainFuel n buf = C.drainFuel m buf := by
  induction n generalizing buf m with
  | zero => omega
  | succ n ih =>
    cases m with
    | zero => omega
    | succ m =>
      simp only [drainFuel]
      cases hc : C.cut buf with
      | more => rfl
      | refuse => rfl
      | frame b rest =>
        have hs := C.shrinks hc
        have he : C.drainFuel n rest = C.drainFuel m rest := ih (by omega) (by omega)
        simp only [he]

theorem drain_more (h : C.cut buf = .more) : C.drain buf = some ([], buf) := by
  simp only [drain, drainFuel, h]

theorem drain_refuse (h : C.cut buf = .refuse) : C.drain buf = none := by
  simp only [drain, drainFuel, h]

theorem drain_frame (h : C.cut buf = .frame b rest) :
    C.drain buf = prepend [b] (C.drain rest) := by
  have hs := C.shrinks h
  have he := C.drainFuel_eq (n := buf.length) (m := rest.length + 1) hs (Nat.lt_succ_self _)
  simp only [drain]
  rw [drainFuel, h]
  simp only [he]
  cases C.drainFuel (rest.length + 1) rest <;> rfl

/-- Induction along the frames of a buffer. -/
theorem drain_induction {motive : List α → Prop}
    (more : ∀ buf, C.cut buf = .more → motive buf)
    (refuse : ∀ buf, C.cut buf = .refuse → motive buf)
    (frame : ∀ buf b rest, C.cut buf = .frame b rest → motive rest → motive buf)
    (buf : List α) : motive buf := by
  induction hn : buf.length using Nat.strongRecOn generalizing buf with
  | ind n ih =>
    cases hc : C.cut buf with
    | more => exact more buf hc
    | refuse => exact refuse buf hc
    | frame b rest =>
      have hs := C.shrinks hc
      exact frame buf b rest hc (ih _ (hn ▸ hs) rest rfl)

theorem exists_drain (h : ∀ buf, C.cut buf ≠ .refuse) (buf : List α) :
    ∃ bs left, C.drain buf = some (bs, left) := by
  induction buf using C.drain_induction with
  | more buf hc => exact ⟨[], buf, C.drain_more hc⟩
  | refuse buf hc => exact absurd hc (h buf)
  | frame buf b rest hc ih =>
    obtain ⟨bs, left, hdrain⟩ := ih
    refine ⟨b :: bs, left, ?_⟩
    rw [C.drain_frame hc, hdrain]
    rfl

/-- What a drain leaves over holds no whole frame. -/
theorem drain_left (h : C.drain buf = some (bs, left)) : C.cut left = .more := by
  induction buf using C.drain_induction generalizing bs with
  | more buf hc =>
    rw [C.drain_more hc] at h
    cases h
    exact hc
  | refuse buf hc =>
    rw [C.drain_refuse hc] at h
    cases h
  | frame buf b rest hc ih =>
    rw [C.drain_frame hc] at h
    cases hd : C.drain rest with
    | none =>
      rw [hd] at h
      cases h
    | some p =>
      obtain ⟨cs, left'⟩ := p
      rw [hd] at h
      cases h
      exact ih hd

/-- Draining a longer buffer first gives the frames of its front, then goes on from what the
front leaves over. -/
theorem drain_append (buf more : List α) :
    C.drain (buf ++ more) =
      match C.drain buf with
      | none => none
      | some (bs, left) => prepend bs (C.drain (left ++ more)) := by
  induction buf using C.drain_induction with
  | more buf hc =>
    rw [C.drain_more hc]
    exact (prepend_nil _).symm
  | refuse buf hc => rw [C.drain_refuse hc, C.drain_refuse (C.refuse_append more hc)]
  | frame buf b rest hc ih =>
    rw [C.drain_frame hc, C.drain_frame (C.frame_append more hc), ih]
    cases C.drain rest with
    | none => rfl
    | some p => exact prepend_prepend _ _ _

/-- However the input is cut into chunks, feeding it is draining the whole. -/
theorem feed_eq_drain (h : C.cut buf = .more) (chunks : List (List α)) :
    C.feed buf chunks = C.drain (buf ++ chunks.flatten) := by
  induction chunks generalizing buf with
  | nil =>
    rw [List.flatten_nil, List.append_nil, C.drain_more h]
    rfl
  | cons chunk chunks ih =>
    rw [List.flatten_cons, ← List.append_assoc, C.drain_append, feed]
    cases hd : C.drain (buf ++ chunk) with
    | none => rfl
    | some p =>
      obtain ⟨bs, left⟩ := p
      exact congrArg (prepend bs) (ih (C.drain_left hd))

/-- A buffer laid out as frames one behind the other drains to exactly these frames. -/
theorem drain_frames (enc : γ → List α) (dec : γ → β)
    (h : ∀ g rest, C.cut (enc g ++ rest) = .frame (dec g) rest) (gs : List γ) (tail : List α) :
    C.drain (gs.flatMap enc ++ tail) = prepend (gs.map dec) (C.drain tail) := by
  induction gs with
  | nil => exact (prepend_nil _).symm
  | cons g gs ih =>
    rw [List.flatMap_cons, List.append_assoc, C.drain_frame (h g _), ih, prepend_prepend]
    rfl

theorem length_drain_le (h : C.drain buf = some (bs, left)) : left.length ≤ buf.length := by
  induction buf using C.drain_induction generalizing bs with
  | more buf hc =>
    rw [C.drain_more hc] at h
    cases h
    exact Nat.le_refl _
  | refuse buf hc =>
    rw [C.drain_refuse hc] at h
    cases h
  | frame buf b rest hc ih =>
    rw [C.drain_frame hc] at h
    obtain ⟨cs, hrest, -⟩ := prepend_eq_some h
    exact Nat.le_trans (ih hrest) (Nat.le_of_lt (C.shrinks hc))

/-- The frames that are cut off are the words of an encoding, and each word is one. -/
structure Words (enc : γ → List α) (dec : γ → β) : Prop where
  cut_enc : ∀ g rest, C.cut (enc g ++ rest) = .frame (dec g) rest
  sound : ∀ {buf b rest}, C.cut buf = .frame b rest → ∃ g, buf = enc g ++ rest ∧ b = dec g

/-- The longest front of a buffer that is made of words. -/
structure LongestFront (enc : γ → List α) (buf : List α) (gs : List γ) : Prop where
  front : gs.flatMap enc <+: buf
  longest : ∀ gs' : List γ, gs'.flatMap enc <+: buf →
    (gs'.flatMap enc).length ≤ (gs.flatMap enc).length

section Words

variable {C} {enc : γ → List α} {dec : γ → β} {gs : List γ}

theorem Words.exists_words (h : C.Words enc dec) (hdrain : C.drain buf = some (bs, left)) :
    ∃ gs : List γ, bs = gs.map dec ∧ buf = gs.flatMap enc ++ left := by
  induction buf using C.drain_induction generalizing bs with
  | more buf hc =>
    rw [C.drain_more hc] at hdrain
    cases hdrain
    exact ⟨[], rfl, rfl⟩
  | refuse buf hc =>
    rw [C.drain_refuse hc] at hdrain
    cases hdrain
  | frame buf b rest hc ih =>
    rw [C.drain_frame hc] at hdrain
    obtain ⟨cs, hrest, rfl⟩ := prepend_eq_some hdrain
    obtain ⟨gs, rfl, hbuf⟩ := ih hrest
    obtain ⟨g, hword, rfl⟩ := h.sound hc
    refine ⟨g :: gs, rfl, ?_⟩
    rw [hword, hbuf, List.flatMap_cons, List.append_assoc]

/-- A front of words leaves at least as much as the drain does. -/
theorem Words.drain_front (h : C.Words enc dec) (hdrain : C.drain buf = some (bs, left))
    (hbuf : buf = gs.flatMap enc ++ tail) :
    ∃ cs, C.drain tail = some (cs, left) ∧ bs = gs.map dec ++ cs ∧ left.length ≤ tail.length := by
  rw [hbuf, C.drain_frames enc dec h.cut_enc] at hdrain
  obtain ⟨cs, htail, hbs⟩ := prepend_eq_some hdrain
  exact ⟨cs, htail, hbs, C.length_drain_le htail⟩

theorem Words.exists_longestFront (h : C.Words enc dec)
    (hdrain : C.drain buf = some (bs, left)) : ∃ gs, LongestFront enc buf gs := by
  obtain ⟨gs, -, hbuf⟩ := h.exists_words hdrain
  refine ⟨gs, ⟨⟨left, hbuf.symm⟩, ?_⟩⟩
  rintro gs' ⟨tail, htail⟩
  obtain ⟨cs, -, -, hle⟩ := h.drain_front hdrain htail.symm
  have hlength := congrArg List.length (htail.trans hbuf)
  rw [List.length_append, List.length_append] at hlength
  omega

/-- What is drained is what the longest front of words stands for. -/
theorem Words.drain_longest (h : C.Words enc dec) (hdrain : C.drain buf = some (bs, left))
    (hlongest : LongestFront enc buf gs) : bs = gs.map dec := by
  obtain ⟨gs', -, hbuf'⟩ := h.exists_words hdrain
  obtain ⟨tail, htail⟩ := hlongest.front
  obtain ⟨cs, hdrainTail, hbs, hleft⟩ := h.drain_front hdrain htail.symm
  have hfront : gs'.flatMap enc <+: buf := ⟨left, hbuf'.symm⟩
  have hle := hlongest.longest gs' hfront
  -- both fronts are of one length, so that both leave the same
  have hlength : (gs.flatMap enc).length = (gs'.flatMap enc).length := by
    have hwhole := congrArg List.length (htail.trans hbuf')
    rw [List.length_append, List.length_append] at hwhole
    omega
  obtain ⟨-, hsame⟩ := List.append_inj (htail.trans hbuf') hlength
  rw [hsame, C.drain_more (C.drain_left hdrain)] at hdrainTail
  cases hdrainTail
  rw [hbs, List.append_nil]

end Words

end Cutter

end Incremental
