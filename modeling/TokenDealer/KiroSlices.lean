import TokenDealer.Kiro
import TokenDealer.Slice

set_option autoImplicit true

namespace TokenDealer

open Incremental Utf8 Slice

namespace Kiro

namespace Slices

def u16At (raw : List UInt8) (i : Nat) : Option Nat := do
  let high ← index raw i
  let low ← index raw (i + 1)
  pure (BigEndian.decode [high, low])

def u32At (buf : List UInt8) (i : Nat) : Option Nat := do
  let b₀ ← index buf i
  let b₁ ← index buf (i + 1)
  let b₂ ← index buf (i + 2)
  let b₃ ← index buf (i + 3)
  pure (BigEndian.decode [b₀, b₁, b₂, b₃])

/-- The value of a header and the position behind it, or a break out of the loop. The outer
option is empty when an operation panics. -/
def headerValueAt (raw : List UInt8) (i : Nat) (typ : UInt8) :
    Option (Option (Json.Value × Nat)) :=
  if typ = 0 ∨ typ = 1 then some (some (.bool (typ = 0), i))
  else if typ = 2 then
    if raw.length ≤ i then some none
    else do
      let v ← index raw i
      pure (some (.ofI8 v.toInt8, i + 1))
  else if typ = 7 then
    if raw.length < i + 2 then some none
    else do
      let len ← u16At raw i
      if raw.length < i + 2 + len then pure none
      else do
        let s ← range raw (i + 2) (i + 2 + len)
        pure (some (.string (lossyString s), i + 2 + len))
  else some none

/-- One turn of the header loop at a position. -/
def headerAt (raw : List UInt8) (i : Nat) : Option (Option ((String × Json.Value) × Nat)) :=
  if raw.length < i + 1 then some none
  else do
    let nameLen ← index raw i
    if raw.length < i + 1 + nameLen.toNat then pure none
    else do
      let name ← range raw (i + 1) (i + 1 + nameLen.toNat)
      if raw.length ≤ i + 1 + nameLen.toNat then pure none
      else do
        let typ ← index raw (i + 1 + nameLen.toNat)
        let value ← headerValueAt raw (i + 1 + nameLen.toNat + 1) typ
        pure (value.map fun p => ((lossyString name, p.1), p.2))

theorem u16At_of_le {raw : List UInt8} (h : i + 2 ≤ raw.length) :
    u16At raw i = some (BigEndian.decode (raw.extract i (i + 2))) := by
  rw [u16At, index_of_lt (by omega), index_of_lt (by omega), extract_cons (by omega) (by omega),
    extract_one (by omega)]
  rfl

theorem u32At_of_le {buf : List UInt8} (h : i + 4 ≤ buf.length) :
    u32At buf i = some (BigEndian.decode (buf.extract i (i + 4))) := by
  rw [u32At, index_of_lt (by omega), index_of_lt (by omega), index_of_lt (by omega),
    index_of_lt (by omega), extract_cons (by omega) (by omega),
    extract_cons (by omega) (by omega), extract_cons (by omega) (by omega),
    extract_one (by omega)]
  rfl

theorem headerValueAt_eq {raw : List UInt8} (h : i ≤ raw.length) (typ : UInt8) :
    headerValueAt raw i typ = some ((headerValue typ).readAt raw i) := by
  rw [headerValueAt, headerValue]
  split
  · rw [Reader.readAt_pure h]
  · split
    · rw [Reader.readAt_bind]
      by_cases hi : raw.length ≤ i
      · rw [if_pos hi, Reader.readAt_item_of_le hi]
        rfl
      · have hlt : i < raw.length := Nat.lt_of_not_le hi
        rw [if_neg hi, index_of_lt hlt, Reader.readAt_item_of_lt hlt, Option.bind_some,
          Reader.readAt_pure hlt]
        rfl
    · split
      · rw [Reader.readAt_bind, Reader.readAt_take h]
        by_cases hi : raw.length < i + 2
        · rw [if_pos hi, if_neg (Nat.not_le.mpr hi)]
          rfl
        · have hle : i + 2 ≤ raw.length := Nat.le_of_not_lt hi
          rw [if_neg hi, if_pos hle, u16At_of_le hle, Option.bind_some, Reader.readAt_bind,
            Reader.readAt_take hle]
          generalize BigEndian.decode (raw.extract i (i + 2)) = len
          by_cases hlen : raw.length < i + 2 + len
          · rw [if_neg (Nat.not_le.mpr hlen)]
            exact if_pos hlen
          · have hle' : i + 2 + len ≤ raw.length := Nat.le_of_not_lt hlen
            rw [if_pos hle', Option.bind_some, Reader.readAt_pure hle']
            apply (if_neg hlen).trans
            rw [range_of_le (by omega) hle']
            rfl
      · rw [Reader.readAt_fail]

/-- No operation of a turn is out of bounds, and the turn reads the header at its position. -/
theorem headerAt_eq {raw : List UInt8} (h : i ≤ raw.length) :
    headerAt raw i = some (header.readAt raw i) := by
  rw [headerAt, header, Reader.readAt_bind]
  by_cases hi : raw.length < i + 1
  · rw [if_pos hi, Reader.readAt_item_of_le (by omega)]
    rfl
  · have hlt : i < raw.length := by omega
    rw [if_neg hi, index_of_lt hlt, Reader.readAt_item_of_lt hlt, Option.bind_some,
      Reader.readAt_bind, Reader.readAt_take hlt, Option.bind_eq_bind, Option.bind_some]
    dsimp only
    generalize (raw[i]).toNat = len
    by_cases hlen : raw.length < i + 1 + len
    · rw [if_pos hlen, if_neg (Nat.not_le.mpr hlen)]
      rfl
    · have hle : i + 1 + len ≤ raw.length := Nat.le_of_not_lt hlen
      rw [if_neg hlen, if_pos hle, range_of_le (by omega) hle, Option.bind_eq_bind,
        Option.bind_some, Option.bind_some, Reader.readAt_bind]
      by_cases htyp : raw.length ≤ i + 1 + len
      · rw [if_pos htyp, Reader.readAt_item_of_le htyp]
        rfl
      · have hlt' : i + 1 + len < raw.length := Nat.lt_of_not_le htyp
        rw [if_neg htyp, index_of_lt hlt', Reader.readAt_item_of_lt hlt', Option.bind_eq_bind,
          Option.bind_some, Option.bind_some, Reader.readAt_bind, headerValueAt_eq hlt']
        -- the value is read where the type ends, and the name is put in front of it
        cases hvalue : (headerValue raw[i + 1 + len]).readAt raw (i + 1 + len + 1) with
        | none => rfl
        | some p =>
          exact congrArg some (Reader.readAt_pure (Reader.readAt_le hvalue) _).symm

theorem headerAt_lt {raw : List UInt8} (h : headerAt raw i = some (some (entry, j))) : i < j := by
  by_cases hi : i < raw.length
  · rw [headerAt_eq (Nat.le_of_lt hi)] at h
    have hread := Reader.readAt_eq_some (Option.some.inj h)
    have hlt : (raw.drop j).length < (raw.drop i).length := Reader.length_item_bind_lt hread
    rw [List.length_drop, List.length_drop] at hlt
    omega
  · rw [headerAt, if_pos (by omega)] at h
    cases h

/-- The header loop from a position on, with what the map holds so far. -/
def headersFrom (raw : List UInt8) (i : Nat) (map : List (String × Json.Value)) :
    Option (List (String × Json.Value)) :=
  if i < raw.length then
    match _h : headerAt raw i with
    | none => none
    | some none => some map
    | some (some (entry, j)) => headersFrom raw j (Table.set entry.1 entry.2 map)
  else some map
termination_by raw.length - i
decreasing_by
  have hlt := headerAt_lt _h
  omega

def parseKiroHeaders (raw : List UInt8) : Option (List (String × Json.Value)) :=
  headersFrom raw 0 []

/-- One turn of the frame loop: the event at the front and what is left of the buffer. -/
def frameAt (text : Json.Text) (buf : List UInt8) : Option (Option (KiroEvent × List UInt8)) :=
  if buf.length < 12 then some none
  else do
    let totalLen ← u32At buf 0
    let headersLen ← u32At buf 4
    if totalLen < 16 ∨ totalLen < headersLen + 12 ∨ buf.length < totalLen then pure none
    else do
      let payloadEnd ← sub totalLen 4
      let payloadBytes ← range buf (12 + headersLen) payloadEnd
      let payload := (text.parse (lossyString payloadBytes)).getD .null
      let headersBytes ← range buf 12 (12 + headersLen)
      let headers ← parseKiroHeaders headersBytes
      let rest ← drainTo buf totalLen
      pure (some
        ({ eventType := (Table.get ":event-type" headers).bind Json.Value.asStr
           messageType := (Table.get ":message-type" headers).bind Json.Value.asStr
           payload := payload }, rest))

theorem headersFrom_eq {raw : List UInt8} (h : i ≤ raw.length) (map : List (String × Json.Value)) :
    headersFrom raw i map =
      (headerCutter.drain (raw.drop i)).map fun p => Table.setAll p.1 map := by
  fun_induction headersFrom raw i map with
  | case1 i map hi hturn =>
    rw [headerAt_eq h] at hturn
    cases hturn
  | case2 i map hi hturn =>
    rw [headerAt_eq h] at hturn
    have hread := Reader.readAt_eq_none (Option.some.inj hturn)
    rw [headerCutter.drain_more (Cutter.ofReader_more hread)]
    rfl
  | case3 i map hi entry j hturn ih =>
    rw [headerAt_eq h] at hturn
    have hread := Option.some.inj hturn
    have hcut : headerCutter.cut (raw.drop i) = .frame entry (raw.drop j) :=
      Cutter.ofReader_frame (Reader.readAt_eq_some hread)
    rw [ih (Reader.readAt_le hread), headerCutter.drain_frame hcut]
    cases headerCutter.drain (raw.drop j) <;> rfl
  | case4 i map hi =>
    rw [List.drop_eq_nil_of_le (Nat.le_of_not_lt hi)]
    rfl

/-- No header bytes make the header loop panic. -/
theorem parseKiroHeaders_eq (raw : List UInt8) :
    parseKiroHeaders raw = some (Kiro.parseKiroHeaders raw) := by
  rw [parseKiroHeaders, headersFrom_eq (Nat.zero_le _), List.drop_zero, Kiro.parseKiroHeaders]
  obtain ⟨headers, left, hdrain⟩ := headerCutter.exists_drain Cutter.ofReader_ne_refuse raw
  rw [hdrain]
  rfl

variable (text : Json.Text)

/-- A look at the front of a buffer, in the shape of a turn of the frame loop. -/
def turn : Cut UInt8 KiroEvent → Option (Option (KiroEvent × List UInt8))
  | .more => some none
  | .refuse => none
  | .frame event rest => some (some (event, rest))

/-- A turn of the frame loop panics where the payload would end before it starts, and nowhere
else. -/
theorem frameAt_eq (buf : List UInt8) : frameAt text buf = turn (cut text buf) := by
  rw [frameAt, cut]
  by_cases hlen : buf.length < 12
  · rw [if_pos hlen, if_pos hlen]
    rfl
  · have htotal : u32At buf 0 = some (totalLen buf) := u32At_of_le (by omega)
    have hheaders : u32At buf 4 = some (headersLen buf) := u32At_of_le (by omega)
    rw [if_neg hlen, if_neg hlen, htotal, hheaders, Option.bind_eq_bind, Option.bind_some,
      Option.bind_eq_bind, Option.bind_some]
    by_cases hguard : totalLen buf < 16 ∨ totalLen buf < headersLen buf + 12 ∨
        buf.length < totalLen buf
    · rw [if_pos hguard, if_pos hguard]
      rfl
    · rw [if_neg hguard, if_neg hguard, sub_of_le (by omega), Option.bind_eq_bind,
        Option.bind_some]
      change (range buf (12 + headersLen buf) (totalLen buf - 4)).bind _ = _
      by_cases hend : totalLen buf - 4 < 12 + headersLen buf
      · rw [if_pos hend, range_of_lt hend]
        rfl
      · rw [if_neg hend, range_of_le (by omega) (by omega), Option.bind_some]
        change (range buf 12 (12 + headersLen buf)).bind _ = _
        rw [range_of_le (by omega) (by omega), Option.bind_some, parseKiroHeaders_eq]
        change (drainTo buf (totalLen buf)).bind _ = _
        rw [drainTo_of_le (by omega)]
        rfl

theorem turn_injective {c d : Cut UInt8 KiroEvent} (h : turn c = turn d) : c = d := by
  cases c <;> cases d <;> cases h <;> rfl

theorem cut_of_frameAt {c : Cut UInt8 KiroEvent} (h : frameAt text buf = turn c) :
    (cutter text).cut buf = c := by
  rw [frameAt_eq] at h
  exact turn_injective h

theorem frameAt_lt {buf rest : List UInt8} {event : KiroEvent}
    (h : frameAt text buf = some (some (event, rest))) : rest.length < buf.length :=
  (cutter text).shrinks (cut_of_frameAt text (c := .frame event rest) h)

/-- The frame loop: events until no whole frame is left, and what is left of the buffer. -/
def parseKiroEvents (buf : List UInt8) : Option (List KiroEvent × List UInt8) :=
  match _h : frameAt text buf with
  | none => none
  | some none => some ([], buf)
  | some (some (event, rest)) => Cutter.prepend [event] (parseKiroEvents rest)
termination_by buf.length
decreasing_by exact frameAt_lt text _h

theorem parseKiroEvents_eq (buf : List UInt8) :
    parseKiroEvents text buf = Kiro.parseKiroEvents text buf := by
  rw [Kiro.parseKiroEvents]
  fun_induction parseKiroEvents text buf with
  | case1 buf h => rw [(cutter text).drain_refuse (cut_of_frameAt text (c := .refuse) h)]
  | case2 buf h => rw [(cutter text).drain_more (cut_of_frameAt text (c := .more) h)]
  | case3 buf event rest h ih =>
    rw [(cutter text).drain_frame (cut_of_frameAt text (c := .frame event rest) h), ih]

end Slices

/-- A whole frame stands at the front: its headers and its payload lie between the prelude and
the checksum, and the buffer reaches to its end. -/
def Whole (buf : List UInt8) : Prop :=
  12 ≤ buf.length ∧ headersLen buf + 16 ≤ totalLen buf ∧ totalLen buf ≤ buf.length

/-- The frame at the front is long enough for its headers, but these reach into its checksum. -/
def Overlap (buf : List UInt8) : Prop :=
  16 ≤ totalLen buf ∧ headersLen buf + 12 ≤ totalLen buf ∧ totalLen buf < headersLen buf + 16 ∧
    totalLen buf ≤ buf.length

/-- What is left of a buffer when some whole frames are taken off its front. -/
inductive Behind : List UInt8 → List UInt8 → Prop where
  | here : Behind buf buf
  | frame : Whole buf → Behind (buf.drop (totalLen buf)) rest → Behind buf rest

variable {text : Json.Text}

theorem whole_of_cut {e : KiroEvent} (h : (cutter text).cut buf = .frame e rest) :
    Whole buf ∧ rest = buf.drop (totalLen buf) := by
  obtain ⟨h16, hheaders, hlen, -, hrest⟩ := (cut_eq_frame text).mp h
  exact ⟨⟨by omega, hheaders, hlen⟩, hrest⟩

variable (text)

theorem cut_of_whole (h : Whole buf) :
    (cutter text).cut buf = .frame (event text buf) (buf.drop (totalLen buf)) := by
  obtain ⟨-, hheaders, hlen⟩ := h
  exact (cut_eq_frame text).mpr ⟨by omega, hheaders, hlen, rfl, rfl⟩

theorem isSome_drain (buf : List UInt8) :
    ((cutter text).drain buf).isSome ↔ ∀ rest, Behind buf rest → ¬ Overlap rest := by
  induction buf using (cutter text).drain_induction with
  | more buf hc =>
    rw [(cutter text).drain_more hc]
    apply iff_of_true rfl
    intro rest hrest hover
    cases hrest with
    | here =>
      have hrefuse := (cut_eq_refuse text).mpr hover
      rw [cutter_cut, hrefuse] at hc
      cases hc
    | frame hwhole _ =>
      rw [cut_of_whole text hwhole] at hc
      cases hc
  | refuse buf hc =>
    rw [(cutter text).drain_refuse hc]
    apply iff_of_false Bool.false_ne_true
    intro h
    exact h buf .here ((cut_eq_refuse text).mp hc)
  | frame buf e rest hc ih =>
    obtain ⟨hwhole, rfl⟩ := whole_of_cut hc
    rw [(cutter text).drain_frame hc, Cutter.isSome_prepend, ih]
    constructor
    · intro h rest hrest
      cases hrest with
      | here =>
        intro hover
        have hheaders := hwhole.2.1
        have hshort := hover.2.2.1
        omega
      | frame _ hrest => exact h rest hrest
    · intro h rest hrest
      exact h rest (.frame hwhole hrest)

/-- The parser returns on a buffer, without a slice or an index out of bounds, exactly if none of
the frames that it comes to overlaps its own checksum. -/
theorem parseKiroEvents_in_bounds (text : Json.Text) (buf : List UInt8) :
    (Slices.parseKiroEvents text buf).isSome ↔ ∀ rest, Behind buf rest → ¬ Overlap rest := by
  rw [Slices.parseKiroEvents_eq, parseKiroEvents]
  exact isSome_drain text buf

/-- Sixteen bytes that announce a frame of sixteen bytes with one byte of headers. -/
def overlapBytes : List UInt8 := [0, 0, 0, 16, 0, 0, 0, 1, 0, 0, 0, 0, 0, 0, 0, 0]

theorem parseKiroEvents_overlap :
    ¬ ∀ (text : Json.Text) (buf : List UInt8), (Slices.parseKiroEvents text buf).isSome := by
  intro h
  have hnone : ¬ (Slices.parseKiroEvents Json.sampleText overlapBytes).isSome := by
    rw [Slices.parseKiroEvents_eq, parseKiroEvents,
      (cutter Json.sampleText).drain_refuse ((cut_eq_refuse Json.sampleText).mpr (by decide))]
    exact Bool.false_ne_true
  exact hnone (h Json.sampleText overlapBytes)

end Kiro

end TokenDealer
