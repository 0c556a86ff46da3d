import TokenDealer.Delimited
import TokenDealer.Str
import TokenDealer.Utf8

set_option autoImplicit true

namespace EventStream

open Incremental

/-- A text that fits on one line. -/
structure Unbroken (s : String) : Prop where
  feed : '\n' ∉ s.toList
  carriage : '\r' ∉ s.toList

/-- A data line. The blank behind the colon can be left out unless the text starts with one. -/
structure Piece where
  text : String
  spaced : Bool
  unbroken : Unbroken text
  lead : spaced = false → text.toList.head? ≠ some ' '

def Piece.content (p : Piece) : String :=
  if p.spaced then "data: " ++ p.text else "data:" ++ p.text

/-- A comment or a line of another field. -/
structure Other where
  content : String
  unbroken : Unbroken content
  ne_empty : content ≠ ""
  ne_data : content ≠ "data"
  no_data : Str.startsWith content "data:" = false

inductive Field where
  | data (piece : Piece)
  | other (line : Other)
  | blank

structure Line where
  field : Field
  crlf : Bool

namespace Line

def content (l : Line) : String :=
  match l.field with
  | .data piece => piece.content
  | .other line => line.content
  | .blank => ""

/-- A line up to its line feed. -/
def body (l : Line) : List Char := l.content.toList ++ if l.crlf then ['\r'] else []

/-- A blank line that is a line feed and nothing else. -/
def bare : Line → Bool
  | ⟨.blank, false⟩ => true
  | _ => false

/-- What a reader of data lines gets from a line. -/
def read (f : Piece → Option γ) (l : Line) : Option γ :=
  match l.field with
  | .data piece => f piece
  | _ => none

end Line

def render (ls : List Line) : List UInt8 := Utf8.encode (closed '\n' Line.body ls)

/-- The data lines between two blank lines, and whether a bare line feed closes them, at once or
later. -/
structure Message where
  pieces : List Piece
  bare : Bool

def Message.payload (m : Message) : String := Str.join "\n" (m.pieces.map Piece.text)

/-- The messages of a stream, with the data lines of the one that is under way. What no blank line
closes is no message. -/
def dispatch : List Piece → List Line → List Message
  | _, [] => []
  | pieces, l :: ls =>
    match l.field with
    | .data piece => dispatch (pieces ++ [piece]) ls
    | .other _ => dispatch pieces ls
    | .blank =>
      if pieces.isEmpty then dispatch [] ls
      else ⟨pieces, (l :: ls).any Line.bare⟩ :: dispatch [] ls

def messages (ls : List Line) : List Message := dispatch [] ls

theorem Unbroken.of_chars {s : String} {cs : List Char} (hs : s = String.ofList cs)
    (hfeed : '\n' ∉ cs) (hcarriage : '\r' ∉ cs) : Unbroken s := by
  rw [hs]
  constructor
  · rwa [String.toList_ofList]
  · rwa [String.toList_ofList]

theorem Unbroken.append {s t : String} (hs : Unbroken s) (ht : Unbroken t) :
    Unbroken (s ++ t) := by
  constructor
  · rw [String.toList_append, List.mem_append, not_or]
    exact ⟨hs.feed, ht.feed⟩
  · rw [String.toList_append, List.mem_append, not_or]
    exact ⟨hs.carriage, ht.carriage⟩

theorem Piece.unbroken_content (p : Piece) : Unbroken p.content := by
  have hspaced : Unbroken "data: " := ⟨by decide, by decide⟩
  have hplain : Unbroken "data:" := ⟨by decide, by decide⟩
  rw [content]
  split
  · exact hspaced.append p.unbroken
  · exact hplain.append p.unbroken

theorem Line.unbroken_content (l : Line) : Unbroken l.content := by
  rw [content]
  split
  · exact Piece.unbroken_content _
  · exact Other.unbroken _
  · exact ⟨List.not_mem_nil, List.not_mem_nil⟩

theorem Piece.content_ne_nil (p : Piece) : p.content.toList ≠ [] := by
  rw [content]
  split <;> rw [String.toList_append] <;> exact List.cons_ne_nil _ _

theorem Line.body_eq_nil (l : Line) : l.body = [] ↔ l.bare = true := by
  obtain ⟨field, crlf⟩ := l
  cases field with
  | data piece =>
    exact iff_of_false (fun h => piece.content_ne_nil (List.append_eq_nil_iff.mp h).1)
      Bool.false_ne_true
  | other line =>
    have hne : line.content.toList ≠ [] := fun h => line.ne_empty (String.toList_eq_nil_iff.mp h)
    exact iff_of_false (fun h => hne (List.append_eq_nil_iff.mp h).1) Bool.false_ne_true
  | blank => cases crlf <;> decide

theorem Line.read_bare (f : Piece → Option γ) {l : Line} (h : l.bare = true) : l.read f = none := by
  obtain ⟨field, crlf⟩ := l
  cases field with
  | data piece => cases h
  | other line => rfl
  | blank => rfl

section Bytes

def lineFeed : UInt8 := 10

def Line.bytes (l : Line) : List UInt8 := Utf8.encode l.body

theorem Line.bytes_eq_nil (l : Line) : l.bytes = [] ↔ l.bare = true := by
  rw [← body_eq_nil, bytes]
  cases l.body with
  | nil => exact iff_of_true rfl rfl
  | cons c cs =>
    rw [Utf8.encode_cons]
    apply iff_of_false _ (List.cons_ne_nil c cs)
    intro h
    have hlen := String.length_utf8EncodeChar c
    have hpos := Char.utf8Size_pos c
    rw [(List.append_eq_nil_iff.mp h).1, List.length_nil] at hlen
    omega

theorem Line.lineFeed_not_mem (l : Line) : lineFeed ∉ l.bytes := by
  intro h
  have hmem : '\n' ∈ l.body := Utf8.mem_of_mem_encode h (by decide)
  obtain hmem | hmem := List.mem_append.mp hmem
  · exact l.unbroken_content.feed hmem
  · split at hmem
    · exact absurd hmem (by decide)
    · cases hmem

theorem encode_closed (ls : List Line) :
    Utf8.encode (closed '\n' Line.body ls) = closed lineFeed Line.bytes ls := by
  induction ls with
  | nil => rfl
  | cons l ls ih =>
    rw [closed_cons, closed_cons, Utf8.encode_append, Utf8.encode_cons, ih]
    rfl

theorem encode_sepBy (ls : List Line) :
    Utf8.encode (sepBy '\n' Line.body ls) = sepBy lineFeed Line.bytes ls := by
  induction ls with
  | nil => rfl
  | cons l ls ih =>
    cases ls with
    | nil => rfl
    | cons l' ls =>
      rw [sepBy, sepBy, Utf8.encode_append, Utf8.encode_cons, ih]
      rfl

/-- A stream comes in blocks that each end in front of a bare line feed. -/
theorem blocks_render (ls : List Line) :
    Blocks lineFeed (render ls)
      ((cutEmpty Line.bytes [] ls).1.map fun group => Utf8.encode (sepBy '\n' Line.body group))
      (closed lineFeed Line.bytes (cutEmpty Line.bytes [] ls).2) := by
  simp only [render, encode_closed, encode_sepBy]
  exact blocks_closed (List.forall_mem_nil _) (List.forall_mem_nil _)
    fun l _ => l.lineFeed_not_mem

end Bytes

section Lines

theorem lineList_append {cs : List Char} (hfeed : '\n' ∉ cs) (hcarriage : '\r' ∉ cs)
    (h : Str.lineList xs = line :: lines) : Str.lineList (cs ++ xs) = (cs ++ line) :: lines := by
  induction cs with
  | nil => exact h
  | cons c cs ih =>
    have hc : c ≠ '\n' := fun he => hfeed (he ▸ List.mem_cons_self)
    have hc' : c ≠ '\r' := fun he => hcarriage (he ▸ List.mem_cons_self)
    have hrest := ih (fun hm => hfeed (List.mem_cons_of_mem _ hm))
      fun hm => hcarriage (List.mem_cons_of_mem _ hm)
    rw [List.cons_append, Str.lineList, if_neg hc, if_neg fun hand => hc' hand.1, hrest]
    rfl

theorem lineList_unbroken {cs : List Char} (hfeed : '\n' ∉ cs) (hcarriage : '\r' ∉ cs)
    (hne : cs ≠ []) : Str.lineList cs = [cs] := by
  obtain ⟨front, c, rfl⟩ := List.eq_nil_or_concat cs |>.resolve_left hne
  rw [List.concat_eq_append] at hfeed hcarriage ⊢
  rw [List.mem_append, not_or, List.mem_singleton] at hfeed hcarriage
  have hlast : Str.lineList [c] = [[c]] := by
    rw [Str.lineList, if_neg fun h => hfeed.2 h.symm, if_neg fun h => hcarriage.2 h.1.symm]
    rfl
  exact lineList_append hfeed.1 hcarriage.1 hlast

theorem lineList_body (l : Line) (rest : List Char) :
    Str.lineList (l.body ++ '\n' :: rest) = l.content.toList :: Str.lineList rest := by
  have hend : Str.lineList ((if l.crlf then ['\r'] else []) ++ '\n' :: rest) =
      [] :: Str.lineList rest := by
    cases l.crlf <;> rfl
  rw [Line.body, List.append_assoc,
    lineList_append l.unbroken_content.feed l.unbroken_content.carriage hend, List.append_nil]

theorem lineList_last {l : Line} (h : l.body ≠ []) : Str.lineList l.body = [l.body] := by
  have hcontent := l.unbroken_content
  rw [Line.body] at h ⊢
  cases hcrlf : l.crlf with
  | false =>
    rw [hcrlf, if_neg Bool.false_ne_true, List.append_nil] at h
    rw [if_neg Bool.false_ne_true, List.append_nil]
    exact lineList_unbroken hcontent.feed hcontent.carriage h
  | true =>
    rw [if_pos rfl]
    exact lineList_append hcontent.feed hcontent.carriage (by decide)

/-- A reader of lines that does not mind a carriage return at the end reads the lines of a block. -/
theorem filterMap_lineList {f : List Char → Option γ} {F : Line → Option γ}
    (hbare : ∀ l, l.bare = true → F l = none) (hcontent : ∀ l, f l.content.toList = F l)
    (hbody : ∀ l, f l.body = F l) (ls : List Line) :
    (Str.lineList (sepBy '\n' Line.body ls)).filterMap f = ls.filterMap F := by
  induction ls with
  | nil => rfl
  | cons l ls ih =>
    cases ls with
    | nil =>
      rw [sepBy]
      by_cases hl : l.body = []
      · rw [hl, List.filterMap_cons_none (hbare l (l.body_eq_nil.mp hl))]
        rfl
      · rw [lineList_last hl, List.filterMap_cons, List.filterMap_cons, hbody]
        rfl
    | cons l' ls =>
      rw [sepBy, lineList_body, List.filterMap_cons, List.filterMap_cons, hcontent, ih]

end Lines

/-- What a reader gets from the data lines of the messages that a bare line feed closes is what it
gets from the lines up to the last bare line feed. -/
theorem flatMap_dispatch (f : Piece → Option γ) (pieces : List Piece) (ls : List Line) :
    (dispatch pieces ls).flatMap (fun m => if m.bare then m.pieces.filterMap f else []) =
      (if ls.any Line.bare then pieces.filterMap f else []) ++
        (upToLast Line.bare ls).filterMap (Line.read f) := by
  induction ls generalizing pieces with
  | nil => rfl
  | cons l ls ih =>
    obtain ⟨field, crlf⟩ := l
    cases field with
    | data piece =>
      have hany : (⟨.data piece, crlf⟩ :: ls).any Line.bare = ls.any Line.bare := List.any_cons
      have hread : Line.read f ⟨.data piece, crlf⟩ = f piece := rfl
      rw [dispatch, upToLast, hany, ih]
      cases hlast : ls.any Line.bare with
      | false =>
        rw [upToLast_eq_nil hlast]
        rfl
      | true =>
        rw [if_pos rfl, if_pos rfl, if_pos rfl, List.filterMap_append, List.append_assoc,
          List.filterMap_cons, List.filterMap_cons, hread]
        cases f piece <;> rfl
    | other line =>
      have hany : (⟨.other line, crlf⟩ :: ls).any Line.bare = ls.any Line.bare := List.any_cons
      rw [dispatch, filterMap_upToLast_cons rfl, hany]
      exact ih pieces
    | blank =>
      have hrest := ih []
      rw [List.filterMap_nil, ite_self, List.nil_append] at hrest
      rw [dispatch, filterMap_upToLast_cons rfl, ← hrest]
      cases pieces with
      | nil =>
        dsimp only [List.isEmpty_nil]
        rw [if_pos rfl, List.filterMap_nil, ite_self, List.nil_append]
      | cons piece pieces =>
        dsimp only [List.isEmpty_cons]
        rw [if_neg Bool.false_ne_true, List.flatMap_cons]

/-- What a reader of lines gets from the blocks of a stream. -/
theorem flatMap_blocks {f : List Char → Option γ} {F : Piece → Option γ}
    (hcontent : ∀ l : Line, f l.content.toList = l.read F) (hbody : ∀ l : Line, f l.body = l.read F)
    (ls : List Line) :
    (cutEmpty Line.bytes [] ls).1.flatMap
        (fun group => (Str.lineList (sepBy '\n' Line.body group)).filterMap f) =
      (messages ls).flatMap fun m => if m.bare then m.pieces.filterMap F else [] := by
  have hgroup : ∀ group : List Line,
      (Str.lineList (sepBy '\n' Line.body group)).filterMap f = group.filterMap (Line.read F) :=
    filterMap_lineList (fun l h => Line.read_bare F h) hcontent hbody
  have hempty : (fun l : Line => decide (l.bytes = [])) = Line.bare := by
    funext l
    exact Bool.eq_iff_iff.mpr (decide_eq_true_iff.trans l.bytes_eq_nil)
  have hnone : ∀ l : Line, l.bytes = [] → l.read F = none :=
    fun l h => Line.read_bare F (l.bytes_eq_nil.mp h)
  have hcut := filterMap_cutEmpty hnone [] ls
  rw [hempty, List.filterMap_nil, ite_self] at hcut
  simp only [hgroup]
  rw [messages, flatMap_dispatch, List.filterMap_nil, ite_self]
  exact hcut

theorem length_flatMap_le {f g : α → List β} {xs : List α} (h : ∀ x ∈ xs, f x = [] ∨ f x = g x) :
    (xs.flatMap f).length ≤ (xs.flatMap g).length := by
  induction xs with
  | nil => exact Nat.le_refl _
  | cons x xs ih =>
    rw [List.forall_mem_cons] at h
    have hrest := ih h.2
    have hx : (f x).length ≤ (g x).length := by
      obtain hx | hx := h.1
      · rw [hx]
        exact Nat.zero_le _
      · exact Nat.le_of_eq (congrArg List.length hx)
    rw [List.flatMap_cons, List.flatMap_cons, List.length_append, List.length_append]
    omega

/-- A map that gives what another gives or nothing gives the same over all if and only if it gives
the same everywhere. -/
theorem flatMap_eq_flatMap_iff {f g : α → List β} {xs : List α}
    (h : ∀ x ∈ xs, f x = [] ∨ f x = g x) :
    xs.flatMap f = xs.flatMap g ↔ ∀ x ∈ xs, f x = g x := by
  induction xs with
  | nil => exact iff_of_true rfl (List.forall_mem_nil _)
  | cons x xs ih =>
    rw [List.forall_mem_cons] at h
    have hlen := length_flatMap_le h.2
    rw [List.flatMap_cons, List.flatMap_cons, List.forall_mem_cons, ← ih h.2]
    constructor
    · intro heq
      obtain hx | hx := h.1
      · -- nothing here would leave the rest too short
        have htotal := congrArg List.length heq
        rw [hx, List.nil_append, List.length_append] at htotal
        have hgx : g x = [] := List.length_eq_zero_iff.mp (by omega)
        rw [hx, hgx, List.nil_append, List.nil_append] at heq
        exact ⟨hx.trans hgx.symm, heq⟩
      · rw [hx] at heq
        exact ⟨hx, List.append_cancel_left heq⟩
    · intro heq
      rw [heq.1, heq.2]

end EventStream
