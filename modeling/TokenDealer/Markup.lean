import TokenDealer.Delimited
import TokenDealer.Str

set_option autoImplicit true

namespace Markup

open Incremental

/-- Where character data may stand: between tags, or as the value of an attribute. -/
inductive Context where
  | text
  | double
  | single
  | unquoted
  deriving DecidableEq, Repr

inductive State where
  | inside (context : Context)
  | ref (context : Context) (name : List Char)
  | opened
  | closing
  | tagName
  | inTag
  | attrName
  | afterName
  | beforeValue
  | skipped
  deriving DecidableEq, Repr

/-- What a tokenizer reports, character by character. -/
inductive Event where
  | text (c : Char)
  | value (c : Char)
  | startTag
  | endTag
  | name (c : Char)
  | attr
  | attrName (c : Char)
  | tagEnd
  deriving DecidableEq, Repr

def Context.event : Context → Char → Event
  | .text, c => .text c
  | _, c => .value c

def isSpace (c : Char) : Bool := c ∈ [' ', '\n', '\t', '\r', Char.ofNat 12]

/-- A character of data that is not part of a reference. -/
def plain : Context → Char → State × List Event
  | .text, c =>
    if c = '<' then (.opened, []) else if c = '&' then (.ref .text [], [])
    else (.inside .text, [.text c])
  | .double, c =>
    if c = '"' then (.inTag, []) else if c = '&' then (.ref .double [], [])
    else (.inside .double, [.value c])
  | .single, c =>
    if c = '\'' then (.inTag, []) else if c = '&' then (.ref .single [], [])
    else (.inside .single, [.value c])
  | .unquoted, c =>
    if isSpace c then (.inTag, []) else if c = '>' then (.inside .text, [.tagEnd])
    else if c = '&' then (.ref .unquoted [], [])
    else (.inside .unquoted, [.value c])

/-- The named references, without their semicolons. -/
def named : List (List Char × Char) :=
  [(['a', 'm', 'p'], '&'), (['l', 't'], '<'), (['g', 't'], '>'), (['q', 'u', 'o', 't'], '"'),
    (['a', 'p', 'o', 's'], '\'')]

/-- The character that a reference stands for, by its name or its number. -/
def resolve : List Char → Option Char
  | '#' :: digits =>
    if digits ≠ [] ∧ digits.all Char.isDigit then
      some (Char.ofNat (digits.foldl (fun n d => n * 10 + (d.toNat - '0'.toNat)) 0))
    else none
  | name => named.lookup name

/-- A reference that stands for nothing is data as it is. -/
def raw (context : Context) (name : List Char) : List Event := ('&' :: name).map context.event

def inName (c : Char) : State × List Event :=
  if isSpace c ∨ c = '/' then (.inTag, [])
  else if c = '>' then (.inside .text, [.tagEnd])
  else (.attrName, [.attr, .attrName c])

def step : State → Char → State × List Event
  | .inside context, c => plain context c
  | .ref context name, c =>
    if c = ';' then
      match resolve name with
      | some r => (.inside context, [context.event r])
      | none => (.inside context, raw context (name ++ [c]))
    else if c.isAlphanum ∨ c = '#' then (.ref context (name ++ [c]), [])
    else ((plain context c).1, raw context name ++ (plain context c).2)
  | .opened, c =>
    if c.isAlpha then (.tagName, [.startTag, .name c])
    else if c = '/' then (.closing, [])
    else if c = '!' ∨ c = '?' then (.skipped, [])
    else ((plain .text c).1, .text '<' :: (plain .text c).2)
  | .closing, c =>
    if c.isAlpha then (.tagName, [.endTag, .name c])
    else if c = '>' then (.inside .text, []) else (.skipped, [])
  | .tagName, c =>
    if isSpace c ∨ c = '/' then (.inTag, [])
    else if c = '>' then (.inside .text, [.tagEnd]) else (.tagName, [.name c])
  | .inTag, c => inName c
  | .attrName, c =>
    if isSpace c then (.afterName, []) else if c = '/' then (.inTag, [])
    else if c = '=' then (.beforeValue, [])
    else if c = '>' then (.inside .text, [.tagEnd]) else (.attrName, [.attrName c])
  | .afterName, c =>
    if isSpace c then (.afterName, []) else if c = '=' then (.beforeValue, []) else inName c
  | .beforeValue, c =>
    if isSpace c then (.beforeValue, []) else if c = '"' then (.inside .double, [])
    else if c = '\'' then (.inside .single, []) else plain .unquoted c
  | .skipped, c => if c = '>' then (.inside .text, []) else (.skipped, [])

/-- The events of a text that starts between tags. -/
def tokens (s : String) : List Event := (emit step (.inside .text) s.toList).2

section Data

variable {context : Context} {cs ds v w : List Char}

/-- A text is read as the data it stands for, and nothing of it is read as markup. -/
def Stands (context : Context) (cs v : List Char) : Prop :=
  emit step (.inside context) cs = (.inside context, v.map context.event)

instance : Decidable (Stands context cs v) := inferInstanceAs (Decidable (_ = _))

theorem stands_nil (context : Context) : Stands context [] [] := rfl

theorem Stands.append (hcs : Stands context cs v) (hds : Stands context ds w) :
    Stands context (cs ++ ds) (v ++ w) := by
  rw [Stands, emit_append, hcs, hds, List.map_append]

/-- Where each character's text stands for it, the texts of all stand for the whole. -/
theorem stands_flatMap {f : Char → List Char} (hf : ∀ c ∈ v, Stands context (f c) [c]) :
    Stands context (v.flatMap f) v := by
  induction v with
  | nil => exact stands_nil context
  | cons c v ih =>
    obtain ⟨hc, hv⟩ := List.forall_mem_cons.mp hf
    exact hc.append (ih hv)

theorem forall_mem_of_all {p : Char → Prop} [DecidablePred p] {cs : List Char}
    (h : cs.all (fun c => decide (p c)) = true) : ∀ c ∈ cs, p c :=
  fun c hc => of_decide_eq_true (List.all_eq_true.mp h c hc)

/-- Characters that mean nothing else where they stand are data as they are. -/
theorem stands_plain (hcs : ∀ c ∈ cs, plain context c = (.inside context, [context.event c])) :
    Stands context cs cs := by
  have hsingle : Stands context (cs.flatMap fun c => [c]) cs := by
    apply stands_flatMap
    intro c hc
    rw [Stands, emit, step, hcs c hc]
    rfl
  rwa [List.flatMap_singleton'] at hsingle

end Data

/-- A piece of a template: a text as it is, or a place for one. -/
inductive Piece (ι : Type) where
  | lit (text : String)
  | hole (i : ι)

section Templates

variable {ι : Type}

def Piece.fill (data : ι → String) : Piece ι → String
  | .lit text => text
  | .hole i => data i

def fill (t : List (Piece ι)) (data : ι → String) : String := Str.concat (t.map (Piece.fill data))

def Piece.letters : Piece ι → List Char ⊕ ι
  | .lit text => .inl text.toList
  | .hole i => .inr i

def ofLetters : List Char ⊕ ι → Piece ι
  | .inl cs => .lit (String.ofList cs)
  | .inr i => .hole i

theorem letters_ofLetters (u : List (List Char ⊕ ι)) : (u.map ofLetters).map Piece.letters = u := by
  rw [List.map_map]
  apply List.map_id''
  intro piece
  cases piece with
  | inl cs => exact congrArg Sum.inl String.toList_ofList
  | inr i => rfl

/-- What a template is read as: events, and data of a hole. -/
inductive Slot (ι : Type) where
  | out (event : Event)
  | hole (context : Context) (i : ι)
  deriving DecidableEq, Repr

def Slot.events (value : ι → List Char) : Slot ι → List Event
  | .out event => [event]
  | .hole context i => (value i).map context.event

/-- Holes may be only where data may stand. -/
def walk : State → List (List Char ⊕ ι) → Option (State × List (Slot ι))
  | s, [] => some (s, [])
  | s, .inl cs :: t =>
    (walk (emit step s cs).1 t).map fun w => (w.1, (emit step s cs).2.map .out ++ w.2)
  | .inside context, .inr i :: t =>
    (walk (.inside context) t).map fun w => (w.1, .hole context i :: w.2)
  | _, .inr _ :: _ => none

theorem flatMap_out (events : List Event) (value : ι → List Char) :
    (events.map Slot.out).flatMap (Slot.events value) = events := by
  rw [List.flatMap_map]
  exact List.flatMap_singleton' events

/-- A template is read as what it is read as with holes, with the data of each in its place. -/
theorem emit_fill {t : List (Piece ι)} {data : ι → String} {value : ι → List Char}
    {s s' : State} {slots : List (Slot ι)} (hwalk : walk s (t.map Piece.letters) = some (s', slots))
    (hdata : ∀ context i, .hole context i ∈ slots → Stands context (data i).toList (value i)) :
    emit step s (fill t data).toList = (s', slots.flatMap (Slot.events value)) := by
  induction t generalizing s slots with
  | nil =>
    cases hwalk
    rfl
  | cons piece t ih =>
    have hfill : (fill (piece :: t) data).toList =
        (piece.fill data).toList ++ (fill t data).toList := by
      rw [fill, List.map_cons, Str.concat_cons, String.toList_append]
      rfl
    rw [hfill, emit_append]
    cases piece with
    | lit text =>
      obtain ⟨w, hw, heq⟩ := Option.map_eq_some_iff.mp hwalk
      cases heq
      have hrest := ih hw fun context i hi => hdata context i (List.mem_append_right _ hi)
      rw [Piece.fill, hrest, List.flatMap_append, flatMap_out]
    | hole i =>
      cases s with
      | inside context =>
        obtain ⟨w, hw, heq⟩ := Option.map_eq_some_iff.mp hwalk
        cases heq
        have hrest := ih hw fun c j hj => hdata c j (List.mem_cons_of_mem _ hj)
        have hhole : emit step (.inside context) (data i).toList =
            (.inside context, (value i).map context.event) := hdata context i List.mem_cons_self
        rw [Piece.fill, hhole, hrest, List.flatMap_cons]
        rfl
      | _ => cases hwalk

end Templates

/-- What is drawn up of a table: its rows and their cells with what they show. -/
inductive Mark (α : Type) where
  | row
  | cell
  | char (a : α)
  | cellEnd
  | rowEnd
  deriving DecidableEq, Repr

section Tables

variable {α β : Type}

def cellMarks (cell : List α) : List (Mark α) := .cell :: (cell.map .char ++ [.cellEnd])

def marks (rows : List (List (List α))) : List (Mark α) :=
  rows.flatMap fun row => .row :: (row.flatMap cellMarks ++ [.rowEnd])

def Mark.bind (f : α → List β) : Mark α → List (Mark β)
  | .row => [.row]
  | .cell => [.cell]
  | .char a => (f a).map .char
  | .cellEnd => [.cellEnd]
  | .rowEnd => [.rowEnd]

/-- The cell, the row and the rows that begin with what is behind. -/
def gather : Mark α → List α × List (List α) × List (List (List α)) →
    List α × List (List α) × List (List (List α))
  | .row, (_, row, rows) => ([], [], row :: rows)
  | .cell, (cell, row, rows) => ([], cell :: row, rows)
  | .char a, (cell, row, rows) => (a :: cell, row, rows)
  | .cellEnd, (_, row, rows) => ([], row, rows)
  | .rowEnd, (_, _, rows) => ([], [], rows)

def group (ms : List (Mark α)) : List (List (List α)) := (ms.foldr gather ([], [], [])).2.2

theorem gather_chars (cell : List α) (rest : List α × List (List α) × List (List (List α))) :
    (cell.map Mark.char).foldr gather rest = (cell ++ rest.1, rest.2.1, rest.2.2) := by
  induction cell with
  | nil => rfl
  | cons a cell ih =>
    rw [List.map_cons, List.foldr_cons, ih]
    rfl

theorem gather_cells (row : List (List α)) (rest : List (List α) × List (List (List α))) :
    (row.flatMap cellMarks).foldr gather ([], rest) = ([], row ++ rest.1, rest.2) := by
  induction row with
  | nil => rfl
  | cons cell row ih =>
    rw [List.flatMap_cons, List.foldr_append, ih, cellMarks, List.foldr_cons, List.foldr_append,
      List.foldr_cons, List.foldr_nil, gather_chars]
    dsimp only [gather]
    rw [List.append_nil, List.cons_append]

/-- A table is read back from what is drawn up of it. -/
theorem group_marks (rows : List (List (List α))) : group (marks rows) = rows := by
  have hgather : (marks rows).foldr gather ([], [], []) = ([], [], rows) := by
    induction rows with
    | nil => rfl
    | cons row rows ih =>
      rw [marks, List.flatMap_cons, List.foldr_append]
      rw [marks] at ih
      rw [ih, List.foldr_cons, List.foldr_append, List.foldr_cons, List.foldr_nil]
      dsimp only [gather]
      rw [gather_cells]
      dsimp only [gather]
      rw [List.append_nil]
  rw [group, hgather]

theorem marks_append (front back : List (List (List α))) :
    marks (front ++ back) = marks front ++ marks back :=
  List.flatMap_append

theorem marks_bind (f : α → List β) (rows : List (List (List α))) :
    (marks rows).flatMap (Mark.bind f) = marks (rows.map (List.map (List.flatMap f))) := by
  have hchars : ∀ cell : List α, (cell.map Mark.char).flatMap (Mark.bind f) =
      (cell.flatMap f).map Mark.char := by
    intro cell
    rw [List.flatMap_map, List.map_flatMap]
    rfl
  have hcell : ∀ cell : List α, (cellMarks cell).flatMap (Mark.bind f) =
      cellMarks (cell.flatMap f) := by
    intro cell
    rw [cellMarks, List.flatMap_cons, List.flatMap_append, hchars]
    rfl
  have hrow : ∀ row : List (List α), (row.flatMap cellMarks).flatMap (Mark.bind f) =
      (row.map (List.flatMap f)).flatMap cellMarks := by
    intro row
    rw [List.flatMap_assoc, List.flatMap_map, funext hcell]
  rw [marks, List.flatMap_assoc, marks, List.flatMap_map]
  congr 1
  funext row
  rw [List.flatMap_cons, List.flatMap_append, hrow]
  rfl

end Tables

/-- What a reader of tables is in the middle of. -/
inductive Mode where
  | text
  | tag (closing : Bool) (name : List Char)
  | attr (name : List Char)
  deriving DecidableEq, Repr

structure Place where
  inCell : Bool := false
  mode : Mode := .text
  deriving DecidableEq, Repr

namespace Place

/-- A tag counts from where its name is complete. -/
def leave (p : Place) (mode : Mode) : Place × List (Mark Char) :=
  match p.mode with
  | .tag closing name =>
    if name = ['t', 'r'] then (⟨p.inCell, mode⟩, [if closing then .rowEnd else .row])
    else if name = ['t', 'd'] ∨ name = ['t', 'h'] then
      (⟨!closing, mode⟩, [if closing then .cellEnd else .cell])
    else (⟨p.inCell, mode⟩, [])
  | _ => (⟨p.inCell, mode⟩, [])

/-- A cell shows its text and what an input in it holds. -/
def shows (p : Place) : Context → Bool
  | .text => p.inCell
  | _ => p.inCell && p.mode = .attr ['v', 'a', 'l', 'u', 'e']

def step (p : Place) : Event → Place × List (Mark Char)
  | .text c => (p, if p.shows .text then [.char c] else [])
  | .value c => (p, if p.shows .double then [.char c] else [])
  | .startTag => ({ p with mode := .tag false [] }, [])
  | .endTag => ({ p with mode := .tag true [] }, [])
  | .name c =>
    match p.mode with
    | .tag closing name => ({ p with mode := .tag closing (name ++ [c]) }, [])
    | _ => (p, [])
  | .attr => p.leave (.attr [])
  | .attrName c =>
    match p.mode with
    | .attr name => ({ p with mode := .attr (name ++ [c]) }, [])
    | _ => (p, [])
  | .tagEnd => p.leave .text

end Place

/-- The rows of the tables of a text, each cell with what it shows. -/
def tableRows (s : String) : List (List String) :=
  (group (emit Place.step {} (tokens s)).2).map (List.map String.ofList)

def Event.isData : Event → Bool
  | .text _ | .value _ => true
  | _ => false

/-- The tags of a text and the names of their attributes. -/
def tags (s : String) : List Event := (tokens s).filter fun e => !e.isData

section Reading

variable {ι : Type}

theorem isData_event (context : Context) (c : Char) : (context.event c).isData = true := by
  cases context <;> rfl

theorem step_event (p : Place) (context : Context) (c : Char) :
    p.step (context.event c) = (p, if p.shows context then [.char c] else []) := by
  cases context <;> rfl

/-- What is drawn up of the data in a hole depends on where the hole is only. -/
theorem emit_events (p : Place) (context : Context) (v : List Char) :
    emit Place.step p (v.map context.event) =
      (p, if p.shows context then v.map .char else []) := by
  induction v with
  | nil => cases p.shows context <;> rfl
  | cons c v ih =>
    rw [List.map_cons, List.map_cons, emit, step_event]
    dsimp only
    rw [ih]
    cases p.shows context <;> rfl

def Slot.tag : Slot ι → Option Event
  | .out event => if event.isData then none else some event
  | .hole _ _ => none

def drawUp : Place → List (Slot ι) → Place × List (Mark (Char ⊕ ι))
  | p, [] => (p, [])
  | p, .out event :: slots =>
    ((drawUp (p.step event).1 slots).1,
      (p.step event).2.flatMap (Mark.bind fun c => [.inl c]) ++ (drawUp (p.step event).1 slots).2)
  | p, .hole context i :: slots =>
    ((drawUp p slots).1, (if p.shows context then [.char (.inr i)] else []) ++ (drawUp p slots).2)

/-- A piece of a cell with the data in its hole. -/
def put (value : ι → List Char) : Char ⊕ ι → List Char
  | .inl c => [c]
  | .inr i => value i

theorem bind_put (value : ι → List Char) (m : Mark Char) :
    (m.bind fun c => [(.inl c : Char ⊕ ι)]).flatMap (Mark.bind (put value)) = [m] := by
  cases m <;> rfl

theorem emit_drawUp (p : Place) (slots : List (Slot ι)) (value : ι → List Char) :
    emit Place.step p (slots.flatMap (Slot.events value)) =
      ((drawUp p slots).1, (drawUp p slots).2.flatMap (Mark.bind (put value))) := by
  induction slots generalizing p with
  | nil => rfl
  | cons slot slots ih =>
    rw [List.flatMap_cons, emit_append]
    cases slot with
    | out event =>
      have hone : emit Place.step p (Slot.events value (.out event)) = p.step event := by
        have hemit : emit Place.step p (Slot.events value (.out event)) =
            ((p.step event).1, (p.step event).2 ++ []) := rfl
        rw [hemit, List.append_nil]
      rw [hone, ih, drawUp]
      dsimp only
      rw [List.flatMap_append, List.flatMap_assoc]
      simp only [bind_put, List.flatMap_singleton']
    | hole context i =>
      rw [Slot.events, emit_events, ih, drawUp]
      dsimp only
      rw [List.flatMap_append]
      cases p.shows context with
      | false => rfl
      | true =>
        rw [if_pos rfl, if_pos rfl, List.flatMap_singleton]
        rfl

theorem filter_events (slots : List (Slot ι)) (value : ι → List Char) :
    (slots.flatMap (Slot.events value)).filter (fun e => !e.isData) = slots.filterMap Slot.tag := by
  induction slots with
  | nil => rfl
  | cons slot slots ih =>
    rw [List.flatMap_cons, List.filter_append, ih]
    cases slot with
    | out event =>
      rw [List.filterMap_cons, Slot.tag, Slot.events, List.filter_cons, List.filter_nil]
      cases event.isData <;> rfl
    | hole context i =>
      have hnone : ((value i).map context.event).filter (fun e => !e.isData) = [] := by
        rw [List.filter_eq_nil_iff]
        intro e he
        obtain ⟨c, -, rfl⟩ := List.mem_map.mp he
        rw [isData_event]
        exact Bool.false_ne_true
      rw [Slot.events, hnone, List.filterMap_cons]
      rfl

/-- A text that starts and ends between tags, with the rows that it shows and its tags. -/
def Shows (s : String) (rows : List (List (List Char))) (frame : List Event) : Prop :=
  ∃ events, emit step (.inside .text) s.toList = (.inside .text, events) ∧
    emit Place.step {} events = ({}, marks rows) ∧ events.filter (fun e => !e.isData) = frame

theorem Shows.tableRows (h : Shows s rows frame) :
    tableRows s = rows.map (List.map String.ofList) := by
  obtain ⟨events, htokens, hmarks, -⟩ := h
  rw [Markup.tableRows, tokens, htokens, hmarks, group_marks]

/-- Words that a text shows are read back from it. -/
theorem Shows.tableRows_words {table : List (List String)}
    (h : Shows s (table.map (List.map String.toList)) frame) : Markup.tableRows s = table := by
  rw [h.tableRows, List.map_map]
  apply List.map_id''
  intro row
  rw [Function.comp_apply, List.map_map]
  apply List.map_id''
  intro word
  exact String.ofList_toList

theorem Shows.tags (h : Shows s rows frame) : tags s = frame := by
  obtain ⟨events, htokens, -, hframe⟩ := h
  rw [Markup.tags, tokens, htokens, hframe]

theorem shows_empty : Shows "" [] [] := ⟨[], rfl, rfl, rfl⟩

theorem Shows.append (h : Shows s rows frame) (h' : Shows s' rows' frame') :
    Shows (s ++ s') (rows ++ rows') (frame ++ frame') := by
  obtain ⟨events, htokens, hmarks, hframe⟩ := h
  obtain ⟨events', htokens', hmarks', hframe'⟩ := h'
  refine ⟨events ++ events', ?_, ?_, ?_⟩
  · rw [String.toList_append, emit_append, htokens, htokens']
  · rw [emit_append, hmarks, hmarks', marks_append]
  · rw [List.filter_append, hframe, hframe']

/-- Texts one after the other show the rows of all. -/
theorem shows_concat {γ : Type} {f : γ → String} {rows : γ → List (List (List Char))}
    {frame : γ → List Event} {xs : List γ} (h : ∀ x ∈ xs, Shows (f x) (rows x) (frame x)) :
    Shows (Str.concat (xs.map f)) (xs.flatMap rows) (xs.flatMap frame) := by
  induction xs with
  | nil => exact shows_empty
  | cons x xs ih =>
    obtain ⟨hx, hxs⟩ := List.forall_mem_cons.mp h
    rw [List.map_cons, Str.concat_cons, List.flatMap_cons, List.flatMap_cons]
    exact hx.append (ih hxs)

/-- The tags of a template. -/
def frame (t : List (Piece ι)) : List Event :=
  match walk (.inside .text) (t.map Piece.letters) with
  | some (_, slots) => slots.filterMap Slot.tag
  | none => []

/-- A template shows these rows, and its holes are in these contexts. -/
def Draws (contexts : List Context) (t : List (Piece ι))
    (layout : List (List (List (Char ⊕ ι)))) : Prop :=
  ∃ slots, walk (.inside .text) (t.map Piece.letters) = some (.inside .text, slots) ∧
    (∀ context i, .hole context i ∈ slots → context ∈ contexts) ∧
    drawUp {} slots = ({}, marks layout)

def Slot.within (contexts : List Context) : Slot ι → Bool
  | .out _ => true
  | .hole context _ => context ∈ contexts

def draws [DecidableEq ι] (contexts : List Context) (u : List (List Char ⊕ ι))
    (layout : List (List (List (Char ⊕ ι)))) : Bool :=
  match walk (.inside .text) u with
  | some (.inside .text, slots) =>
    slots.all (Slot.within contexts) && drawUp {} slots = ({}, marks layout)
  | _ => false

/-- What a template shows is found by a computation on its characters. -/
theorem draws_sound [DecidableEq ι] {contexts : List Context} {t : List (Piece ι)}
    {layout : List (List (List (Char ⊕ ι)))} (u : List (List Char ⊕ ι)) (ht : t = u.map ofLetters)
    (h : draws contexts u layout = true) : Draws contexts t layout := by
  rw [draws] at h
  split at h
  · next slots hwalk =>
    obtain ⟨hwithin, hmarks⟩ := Bool.and_eq_true_iff.mp h
    refine ⟨slots, ?_, ?_, of_decide_eq_true hmarks⟩
    · rw [ht, letters_ofLetters, hwalk]
    · intro context i hi
      exact of_decide_eq_true (List.all_eq_true.mp hwithin _ hi)
  · cases h

/-- Whatever the data are, a template shows them in its holes and has no tags but its own. -/
theorem Draws.fill {contexts : List Context} {t : List (Piece ι)}
    {layout : List (List (List (Char ⊕ ι)))} (h : Draws contexts t layout) {data : ι → String}
    {value : ι → List Char}
    (hdata : ∀ i, ∀ context ∈ contexts, Stands context (data i).toList (value i)) :
    Shows (fill t data) (layout.map (List.map (List.flatMap (put value)))) (frame t) := by
  obtain ⟨slots, hwalk, hcontexts, hmarks⟩ := h
  have hstands : ∀ context i, .hole context i ∈ slots →
      Stands context (data i).toList (value i) :=
    fun context i hi => hdata i context (hcontexts context i hi)
  refine ⟨slots.flatMap (Slot.events value), emit_fill hwalk hstands, ?_, ?_⟩
  · rw [emit_drawUp, hmarks, marks_bind]
  · rw [filter_events, frame, hwalk]

theorem flatMap_put_inl (value : ι → List Char) (cs : List Char) :
    (cs.map Sum.inl).flatMap (put value) = cs := by
  rw [List.flatMap_map]
  exact List.flatMap_singleton' cs

end Reading

/-- A table between what opens and what closes it. -/
def table (head foot : List (Piece Empty)) (rows : List String) : String :=
  fill head Empty.elim ++ Str.concat rows ++ fill foot Empty.elim

/-- A row of words as they are. -/
def words (titles : List String) : List (List (Char ⊕ Empty)) :=
  titles.map fun title => title.toList.map .inl

/-- A table shows its titles and its rows. -/
theorem shows_table {γ : Type} {head foot : List (Piece Empty)} {titles : List String}
    {f : γ → String} {cells : γ → List String} {tags : γ → List Event} {xs : List γ}
    (hhead : Draws [] head [words titles]) (hfoot : Draws [] foot [])
    (hrows : ∀ x ∈ xs, Shows (f x) [(cells x).map String.toList] (tags x)) :
    Shows (table head foot (xs.map f)) (((titles :: xs.map cells)).map (List.map String.toList))
      (frame head ++ xs.flatMap tags ++ frame foot) := by
  have hempty : ∀ i : Empty, ∀ context ∈ ([] : List Context),
      Stands context (Empty.elim i : String).toList (Empty.elim i) := fun i => i.elim
  have htitles : ∀ value : Empty → List Char,
      [words titles].map (List.map (List.flatMap (put value))) = [titles.map String.toList] := by
    intro value
    rw [List.map_singleton, words, List.map_map]
    congr 2
    funext title
    exact flatMap_put_inl value title.toList
  have hall := ((hhead.fill hempty).append (shows_concat hrows)).append (hfoot.fill hempty)
  rw [htitles, List.map_nil, List.append_nil] at hall
  rw [List.map_cons, List.map_map, table]
  rwa [← List.map_eq_flatMap] at hall

end Markup
