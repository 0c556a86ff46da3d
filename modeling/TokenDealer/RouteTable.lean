import TokenDealer.StrPieces

set_option autoImplicit true

namespace Routes

/-- A part of a pattern: a text that stands for itself, or a capture. -/
inductive Segment where
  | lit (text : String)
  | capture (name : String)
  deriving DecidableEq, Repr

def Segment.text : Segment → String
  | .lit text => text
  | .capture _ => ""

abbrev Pattern := List Segment

/-- The parts of a path, which begins with a slash. -/
def segments (path : String) : Option (List String) :=
  (Str.stripPrefix "/" path).map fun rest => (Str.split '/' rest.toList).map String.ofList

section Find

-- Routers differ in whether a capture takes an empty part.
variable (takesEmpty : Bool)

def Segment.takes (s : String) : Segment → Bool
  | .lit text => text = s
  | .capture _ => takesEmpty || s ≠ ""

/-- A pattern takes a path part by part. -/
def takes : Pattern → List String → Bool
  | [], [] => true
  | segment :: p, s :: path => segment.takes takesEmpty s && takes p path
  | _, _ => false

/-- The values of the captures. -/
def captures : Pattern → List String → List (String × String)
  | .lit _ :: p, _ :: path => captures p path
  | .capture name :: p, s :: path => (name, s) :: captures p path
  | _, _ => []

/-- What is left of a pattern behind a text. -/
def behindLit (s : String) : Pattern × α → Option (Pattern × α)
  | (.lit text :: p, a) => if text = s then some (p, a) else none
  | _ => none

/-- What is left of a pattern behind a capture. -/
def behindCapture : Pattern × α → Option (Pattern × α)
  | (.capture _ :: p, a) => some (p, a)
  | _ => none

/-- The walk down the tree of the patterns. Texts come before captures, and where they lead nowhere
the walk goes back to the captures. -/
def find : List String → List (Pattern × α) → Option α
  | [], table => (table.find? fun r => r.1.isEmpty).map Prod.snd
  | s :: path, table =>
    (find path (table.filterMap (behindLit s))).or
      (if takesEmpty || s ≠ "" then find path (table.filterMap behindCapture) else none)

end Find

/-- Of two patterns, the one with a text where the other has a capture, at the first place where
they differ in that. -/
def precedes : Pattern → Pattern → Bool
  | .lit _ :: _, .capture _ :: _ => true
  | .lit s :: p, .lit t :: q => s = t && precedes p q
  | .capture _ :: p, .capture _ :: q => precedes p q
  | _, _ => false

/-- Patterns that differ in the names of their captures at most. -/
def alike : Pattern → Pattern → Bool
  | [], [] => true
  | .lit s :: p, .lit t :: q => s = t && alike p q
  | .capture _ :: p, .capture _ :: q => alike p q
  | _, _ => false

section Order

variable {p q : Pattern}

theorem not_precedes_of_alike (h : alike p q = true) : precedes q p = false := by
  induction p generalizing q with
  | nil =>
    cases q with
    | nil => rfl
    | cons b q => cases h
  | cons a p ih =>
    cases q with
    | nil => cases a <;> cases h
    | cons b q =>
      cases a with
      | lit s =>
        cases b with
        | lit t =>
          obtain ⟨-, hrest⟩ := Bool.and_eq_true_iff.mp h
          rw [precedes, ih hrest, Bool.and_false]
        | capture name => cases h
      | capture name =>
        cases b with
        | lit t => cases h
        | capture name' => exact ih h

theorem precedes_asymm (h : precedes p q = true) : precedes q p = false := by
  induction p generalizing q with
  | nil => cases h
  | cons a p ih =>
    cases q with
    | nil => cases a <;> cases h
    | cons b q =>
      cases a with
      | lit s =>
        cases b with
        | lit t =>
          obtain ⟨-, hrest⟩ := Bool.and_eq_true_iff.mp h
          rw [precedes, ih hrest, Bool.and_false]
        | capture name => rfl
      | capture name =>
        cases b with
        | lit t => cases h
        | capture name' => exact ih h

end Order

section Lookup

variable {takesEmpty : Bool} {s : String} {path : List String} {table : List (Pattern × α)} {a : α}

theorem mem_behindLit {r : Pattern × α} :
    r ∈ table.filterMap (behindLit s) ↔ (.lit s :: r.1, r.2) ∈ table := by
  rw [List.mem_filterMap]
  constructor
  · rintro ⟨⟨pattern, b⟩, hmem, hr⟩
    unfold behindLit at hr
    split at hr
    · split at hr
      · next heq =>
        cases hr
        subst heq
        rename_i hpair
        cases hpair
        exact hmem
      · cases hr
    · cases hr
  · intro hmem
    exact ⟨_, hmem, if_pos rfl⟩

theorem mem_behindCapture {r : Pattern × α} :
    r ∈ table.filterMap behindCapture ↔ ∃ name, (.capture name :: r.1, r.2) ∈ table := by
  rw [List.mem_filterMap]
  constructor
  · rintro ⟨⟨pattern, b⟩, hmem, hr⟩
    unfold behindCapture at hr
    split at hr
    · cases hr
      rename_i hpair
      cases hpair
      exact ⟨_, hmem⟩
    · cases hr
  · rintro ⟨name, hmem⟩
    exact ⟨_, hmem, rfl⟩

/-- Nothing is found only where no pattern takes the path. -/
theorem find_eq_none (h : find takesEmpty path table = none) :
    ∀ r ∈ table, takes takesEmpty r.1 path = false := by
  induction path generalizing table with
  | nil =>
    intro r hr
    obtain ⟨pattern, b⟩ := r
    cases pattern with
    | nil =>
      rw [find, Option.map_eq_none_iff, List.find?_eq_none] at h
      exact absurd rfl (h _ hr)
    | cons segment pattern => rfl
  | cons s path ih =>
    rw [find, Option.or_eq_none_iff] at h
    obtain ⟨hlit, hcapture⟩ := h
    intro r hr
    obtain ⟨pattern, b⟩ := r
    cases pattern with
    | nil => rfl
    | cons segment pattern =>
      rw [takes, Bool.and_eq_false_iff]
      cases segment with
      | lit text =>
        by_cases heq : text = s
        · subst heq
          exact .inr (ih hlit (pattern, b) (mem_behindLit.mpr hr))
        · exact .inl (decide_eq_false heq)
      | capture name =>
        by_cases hs : (takesEmpty || decide (s ≠ "")) = true
        · rw [if_pos hs] at hcapture
          exact .inr (ih hcapture (pattern, b) (mem_behindCapture.mpr ⟨name, hr⟩))
        · exact .inl (Bool.eq_false_iff.mpr hs)

/-- What is found is of a pattern that takes the path, and every other such pattern is like it or
comes after it. -/
theorem find_eq_some (h : find takesEmpty path table = some a) :
    ∃ p, (p, a) ∈ table ∧ takes takesEmpty p path = true ∧
      ∀ r ∈ table, takes takesEmpty r.1 path = true →
        alike p r.1 = true ∨ precedes p r.1 = true := by
  induction path generalizing table with
  | nil =>
    obtain ⟨⟨pattern, b⟩, hfound, rfl⟩ := Option.map_eq_some_iff.mp h
    have hempty := List.find?_some hfound
    obtain rfl : pattern = [] := List.isEmpty_iff.mp hempty
    refine ⟨[], List.mem_of_find?_eq_some hfound, rfl, ?_⟩
    intro r hr htakes
    obtain ⟨q, c⟩ := r
    cases q with
    | nil => exact .inl rfl
    | cons segment q => cases htakes
  | cons s path ih =>
    rw [find] at h
    rcases Option.or_eq_some_iff.mp h with hlit | ⟨hnone, hcapture⟩
    · obtain ⟨p, hp, htakes, hfirst⟩ := ih hlit
      refine ⟨.lit s :: p, mem_behindLit.mp hp, ?_, ?_⟩
      · rw [takes, htakes, Bool.and_true]
        exact decide_eq_true rfl
      · intro r hr hr_takes
        obtain ⟨q, c⟩ := r
        cases q with
        | nil => cases hr_takes
        | cons segment q =>
          cases segment with
          | capture name => exact .inr rfl
          | lit text =>
            obtain ⟨htext, hrest⟩ := Bool.and_eq_true_iff.mp hr_takes
            obtain rfl : text = s := of_decide_eq_true htext
            refine (hfirst (q, c) (mem_behindLit.mpr hr) hrest).imp ?_ ?_ <;>
              intro hq <;>
              exact Bool.and_eq_true_iff.mpr ⟨decide_eq_true rfl, hq⟩
    · split at hcapture
      · next hs =>
        obtain ⟨p, hp, htakes, hfirst⟩ := ih hcapture
        obtain ⟨name, hmem⟩ := mem_behindCapture.mp hp
        refine ⟨.capture name :: p, hmem, ?_, ?_⟩
        · rw [takes, htakes, Bool.and_true]
          exact hs
        · intro r hr hr_takes
          obtain ⟨q, c⟩ := r
          cases q with
          | nil => cases hr_takes
          | cons segment q =>
            obtain ⟨htext, hrest⟩ := Bool.and_eq_true_iff.mp hr_takes
            cases segment with
            | lit text =>
              -- The walk would have found it before it went back.
              obtain rfl : text = s := of_decide_eq_true htext
              have hmiss := find_eq_none hnone (q, c) (mem_behindLit.mpr hr)
              rw [hmiss] at hrest
              cases hrest
            | capture name' => exact hfirst (q, c) (mem_behindCapture.mpr ⟨name', hr⟩) hrest
      · cases hcapture

/-- A pattern that takes the path is found where it precedes every other one that does. -/
theorem find_of_first (hmem : (p, a) ∈ table) (htakes : takes takesEmpty p path = true)
    (hfirst : ∀ r ∈ table, takes takesEmpty r.1 path = true →
      r.2 = a ∨ precedes p r.1 = true) : find takesEmpty path table = some a := by
  cases hfound : find takesEmpty path table with
  | none =>
    have hmiss := find_eq_none hfound (p, a) hmem
    rw [hmiss] at htakes
    cases htakes
  | some b =>
    obtain ⟨q, hq, hq_takes, hq_first⟩ := find_eq_some hfound
    rcases hfirst (q, b) hq hq_takes with rfl | hprecedes
    · rfl
    · rcases hq_first (p, a) hmem htakes with halike | hq_precedes
      · rw [not_precedes_of_alike halike] at hprecedes
        cases hprecedes
      · rw [precedes_asymm hq_precedes] at hprecedes
        cases hprecedes

end Lookup

/-- A path some of whose parts are known. -/
abbrev Shape := List (Option String)

/-- The paths of a shape. -/
def fits : Shape → List String → Bool
  | [], [] => true
  | known :: shape, s :: path => known.all (· = s) && fits shape path
  | _, _ => false

/-- A pattern that takes some path of a shape, unless a capture refuses. -/
def meets : Pattern → Shape → Bool
  | [], [] => true
  | .lit text :: p, known :: shape => known.all (· = text) && meets p shape
  | .capture _ :: p, _ :: shape => meets p shape
  | _, _ => false

theorem meets_of_takes {p : Pattern} {shape : Shape} {path : List String}
    (htakes : takes takesEmpty p path = true) (hfits : fits shape path = true) :
    meets p shape = true := by
  induction p generalizing shape path with
  | nil =>
    cases path with
    | nil =>
      cases shape with
      | nil => rfl
      | cons known shape => cases hfits
    | cons s path => cases htakes
  | cons segment p ih =>
    cases path with
    | nil => cases htakes
    | cons s path =>
      cases shape with
      | nil => cases hfits
      | cons known shape =>
        obtain ⟨hsegment, hrest⟩ := Bool.and_eq_true_iff.mp htakes
        obtain ⟨hknown, hshape⟩ := Bool.and_eq_true_iff.mp hfits
        cases segment with
        | lit text =>
          obtain rfl : text = s := of_decide_eq_true hsegment
          exact Bool.and_eq_true_iff.mpr ⟨hknown, ih hrest hshape⟩
        | capture name => exact ih hrest hshape

theorem fits_map_some (path : List String) : fits (path.map some) path = true := by
  induction path with
  | nil => rfl
  | cons s path ih =>
    rw [List.map_cons, fits, ih, Bool.and_true]
    exact decide_eq_true rfl

section Fill

/-- The parts of a path that a pattern takes, with one text for every capture. -/
def fill (v : String) : Pattern → List String
  | [] => []
  | .lit text :: p => text :: fill v p
  | .capture _ :: p => v :: fill v p

/-- What is known of every path that a pattern takes. -/
def shape : Pattern → Shape
  | [] => []
  | .lit text :: p => some text :: shape p
  | .capture _ :: p => none :: shape p

def captureNames : Pattern → List String
  | [] => []
  | .lit _ :: p => captureNames p
  | .capture name :: p => name :: captureNames p

variable {v : String}

theorem fits_fill (v : String) (p : Pattern) : fits (shape p) (fill v p) = true := by
  induction p with
  | nil => rfl
  | cons segment p ih =>
    cases segment with
    | lit text => exact Bool.and_eq_true_iff.mpr ⟨decide_eq_true rfl, ih⟩
    | capture name => exact ih

theorem takes_fill (takesEmpty : Bool) (hv : v ≠ "") (p : Pattern) :
    takes takesEmpty p (fill v p) = true := by
  induction p with
  | nil => rfl
  | cons segment p ih =>
    cases segment with
    | lit text => exact Bool.and_eq_true_iff.mpr ⟨decide_eq_true rfl, ih⟩
    | capture name =>
      exact Bool.and_eq_true_iff.mpr ⟨Bool.or_eq_true_iff.mpr (.inr (decide_eq_true hv)), ih⟩

theorem captures_fill (v : String) (p : Pattern) :
    captures p (fill v p) = (captureNames p).map fun name => (name, v) := by
  induction p with
  | nil => rfl
  | cons segment p ih =>
    cases segment with
    | lit text => exact ih
    | capture name => exact congrArg (List.cons (name, v)) ih

theorem mem_fill {p : Pattern} {s : String} (h : s ∈ fill v p) : s = v ∨ .lit s ∈ p := by
  induction p with
  | nil => cases h
  | cons segment p ih =>
    cases segment with
    | lit text =>
      rcases List.mem_cons.mp h with rfl | hrest
      · exact .inr List.mem_cons_self
      · exact (ih hrest).imp_right (List.mem_cons_of_mem _)
    | capture name =>
      rcases List.mem_cons.mp h with rfl | hrest
      · exact .inl rfl
      · exact (ih hrest).imp_right (List.mem_cons_of_mem _)

end Fill

section Segments

theorem segments_append (s : String) (hs : '/' ∉ s.toList) (rest : String) :
    segments ("/" ++ s ++ "/" ++ rest) =
      (segments ("/" ++ rest)).map fun path => s :: path := by
  have hfront : "/" ++ s ++ "/" ++ rest = "/" ++ (s ++ "/" ++ rest) := by
    rw [String.append_assoc, String.append_assoc, String.append_assoc]
  have hlist : (s ++ "/" ++ rest).toList = s.toList ++ '/' :: rest.toList :=
    Str.toList_append_singleton s '/' rest
  rw [segments, segments, hfront, Str.stripPrefix_append, Str.stripPrefix_append, Option.map_some,
    Option.map_some, hlist, Str.split_append hs, List.map_cons, String.ofList_toList,
    Option.map_some]

theorem segments_last (s : String) (hs : '/' ∉ s.toList) : segments ("/" ++ s) = some [s] := by
  rw [segments, Str.stripPrefix_append, Option.map_some, Str.split_of_not_mem hs,
    List.map_singleton, String.ofList_toList]

/-- The parts that a path is put together from are the parts of the path. -/
theorem segments_join {parts : List String} (hne : parts ≠ [])
    (hparts : ∀ s ∈ parts, '/' ∉ s.toList) :
    segments ("/" ++ Str.join "/" parts) = some parts := by
  induction parts with
  | nil => exact absurd rfl hne
  | cons s parts ih =>
    obtain ⟨hs, hrest⟩ := List.forall_mem_cons.mp hparts
    cases parts with
    | nil => exact segments_last s hs
    | cons t parts =>
      have hjoin : "/" ++ Str.join "/" (s :: t :: parts) =
          "/" ++ s ++ "/" ++ Str.join "/" (t :: parts) := by
        rw [Str.join, String.append_assoc, String.append_assoc, String.append_assoc]
      rw [hjoin, segments_append s hs, ih (List.cons_ne_nil t parts) hrest, Option.map_some]

theorem exists_of_split [DecidableEq α] {sep : α} {xs piece : List α}
    (h : Str.split sep xs = piece :: next :: rest) : ∃ ys, xs = piece ++ sep :: ys := by
  induction xs generalizing piece with
  | nil => cases h
  | cons x xs ih =>
    rw [Str.split] at h
    split at h
    · next hx =>
      rw [← (List.cons.inj h).1, hx]
      exact ⟨xs, rfl⟩
    · split at h
      · cases h
      · next hsplit =>
        cases h
        obtain ⟨ys, rfl⟩ := ih hsplit
        exact ⟨ys, rfl⟩

/-- A path of two parts and more begins with the first of them between slashes. -/
theorem startsWith_of_segments {path s t : String} {rest : List String}
    (h : segments path = some (s :: t :: rest)) :
    Str.startsWith path ("/" ++ s ++ "/") = true := by
  obtain ⟨behind, hbehind, hsplit⟩ := Option.map_eq_some_iff.mp h
  obtain ⟨chars, hchars, rfl⟩ := Option.map_eq_some_iff.mp hbehind
  have hpath := Str.dropFront_eq_some.mp hchars
  rw [String.toList_ofList] at hsplit
  cases hpieces : Str.split '/' chars with
  | nil =>
    rw [hpieces] at hsplit
    cases hsplit
  | cons piece pieces =>
    cases pieces with
    | nil =>
      rw [hpieces] at hsplit
      cases hsplit
    | cons next pieces =>
      rw [hpieces] at hsplit
      cases hsplit
      obtain ⟨ys, rfl⟩ := exists_of_split hpieces
      rw [Str.startsWith, Str.isSome_dropFront, hpath]
      refine ⟨ys, ?_⟩
      simp only [String.toList_append, String.toList_ofList, List.append_assoc]
      rfl

end Segments

end Routes
