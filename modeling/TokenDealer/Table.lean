import TokenDealer.Str

set_option autoImplicit true

namespace Table

/-- The value under a key, in a table with text keys. -/
def get (key : String) : List (String × α) → Option α
  | [] => none
  | (k, v) :: rest => if k = key then some v else get key rest

/-- Writing under a key, in place when the table has it. -/
def set (key : String) (value : α) : List (String × α) → List (String × α)
  | [] => [(key, value)]
  | (k, v) :: rest => if k = key then (k, value) :: rest else (k, v) :: set key value rest

@[simp] theorem get_nil (key : String) : get key ([] : List (String × α)) = none := rfl

@[simp] theorem get_cons_self (key : String) (v : α) (rest : List (String × α)) :
    get key ((key, v) :: rest) = some v := by
  simp only [get, ↓reduceIte]

theorem get_cons_of_ne (h : k ≠ key) (v : α) (rest : List (String × α)) :
    get key ((k, v) :: rest) = get key rest := by
  simp only [get, if_neg h]

theorem get_set_self (key : String) (value : α) (members : List (String × α)) :
    get key (set key value members) = some value := by
  induction members with
  | nil => exact get_cons_self _ _ _
  | cons m rest ih =>
    obtain ⟨k, v⟩ := m
    by_cases hk : k = key
    · simp only [set, get, if_pos hk]
    · simp only [set, get, if_neg hk, ih]

theorem get_set_of_ne (h : key ≠ other) (value : α) (members : List (String × α)) :
    get other (set key value members) = get other members := by
  induction members with
  | nil => exact get_cons_of_ne h _ _
  | cons m rest ih =>
    obtain ⟨k, v⟩ := m
    by_cases hk : k = key
    · have ho : k ≠ other := hk ▸ h
      simp only [set, get, if_pos hk, if_neg ho]
    · simp only [set, get, if_neg hk, ih]

/-- Writing what is there already. -/
theorem set_of_get (h : get key members = some value) : set key value members = members := by
  induction members with
  | nil => cases h
  | cons m rest ih =>
    obtain ⟨k, v⟩ := m
    rw [get] at h
    rw [set]
    split at h
    · rename_i hk
      cases h
      rw [if_pos hk]
    · rename_i hk
      rw [if_neg hk, ih h]

theorem mem_set_self (key : String) (value : α) (members : List (String × α)) :
    (key, value) ∈ set key value members := by
  induction members with
  | nil => exact List.mem_singleton.mpr rfl
  | cons m rest ih =>
    obtain ⟨k, v⟩ := m
    rw [set]
    split
    · rename_i hk
      rw [hk]
      exact List.mem_cons_self
    · exact List.mem_cons_of_mem _ ih

theorem mem_of_mem_set (h : m ∈ set key value members) : m = (key, value) ∨ m ∈ members := by
  induction members with
  | nil => exact .inl (List.mem_singleton.mp h)
  | cons n rest ih =>
    obtain ⟨k, v⟩ := n
    rw [set] at h
    split at h
    · rename_i hk
      rcases List.mem_cons.mp h with rfl | h
      · exact .inl (Prod.ext hk rfl)
      · exact .inr (List.mem_cons_of_mem _ h)
    · rcases List.mem_cons.mp h with rfl | h
      · exact .inr List.mem_cons_self
      · exact (ih h).imp_right (List.mem_cons_of_mem _)

/-- The keys of a table that is written to. -/
theorem isSome_get_set {members : List (String × α)} :
    (get other (set key value members)).isSome ↔ key = other ∨ (get other members).isSome := by
  by_cases h : key = other
  · rw [h, get_set_self]
    exact iff_of_true rfl (.inl rfl)
  · rw [get_set_of_ne h, or_iff_right h]

/-- Writing a value under a key when there is one to write. -/
def setSome (key : String) : Option α → List (String × α) → List (String × α)
  | none, members => members
  | some value, members => set key value members

theorem get_setSome_self (key : String) (o : Option α) (members : List (String × α)) :
    get key (setSome key o members) = o.or (get key members) := by
  cases o with
  | none => rfl
  | some value => exact get_set_self key value members

theorem get_setSome_of_ne (h : key ≠ other) (o : Option α) (members : List (String × α)) :
    get other (setSome key o members) = get other members := by
  cases o with
  | none => rfl
  | some value => exact get_set_of_ne h value members

/-- Writing entries one after the other. -/
def setAll (entries members : List (String × α)) : List (String × α) :=
  entries.foldl (fun table entry => set entry.1 entry.2 table) members

/-- The last entry under a key is the one that stays. -/
theorem get_setAll (key : String) (entries members : List (String × α)) :
    get key (setAll entries members) =
      ((entries.reverse.find? fun entry => entry.1 = key).map Prod.snd).or (get key members) := by
  induction entries generalizing members with
  | nil => rfl
  | cons entry rest ih =>
    have hrest : get key (setAll (entry :: rest) members) =
        ((rest.reverse.find? fun entry => entry.1 = key).map Prod.snd).or
          (get key (set entry.1 entry.2 members)) := ih _
    rw [hrest, List.reverse_cons, List.find?_append]
    cases rest.reverse.find? fun entry => decide (entry.1 = key) with
    | some found => rfl
    | none =>
      by_cases hk : entry.1 = key
      · simp only [Option.map_none, Option.none_or, List.find?_singleton, hk, decide_true, if_true,
          get_set_self, Option.map_some, Option.some_or]
      · simp only [Option.map_none, Option.none_or, List.find?_singleton, hk, decide_false,
          Bool.false_eq_true, if_false, get_set_of_ne hk]

theorem mem_of_get {members : List (String × α)} (h : get key members = some value) :
    (key, value) ∈ members := by
  induction members with
  | nil => cases h
  | cons m rest ih =>
    obtain ⟨k, v⟩ := m
    rw [get] at h
    split at h
    · next hk =>
      cases h
      exact hk ▸ List.mem_cons_self
    · exact List.mem_cons_of_mem _ (ih h)

/-- Under a key that stands there once its value is found. -/
theorem get_of_mem {members : List (String × α)} (hnodup : (members.map Prod.fst).Nodup)
    (h : m ∈ members) : get m.1 members = some m.2 := by
  induction members with
  | nil => cases h
  | cons m' rest ih =>
    rw [List.map_cons, List.nodup_cons] at hnodup
    cases h with
    | head => exact get_cons_self _ _ _
    | tail _ h =>
      have hne : m'.1 ≠ m.1 := fun he => hnodup.1 (he ▸ List.mem_map_of_mem h)
      exact (get_cons_of_ne hne _ _).trans (ih hnodup.2 h)

/-- In a table that is written to, each key stands once. -/
theorem nodup_set {members : List (String × α)} (h : (members.map Prod.fst).Nodup) :
    ((set key value members).map Prod.fst).Nodup := by
  induction members with
  | nil => exact List.nodup_cons.mpr ⟨List.not_mem_nil, List.nodup_nil⟩
  | cons m rest ih =>
    obtain ⟨k, v⟩ := m
    rw [List.map_cons, List.nodup_cons] at h
    obtain ⟨hnew, hrest⟩ := h
    rw [set]
    split
    · rw [List.map_cons, List.nodup_cons]
      exact ⟨hnew, hrest⟩
    · next hk =>
      rw [List.map_cons, List.nodup_cons]
      refine ⟨?_, ih hrest⟩
      intro hmem
      obtain ⟨n, hn, hkey⟩ := List.mem_map.mp hmem
      rcases mem_of_mem_set hn with rfl | hn
      · exact hk hkey.symm
      · exact hnew (List.mem_map.mpr ⟨n, hn, hkey⟩)

theorem nodup_setAll (entries : List (String × α)) {members : List (String × α)}
    (h : (members.map Prod.fst).Nodup) : ((setAll entries members).map Prod.fst).Nodup := by
  induction entries generalizing members with
  | nil => exact h
  | cons entry rest ih => exact ih (nodup_set h)

theorem mem_iff_get {members : List (String × α)} (h : (members.map Prod.fst).Nodup) :
    (key, value) ∈ members ↔ get key members = some value := by
  constructor
  · intro hmem
    exact get_of_mem h hmem
  · exact mem_of_get

/-- What a table holds that was empty before some entries were written. -/
theorem mem_setAll {entries : List (String × α)} :
    (key, value) ∈ setAll entries [] ↔ ∃ front back, entries = front ++ (key, value) :: back ∧
      ∀ entry ∈ back, entry.1 ≠ key := by
  have hnodup : ((setAll entries []).map Prod.fst).Nodup := nodup_setAll entries List.nodup_nil
  rw [mem_iff_get hnodup, get_setAll, get_nil, Option.or_none, Option.map_eq_some_iff]
  constructor
  · rintro ⟨entry, hfind, rfl⟩
    obtain ⟨hkey, behind, before, hsplit, hothers⟩ := List.find?_eq_some_iff_append.mp hfind
    have hentries := congrArg List.reverse hsplit
    rw [List.reverse_reverse, List.reverse_append, List.reverse_cons, List.append_assoc]
      at hentries
    refine ⟨before.reverse, behind.reverse, ?_, ?_⟩
    · rw [hentries, ← of_decide_eq_true hkey]
      rfl
    · intro other hother hsame
      have hne := hothers other (List.mem_reverse.mp hother)
      rw [hsame, decide_eq_true rfl] at hne
      cases hne
  · rintro ⟨front, back, rfl, hback⟩
    refine ⟨(key, value), List.find?_eq_some_iff_append.mpr ⟨decide_eq_true rfl, back.reverse,
      front.reverse, ?_, ?_⟩, rfl⟩
    · rw [List.reverse_append, List.reverse_cons, List.append_assoc]
      rfl
    · intro entry hentry
      rw [decide_eq_false (hback entry (List.mem_reverse.mp hentry))]
      rfl

/-- Writing entries behind those of another table. -/
theorem get_append (key : String) (a b : List (String × α)) :
    get key (a ++ b) = (get key a).or (get key b) := by
  induction a with
  | nil => rfl
  | cons m rest ih =>
    obtain ⟨k, v⟩ := m
    by_cases hk : k = key
    · simp only [List.cons_append, get, if_pos hk, Option.some_or]
    · simp only [List.cons_append, get, if_neg hk, ih]

theorem get_map (f : α → β) (key : String) (members : List (String × α)) :
    get key (members.map fun m => (m.1, f m.2)) = (get key members).map f := by
  induction members with
  | nil => rfl
  | cons m rest ih =>
    obtain ⟨k, v⟩ := m
    by_cases hk : k = key
    · simp only [List.map_cons, get, if_pos hk, Option.map_some]
    · simp only [List.map_cons, get, if_neg hk, ih]

theorem get_keys (f : String → α) (key : String) (keys : List String) :
    get key (keys.map fun k => (k, f k)) = if key ∈ keys then some (f key) else none := by
  induction keys with
  | nil => rfl
  | cons k rest ih =>
    by_cases hk : k = key
    · subst hk
      rw [List.map_cons, get_cons_self, if_pos List.mem_cons_self]
    · have hkey : key ∈ k :: rest ↔ key ∈ rest :=
        ⟨fun h => (List.mem_cons.mp h).resolve_left (Ne.symm hk), List.mem_cons_of_mem k⟩
      rw [List.map_cons, get_cons_of_ne hk, ih]
      simp only [hkey]

/-- Writing an entry at its place in a table ordered by key, before those of the same key. -/
def place (key : String) (value : α) : List (String × α) → List (String × α)
  | [] => [(key, value)]
  | (k, v) :: rest =>
    if Str.before k key then (k, v) :: place key value rest else (key, value) :: (k, v) :: rest

def sort (members : List (String × α)) : List (String × α) :=
  members.foldr (fun m table => place m.1 m.2 table) []

def Sorted (members : List (String × α)) : Prop :=
  members.Pairwise fun a b => Str.before b.1 a.1 = false

theorem sort_cons (m : String × α) (rest : List (String × α)) :
    sort (m :: rest) = place m.1 m.2 (sort rest) := rfl

theorem mem_place : m ∈ place key value members ↔ m = (key, value) ∨ m ∈ members := by
  induction members with
  | nil => rw [place, List.mem_singleton, or_iff_left List.not_mem_nil]
  | cons n rest ih =>
    obtain ⟨k, v⟩ := n
    rw [place]
    split
    · rw [List.mem_cons, ih, List.mem_cons]
      constructor
      · rintro (h | h | h)
        · exact .inr (.inl h)
        · exact .inl h
        · exact .inr (.inr h)
      · rintro (h | h | h)
        · exact .inr (.inl h)
        · exact .inl h
        · exact .inr (.inr h)
    · exact List.mem_cons

theorem mem_sort {members : List (String × α)} : m ∈ sort members ↔ m ∈ members := by
  induction members with
  | nil => exact Iff.rfl
  | cons n rest ih => rw [sort_cons, mem_place, ih, List.mem_cons]

theorem sorted_place {members : List (String × α)} (h : Sorted members) (key : String)
    (value : α) : Sorted (place key value members) := by
  induction members with
  | nil => exact List.pairwise_singleton _ _
  | cons n rest ih =>
    obtain ⟨k, v⟩ := n
    obtain ⟨hfirst, hrest⟩ := List.pairwise_cons.mp h
    rw [place]
    cases hk : Str.before k key with
    | true =>
      rw [if_pos rfl]
      refine List.pairwise_cons.mpr ⟨?_, ih hrest⟩
      intro m hm
      rcases mem_place.mp hm with rfl | hm
      · exact Str.before_asymm hk
      · exact hfirst m hm
    | false =>
      rw [if_neg Bool.false_ne_true]
      refine List.pairwise_cons.mpr ⟨?_, h⟩
      intro m hm
      rcases List.mem_cons.mp hm with rfl | hm
      · exact hk
      · exact Str.before_trans hk (hfirst m hm)

theorem sorted_sort (members : List (String × α)) : Sorted (sort members) := by
  induction members with
  | nil => exact List.Pairwise.nil
  | cons m rest ih => exact sorted_place ih m.1 m.2

theorem sort_of_sorted (h : Sorted members) : sort members = members := by
  induction members with
  | nil => rfl
  | cons m rest ih =>
    obtain ⟨hfirst, hrest⟩ := List.pairwise_cons.mp h
    rw [sort_cons, ih hrest]
    cases rest with
    | nil => rfl
    | cons n rest => rw [place, hfirst n List.mem_cons_self, if_neg Bool.false_ne_true]

/-- A table in order stays as it is. -/
theorem sort_sort (members : List (String × α)) : sort (sort members) = sort members :=
  sort_of_sorted (sorted_sort members)

theorem get_place (other key : String) (value : α) (members : List (String × α)) :
    get other (place key value members) =
      if key = other then some value else get other members := by
  induction members with
  | nil => rfl
  | cons n rest ih =>
    obtain ⟨k, v⟩ := n
    rw [place]
    cases hk : Str.before k key with
    | true =>
      have hne : k ≠ key := by
        rintro rfl
        rw [Str.before_asymm hk] at hk
        cases hk
      rw [if_pos rfl, get, ih, get]
      by_cases ho : k = other
      · rw [if_pos ho, if_pos ho, if_neg fun h => hne (ho.trans h.symm)]
      · rw [if_neg ho, if_neg ho]
    | false => rw [if_neg Bool.false_ne_true, get]

/-- Looking up does not depend on the order. -/
theorem get_sort (key : String) (members : List (String × α)) :
    get key (sort members) = get key members := by
  induction members with
  | nil => rfl
  | cons m rest ih => rw [sort_cons, get_place, ih, get]

theorem map_place (f : α → β) (key : String) (value : α) (members : List (String × α)) :
    (place key value members).map (fun m => (m.1, f m.2)) =
      place key (f value) (members.map fun m => (m.1, f m.2)) := by
  induction members with
  | nil => rfl
  | cons n rest ih =>
    obtain ⟨k, v⟩ := n
    rw [place, List.map_cons, place]
    split
    · rw [List.map_cons, ih]
    · rfl

theorem map_sort (f : α → β) (members : List (String × α)) :
    (sort members).map (fun m => (m.1, f m.2)) = sort (members.map fun m => (m.1, f m.2)) := by
  induction members with
  | nil => rfl
  | cons m rest ih => rw [sort_cons, map_place, ih, List.map_cons, sort_cons]

end Table
