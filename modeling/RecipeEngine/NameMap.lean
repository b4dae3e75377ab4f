namespace RecipeEngine

/-- A finite map from names. Its entries stand in strictly increasing order of the names, so two
maps that agree on every name are equal. -/
structure NameMap (α : Type) where
  entries : List (String × α)
  sorted : entries.Pairwise fun a b => a.1 < b.1

namespace NameMap

variable {α β : Type}

theorem lt_of_ne_of_not_lt {a b : String} (different : a ≠ b) (notLess : ¬ b < a) : a < b := by
  apply Classical.byContradiction
  intro notBefore
  exact different (String.le_antisymm (String.not_lt.mp notLess) (String.not_lt.mp notBefore))

def find (name : String) : List (String × α) → Option α
  | [] => none
  | entry :: rest => if entry.1 = name then some entry.2 else find name rest

/-- The entry list with `name` bound to `value`; a former binding is replaced in place. -/
def put (name : String) (value : α) : List (String × α) → List (String × α)
  | [] => [(name, value)]
  | entry :: rest =>
    if name < entry.1 then (name, value) :: entry :: rest
    else if entry.1 = name then (name, value) :: rest
    else entry :: put name value rest

theorem mem_put {name : String} {value : α} {entry : String × α} {entries : List (String × α)}
    (member : entry ∈ put name value entries) : entry = (name, value) ∨ entry ∈ entries := by
  induction entries with
  | nil => simpa [put] using member
  | cons first rest ih =>
    unfold put at member
    split at member
    · simpa using member
    · split at member
      · rcases List.mem_cons.mp member with here | later
        · exact Or.inl here
        · exact Or.inr (List.mem_cons_of_mem _ later)
      · rcases List.mem_cons.mp member with here | later
        · exact Or.inr (here ▸ List.mem_cons_self)
        · exact (ih later).imp id (List.mem_cons_of_mem _)

theorem sorted_put {entries : List (String × α)} (name : String) (value : α)
    (sorted : entries.Pairwise fun a b => a.1 < b.1) :
    (put name value entries).Pairwise fun a b => a.1 < b.1 := by
  induction entries with
  | nil => simp [put]
  | cons first rest ih =>
    obtain ⟨above, tail⟩ := List.pairwise_cons.mp sorted
    unfold put
    split
    · rename_i less
      refine List.pairwise_cons.mpr ⟨fun entry member => ?_, sorted⟩
      rcases List.mem_cons.mp member with here | later
      · exact here ▸ less
      · exact String.lt_trans less (above entry later)
    · rename_i notLess
      split
      · rename_i same
        exact List.pairwise_cons.mpr ⟨fun entry member => same ▸ above entry member, tail⟩
      · rename_i other
        refine List.pairwise_cons.mpr ⟨fun entry member => ?_, ih tail⟩
        rcases mem_put member with here | later
        · exact here ▸ lt_of_ne_of_not_lt other notLess
        · exact above entry later

def empty : NameMap α := ⟨[], .nil⟩

instance : Inhabited (NameMap α) := ⟨empty⟩

instance : EmptyCollection (NameMap α) := ⟨empty⟩

def get? (map : NameMap α) (name : String) : Option α :=
  find name map.entries

def contains (map : NameMap α) (name : String) : Bool :=
  (map.get? name).isSome

def insert (map : NameMap α) (name : String) (value : α) : NameMap α :=
  ⟨put name value map.entries, sorted_put name value map.sorted⟩

def erase (map : NameMap α) (name : String) : NameMap α :=
  ⟨map.entries.filter fun entry => entry.1 ≠ name, map.sorted.filter _⟩

def filter (keep : String → α → Bool) (map : NameMap α) : NameMap α :=
  ⟨map.entries.filter fun entry => keep entry.1 entry.2, map.sorted.filter _⟩

def toList (map : NameMap α) : List (String × α) := map.entries

def names (map : NameMap α) : List String := map.entries.map (·.1)

def size (map : NameMap α) : Nat := map.entries.length

/-- All bindings of `later` are put over those of `map`. -/
def overlay (map later : NameMap α) : NameMap α :=
  later.entries.foldl (fun all entry => all.insert entry.1 entry.2) map

/-- The map of a list of bindings; of two bindings of one name the later one holds. -/
def ofList (bindings : List (String × α)) : NameMap α :=
  bindings.foldl (fun all entry => all.insert entry.1 entry.2) empty

def map (change : α → β) (m : NameMap α) : NameMap β :=
  ⟨m.entries.map fun entry => (entry.1, change entry.2),
    List.pairwise_map.mpr m.sorted⟩

theorem find_put (name other : String) (value : α) (entries : List (String × α)) :
    find other (put name value entries) = if name = other then some value else find other entries := by
  induction entries with
  | nil => simp [put, find]
  | cons first rest ih =>
    unfold put
    split
    · simp [find]
    · split
      · rename_i same
        simp only [find]
        split
        · rfl
        · rename_i differs
          simp [same, differs]
      · rename_i different
        simp only [find, ih]
        split
        · rename_i here
          have : name ≠ other := fun same => different (here.trans same.symm)
          simp [this]
        · rfl

@[simp] theorem get?_empty (name : String) : (empty : NameMap α).get? name = none := rfl

theorem get?_insert (map : NameMap α) (name other : String) (value : α) :
    (map.insert name value).get? other = if name = other then some value else map.get? other :=
  find_put name other value map.entries

@[simp] theorem get?_insert_self (map : NameMap α) (name : String) (value : α) :
    (map.insert name value).get? name = some value := by
  simp [get?_insert]

theorem get?_insert_of_ne (map : NameMap α) {name other : String} (value : α)
    (different : name ≠ other) : (map.insert name value).get? other = map.get? other := by
  simp [get?_insert, different]

theorem exists_get?_insert {map : NameMap α} {name other : String} {value : α} :
    (∃ bound, (map.insert name value).get? other = some bound) ↔
      name = other ∨ ∃ bound, map.get? other = some bound := by
  rw [get?_insert]
  by_cases same : name = other <;> simp [same]

theorem find_filter (keep : String → Bool) (name : String) (entries : List (String × α)) :
    find name (entries.filter fun entry => keep entry.1) =
      if keep name then find name entries else none := by
  induction entries with
  | nil => simp [find]
  | cons first rest ih =>
    simp only [List.filter_cons]
    split
    · rename_i kept
      simp only [find, ih]
      split
      · rename_i here
        simp [← here, kept]
      · rfl
    · rename_i dropped
      simp only [ih, find]
      split
      · rename_i keepName
        split
        · rename_i here
          exact absurd (here ▸ keepName) dropped
        · rfl
      · rfl

theorem get?_erase (map : NameMap α) (name other : String) :
    (map.erase name).get? other = if name = other then none else map.get? other := by
  unfold erase get?
  rw [find_filter (fun key => decide (key ≠ name)) other map.entries]
  by_cases same : name = other
  · simp [same]
  · simp [same, Ne.symm same]

theorem get?_filter (keep : String → Bool) (map : NameMap α) (name : String) :
    (map.filter fun key _ => keep key).get? name = if keep name then map.get? name else none :=
  find_filter keep name map.entries

theorem find_append (name : String) (left right : List (String × α)) :
    find name (left ++ right) = (find name left).or (find name right) := by
  induction left with
  | nil => rfl
  | cons first rest ih =>
    rw [List.cons_append, find, find, ih]
    split <;> rfl

theorem find_map (change : α → β) (name : String) (entries : List (String × α)) :
    find name (entries.map fun entry => (entry.1, change entry.2)) =
      (find name entries).map change := by
  induction entries with
  | nil => rfl
  | cons first rest ih =>
    simp only [List.map_cons, find]
    split
    · rfl
    · exact ih

theorem get?_map (change : α → β) (m : NameMap α) (name : String) :
    (m.map change).get? name = (m.get? name).map change :=
  find_map change name m.entries

theorem find_eq_none_of_below {name : String} {entries : List (String × α)}
    (below : ∀ entry ∈ entries, name < entry.1) : find name entries = none := by
  induction entries with
  | nil => rfl
  | cons first rest ih =>
    have apart : first.1 ≠ name := fun same =>
      String.lt_irrefl name (same ▸ below first List.mem_cons_self)
    simp [find, apart, ih fun entry member => below entry (List.mem_cons_of_mem _ member)]

theorem entries_eq_of_find_eq {left right : List (String × α)}
    (leftSorted : left.Pairwise fun a b => a.1 < b.1)
    (rightSorted : right.Pairwise fun a b => a.1 < b.1)
    (agree : ∀ name, find name left = find name right) : left = right := by
  induction left generalizing right with
  | nil =>
    cases right with
    | nil => rfl
    | cons first rest => simpa [find] using agree first.1
  | cons first rest ih =>
    cases right with
    | nil => simpa [find] using agree first.1
    | cons other tail =>
      obtain ⟨above, sorted⟩ := List.pairwise_cons.mp leftSorted
      obtain ⟨otherAbove, otherSorted⟩ := List.pairwise_cons.mp rightSorted
      have atFirst := agree first.1
      have atOther := agree other.1
      simp only [find, if_true] at atFirst atOther
      have same : other.1 = first.1 := by
        apply Classical.byContradiction
        intro apart
        rw [if_neg apart] at atFirst
        rw [if_neg (Ne.symm apart)] at atOther
        by_cases less : other.1 < first.1
        · rw [find_eq_none_of_below fun entry member =>
            String.lt_trans less (above entry member)] at atOther
          exact absurd atOther.symm (Option.some_ne_none _)
        · have greater := lt_of_ne_of_not_lt (Ne.symm apart) less
          rw [find_eq_none_of_below fun entry member =>
            String.lt_trans greater (otherAbove entry member)] at atFirst
          exact absurd atFirst (Option.some_ne_none _)
      rw [if_pos same] at atFirst
      have head : first = other := Prod.ext same.symm (Option.some.inj atFirst)
      subst head
      have tails : rest = tail := by
        refine ih sorted otherSorted fun name => ?_
        by_cases here : first.1 = name
        · subst here
          rw [find_eq_none_of_below above, find_eq_none_of_below otherAbove]
        · simpa [find, here] using agree name
      rw [tails]

theorem ext {left right : NameMap α} (agree : ∀ name, left.get? name = right.get? name) :
    left = right := by
  obtain ⟨leftEntries, leftSorted⟩ := left
  obtain ⟨rightEntries, rightSorted⟩ := right
  have := entries_eq_of_find_eq leftSorted rightSorted agree
  subst this
  rfl

theorem insert_comm (map : NameMap α) {first second : String} (one two : α)
    (apart : first ≠ second) :
    (map.insert first one).insert second two = (map.insert second two).insert first one := by
  refine ext fun name => ?_
  simp only [get?_insert]
  by_cases here : first = name
  · subst here
    simp [Ne.symm apart]
  · simp [here]

theorem mem_names_insert {map : NameMap α} {name other : String} {value : α}
    (bound : other ∈ (map.insert name value).names) : other = name ∨ other ∈ map.names := by
  obtain ⟨entry, member, rfl⟩ := List.mem_map.mp bound
  exact (mem_put member).imp (congrArg Prod.fst) List.mem_map_of_mem

theorem mem_names_foldl_insert {bindings : List (String × α)} {map : NameMap α} {name : String}
    (bound : name ∈
      (bindings.foldl (fun all entry => all.insert entry.1 entry.2) map).names) :
    name ∈ map.names ∨ name ∈ bindings.map (·.1) := by
  induction bindings generalizing map with
  | nil => exact Or.inl bound
  | cons first rest ih =>
    rcases ih bound with earlier | later
    · rcases mem_names_insert earlier with here | before
      · exact Or.inr (here ▸ List.mem_cons_self)
      · exact Or.inl before
    · exact Or.inr (List.mem_cons_of_mem _ later)

theorem mem_names_ofList {bindings : List (String × α)} {name : String}
    (bound : name ∈ (ofList bindings).names) : name ∈ bindings.map (·.1) :=
  (mem_names_foldl_insert bound).resolve_left List.not_mem_nil

theorem find_eq_none_of_not_mem {name : String} {entries : List (String × α)}
    (absent : name ∉ entries.map (·.1)) : find name entries = none := by
  induction entries with
  | nil => rfl
  | cons first rest ih =>
    have apart : first.1 ≠ name := fun same => absent (same ▸ List.mem_cons_self)
    rw [find, if_neg apart]
    exact ih fun later => absent (List.mem_cons_of_mem _ later)

theorem find_of_mem {name : String} {value : α} {entries : List (String × α)}
    (distinct : (entries.map (·.1)).Nodup) (member : (name, value) ∈ entries) :
    find name entries = some value := by
  induction entries with
  | nil => cases member
  | cons first rest ih =>
    obtain ⟨fresh, tail⟩ := List.nodup_cons.mp distinct
    rcases List.mem_cons.mp member with rfl | later
    · simp [find]
    · have apart : first.1 ≠ name := by
        rintro rfl
        exact fresh (List.mem_map_of_mem (f := (·.1)) later)
      rw [find, if_neg apart]
      exact ih tail later

theorem get?_eq_none_of_not_mem {map : NameMap α} {name : String} (absent : name ∉ map.names) :
    map.get? name = none :=
  find_eq_none_of_not_mem absent

theorem get?_foldl_insert {bindings : List (String × α)}
    (distinct : (bindings.map (·.1)).Nodup) (map : NameMap α) (name : String) :
    (bindings.foldl (fun all entry => all.insert entry.1 entry.2) map).get? name =
      (find name bindings).or (map.get? name) := by
  induction bindings generalizing map with
  | nil => rfl
  | cons first rest ih =>
    obtain ⟨fresh, tail⟩ := List.nodup_cons.mp distinct
    rw [List.foldl_cons, ih tail, get?_insert, find]
    by_cases here : first.1 = name
    · rw [if_pos here, if_pos here, find_eq_none_of_not_mem (here ▸ fresh)]
      rfl
    · rw [if_neg here, if_neg here]

theorem get?_ofList {bindings : List (String × α)} (distinct : (bindings.map (·.1)).Nodup)
    (name : String) : (ofList bindings).get? name = find name bindings := by
  rw [ofList, get?_foldl_insert distinct, get?_empty, Option.or_none]

theorem names_nodup (map : NameMap α) : map.names.Nodup := by
  refine List.pairwise_map.mpr (map.sorted.imp fun {first second} less same => ?_)
  exact String.lt_irrefl _ (same ▸ less)

theorem get?_overlay (map later : NameMap α) (name : String) :
    (map.overlay later).get? name = (later.get? name).or (map.get? name) :=
  get?_foldl_insert later.names_nodup map name

@[simp] theorem ofList_toList (map : NameMap α) : ofList map.toList = map :=
  ext fun name => get?_ofList map.names_nodup name

instance [BEq α] : BEq (NameMap α) := ⟨fun left right => left.entries == right.entries⟩

end NameMap

end RecipeEngine
