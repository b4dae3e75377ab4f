import Mathlib.Data.List.Induction
import Mathlib.Data.List.Nodup
import Mathlib.Data.List.Perm.Basic
import RecipeEngine.Operation.Registry

namespace RecipeEngine

/-- Operations in the order of their listing and by id. -/
structure Catalog where
  order : List Operation
  byId : NameMap Operation

/-- The place of a group in the order of the groups. -/
def OperationGroup.place (group : OperationGroup) : Nat := all.idxOf group

theorem OperationGroup.mem_all (group : OperationGroup) : group ∈ all := by
  cases group <;> decide

namespace Catalog

def without (order : List Operation) (id : String) : List Operation :=
  match order.findIdx? (·.id = id) with
  | some position => order.eraseIdx position
  | none => order

/-- Adds an operation. The former one with its id is taken out of the order; in the other index it
is overwritten. -/
def add (catalog : Catalog) (op : Operation) : Catalog where
  order := without catalog.order op.id ++ [op]
  byId := catalog.byId.insert op.id op

def ofOperations (ops : List Operation) : Catalog :=
  ops.foldl add ⟨[], NameMap.empty⟩

def get? (catalog : Catalog) (id : String) : Option Operation :=
  catalog.byId.get? id

/-- Puts an operation at the end of its group, which is opened in the order of the groups if it is
not there. -/
def assign (op : Operation) :
    List (OperationGroup × List Operation) → List (OperationGroup × List Operation)
  | [] => [(op.group, [op])]
  | (group, members) :: rest =>
    if op.group = group then (group, members ++ [op]) :: rest
    else if op.group.place < group.place then
      (op.group, [op]) :: (group, members) :: rest
    else (group, members) :: assign op rest

def byGroup (catalog : Catalog) : List (OperationGroup × List Operation) :=
  catalog.order.foldl (fun groups op => assign op groups) []

end Catalog

/-- At a position of a list stands an operation, and none with its id stands behind it. -/
def LastAt (ops : List Operation) (position : Nat) (op : Operation) : Prop :=
  ops[position]? = some op ∧
    ∀ later other, position < later → ops[later]? = some other → other.id ≠ op.id

namespace LastAt

variable {ops : List Operation} {position later : Nat} {op other new : Operation}

theorem lt_length (last : LastAt ops position op) : position < ops.length :=
  (List.getElem?_eq_some_iff.mp last.1).1

/-- Operations with one id are the last with that id at one position only. -/
theorem unique (last : LastAt ops position op) (too : LastAt ops later other)
    (same : op.id = other.id) : position = later := by
  rcases Nat.lt_trichotomy position later with less | equal | more
  · exact absurd same.symm (last.2 later other less too.1)
  · exact equal
  · exact absurd same (too.2 position op more last.1)

theorem concat_iff :
    LastAt (ops ++ [new]) position op ↔
      position = ops.length ∧ op = new ∨ LastAt ops position op ∧ op.id ≠ new.id := by
  have atEnd : (ops ++ [new])[ops.length]? = some new := List.getElem?_concat_length
  constructor
  · rintro ⟨here, none⟩
    rcases Nat.lt_trichotomy position ops.length with less | rfl | more
    · rw [List.getElem?_append_left less] at here
      refine .inr ⟨⟨here, fun later other after there => ?_⟩, (none _ new less atEnd).symm⟩
      have inside := (List.getElem?_eq_some_iff.mp there).1
      exact none later other after (by rwa [List.getElem?_append_left inside])
    · exact .inl ⟨rfl, Option.some.inj (here.symm.trans atEnd)⟩
    · rw [List.getElem?_eq_none (by simp; omega)] at here
      cases here
  · rintro (⟨rfl, rfl⟩ | ⟨last, different⟩)
    · refine ⟨atEnd, fun later other after there => ?_⟩
      rw [List.getElem?_eq_none (by simp; omega)] at there
      cases there
    · refine ⟨by rw [List.getElem?_append_left last.lt_length, last.1], ?_⟩
      intro later other after there
      rcases Nat.lt_trichotomy later ops.length with less | rfl | more
      · rw [List.getElem?_append_left less] at there
        exact last.2 later other after there
      · cases there.symm.trans atEnd
        exact different.symm
      · rw [List.getElem?_eq_none (by simp; omega)] at there
        cases there

theorem exists_of_mem (member : op ∈ ops) : ∃ position last, LastAt ops position last ∧
    last.id = op.id := by
  induction ops using List.reverseRecOn with
  | nil => cases member
  | append_singleton ops new ih =>
    by_cases same : new.id = op.id
    · exact ⟨ops.length, new, concat_iff.mpr (.inl ⟨rfl, rfl⟩), same⟩
    · rcases List.mem_append.mp member with earlier | here
      · obtain ⟨position, last, stands, id⟩ := ih earlier
        exact ⟨position, last, concat_iff.mpr (.inr ⟨stands, id ▸ Ne.symm same⟩), id⟩
      · exact absurd (congrArg Operation.id (List.mem_singleton.mp here)).symm same

end LastAt

/-- A listing holds the last operation with each id, in the order of the positions of these. -/
structure IsListing (ops listing : List Operation) : Prop where
  mem_iff : ∀ op, op ∈ listing ↔ ∃ position, LastAt ops position op
  ordered : listing.Pairwise fun first second =>
    ∀ i j, LastAt ops i first → LastAt ops j second → i < j

namespace IsListing

variable {ops listing : List Operation}

theorem nil : IsListing [] [] where
  mem_iff _ := ⟨nofun, fun ⟨_, last⟩ => absurd last.lt_length (Nat.not_lt_zero _)⟩
  ordered := .nil

/-- A further operation takes its former namesake out and goes to the end. -/
theorem add (isListing : IsListing ops listing) (new : Operation) :
    IsListing (ops ++ [new]) (listing.filter (·.id ≠ new.id) ++ [new]) where
  mem_iff op := by
    rw [List.mem_append, List.mem_filter, isListing.mem_iff, List.mem_singleton,
      decide_eq_true_eq]
    constructor
    · rintro (⟨⟨position, last⟩, other⟩ | rfl)
      · exact ⟨position, LastAt.concat_iff.mpr (.inr ⟨last, other⟩)⟩
      · exact ⟨ops.length, LastAt.concat_iff.mpr (.inl ⟨rfl, rfl⟩)⟩
    · rintro ⟨position, last⟩
      rcases LastAt.concat_iff.mp last with ⟨-, rfl⟩ | ⟨earlier, other⟩
      · exact .inr rfl
      · exact .inl ⟨⟨position, earlier⟩, other⟩
  ordered := by
    have earlier : ∀ op ∈ listing.filter (·.id ≠ new.id), ∀ position,
        LastAt (ops ++ [new]) position op → LastAt ops position op := by
      intro op member position last
      have other := (List.mem_filter.mp member).2
      rcases LastAt.concat_iff.mp last with ⟨-, rfl⟩ | ⟨earlier, -⟩
      · simp at other
      · exact earlier
    refine List.pairwise_append.mpr ⟨?_, List.pairwise_singleton _ _, ?_⟩
    · refine (isListing.ordered.filter _).imp_of_mem fun {a b} inA inB less i j atI atJ => ?_
      exact less i j (earlier a inA i atI) (earlier b inB j atJ)
    · intro op member last isNew i j atI atJ
      rw [List.mem_singleton] at isNew
      subst isNew
      have before := (earlier op member i atI).lt_length
      rcases LastAt.concat_iff.mp atJ with ⟨rfl, -⟩ | ⟨-, other⟩
      · exact before
      · exact absurd rfl other

theorem nodup (isListing : IsListing ops listing) : (listing.map (·.id)).Nodup := by
  refine List.pairwise_map.mpr (isListing.ordered.imp_of_mem fun {a b} inA inB less same => ?_)
  obtain ⟨i, atI⟩ := (isListing.mem_iff a).mp inA
  obtain ⟨j, atJ⟩ := (isListing.mem_iff b).mp inB
  exact (Nat.ne_of_lt (less i j atI atJ)) (atI.unique atJ same)

theorem ids_iff (isListing : IsListing ops listing) (id : String) :
    id ∈ listing.map (·.id) ↔ id ∈ ops.map (·.id) := by
  simp only [List.mem_map, isListing.mem_iff]
  constructor
  · rintro ⟨op, ⟨position, last⟩, rfl⟩
    exact ⟨op, List.mem_of_getElem? last.1, rfl⟩
  · rintro ⟨op, member, rfl⟩
    obtain ⟨position, last, stands, same⟩ := LastAt.exists_of_mem member
    exact ⟨last, ⟨position, stands⟩, same⟩

end IsListing

namespace Registry

theorem ofOperations_concat (ops : List Operation) (op : Operation) :
    ofOperations (ops ++ [op]) = (ofOperations ops).add op :=
  List.foldl_concat ..

theorem isListing_ofOperations (ops : List Operation) :
    IsListing ops (ofOperations ops).listing := by
  induction ops using List.reverseRecOn with
  | nil => exact .nil
  | append_singleton ops op ih =>
    rw [ofOperations_concat]
    exact ih.add op

theorem get?_eq_some_iff {registry : Registry} (distinct : (registry.listing.map (·.id)).Nodup)
    {id : String} {op : Operation} :
    registry.get? id = some op ↔ op ∈ registry.listing ∧ op.id = id := by
  refine ⟨mem_of_get?, fun ⟨member, named⟩ => ?_⟩
  cases found : registry.get? id with
  | none => simpa [named] using List.find?_eq_none.mp found op member
  | some other =>
    obtain ⟨listed, same⟩ := mem_of_get? found
    rw [List.inj_on_of_nodup_map distinct listed member (same.trans named.symm)]

theorem get?_eq_none_iff {registry : Registry} {id : String} :
    registry.get? id = none ↔ ∀ op ∈ registry.listing, op.id ≠ id := by
  rw [get?, List.find?_eq_none]
  simp only [decide_eq_true_eq, ne_eq]

theorem get?_add (registry : Registry) (op : Operation) (id : String) :
    (registry.add op).get? id = if op.id = id then some op else registry.get? id := by
  rw [get?, add, List.find?_append]
  by_cases same : op.id = id
  · subst same
    have gone : (registry.listing.filter (·.id ≠ op.id)).find? (·.id = op.id) = none := by
      simp
    rw [gone, if_pos rfl]
    simp
  · have kept : (registry.listing.filter (·.id ≠ op.id)).find? (·.id = id) =
        registry.listing.find? (·.id = id) := by
      rw [List.find?_filter]
      refine congrArg (registry.listing.find? ·) (funext fun other => ?_)
      by_cases named : other.id = id
      · simp [named, Ne.symm same]
      · simp [named]
    have other : [op].find? (fun new => decide (new.id = id)) = none := by
      simp [same]
    rw [kept, other, if_neg same, Option.or_none]
    rfl

end Registry

/-- The groups of a list, of those given, that have operations. -/
def grouped (groups : List OperationGroup) (ops : List Operation) :
    List (OperationGroup × List Operation) :=
  (groups.map fun group => (group, ops.filter (·.group = group))).filter fun entry =>
    !entry.2.isEmpty

theorem Registry.byGroup_eq (registry : Registry) :
    registry.byGroup = grouped OperationGroup.all registry.listing :=
  rfl

section Grouped

variable {group : OperationGroup} {groups : List OperationGroup} {ops members : List Operation}
  {op : Operation}

theorem grouped_cons : grouped (group :: groups) ops =
    if ops.filter (·.group = group) = [] then grouped groups ops
    else (group, ops.filter (·.group = group)) :: grouped groups ops := by
  rw [grouped, List.map_cons, List.filter_cons]
  by_cases empty : ops.filter (·.group = group) = []
  · simp only [empty, List.isEmpty_nil, Bool.not_true, Bool.false_eq_true, if_false, if_true]
    rfl
  · simp only [List.isEmpty_eq_false_iff.mpr empty, empty, Bool.not_false, if_true, if_false]
    rfl

theorem mem_grouped : (group, members) ∈ grouped groups ops ↔
    group ∈ groups ∧ members = ops.filter (·.group = group) ∧ members ≠ [] := by
  simp only [grouped, List.mem_filter, List.mem_map, Prod.mk.injEq, Bool.not_eq_true',
    List.isEmpty_eq_false_iff]
  constructor
  · rintro ⟨⟨other, listed, rfl, rfl⟩, some⟩
    exact ⟨listed, rfl, some⟩
  · rintro ⟨listed, rfl, some⟩
    exact ⟨⟨group, listed, rfl, rfl⟩, some⟩

theorem sublist_grouped (groups : List OperationGroup) (ops : List Operation) :
    (grouped groups ops |>.map (·.1)).Sublist groups := by
  have kept : (grouped groups ops).Sublist
      (groups.map fun group => (group, ops.filter (·.group = group))) := List.filter_sublist
  have names := kept.map Prod.fst
  rwa [List.map_map, List.map_id'' (by intro; rfl)] at names

theorem flatMap_grouped (distinct : groups.Nodup) (covers : ∀ op ∈ ops, op.group ∈ groups) :
    ((grouped groups ops).flatMap (·.2)).Perm ops := by
  induction groups generalizing ops with
  | nil =>
    cases ops with
    | nil => exact .nil
    | cons op _ => exact absurd (covers op List.mem_cons_self) List.not_mem_nil
  | cons group groups ih =>
    obtain ⟨fresh, distinct⟩ := List.nodup_cons.mp distinct
    -- The groups behind the first one see the operations outside of it only.
    have outside : grouped groups ops =
        grouped groups (ops.filter fun op => !decide (op.group = group)) := by
      unfold grouped
      congr 1
      refine List.map_congr_left fun other member => ?_
      have apart : other ≠ group := fun same => fresh (same ▸ member)
      rw [List.filter_filter]
      refine congrArg (other, ·) (List.filter_congr fun op _ => ?_)
      by_cases here : op.group = other
      · simp [here, apart]
      · simp [here]
    have covered : ∀ op ∈ ops.filter (fun op => !decide (op.group = group)),
        op.group ∈ groups := by
      intro op member
      obtain ⟨listed, other⟩ := List.mem_filter.mp member
      exact (List.mem_cons.mp (covers op listed)).resolve_left (by simpa using other)
    have split : ((grouped (group :: groups) ops).flatMap (·.2)) =
        ops.filter (·.group = group) ++ (grouped groups ops).flatMap (·.2) := by
      rw [grouped_cons]
      split
      · rename_i empty
        rw [empty, List.nil_append]
      · rw [List.flatMap_cons]
    rw [split, outside]
    exact ((ih distinct covered).append_left _).trans (List.filter_append_perm _ _)

end Grouped

namespace Catalog

section Assign

variable {groups : List OperationGroup} {ops : List Operation} {op : Operation}

theorem assign_of_before (before : ∀ group ∈ groups, op.group.place < group.place) :
    assign op (grouped groups ops) = (op.group, [op]) :: grouped groups ops := by
  cases found : grouped groups ops with
  | nil => rfl
  | cons entry rest =>
    obtain ⟨group, members⟩ := entry
    have member : (group, members) ∈ grouped groups ops := found ▸ List.mem_cons_self
    have less := before group (mem_grouped.mp member).1
    have apart : op.group ≠ group := fun same => Nat.lt_irrefl _ (same ▸ less)
    rw [assign, if_neg apart, if_pos less]

theorem assign_grouped (ordered : groups.Pairwise fun a b => a.place < b.place)
    (member : op.group ∈ groups) :
    assign op (grouped groups ops) = grouped groups (ops ++ [op]) := by
  induction groups with
  | nil => cases member
  | cons group groups ih =>
    obtain ⟨above, ordered⟩ := List.pairwise_cons.mp ordered
    rw [grouped_cons, grouped_cons, List.filter_append]
    by_cases same : op.group = group
    · subst same
      have others : grouped groups (ops ++ [op]) = grouped groups ops := by
        unfold grouped
        congr 1
        refine List.map_congr_left fun other listed => ?_
        have apart : ¬ op.group = other := fun clash => Nat.lt_irrefl _ (clash ▸ above other listed)
        simp [apart]
      rw [others]
      by_cases empty : ops.filter (·.group = op.group) = []
      · rw [if_pos empty, empty, assign_of_before above]
        simp
      · rw [if_neg empty, assign, if_pos rfl]
        simp
    · have later : op.group ∈ groups := (List.mem_cons.mp member).resolve_left same
      have behind : ¬ op.group.place < group.place := Nat.not_lt.mpr (Nat.le_of_lt (above _ later))
      have unchanged : [op].filter (·.group = group) = [] := by simp [same]
      rw [unchanged, List.append_nil]
      split
      · exact ih ordered later
      · rw [assign, if_neg same, if_neg behind, ih ordered later]

end Assign

theorem foldl_assign (ops : List Operation) :
    ops.foldl (fun groups op => assign op groups) [] = grouped OperationGroup.all ops := by
  have ordered : OperationGroup.all.Pairwise fun a b => a.place < b.place := by decide
  induction ops using List.reverseRecOn with
  | nil => rfl
  | append_singleton ops op ih =>
    rw [List.foldl_concat, ih, assign_grouped ordered (OperationGroup.mem_all _)]

theorem without_eq_filter {order : List Operation} (distinct : (order.map (·.id)).Nodup)
    (id : String) : without order id = order.filter (·.id ≠ id) := by
  induction order with
  | nil => rfl
  | cons op rest ih =>
    obtain ⟨fresh, distinct⟩ := List.nodup_cons.mp distinct
    rw [without, List.findIdx?_cons]
    by_cases same : op.id = id
    · have others : rest.filter (·.id ≠ id) = rest := by
        refine List.filter_eq_self.mpr fun other member => decide_eq_true fun clash => ?_
        exact fresh (List.mem_map.mpr ⟨other, member, clash.trans same.symm⟩)
      simp only [same, decide_true, if_true, List.eraseIdx_zero, List.tail_cons]
      rw [List.filter_cons_of_neg (by simp [same]), others]
    · rw [List.filter_cons_of_pos (by simp [same]), ← ih distinct, without, decide_eq_false same]
      cases rest.findIdx? (·.id = id) <;> rfl

/-- A registry and a catalog that hold the same. -/
structure Indexes (catalog : Catalog) (registry : Registry) : Prop where
  order : catalog.order = registry.listing
  get? : ∀ id, catalog.get? id = registry.get? id

theorem Indexes.add {catalog : Catalog} {registry : Registry} (indexes : catalog.Indexes registry)
    (distinct : (registry.listing.map (·.id)).Nodup) (op : Operation) :
    (catalog.add op).Indexes (registry.add op) where
  order := by
    rw [← indexes.order] at distinct
    exact congrArg (· ++ [op]) ((without_eq_filter distinct op.id).trans (by rw [indexes.order]))
  get? id := by
    rw [Registry.get?_add, ← indexes.get? id]
    exact NameMap.get?_insert catalog.byId op.id id op

theorem ofOperations_indexes (ops : List Operation) :
    (ofOperations ops).Indexes (Registry.ofOperations ops) := by
  induction ops using List.reverseRecOn with
  | nil => exact ⟨rfl, fun _ => rfl⟩
  | append_singleton ops op ih =>
    rw [Registry.ofOperations_concat, ofOperations, List.foldl_concat]
    exact ih.add (Registry.isListing_ofOperations ops).nodup op

end Catalog

/-- Both indexes that are built from a list of operations hold the registry of the list. It lists
each id once, with the last of the operations that have it, in the order of these last ones; looking
up an id gives the operation that is listed; and the groups share out the listing. -/
theorem Registry.ofOperations_indexed (ops : List Operation) :
    let registry := ofOperations ops
    let catalog := Catalog.ofOperations ops
    (catalog.order = registry.listing ∧ (∀ id, catalog.get? id = registry.get? id) ∧
      catalog.byGroup = registry.byGroup) ∧
    ((registry.listing.map (·.id)).Nodup ∧
      (∀ id, id ∈ registry.listing.map (·.id) ↔ id ∈ ops.map (·.id)) ∧
      (∀ op, op ∈ registry.listing ↔ ∃ position, LastAt ops position op) ∧
      registry.listing.Pairwise fun first second =>
        ∀ i j, LastAt ops i first → LastAt ops j second → i < j) ∧
    (∀ id, (∀ op, registry.get? id = some op ↔ op ∈ registry.listing ∧ op.id = id) ∧
      (registry.get? id = none ↔ ∀ op ∈ registry.listing, op.id ≠ id)) ∧
    (registry.byGroup.map (·.1)).Nodup ∧
      (∀ group members, (group, members) ∈ registry.byGroup ↔
        members = registry.listing.filter (·.group = group) ∧ members ≠ []) ∧
      (registry.byGroup.flatMap (·.2)).Perm registry.listing := by
  intro registry catalog
  have isListing := isListing_ofOperations ops
  have indexes := Catalog.ofOperations_indexes ops
  have distinct : OperationGroup.all.Nodup := by decide
  have groups : catalog.byGroup = registry.byGroup := by
    rw [Catalog.byGroup, Catalog.foldl_assign, indexes.order, byGroup_eq]
  refine ⟨⟨indexes.order, indexes.get?, groups⟩,
    ⟨isListing.nodup, isListing.ids_iff, isListing.mem_iff, isListing.ordered⟩,
    fun id => ⟨fun op => get?_eq_some_iff isListing.nodup, get?_eq_none_iff⟩, ?_⟩
  rw [byGroup_eq]
  refine ⟨(sublist_grouped _ _).nodup distinct, fun group members => ?_,
    flatMap_grouped distinct fun op _ => op.group.mem_all⟩
  rw [mem_grouped, and_iff_right group.mem_all]

/-- Of two operations with one id the later one is listed. -/
example :
    let renamed := { Builtin.filterRows with name := "Keep Rows" }
    let catalog := Catalog.ofOperations [Builtin.filterRows, Builtin.sortRows, renamed]
    catalog.order.map (·.name) = ["Sort Rows", "Keep Rows"] ∧
      (catalog.get? "op_filter_rows").map (·.name) = some "Keep Rows" := by
  decide

end RecipeEngine
