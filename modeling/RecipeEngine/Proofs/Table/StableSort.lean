import Mathlib.Data.List.Sort

namespace RecipeEngine

variable {α : Type} {cmp first second : α → α → Ordering} {input middle output : List α}

/-- A list is the stable sort of another: a rearrangement of it in the order of the comparison, with
elements that compare as equal in the order in which they stood. -/
structure IsStableSort (cmp : α → α → Ordering) (input output : List α) : Prop where
  perm : output.Perm input
  ordered : output.Pairwise fun a b => cmp a b ≠ .gt
  stable : ∀ a, output.filter (cmp a · == .eq) = input.filter (cmp a · == .eq)

namespace IsStableSort

/-- Elements that stand at the heads of two sorts of one list compare as equal. -/
theorem heads_tied [Std.TransCmp cmp] {a b : α} {rest tail : List α}
    (perm : (a :: rest).Perm (b :: tail))
    (sorted : (a :: rest).Pairwise fun a b => cmp a b ≠ .gt)
    (otherSorted : (b :: tail).Pairwise fun a b => cmp a b ≠ .gt) : cmp a b = .eq := by
  have first : ∀ {x y : α} {after : List α}, y ∈ x :: after →
      ((x :: after).Pairwise fun a b => cmp a b ≠ .gt) → (cmp x y).isLE = true := by
    intro x y after member sorted
    rcases List.mem_cons.mp member with rfl | later
    · exact Std.ReflCmp.isLE_rfl
    · exact Ordering.ne_gt_iff_isLE.mp (List.rel_of_pairwise_cons sorted later)
  exact Std.OrientedCmp.isLE_antisymm (first (perm.mem_iff.mpr List.mem_cons_self) sorted)
    (first (perm.mem_iff.mp List.mem_cons_self) otherSorted)

theorem unique [Std.TransCmp cmp] {other : List α} (left : IsStableSort cmp input output)
    (right : IsStableSort cmp input other) : output = other := by
  have perm := left.perm.trans right.perm.symm
  have stable := fun a => (left.stable a).trans (right.stable a).symm
  have sorted := left.ordered
  have otherSorted := right.ordered
  -- The input is not needed any more: the two sorts have the same elements with each key in a row.
  clear left right
  induction output generalizing other with
  | nil => exact perm.nil_eq
  | cons a rest ih =>
    cases other with
    | nil => exact absurd perm.symm.nil_eq (List.cons_ne_nil a rest).symm
    | cons b tail =>
      have tied := heads_tied perm sorted otherSorted
      have self : cmp a a = .eq := Std.ReflCmp.compare_self
      have heads := stable a
      simp only [List.filter_cons, self, tied, beq_self_eq_true, if_true] at heads
      cases (List.cons.inj heads).1
      refine congrArg (a :: ·) (ih perm.cons_inv (fun c => ?_) sorted.tail otherSorted.tail)
      have whole := stable c
      simp only [List.filter_cons] at whole
      split at whole
      · exact (List.cons.inj whole).2
      · exact whole

theorem mergeSort [Std.TransCmp cmp] (input : List α) :
    IsStableSort cmp input (input.mergeSort fun a b => cmp a b != .gt) := by
  have trans : ∀ a b c, (cmp a b != .gt) = true → (cmp b c != .gt) = true →
      (cmp a c != .gt) = true := by
    simp only [bne_iff_ne, ne_eq, Ordering.ne_gt_iff_isLE]
    exact fun a b c => Std.TransCmp.isLE_trans
  have total : ∀ a b, (cmp a b != .gt || cmp b a != .gt) = true := by
    intro a b
    have swapped : cmp b a = (cmp a b).swap := Std.OrientedCmp.eq_swap
    rw [swapped]
    cases cmp a b <;> rfl
  have perm := List.mergeSort_perm input fun a b => cmp a b != .gt
  refine ⟨perm, ?_, fun a => ?_⟩
  · exact (List.pairwise_mergeSort trans total input).imp bne_iff_ne.mp
  · -- Elements with one key are in order as they stand, so that sorting keeps them as a sublist.
    have tied : (input.filter (cmp a · == .eq)).Pairwise
        fun b c => (cmp b c != .gt) = true := by
      refine List.pairwise_of_forall_mem_list fun b left c right => ?_
      have left : cmp a b = .eq := by simpa using (List.mem_filter.mp left).2
      have right : cmp a c = .eq := by simpa using (List.mem_filter.mp right).2
      rw [Std.TransCmp.eq_trans (Std.OrientedCmp.eq_symm left) right]
      rfl
    have kept := (List.sublist_mergeSort trans total tied List.filter_sublist).filter
      (cmp a · == .eq)
    rw [List.filter_filter] at kept
    simp only [Bool.and_self] at kept
    exact (kept.eq_of_length (perm.filter _).length_eq.symm).symm

/-- Where one stable sort of a list is known, the others are the same. -/
theorem iff_eq [Std.TransCmp cmp] {other : List α} (sorted : IsStableSort cmp input output) :
    IsStableSort cmp input other ↔ other = output :=
  ⟨fun stable => stable.unique sorted, fun same => same ▸ sorted⟩

/-- What is left of a stable sort is the stable sort of what is left. -/
theorem filter (sorted : IsStableSort cmp input output) (keep : α → Bool) :
    IsStableSort cmp (input.filter keep) (output.filter keep) where
  perm := sorted.perm.filter keep
  ordered := sorted.ordered.filter keep
  stable a := by
    rw [List.filter_comm, sorted.stable, List.filter_comm]

/-- Elements of one key stand in a second sort as they stand in the first. -/
theorem ordered_of_tied [Std.ReflCmp first] {a b : α}
    (before : middle.Pairwise fun a b => second a b ≠ .gt)
    (after : IsStableSort first middle output) (inTurn : [a, b].Sublist output)
    (tied : first a b = .eq) : second a b ≠ .gt := by
  have self : first a a = .eq := Std.ReflCmp.compare_self
  have kept := inTurn.filter (first a · == .eq)
  simp only [List.filter_cons, self, tied, beq_self_eq_true, if_true, List.filter_nil,
    after.stable a] at kept
  exact List.pairwise_iff_forall_sublist.mp before (kept.trans List.filter_sublist)

/-- A sort of what has been sorted goes by its own keys first and by the former ones second. -/
theorem andThen [Std.ReflCmp first] (before : IsStableSort second input middle)
    (after : IsStableSort first middle output) :
    IsStableSort (compareLex first second) input output where
  perm := after.perm.trans before.perm
  ordered := by
    refine List.pairwise_of_forall_sublist fun {a b} inTurn => ?_
    have least := List.pairwise_iff_forall_sublist.mp after.ordered inTurn
    rw [compareLex]
    cases order : first a b with
    | lt => exact nofun
    | eq =>
      show second a b ≠ .gt
      exact ordered_of_tied before.ordered after inTurn order
    | gt => exact absurd order least
  stable a := by
    have both : (compareLex first second a · == .eq) =
        fun b => second a b == .eq && first a b == .eq := by
      funext b
      rw [compareLex]
      cases first a b <;> cases second a b <;> rfl
    rw [both]
    calc output.filter (fun b => second a b == .eq && first a b == .eq)
        = (output.filter (first a · == .eq)).filter (second a · == .eq) :=
          List.filter_filter.symm
      _ = (middle.filter (first a · == .eq)).filter (second a · == .eq) := by
          rw [after.stable]
      _ = (input.filter (second a · == .eq)).filter (first a · == .eq) := by
          rw [List.filter_comm, before.stable]
      _ = input.filter (fun b => second a b == .eq && first a b == .eq) := by
          rw [List.filter_comm, List.filter_filter]

end IsStableSort

end RecipeEngine
