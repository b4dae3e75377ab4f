import Mathlib.Data.List.Forall2
import RecipeEngine.Proofs.Number.Head
import RecipeEngine.Proofs.Operation.Columns

namespace RecipeEngine.Regression

open Numeral (IsLongest Form.number Denotes readPrefix?)
open Text (isDecimalDigit dropBlanks)

/-- The number at the head of a text, over ASCII digits, which is as long as it would be if digits
of all scripts counted. -/
def StartsWith (s : String) (x : Float) : Prop :=
  ∃ head, IsLongest (Form.number Char.isDigit) (dropBlanks s.toList) head ∧
    (∀ longer ∈ Form.number isDecimalDigit, longer <+: dropBlanks s.toList →
      longer.length ≤ head.length) ∧ Denotes head x

/-- What can be read in a row under a name: the number of the row for `#`, whatever columns there
are, else the number in the cell or at its head. -/
inductive Reading (index : Nat) (row : Row) : String → Float → Prop
  | position : Reading index row rowIndex (Float.ofNat (index + 1))
  | number {column x} : column ≠ rowIndex → row.get? column = some (.number x) →
      x.isNaN = false → Reading index row column x
  | text {column s x} : column ≠ rowIndex → row.get? column = some (.text s) → StartsWith s x →
      Reading index row column x

theorem readPrefix?_iff_startsWith {s : String} {x : Float} :
    readPrefix? s = some x ↔ StartsWith s x := by
  constructor
  · intro read
    cases Numeral.findsHead_readPrefix? s with
    | found longest all denoted value =>
      cases value.symm.trans read
      exact ⟨_, longest, all.longest, denoted⟩
    | overrun _ _ _ _ value => cases value.symm.trans read
    | absent _ value => cases value.symm.trans read
  · rintro ⟨head, longest, most, denoted⟩
    refine Numeral.readPrefix?_eq_some_iff.mpr ⟨head, ?_, denoted⟩
    cases Numeral.findsHead_readPrefix? s with
    | found longest' all _ _ => exact longest.unique longest' ▸ all
    | overrun longest' member initial greater _ =>
      cases longest.unique longest'
      exact absurd (most _ member initial) (Nat.not_le.mpr greater)
    | absent none _ => exact absurd longest.initial (none head longest.member)

theorem coordinate?_eq_some_iff {index : Nat} {row : Row} {column : String} {x : Float} :
    coordinate? index row column = some x ↔ Reading index row column x := by
  by_cases named : column = rowIndex
  · rw [coordinate?, if_pos named, Option.some_inj, named]
    constructor
    · rintro rfl
      exact .position
    · rintro (_ | ⟨other, _⟩ | ⟨other, _⟩)
      · rfl
      · exact absurd rfl other
      · exact absurd rfl other
  · rw [coordinate?, if_neg named]
    constructor
    · intro read
      split at read
      · rename_i cell
        split at read
        · cases read
        · rename_i proper
          cases read
          exact .number named cell (Bool.not_eq_true _ ▸ proper)
      · rename_i cell
        exact .text named cell (readPrefix?_iff_startsWith.mp read)
      · cases read
    · rintro (_ | ⟨_, cell, proper⟩ | ⟨_, cell, starts⟩)
      · exact absurd rfl named
      · rw [cell]
        show (if x.isNaN then none else some x) = some x
        rw [proper]
        rfl
      · rw [cell]
        exact readPrefix?_iff_startsWith.mpr starts

variable {x y : String}

theorem point?_eq_some_iff {index : Nat} {row : Row} {a b : Float} :
    point? x y index row = some (a, b) ↔ Reading index row x a ∧ Reading index row y b := by
  rw [← coordinate?_eq_some_iff, ← coordinate?_eq_some_iff, point?]
  cases coordinate? index row x <;> cases coordinate? index row y <;> simp

theorem pointsFrom_eq (x y : String) (start : Nat) (rows : List Row) :
    pointsFrom x y start rows =
      (rows.zipIdx start).filterMap fun entry => point? x y entry.2 entry.1 := by
  induction rows generalizing start with
  | nil => rfl
  | cons row rest ih =>
    rw [pointsFrom, List.zipIdx_cons, List.filterMap_cons, ih]
    cases point? x y start row <;> rfl

def positions (t : Table) (x y : String) : List Nat :=
  (t.rows.zipIdx.filter fun entry => (point? x y entry.2 entry.1).isSome).map Prod.snd

theorem numbers_increase {rows : List Row} {start : Nat} :
    (rows.zipIdx start).Pairwise fun a b => a.2 < b.2 := by
  induction rows generalizing start with
  | nil => exact .nil
  | cons row rest ih =>
    refine .cons (fun entry member => ?_) ih
    exact List.le_snd_of_mem_zipIdx member

theorem positions_increase (t : Table) (x y : String) : (positions t x y).Pairwise (· < ·) :=
  List.pairwise_map.mpr (numbers_increase.filter _)

/-- The number can be read in the row of a table with this number, counted from zero. -/
def ReadsAt (t : Table) (column : String) (i : Nat) (a : Float) : Prop :=
  ∃ row, t.rows[i]? = some row ∧ Reading i row column a

theorem mem_positions_iff {t : Table} {i : Nat} :
    i ∈ positions t x y ↔ (∃ a, ReadsAt t x i a) ∧ ∃ b, ReadsAt t y i b := by
  simp only [positions, List.mem_map, List.mem_filter, Prod.exists, exists_eq_right,
    List.mem_zipIdx_iff_getElem?, Option.isSome_iff_exists, point?_eq_some_iff]
  constructor
  · rintro ⟨row, atRow, a, b, left, right⟩
    exact ⟨⟨a, row, atRow, left⟩, b, row, atRow, right⟩
  · rintro ⟨⟨a, row, atRow, left⟩, b, row', atRow', right⟩
    cases atRow.symm.trans atRow'
    exact ⟨row, atRow, a, b, left, right⟩

theorem forall₂_filterMap {α β : Type} (l : List α) (f : α → Option β) :
    List.Forall₂ (fun a b => a ∈ l ∧ f a = some b) (l.filter fun a => (f a).isSome)
      (l.filterMap f) := by
  induction l with
  | nil => exact .nil
  | cons a rest ih =>
    have later := ih.imp fun _ _ both => And.intro (List.mem_cons_of_mem a both.1) both.2
    cases found : f a with
    | none => simpa [found] using later
    | some b => simpa [found] using later

theorem positions_points (t : Table) (x y : String) :
    List.Forall₂ (fun i p => ReadsAt t x i p.1 ∧ ReadsAt t y i p.2)
      (positions t x y) (points t x y) := by
  rw [points, pointsFrom_eq, positions, List.forall₂_map_left_iff]
  refine (forall₂_filterMap _ _).imp fun entry p both => ?_
  obtain ⟨member, given⟩ := both
  have atRow := List.mem_zipIdx_iff_getElem?.mp member
  obtain ⟨left, right⟩ := point?_eq_some_iff.mp given
  exact ⟨⟨_, atRow, left⟩, _, atRow, right⟩

/-- Two lists of coordinates belong to the rows with the given numbers, which are all rows in which
both can be read, in their order. -/
structure Aligned (t : Table) (x y : String) (positions : List Nat) (xs ys : List Float) :
    Prop where
  increasing : positions.Pairwise (· < ·)
  mem_iff : ∀ i, i ∈ positions ↔ (∃ a, ReadsAt t x i a) ∧ ∃ b, ReadsAt t y i b
  readsX : List.Forall₂ (ReadsAt t x) positions xs
  readsY : List.Forall₂ (ReadsAt t y) positions ys

theorem aligned (t : Table) (x y : String) :
    Aligned t x y (positions t x y) (coordinates t x y).1 (coordinates t x y).2 := by
  have read := positions_points t x y
  refine ⟨positions_increase t x y, fun i => mem_positions_iff, ?_, ?_⟩
  · rw [coordinates, List.unzip_fst, List.forall₂_map_right_iff]
    exact read.imp fun _ _ both => both.1
  · rw [coordinates, List.unzip_snd, List.forall₂_map_right_iff]
    exact read.imp fun _ _ both => both.2

theorem lineThrough_eq_tooFewPoints_iff {α : Type} [Add α] [Sub α] [Mul α] [Div α]
    (numbers : Numbers α) {points : List (α × α)} :
    lineThrough numbers points = .error .tooFewPoints ↔ points.length < 2 := by
  rw [lineThrough]
  split
  · rename_i few
    exact iff_of_true rfl few
  · rename_i enough
    refine iff_of_false ?_ enough
    dsimp only
    split <;> exact nofun

/-- The name of a declared column, or of the row numbers. -/
def IsCoordinate (t : Table) (column : String) : Prop :=
  column = rowIndex ∨ column ∈ t.columns

theorem requireCoordinate_of_isCoordinate {t : Table} {column : String}
    (named : IsCoordinate t column) : Builtin.requireCoordinate t column = .ok () := by
  rw [Builtin.requireCoordinate]
  split
  · rfl
  · rename_i other
    rw [Builtin.requireColumn_eq, if_pos (named.resolve_left other)]

variable {args : Arguments} {env : Environment} {t : Table}

theorem run_eq_tooFewPoints_iff (read : args.table "tableVar" env = .ok t)
    (readX : args.required "xCol" = .ok x) (readY : args.required "yCol" = .ok y)
    (namedX : IsCoordinate t x) (namedY : IsCoordinate t y) :
    Builtin.linearRegression.run args env =
        .error (.insufficientData NoLine.tooFewPoints.message) ↔ (points t x y).length < 2 := by
  have run : Builtin.linearRegression.run args env =
      ((lineThrough doubles (points t x y)).map fun line => .table (summary line)).mapError
        NoLine.toFailure := by
    show Builtin.runRegression args env = _
    rw [Builtin.runRegression, read, readX, readY]
    show (Builtin.requireCoordinate t x >>= fun _ => Builtin.requireCoordinate t y >>= _) = _
    rw [requireCoordinate_of_isCoordinate namedX, requireCoordinate_of_isCoordinate namedY]
    cases lineThrough doubles (points t x y) <;> rfl
  rw [run, ← lineThrough_eq_tooFewPoints_iff doubles]
  cases lineThrough doubles (points t x y) with
  | ok line => exact iff_of_false nofun nofun
  | error why =>
    cases why with
    | tooFewPoints => exact iff_of_true rfl rfl
    | allXEqual =>
      refine iff_of_false (fun same => ?_) nofun
      exact absurd (Failure.insufficientData.inj (Except.error.inj same)) (by decide)

/-- The coordinates of the points of a table are two lists of one length, whose members in one place
are read in one row: the rows in their order in which both can be read, with the numbers they have
among all rows. A regression on two of its columns finds too few points exactly if fewer than two
rows are so. -/
theorem points_aligned (t : Table) (x y : String) : ∃ positions,
    Aligned t x y positions (coordinates t x y).1 (coordinates t x y).2 ∧
    ∀ (args : Arguments) (env : Environment), args.table "tableVar" env = .ok t →
      args.required "xCol" = .ok x → args.required "yCol" = .ok y →
      IsCoordinate t x → IsCoordinate t y →
      (Builtin.linearRegression.run args env =
        .error (.insufficientData NoLine.tooFewPoints.message) ↔ positions.length < 2) := by
  refine ⟨positions t x y, aligned t x y, fun args env read readX readY namedX namedY => ?_⟩
  rw [run_eq_tooFewPoints_iff read readX readY namedX namedY, (positions_points t x y).length_eq]

/-- The arguments of a regression on the columns `x` and `y`. -/
def between (x y : String) : Arguments :=
  NameMap.ofList [("tableVar", .text "t"), ("xCol", .text x), ("yCol", .text y)]

/-- A first row without a reading of `x`, and a second one with both. -/
def weighed : Table where
  columns := ["x", "y", "#"]
  rows := [NameMap.ofList [("x", .text "n/a"), ("y", .number 7), ("#", .number 40)],
    NameMap.ofList [("x", .text " 2 kg"), ("y", .number 5), ("#", .number 50)]]

theorem points_aligned_weighed :
    let args := between "x" "#"
    let env := Builtin.holding weighed
    (args.table "tableVar" env = .ok weighed ∧ args.required "xCol" = .ok "x" ∧
      args.required "yCol" = .ok "#" ∧ IsCoordinate weighed "x" ∧ IsCoordinate weighed "#") ∧
    coordinates weighed "x" "#" = ([2], [2]) ∧
    Builtin.linearRegression.run args env =
      .error (.insufficientData NoLine.tooFewPoints.message) := by
  have read : (between "x" "#").table "tableVar" (Builtin.holding weighed) = .ok weighed := rfl
  have readX : (between "x" "#").required "xCol" = .ok "x" := by decide +kernel
  have readY : (between "x" "#").required "yCol" = .ok "#" := by decide +kernel
  have namedX : IsCoordinate weighed "x" := .inr List.mem_cons_self
  have namedY : IsCoordinate weighed "#" := .inl rfl
  have found : coordinates weighed "x" "#" = ([2], [2]) := by decide +kernel
  obtain ⟨positions, rows, few⟩ := points_aligned weighed "x" "#"
  have one := rows.readsX.length_eq
  rw [found] at one
  refine ⟨⟨read, readX, readY, namedX, namedY⟩, found, ?_⟩
  exact (few _ _ read readX readY namedX namedY).mpr (one ▸ by decide)

/-- Two rows that start with numbers, one of which goes on with a digit of another script. -/
def foreign : Table where
  columns := ["x", "y"]
  rows := [NameMap.ofList [("x", .number 1), ("y", .number 1)],
    NameMap.ofList [("x", .text "5\u0663"), ("y", .number 5)]]

/-- A row is passed over although both its cells start with numbers. -/
theorem not_points_aligned_foreign :
    (¬ ∀ (index : Nat) (row : Row) (column s : String) (head : List Char), column ≠ rowIndex →
      row.get? column = some (.text s) → head ∈ Form.number Char.isDigit →
      head <+: dropBlanks s.toList → (coordinate? index row column).isSome = true) ∧
    coordinates foreign "x" "y" = ([1], [1]) ∧
    Builtin.linearRegression.run (between "x" "y") (Builtin.holding foreign) =
      .error (.insufficientData NoLine.tooFewPoints.message) := by
  have unread : coordinate? 1 (NameMap.ofList [("x", .text "5\u0663")]) "x" = none := by
    decide +kernel
  have number : ['5'] ∈ Form.number Char.isDigit :=
    Numeral.Writes.mem_number Numeral.isDigitClass_isDigit
      ⟨.none, Numeral.Digits.spells (by simp [Numeral.Digits]) (by decide)⟩
  have few : (points foreign "x" "y").length < 2 := by decide +kernel
  refine ⟨fun readable => ?_, by decide +kernel, ?_⟩
  · have read := readable 1 (NameMap.ofList [("x", .text "5\u0663")]) "x" "5\u0663" ['5']
      (by decide) rfl number (by decide)
    rw [unread] at read
    exact absurd read Bool.false_ne_true
  · exact (run_eq_tooFewPoints_iff rfl (by decide +kernel) (by decide +kernel)
      (.inr List.mem_cons_self) (.inr (by decide))).mpr few

end RecipeEngine.Regression
