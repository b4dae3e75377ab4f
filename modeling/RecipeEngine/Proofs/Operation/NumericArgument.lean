import RecipeEngine.Proofs.Number.JsonText
import RecipeEngine.Proofs.Operation.Columns

namespace RecipeEngine

/-- A number in JSON and the double that it stands for. -/
inductive Json.StandsFor : Json → Float → Prop
  | integer (k : Int) : StandsFor (.integer k) (Scalar.ofInt k)
  | float (x : Float) : StandsFor (.float x) x

/-- A number in JSON whose text is that of a cell: an integer that is its own shortest decimal, or a
float with a fraction that needs no exponent and has one shortest decimal however a tie is broken. -/
def Json.ShowsAsCell : Json → Prop
  | .integer k => (NumberFormat.shortest .up (Scalar.ofInt k)).toRat = k.natAbs
  | .float x =>
    let d := NumberFormat.shortest .even x
    d.exponent < 0 ∧ -5 ≤ d.leadingPower ∧ d.leadingPower < 16 ∧ NumberFormat.shortest .up x = d
  | _ => False

namespace Json.StandsFor

variable {j : Json} {x : Float}

theorem compact_eq_plain_iff (number : j.StandsFor x) (finite : x.isFinite = true) :
    j.compact = NumberFormat.plain x ↔ j.ShowsAsCell := by
  cases number with
  | integer k => exact NumberFormat.compact_integer_eq_plain_iff finite
  | float =>
    have text : (Json.float x).compact = NumberFormat.json x := by
      show String.ofList (if x.isFinite = true then (NumberFormat.json x).toList else _) = _
      rw [if_pos finite, String.ofList_toList]
    rw [text]
    exact NumberFormat.json_eq_plain_iff finite

theorem text?_eq (number : j.StandsFor x) {args : Arguments} {argument : String}
    (given : args.get? argument = some j) : args.text? argument = some j.compact := by
  cases number <;> rw [Arguments.text?, given]

end Json.StandsFor

/-- Integers of at most 53 bits have the text of a cell, but not if they are given as floats. -/
theorem Json.showsAsCell_integer {k : Int} (small : k.natAbs < 9007199254740992) :
    (Json.integer k).ShowsAsCell ∧ ¬ (Json.float (Scalar.ofInt k)).ShowsAsCell := by
  obtain ⟨finite, value⟩ := NumberFormat.shortest_ofInt small
  refine ⟨value, fun shown => ?_⟩
  have whole := NumberFormat.exponent_nonneg_of_toRat_eq finite value
  rw [NumberFormat.exponent_shortest_eq _ .up .even] at whole
  exact Int.not_lt.mpr whole shown.1

def Table.showing (t : Table) (column text : String) : Table :=
  { t with rows := t.rows.filter fun row => (row.get? column).map Scalar.display = some text }

namespace Builtin

variable {args : Arguments} {env : Environment} {t : Table} {column : String} {j : Json} {x : Float}

theorem filter_equals (t : Table) (column text : String) :
    t.filter column (.equals text) = t.showing column text := by
  unfold Table.filter Table.showing
  congr 2
  funext row
  unfold Table.rowHolds
  cases row.get? column with
  | none => rfl
  | some cell =>
    simp only [Condition.holds, Option.map_some, Option.some.injEq]
    rfl

/-- An equality keeps the rows that show the text of the argument. -/
theorem filterRows_equals (read : args.table "inputTable" env = .ok t)
    (named : args.required "column" = .ok column) (declared : column ∈ t.columns)
    (equality : args.select "operator" conditionNames "equals" = .ok "equals") {text : String}
    (given : args.text? "value" = some text) :
    filterRows.run args env = .ok (.table (t.showing column text)) := by
  rw [runFilter_of_table read, onColumn, named]
  show (t.requireColumn column >>= fun _ => filterColumn args t column) = _
  rw [requireColumn_eq, if_pos declared]
  show filterColumn args t column = _
  rw [filterColumn, equality]
  show (conditionValue args "equals" >>= fun value =>
    Except.ok (Value.table (t.filter column (condition "equals" value)))) = _
  rw [conditionValue, given, ← filter_equals]
  rfl

/-- A filter by equality with a number keeps exactly the rows that show its JSON text. For a number
that shows as a cell these are the rows that show the number, all rows with the number among them.
For every other number no row with the number is kept. -/
theorem filter_numericArgument (read : args.table "inputTable" env = .ok t)
    (named : args.required "column" = .ok column) (declared : column ∈ t.columns)
    (equality : args.select "operator" conditionNames "equals" = .ok "equals")
    (given : args.get? "value" = some j) (number : j.StandsFor x) (finite : x.isFinite = true) :
    filterRows.run args env = .ok (.table (t.showing column j.compact)) ∧
      (j.ShowsAsCell →
        t.showing column j.compact = t.showing column (NumberFormat.plain x) ∧
          ∀ row ∈ t.rows, row.get? column = some (.number x) →
            row ∈ (t.showing column j.compact).rows) ∧
      (¬ j.ShowsAsCell →
        j.compact ≠ NumberFormat.plain x ∧
          ∀ row ∈ (t.showing column j.compact).rows, row.get? column ≠ some (.number x)) ∧
      ∀ k : Int, k.natAbs < 9007199254740992 →
        (Json.integer k).ShowsAsCell ∧ ¬ (Json.float (Scalar.ofInt k)).ShowsAsCell := by
  refine ⟨filterRows_equals read named declared equality (number.text?_eq given), ?_, ?_,
    fun k => Json.showsAsCell_integer⟩
  · intro shown
    rw [(number.compact_eq_plain_iff finite).mpr shown]
    refine ⟨rfl, fun row member here => List.mem_filter.mpr ⟨member, decide_eq_true ?_⟩⟩
    rw [here]
    rfl
  · intro hidden
    have apart : j.compact ≠ NumberFormat.plain x := fun same =>
      hidden ((number.compact_eq_plain_iff finite).mp same)
    refine ⟨apart, fun row member here => ?_⟩
    have shown := of_decide_eq_true (List.mem_filter.mp member).2
    rw [here] at shown
    exact apart (Option.some.inj shown).symm

def seeking (value : Json) : Arguments :=
  NameMap.ofList [("inputTable", .text "t"), ("column", .text "a"), ("value", value)]

def counts : Table :=
  ⟨["a"], [NameMap.ofList [("a", .number 3)], NameMap.ofList [("a", .text "3")],
    NameMap.ofList [("a", .number 4)]]⟩

theorem filter_numericArgument_three :
    let args := seeking (.integer 3)
    (args.table "inputTable" (holding counts) = .ok counts ∧ args.required "column" = .ok "a" ∧
      "a" ∈ counts.columns ∧ args.select "operator" conditionNames "equals" = .ok "equals" ∧
      args.get? "value" = some (.integer 3) ∧ (Json.integer 3).StandsFor (Scalar.ofInt 3) ∧
      (Scalar.ofInt 3).isFinite = true ∧ (Json.integer 3).ShowsAsCell) ∧
    filterRows.run args (holding counts) =
      .ok (.table (counts.showing "a" (NumberFormat.plain (Scalar.ofInt 3)))) := by
  have read : (seeking (.integer 3)).table "inputTable" (holding counts) = .ok counts := rfl
  have named : (seeking (.integer 3)).required "column" = .ok "a" := rfl
  have declared : "a" ∈ counts.columns := List.mem_cons_self
  have equality : (seeking (.integer 3)).select "operator" conditionNames "equals" =
    .ok "equals" := rfl
  have given : (seeking (.integer 3)).get? "value" = some (.integer 3) := rfl
  have finite : (Scalar.ofInt 3).isFinite = true := by decide +kernel
  obtain ⟨ran, found, -, small⟩ :=
    filter_numericArgument read named declared equality given (.integer 3) finite
  have shown := (small 3 (by decide)).1
  exact ⟨⟨read, named, declared, equality, given, .integer 3, finite, shown⟩,
    (found shown).1 ▸ ran⟩

/-- A float without a fraction is not found among equal cells. -/
theorem not_filter_numericArgument :
    ¬ ∀ (args : Arguments) (env : Environment) (t : Table) (column : String) (j : Json) (x : Float),
      args.table "inputTable" env = .ok t → args.required "column" = .ok column →
      column ∈ t.columns → args.select "operator" conditionNames "equals" = .ok "equals" →
      args.get? "value" = some j → j.StandsFor x → x.isFinite = true →
      filterRows.run args env = .ok (.table (t.showing column (NumberFormat.plain x))) := by
  intro claimed
  have ran := claimed (seeking (.float 3)) (holding counts) counts "a" (.float 3) 3 rfl rfl
    List.mem_cons_self rfl rfl (.float 3) (by decide +kernel)
  have text : (seeking (.float 3)).text? "value" = some "3.0" := by decide +kernel
  have kept : filterRows.run (seeking (.float 3)) (holding counts) =
      .ok (.table (counts.showing "a" "3.0")) :=
    filterRows_equals rfl rfl List.mem_cons_self rfl text
  rw [kept] at ran
  have rows : (counts.showing "a" "3.0").rows.length =
      (counts.showing "a" (NumberFormat.plain 3)).rows.length := by
    injection ran with same
    injection same with same
    rw [same]
  revert rows
  decide +kernel

end Builtin

end RecipeEngine
