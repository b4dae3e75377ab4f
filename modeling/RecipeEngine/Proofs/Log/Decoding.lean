import Mathlib.Data.List.Nodup
import RecipeEngine.Log
import RecipeEngine.Proofs.Number.NonFinite

namespace RecipeEngine

/-- A cell as it comes back: the names of the numbers that are not finite are those numbers, every
other cell is itself. -/
def Scalar.reread : Scalar → Scalar
  | .text "NaN" => .number (0.0 / 0.0)
  | .text "Infinity" => .number (1.0 / 0.0)
  | .text "-Infinity" => .number (-1.0 / 0.0)
  | cell => cell

def Table.reread (t : Table) : Table := { t with rows := t.rows.map (NameMap.map Scalar.reread) }

/-- A value as it comes back; only the cells of tables may differ. -/
def Value.reread : Value → Value
  | .table t => .table t.reread
  | value => value

/-- An entry as it comes back; only the snapshot may differ. -/
def Entry.reread (entry : Entry) : Entry := { entry with output := entry.output.map Value.reread }

def Log.reread (log : Log) : Log := log.map Entry.reread

namespace Json

theorem mapM_encoded {α β γ : Type} (encode : α → β) (read : β → Option γ) (image : α → γ)
    (each : ∀ a, read (encode a) = some (image a)) (items : List α) :
    (items.map encode).mapM read = some (items.map image) := by
  have composed : read ∘ encode = fun a => pure (image a) := funext each
  rw [List.mapM_map, composed, List.mapM_pure]
  rfl

/-- The slots of an object without repeated names are what its names stand for. -/
theorem slots?_object {fields : List (String × Json)} (distinct : (fields.map (·.1)).Nodup)
    (names : List String) :
    (Json.object fields).slots? names = some (names.map fun name => NameMap.find name fields) := by
  have once (name : String) : (fields.filter (·.1 = name)).length ≤ 1 := by
    have count := List.nodup_iff_count_le_one.mp distinct name
    rw [List.count, List.countP_map, List.countP_eq_length_filter] at count
    exact count
  have single : ¬ (names.any fun name => 1 < (fields.filter (·.1 = name)).length) = true := by
    rw [List.any_eq_true]
    rintro ⟨name, _, twice⟩
    exact Nat.not_lt.mpr (once name) (of_decide_eq_true twice)
  rw [slots?, if_neg single]

end Json

namespace Scalar

theorem ofJson?_toJson (cell : Scalar) : ofJson? cell.toJson = some cell.reread := by
  cases cell with
  | number x =>
    change ofJson? (numberToJson x) = some (.number x)
    unfold numberToJson
    split
    · rfl
    · rename_i unbounded
      rw [ofJson?, NumberFormat.ofWord?_plain (Bool.not_eq_true _ ▸ unbounded)]
  | text s =>
    unfold reread
    split
    case h_4 notNaN notInfinite notNegative =>
      have plain : NumberFormat.ofWord? s = none := by
        unfold NumberFormat.ofWord?
        split
        · exact absurd rfl notNaN
        · exact absurd rfl notInfinite
        · exact absurd rfl notNegative
        · rfl
      rw [toJson, ofJson?, plain]
    all_goals
      rename_i word
      cases word
      rfl

@[simp] theorem toJson_reread (cell : Scalar) : cell.reread.toJson = cell.toJson := by
  unfold reread
  split <;> rfl

end Scalar

namespace Table

theorem rowOfJson?_rowToJson (row : Row) :
    rowOfJson? (rowToJson row) = some (row.map Scalar.reread) := by
  have cells := Json.mapM_encoded
    (fun (entry : String × Scalar) => (entry.1, entry.2.toJson))
    (fun (field : String × Json) => (Scalar.ofJson? field.2).map (field.1, ·))
    (fun entry => (entry.1, entry.2.reread))
    (fun entry => congrArg (Option.map (entry.1, ·)) entry.2.ofJson?_toJson) row.toList
  change Option.bind (List.mapM _ _) _ = _
  rw [cells]
  exact congrArg some (NameMap.ofList_toList (row.map Scalar.reread))

theorem ofSlots?_toFields (t : Table) :
    ofSlots? (.list (t.columns.map .text)) (.list (t.rows.map rowToJson)) = some t.reread := by
  change Option.bind (List.mapM _ _) _ = _
  rw [Json.mapM_encoded Json.text Json.text? id (fun _ => rfl), List.map_id]
  change Option.bind (List.mapM _ _) _ = _
  rw [Json.mapM_encoded rowToJson rowOfJson? _ rowOfJson?_rowToJson]
  rfl

@[simp] theorem rowToJson_reread (row : Row) :
    rowToJson (row.map Scalar.reread) = rowToJson row := by
  simp [rowToJson, NameMap.map, NameMap.toList, Function.comp_def]

@[simp] theorem toFields_reread (t : Table) : t.reread.toFields = t.toFields := by
  simp [toFields, reread, Function.comp_def]

end Table

namespace Value

theorem ofJson?_toJson (v : Value) : ofJson? v.toJson = some v.reread := by
  cases v with
  | table t =>
    change (Table.ofSlots? _ _).map Value.table = _
    rw [Table.ofSlots?_toFields]
    rfl
  | number x =>
    change ((Scalar.ofJson? (Scalar.toJson (.number x))).bind Scalar.number?).map Value.number = _
    rw [Scalar.ofJson?_toJson]
    rfl
  | string s => rfl

theorem toJson_ne_null (v : Value) : v.toJson ≠ .null := by
  cases v <;> exact Json.noConfusion

@[simp] theorem toJson_reread (v : Value) : v.reread.toJson = v.toJson := by
  cases v with
  | table t => simp [reread, toJson]
  | number x => rfl
  | string s => rfl

end Value

@[simp] theorem Status.ofName?_name (status : Status) : ofName? status.name = some status := by
  cases status <;> rfl

namespace Entry

theorem find_optional (name other : String) (value : Option Json) :
    NameMap.find name (optional other value) = if other = name then value else none := by
  cases value with
  | none => simp [optional, NameMap.find]
  | some j => rfl

theorem names_optional (name : String) (value : Option Json) :
    ((optional name value).map (·.1)).Sublist [name] := by
  cases value with
  | none => exact List.nil_sublist _
  | some j => exact List.Sublist.refl _

theorem optionOfJson?_map {α β : Type} (encode : α → Json) (read : Json → Option β)
    (image : α → β) (each : ∀ a, read (encode a) = some (image a))
    (present : ∀ a, encode a ≠ .null) (value : Option α) :
    optionOfJson? read (value.map encode) = some (value.map image) := by
  cases value with
  | none => rfl
  | some a =>
    rw [Option.map_some, optionOfJson?, each]
    · rfl
    · exact present a

theorem slots?_toJson (entry : Entry) :
    entry.toJson.slots? fieldNames =
      some [some (.integer entry.seq), some (.text entry.step), some (.text entry.operation),
        some (.text entry.status.name), some (.text entry.stamp.time),
        some (.integer entry.stamp.duration), entry.outputName.map .text,
        entry.output.map Value.toJson, entry.message.map .text,
        entry.category.map fun c => .text c.name, entry.hint.map .text] := by
  have distinct : fieldNames.Nodup := by decide
  have names := (((((List.Sublist.refl (fieldNames.take 6)).append
    (names_optional "output_name" (entry.outputName.map .text))).append
    (names_optional "output" (entry.output.map Value.toJson))).append
    (names_optional "message" (entry.message.map .text))).append
    (names_optional "category" (entry.category.map fun c => .text c.name))).append
    (names_optional "hint" (entry.hint.map .text))
  rw [toJson, Json.slots?_object]
  · simp [fieldNames, NameMap.find_append, find_optional, NameMap.find]
  · simp only [List.map_append]
    exact distinct.sublist names

theorem ofJson?_toJson (entry : Entry) : ofJson? entry.toJson = some entry.reread := by
  have natural (n : Nat) : natOfJson? (.integer n) = some n := by
    rw [natOfJson?, if_pos (Int.natCast_nonneg n), Int.toNat_natCast]
  have named (s : String) : (Json.text s).text? = some s := rfl
  have text := optionOfJson?_map Json.text Json.text? id (fun _ => rfl) nofun
  have output := optionOfJson?_map Value.toJson Value.ofJson? Value.reread Value.ofJson?_toJson
    Value.toJson_ne_null entry.output
  have category := optionOfJson?_map (fun c : Category => .text c.name)
    (fun j => j.text?.bind Category.ofName?) id Category.ofName?_name nofun entry.category
  simp only [ofJson?, slots?_toJson, Option.bind_eq_bind, Option.bind_some, natural, named,
    Status.ofName?_name, text, output, category, Option.map_id, id]
  rfl

@[simp] theorem toJson_reread (entry : Entry) : entry.reread.toJson = entry.toJson := by
  simp [reread, toJson, Function.comp_def]

end Entry

namespace Log

theorem ofJson?_toJson (log : Log) : ofJson? log.toJson = some log.reread :=
  Json.mapM_encoded Entry.toJson Entry.ofJson? Entry.reread Entry.ofJson?_toJson log

@[simp] theorem toJson_reread (log : Log) : log.reread.toJson = log.toJson := by
  simp [reread, toJson, Function.comp_def]

end Log

end RecipeEngine
