import RecipeEngine.Proofs.Json.RoundTrip
import RecipeEngine.Proofs.Log.Decoding

namespace RecipeEngine

open Json (Scaling Readable)

variable {scale : Scaling}

def Value.numbers : Value → List Float
  | .table t => t.rows.flatMap fun row => row.toList.filterMap fun entry => entry.2.number?
  | .number x => [x]
  | .string _ => []

def Log.numbers (log : Log) : List Float :=
  log.flatMap fun entry => entry.output.toList.flatMap Value.numbers

/-- The number reader gives back every finite number of a list. -/
def Json.Scaling.InvertsAll (scale : Scaling) (numbers : List Float) : Prop :=
  ∀ x ∈ numbers, x.isFinite = true → scale.Inverts x

def Value.reload? (scale : Scaling) (v : Value) : Option Value :=
  (Json.read scale v.toJson.compact).bind ofJson?

def Log.reload? (scale : Scaling) (log : Log) : Option Log :=
  (Json.read scale log.toJson.compact).bind ofJson?

namespace Log

/-- A call that records a step. Durations are counted in 64 bits. -/
inductive Call where
  | success (step operation outputName : String) (output : Option Value) (time : String)
      (duration : UInt64)
  | failure (step operation : String) (failure : Failure) (time : String) (duration : UInt64)

def record (log : Log) : Call → Log
  | .success step operation outputName output time duration =>
    log.success step operation outputName output ⟨time, duration.toNat⟩
  | .failure step operation failure time duration =>
    log.failure step operation failure ⟨time, duration.toNat⟩

def ofCalls (calls : List Call) : Log := calls.foldl record []

end Log

namespace Scalar

theorem readable_numberToJson {x : Float} (inverts : x.isFinite = true → scale.Inverts x)
    (depth : Nat) : Readable scale depth (numberToJson x) := by
  unfold numberToJson
  split
  · rename_i finite
    exact .float finite (inverts finite)
  · exact .text _

theorem readable_toJson {cell : Scalar}
    (inverts : ∀ x ∈ cell.number?, x.isFinite = true → scale.Inverts x) (depth : Nat) :
    Readable scale depth cell.toJson := by
  cases cell with
  | number x => exact readable_numberToJson (inverts x rfl) depth
  | text s => exact .text s

end Scalar

namespace Value

/-- A value nests three deep: an object, a list of rows, the rows. -/
theorem readable_toJson {v : Value} (inverts : scale.InvertsAll v.numbers) (depth : Nat) :
    Readable scale (depth + 3) v.toJson := by
  cases v with
  | table t =>
    have columns : Readable scale (depth + 2) (.list (t.columns.map .text)) := by
      refine .list fun item member => ?_
      obtain ⟨name, _, rfl⟩ := List.mem_map.mp member
      exact .text name
    have rows : Readable scale (depth + 2) (.list (t.rows.map Table.rowToJson)) := by
      refine .list fun item member => ?_
      obtain ⟨row, inTable, rfl⟩ := List.mem_map.mp member
      refine .object fun field inRow => ?_
      obtain ⟨entry, here, rfl⟩ := List.mem_map.mp inRow
      refine Scalar.readable_toJson (fun x number => inverts x ?_) depth
      exact List.mem_flatMap.mpr ⟨row, inTable, List.mem_filterMap.mpr ⟨entry, here, number⟩⟩
    exact .object (List.forall_mem_cons.mpr ⟨.text "table",
      List.forall_mem_cons.mpr ⟨columns, List.forall_mem_singleton.mpr rows⟩⟩)
  | number x =>
    have content : Readable scale (depth + 2) (Scalar.numberToJson x) :=
      Scalar.readable_numberToJson (inverts x List.mem_cons_self) _
    exact .object (List.forall_mem_cons.mpr ⟨.text "number",
      List.forall_mem_singleton.mpr content⟩)
  | string s =>
    exact .object (List.forall_mem_cons.mpr ⟨.text "string",
      List.forall_mem_singleton.mpr (.text s)⟩)

theorem reload?_eq {v : Value} (inverts : scale.InvertsAll v.numbers) :
    v.reload? scale = some v.reread := by
  rw [reload?, Json.read_compact (readable_toJson inverts 124)]
  exact v.ofJson?_toJson

end Value

namespace Entry

def Counted (entry : Entry) : Prop := entry.seq < twoTo 64 ∧ entry.stamp.duration < twoTo 64

theorem readable_optional (name : String) (value : Option Json) {depth : Nat}
    (readable : ∀ j ∈ value, Readable scale depth j) :
    ∀ field ∈ optional name value, Readable scale depth field.2 := by
  cases value with
  | none => exact List.forall_mem_nil _
  | some j => exact List.forall_mem_singleton.mpr (readable j rfl)

theorem readable_text {α : Type} (text : α → String) (value : Option α) (depth : Nat) :
    ∀ j ∈ value.map fun a => Json.text (text a), Readable scale depth j := by
  intro j present
  obtain ⟨a, _, rfl⟩ := Option.map_eq_some_iff.mp present
  exact .text (text a)

theorem readable_toJson {entry : Entry} (counted : entry.Counted)
    (inverts : ∀ v ∈ entry.output, scale.InvertsAll v.numbers) (depth : Nat) :
    Readable scale (depth + 4) entry.toJson := by
  have natural {n : Nat} (bound : n < twoTo 64) : Readable scale (depth + 3) (.integer n) :=
    .integer ⟨by omega, by omega⟩
  have output : ∀ j ∈ entry.output.map Value.toJson, Readable scale (depth + 3) j := by
    intro j present
    obtain ⟨v, snapshot, rfl⟩ := Option.map_eq_some_iff.mp present
    exact Value.readable_toJson (inverts v snapshot) depth
  refine .object ?_
  simp only [List.forall_mem_append, List.forall_mem_cons]
  exact ⟨⟨⟨⟨⟨⟨natural counted.1, .text _, .text _, .text _, .text _, natural counted.2,
    List.forall_mem_nil _⟩,
    readable_optional _ _ (readable_text id entry.outputName _)⟩,
    readable_optional _ _ output⟩,
    readable_optional _ _ (readable_text id entry.message _)⟩,
    readable_optional _ _ (readable_text Category.name entry.category _)⟩,
    readable_optional _ _ (readable_text id entry.hint _)⟩

end Entry

namespace Log

theorem readable_toJson {log : Log} (counted : ∀ entry ∈ log, entry.Counted)
    (inverts : scale.InvertsAll log.numbers) (depth : Nat) :
    Readable scale (depth + 5) log.toJson := by
  refine .list fun item member => ?_
  obtain ⟨entry, here, rfl⟩ := List.mem_map.mp member
  refine Entry.readable_toJson (counted entry here) (fun v output x number => inverts x ?_) depth
  exact List.mem_flatMap.mpr ⟨entry, here,
    List.mem_flatMap.mpr ⟨v, Option.mem_toList.mpr output, number⟩⟩

theorem reload?_eq {log : Log} (counted : ∀ entry ∈ log, entry.Counted)
    (inverts : scale.InvertsAll log.numbers) : log.reload? scale = some log.reread := by
  rw [reload?, Json.read_compact (readable_toJson counted inverts 122)]
  exact log.ofJson?_toJson

/-- Each call appends one entry; its number fits into 64 bits as long as the log is shorter. -/
theorem record_eq (log : Log) (call : Call) (room : log.length < twoTo 64) :
    ∃ entry : Entry, entry.Counted ∧ log.record call = log ++ [entry] := by
  cases call with
  | success step operation outputName output time duration =>
    exact ⟨_, ⟨room, duration.toNat_lt⟩, rfl⟩
  | failure step operation failure time duration =>
    exact ⟨_, ⟨room, duration.toNat_lt⟩, rfl⟩

theorem counted_foldl_record {calls : List Call} {log : Log}
    (room : log.length + calls.length ≤ twoTo 64) (counted : ∀ entry ∈ log, entry.Counted) :
    ∀ entry ∈ calls.foldl record log, entry.Counted := by
  induction calls generalizing log with
  | nil => exact counted
  | cons call calls ih =>
    rw [List.length_cons] at room
    obtain ⟨entry, fits, recorded⟩ := record_eq log call (by omega)
    rw [List.foldl_cons, recorded]
    refine ih ?_ ?_
    · rw [List.length_append, List.length_singleton]
      omega
    · exact List.forall_mem_append.mpr ⟨counted, List.forall_mem_singleton.mpr fits⟩

theorem counted_ofCalls {calls : List Call} (room : calls.length ≤ twoTo 64) :
    ∀ entry ∈ ofCalls calls, entry.Counted :=
  counted_foldl_record (by simpa using room) (List.forall_mem_nil _)

end Log

/-- Every value and every log of calls survives JSON text, up to the cells that spell a number that
is not finite; those are numbers afterwards, and nothing changes any more. -/
theorem Json.Scaling.reload (scale : Scaling) :
    (∀ v : Value, scale.InvertsAll v.numbers →
      v.reload? scale = some v.reread ∧ v.reread.reload? scale = some v.reread) ∧
    ∀ calls : List Log.Call, calls.length ≤ twoTo 64 →
      scale.InvertsAll (Log.ofCalls calls).numbers →
      (Log.ofCalls calls).reload? scale = some (Log.ofCalls calls).reread ∧
      (Log.ofCalls calls).reread.reload? scale = some (Log.ofCalls calls).reread := by
  refine ⟨fun v inverts => ?_, fun calls room inverts => ?_⟩
  · have first := Value.reload?_eq inverts
    refine ⟨first, ?_⟩
    -- The second text is the first one.
    rw [Value.reload?, v.toJson_reread]
    exact first
  · have first := Log.reload?_eq (Log.counted_ofCalls room) inverts
    refine ⟨first, ?_⟩
    rw [Log.reload?, Log.toJson_reread]
    exact first

/-- A table with numbers, with texts that name numbers and with one that does not. -/
def Value.measurements : Value :=
  .table ⟨["place", "value"], [
    NameMap.ofList [("place", .text "NaN"), ("value", .number 0.5)],
    NameMap.ofList [("place", .text "nan"), ("value", .number (0.0 / 0.0))]]⟩

/-- Calls that record a table, an infinite number, its name as a string, and a failure. -/
def Log.measuring : List Call :=
  [.success "s1" "custom-table" "t" (some .measurements) "2026-01-01T00:00:00Z" 1,
   .success "s2" "constant-math" "x" (some (.number (-1.0 / 0.0))) "2026-01-01T00:00:01Z" 0,
   .success "s3" "constant-math" "y" (some (.string "-Infinity")) "2026-01-01T00:00:02Z" 0,
   .failure "s4" "filter" (.variableNotFound "z") "2026-01-01T00:00:03Z" 2]

theorem Json.Scaling.stepwise_inverts_half : Scaling.stepwise.Inverts 0.5 := by
  have text : NumberFormat.json 0.5 = "0.5" := by decide +kernel
  have scaling : Scaling.stepwise 5 (-1) = some 0.5 := by decide +kernel
  have limit : significandLimit = 18446744073709551615 := by decide
  rw [Inverts, text]
  simp [readLeaf, readNumber, gather, limit, readExponent, scaled, scaling]

theorem Json.Scaling.reload_measurements :
    (Value.measurements.reload? .stepwise = some (.table ⟨["place", "value"], [
      NameMap.ofList [("place", .number (0.0 / 0.0)), ("value", .number 0.5)],
      NameMap.ofList [("place", .text "nan"), ("value", .number (0.0 / 0.0))]]⟩)) ∧
    (Log.ofCalls Log.measuring).reload? .stepwise = some (Log.ofCalls Log.measuring).reread := by
  have inTable : ∀ x ∈ Value.measurements.numbers, x.isFinite = true → x = 0.5 := by
    decide +kernel
  have inLog : ∀ x ∈ (Log.ofCalls Log.measuring).numbers, x.isFinite = true → x = 0.5 := by
    decide +kernel
  obtain ⟨values, logs⟩ := reload .stepwise
  refine ⟨?_, (logs Log.measuring (by decide) ?_).1⟩
  · refine ((values .measurements ?_).1).trans ?_
    · intro x member finite
      rw [inTable x member finite]
      exact stepwise_inverts_half
    · rfl
  · intro x member finite
    rw [inLog x member finite]
    exact stepwise_inverts_half

end RecipeEngine
