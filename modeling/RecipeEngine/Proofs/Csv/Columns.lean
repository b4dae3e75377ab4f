import Mathlib.Data.List.Nodup
import Mathlib.Data.List.Perm.Subperm
import RecipeEngine.Csv.Table

namespace RecipeEngine.Csv

theorem toString_injective {j k : Nat} (same : toString j = toString k) : j = k := by
  have digits : Nat.toDigits 10 j = Nat.toDigits 10 k := by
    simpa using congrArg String.toList same
  rw [← Nat.ofDigitChars_ten_toDigits (n := j), digits, Nat.ofDigitChars_ten_toDigits]

theorem suffixed_injective {name : String} : Function.Injective (suffixed name) := by
  intro j k same
  refine toString_injective ?_
  simpa [suffixed] using same

/-- Every name before the one that is chosen is taken; if that one is too, the tries are used up. -/
theorem exists_firstFree_eq (taken : List String) (name : String) (tries k : Nat) :
    ∃ i, firstFree taken name tries k = suffixed name (k + i) ∧
      (∀ j < i, suffixed name (k + j) ∈ taken) ∧ (suffixed name (k + i) ∈ taken → i = tries) := by
  induction tries generalizing k with
  | zero => exact ⟨0, rfl, fun j below => absurd below (Nat.not_lt_zero j), fun _ => rfl⟩
  | succ tries ih =>
    unfold firstFree
    split
    · rename_i first
      obtain ⟨i, chosen, passed, spent⟩ := ih (k + 1)
      have shift (j : Nat) : k + (j + 1) = k + 1 + j := by omega
      refine ⟨i + 1, ?_, fun j below => ?_, fun clash => ?_⟩
      · rw [chosen, shift i]
      · cases j with
        | zero => exact List.contains_iff_mem.mp first
        | succ j => exact shift j ▸ passed j (Nat.lt_of_succ_lt_succ below)
      · exact congrArg (· + 1) (spent (shift i ▸ clash))
    · rename_i free
      exact ⟨0, rfl, fun j below => absurd below (Nat.not_lt_zero j), fun clash =>
        absurd (List.contains_iff_mem.mpr clash) free⟩

theorem le_length_of_taken {taken : List String} {tried : Nat → String}
    (different : Function.Injective tried) {count : Nat} (all : ∀ i < count, tried i ∈ taken) :
    count ≤ taken.length := by
  have inside : (List.range count).map tried ⊆ taken := by
    intro name member
    obtain ⟨i, bound, rfl⟩ := List.mem_map.mp member
    exact all i (List.mem_range.mp bound)
  have length := ((List.nodup_range.map different).subperm inside).length_le
  rwa [List.length_map, List.length_range] at length

theorem firstFree_not_mem (taken : List String) (name : String) (k : Nat) :
    firstFree taken name taken.length k ∉ taken := by
  obtain ⟨i, chosen, passed, spent⟩ := exists_firstFree_eq taken name taken.length k
  rw [chosen]
  intro clash
  obtain rfl := spent clash
  have different : Function.Injective fun i => suffixed name (k + i) :=
    fun i j same => Nat.add_left_cancel (suffixed_injective same)
  -- One more name has been tried than there are taken ones.
  have count : taken.length + 1 ≤ taken.length := le_length_of_taken different fun i bound => by
    rcases Nat.lt_succ_iff_lt_or_eq.mp bound with before | rfl
    · exact passed i before
    · exact clash
  exact Nat.not_succ_le_self _ count

theorem freeName_not_mem (taken : List String) (name : String) : freeName taken name ∉ taken := by
  unfold freeName
  split
  · exact firstFree_not_mem taken name 1
  · rename_i free
    exact fun member => free (List.contains_iff_mem.mpr member)

theorem not_mem_of_mem_uniqueNames {taken names : List String} {name : String}
    (member : name ∈ uniqueNames taken names) : name ∉ taken := by
  induction names generalizing taken with
  | nil => cases member
  | cons first rest ih =>
    rcases List.mem_cons.mp member with rfl | later
    · exact freeName_not_mem taken first
    · exact fun earlier => ih later (List.mem_cons_of_mem _ earlier)

theorem uniqueNames_nodup (taken names : List String) : (uniqueNames taken names).Nodup := by
  induction names generalizing taken with
  | nil => exact .nil
  | cons first rest ih =>
    refine List.nodup_cons.mpr ⟨fun later => ?_, ih _⟩
    exact not_mem_of_mem_uniqueNames later List.mem_cons_self

theorem uniqueNames_length (taken names : List String) :
    (uniqueNames taken names).length = names.length := by
  induction names generalizing taken with
  | nil => rfl
  | cons first rest ih => exact congrArg (· + 1) (ih _)

theorem numberedColumns_nodup (count : Nat) : (numberedColumns count).Nodup := by
  refine List.nodup_range.map fun i j same => ?_
  have numbers : i + 1 = j + 1 := toString_injective (by simpa using same)
  exact Nat.succ.inj numbers

theorem mem_columns_of_mem_toRow {columns fields : List String} {name : String}
    (bound : name ∈ (toRow columns fields).names) : name ∈ columns := by
  have member := NameMap.mem_names_ofList bound
  simp only [List.map_map, List.mem_map, Function.comp] at member
  obtain ⟨⟨column, field⟩, paired, rfl⟩ := member
  exact (List.of_mem_zip paired).1

theorem wellFormed_of_rows {columns : List String} (distinct : columns.Nodup)
    (records : List Record) :
    Table.WellFormed ⟨columns, records.map fun r => toRow columns r.fields⟩ := by
  refine ⟨distinct, fun row member name bound => ?_⟩
  obtain ⟨record, -, rfl⟩ := List.mem_map.mp member
  exact mem_columns_of_mem_toRow bound

theorem withHeader_wellFormed {cs : List Char} {t : Table} (read : withHeader cs = .ok t) :
    t.WellFormed := by
  unfold withHeader at read
  split at read
  · cases read
    exact ⟨.nil, fun _ member => absurd member List.not_mem_nil⟩
  · dsimp only at read
    split at read
    · cases read
    · cases read
      exact wellFormed_of_rows (uniqueNames_nodup _ _) _

theorem withoutHeader_wellFormed (cs : List Char) : (withoutHeader cs).WellFormed := by
  unfold withoutHeader
  split
  · exact ⟨.nil, fun _ member => absurd member List.not_mem_nil⟩
  · exact wellFormed_of_rows (numberedColumns_nodup _) _

theorem toTable_wellFormed {text : String} {hasHeader : Bool} {t : Table}
    (read : toTable text hasHeader = .ok t) : t.WellFormed := by
  unfold toTable at read
  dsimp only at read
  split at read
  · cases found : withHeader (dropMark text.toList) with
    | error ragged => simp [found, Except.mapError] at read
    | ok table =>
      simp only [found, Except.mapError, Except.ok.injEq] at read
      exact read ▸ withHeader_wellFormed found
  · cases read
    exact withoutHeader_wellFormed _

end RecipeEngine.Csv
