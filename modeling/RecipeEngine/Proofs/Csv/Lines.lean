import Mathlib.Data.List.Induction
import RecipeEngine.Proofs.Csv.Rows

namespace RecipeEngine.Csv

namespace Progress

def counted (p : Progress) (c : Char) : Progress :=
  if c = '\n' then { p with line := p.line + 1 } else p

section Step

variable (p : Progress) (c : Char)

@[simp] theorem counted_mode : (p.counted c).mode = p.mode := by
  unfold counted
  split <;> rfl

@[simp] theorem counted_records : (p.counted c).records = p.records := by
  unfold counted
  split <;> rfl

@[simp] theorem counted_recordLine : (p.counted c).recordLine = p.recordLine := by
  unfold counted
  split <;> rfl

theorem counted_line : (p.counted c).line = p.line + [c].count '\n' := by
  unfold counted
  split
  · rename_i feed
    rw [feed]
    rfl
  · rename_i other
    rw [List.count_eq_zero_of_not_mem (by simpa using Ne.symm other)]
    rfl

structure Within (p q : Progress) : Prop where
  mode : q.mode ≠ .betweenRecords
  records : q.records = p.records
  line : q.line = p.line
  recordLine : q.recordLine = p.recordLine

/-- The reader ends a record, and will number the next one by the line that it has come to. -/
structure Ended (p q : Progress) : Prop where
  mode : q.mode = .betweenRecords
  records : ∃ fields, q.records = ⟨fields, p.recordLine⟩ :: p.records
  line : q.line = p.line
  recordLine : q.recordLine = p.line

theorem within_push {mode : Mode} (inside : mode ≠ .betweenRecords) : p.Within (p.push mode c) :=
  ⟨inside, rfl, rfl, rfl⟩

theorem within_endField : p.Within p.endField :=
  ⟨nofun, rfl, rfl, rfl⟩

theorem ended_endRecord : p.Ended p.endRecord :=
  ⟨rfl, ⟨_, rfl⟩, rfl, rfl⟩

theorem openField_cases :
    (isTerminator c = true ∧ p.Ended (p.openField c)) ∨
      (isTerminator c = false ∧ p.Within (p.openField c)) := by
  unfold openField
  split
  · rename_i quote
    exact .inr ⟨quote ▸ by decide, ⟨nofun, rfl, rfl, rfl⟩⟩
  · split
    · rename_i comma
      exact .inr ⟨comma ▸ by decide, p.within_endField⟩
    · split
      · rename_i terminator
        exact .inl ⟨terminator, p.ended_endRecord⟩
      · rename_i other
        exact .inr ⟨Bool.not_eq_true _ ▸ other, p.within_push c nofun⟩

theorem separator_cases :
    p.Within (if c = ',' then p.endField else if isTerminator c then p.endRecord
        else p.push .plain c) ∨
      p.Ended (if c = ',' then p.endField else if isTerminator c then p.endRecord
        else p.push .plain c) := by
  split
  · exact .inl p.within_endField
  · split
    · exact .inr p.ended_endRecord
    · exact .inl (p.within_push c nofun)

/-- Between records a line end is passed over, and any other character begins a record. In a record
the reader goes on, or it ends the record. -/
theorem step_cases :
    (p.mode = .betweenRecords ∧ isTerminator c = true ∧ p.step c = p.counted c) ∨
      (p.mode = .betweenRecords ∧ isTerminator c = false ∧ (p.counted c).Within (p.step c)) ∨
      (p.mode ≠ .betweenRecords ∧
        ((p.counted c).Within (p.step c) ∨ (p.counted c).Ended (p.step c))) := by
  rw [step, ← counted, counted_mode]
  cases mode : p.mode with
  | betweenRecords =>
    dsimp only
    rcases (p.counted c).openField_cases c with ⟨terminator, -⟩ | ⟨other, within⟩
    · rw [if_pos terminator]
      exact .inl ⟨rfl, terminator, rfl⟩
    · rw [if_neg (Bool.not_eq_true _ ▸ other)]
      exact .inr (.inl ⟨rfl, other, within⟩)
  | fieldStart =>
    dsimp only
    rcases (p.counted c).openField_cases c with ⟨-, ended⟩ | ⟨-, within⟩
    · exact .inr (.inr ⟨nofun, .inr ended⟩)
    · exact .inr (.inr ⟨nofun, .inl within⟩)
  | plain => exact .inr (.inr ⟨nofun, (p.counted c).separator_cases c⟩)
  | quoted =>
    dsimp only
    refine .inr (.inr ⟨nofun, .inl ?_⟩)
    split
    · exact ⟨nofun, rfl, rfl, rfl⟩
    · exact (p.counted c).within_push c nofun
  | afterQuote =>
    dsimp only
    refine .inr (.inr ⟨nofun, ?_⟩)
    split
    · exact .inl ((p.counted c).within_push c nofun)
    · exact (p.counted c).separator_cases c

theorem line_step : (p.step c).line = p.line + [c].count '\n' := by
  rw [← counted_line]
  rcases p.step_cases c with ⟨-, -, same⟩ | ⟨-, -, within⟩ | ⟨-, within | ended⟩
  · rw [same]
  · exact within.line
  · exact within.line
  · exact ended.line

theorem length_records_step : p.records.length ≤ (p.step c).records.length := by
  rw [← p.counted_records c]
  rcases p.step_cases c with ⟨-, -, same⟩ | ⟨-, -, within⟩ | ⟨-, within | ended⟩
  · exact Nat.le_of_eq (by rw [same])
  · exact Nat.le_of_eq (congrArg List.length within.records.symm)
  · exact Nat.le_of_eq (congrArg List.length within.records.symm)
  · obtain ⟨fields, records⟩ := ended.records
    rw [records]
    exact Nat.le_succ _

end Step

def after (cs : List Char) : Progress := cs.foldl step start

theorem after_concat (cs : List Char) (c : Char) : after (cs ++ [c]) = (after cs).step c := by
  rw [after, List.foldl_append, List.foldl_cons, List.foldl_nil, after]

theorem line_after (cs : List Char) : (after cs).line = 1 + cs.count '\n' := by
  induction cs using List.reverseRecOn with
  | nil => rfl
  | append_singleton cs c ih =>
    rw [after_concat, line_step, ih, List.count_append, Nat.add_assoc]

theorem length_records_after (cs more : List Char) :
    (after cs).records.length ≤ (after (cs ++ more)).records.length := by
  induction more using List.reverseRecOn with
  | nil => exact Nat.le_of_eq (by rw [List.append_nil])
  | append_singleton more c ih =>
    rw [← List.append_assoc, after_concat]
    exact Nat.le_trans ih (length_records_step _ _)

end Progress

open Progress (after after_concat isTerminator)

/-- The shortest text after which so many records have been read, and line ends after it. -/
structure Passed (index : Nat) (earlier gap : List Char) : Prop where
  read : (after earlier).records.length = index
  shortest : ∀ front c, earlier = front ++ [c] → (after front).records.length < index
  passed : ∀ c ∈ gap, isTerminator c = true

/-- The record with an index begins with the first character of `rest`. -/
structure Begins (index : Nat) (earlier gap rest : List Char) : Prop
    extends Passed index earlier gap where
  first : ∃ c ∈ rest.head?, isTerminator c = false

/-- A line is one more than the line feeds up to the end of the record before. -/
def Numbered (cs : List Char) (index line : Nat) : Prop :=
  ∃ earlier gap rest, cs = earlier ++ gap ++ rest ∧ Begins index earlier gap rest ∧
    line = 1 + earlier.count '\n'

section Begins

variable {cs earlier gap rest : List Char} {index line : Nat} {c : Char}

theorem Begins.append (begins : Begins index earlier gap rest) (more : List Char) :
    Begins index earlier gap (rest ++ more) := by
  refine ⟨begins.toPassed, ?_⟩
  obtain ⟨c, head, other⟩ := begins.first
  obtain ⟨tail, rfl⟩ := List.head?_eq_some_iff.mp head
  exact ⟨c, rfl, other⟩

theorem Numbered.append (numbered : Numbered cs index line) (more : List Char) :
    Numbered (cs ++ more) index line := by
  obtain ⟨earlier, gap, rest, rfl, begins, number⟩ := numbered
  exact ⟨earlier, gap, rest ++ more, List.append_assoc _ _ _, begins.append more, number⟩

theorem Passed.concat (passed : Passed index earlier gap) (terminator : isTerminator c = true) :
    Passed index earlier (gap ++ [c]) := by
  refine ⟨passed.read, passed.shortest, fun d member => ?_⟩
  rcases List.mem_append.mp member with former | last
  · exact passed.passed d former
  · cases List.mem_singleton.mp last
    exact terminator

theorem Passed.begins (passed : Passed index earlier gap) (other : isTerminator c = false) :
    Begins index earlier gap [c] :=
  ⟨passed, c, rfl, other⟩

/-- What the reader knows of a text that it has read: where the record that it is in begins, or
where it has ended the last one, and where all others began. -/
structure Traced (cs : List Char) : Prop where
  between : (after cs).mode = .betweenRecords → ∃ earlier gap, cs = earlier ++ gap ∧
    Passed (after cs).records.length earlier gap ∧
    (after cs).recordLine = 1 + earlier.count '\n'
  inside : (after cs).mode ≠ .betweenRecords →
    Numbered cs (after cs).records.length (after cs).recordLine
  done : ∀ i r, (after cs).records.reverse[i]? = some r → Numbered cs i r.line

theorem traced_nil : Traced [] where
  between _ := ⟨[], [], rfl, ⟨rfl, fun front c empty => by simp at empty, nofun⟩, rfl⟩
  inside other := absurd rfl other
  done i r found := by cases found

section Step

variable (traced : Traced cs)

include traced

theorem Traced.done_of_records (same : (after (cs ++ [c])).records = (after cs).records) :
    ∀ i r, (after (cs ++ [c])).records.reverse[i]? = some r → Numbered (cs ++ [c]) i r.line := by
  intro i r found
  rw [same] at found
  exact (traced.done i r found).append [c]

/-- A record that is ended now comes after all others and has the number noted for it. -/
theorem Traced.numbered_of_ended (inside : (after cs).mode ≠ .betweenRecords)
    (fields : List String) :
    ∀ i r, (⟨fields, (after cs).recordLine⟩ :: (after cs).records : List Record).reverse[i]? =
      some r → Numbered cs i r.line := by
  intro i r found
  rw [List.reverse_cons] at found
  rcases Nat.lt_trichotomy i (after cs).records.length with former | last | beyond
  · rw [List.getElem?_append_left (by rwa [List.length_reverse])] at found
    exact traced.done i r found
  · rw [last, ← List.length_reverse, List.getElem?_concat_length] at found
    cases found
    exact last ▸ traced.inside inside
  · rw [List.getElem?_eq_none (by simpa using Nat.succ_le_of_lt beyond)] at found
    cases found

theorem Traced.concat_pass (mode : (after cs).mode = .betweenRecords)
    (terminator : isTerminator c = true) (passed : after (cs ++ [c]) = (after cs).counted c) :
    Traced (cs ++ [c]) := by
  have records : (after (cs ++ [c])).records = (after cs).records := by
    rw [passed, Progress.counted_records]
  refine ⟨fun _ => ?_, fun inside => ?_, traced.done_of_records records⟩
  · obtain ⟨earlier, gap, rfl, behind, number⟩ := traced.between mode
    refine ⟨earlier, gap ++ [c], List.append_assoc _ _ _, ?_, ?_⟩
    · rw [records]
      exact behind.concat terminator
    · rw [passed, Progress.counted_recordLine, number]
  · rw [passed, Progress.counted_mode] at inside
    exact absurd mode inside

theorem Traced.concat_begin (mode : (after cs).mode = .betweenRecords)
    (other : isTerminator c = false)
    (within : ((after cs).counted c).Within (after (cs ++ [c]))) : Traced (cs ++ [c]) := by
  have records : (after (cs ++ [c])).records = (after cs).records := by
    rw [within.records, Progress.counted_records]
  refine ⟨fun between => absurd between within.mode, fun _ => ?_,
    traced.done_of_records records⟩
  obtain ⟨earlier, gap, parts, behind, number⟩ := traced.between mode
  rw [records, within.recordLine, Progress.counted_recordLine, number]
  exact ⟨earlier, gap, [c], by rw [parts], behind.begins other, rfl⟩

theorem Traced.concat_within (inside : (after cs).mode ≠ .betweenRecords)
    (within : ((after cs).counted c).Within (after (cs ++ [c]))) : Traced (cs ++ [c]) := by
  have records : (after (cs ++ [c])).records = (after cs).records := by
    rw [within.records, Progress.counted_records]
  refine ⟨fun between => absurd between within.mode, fun _ => ?_,
    traced.done_of_records records⟩
  rw [records, within.recordLine, Progress.counted_recordLine]
  exact (traced.inside inside).append [c]

theorem Traced.concat_ended (inside : (after cs).mode ≠ .betweenRecords)
    (ended : ((after cs).counted c).Ended (after (cs ++ [c]))) : Traced (cs ++ [c]) := by
  obtain ⟨fields, records⟩ := ended.records
  rw [Progress.counted_records, Progress.counted_recordLine] at records
  refine ⟨fun _ => ⟨cs ++ [c], [], by rw [List.append_nil], ⟨rfl, ?_, nofun⟩, ?_⟩,
    fun inside => absurd ended.mode inside, fun i r found => ?_⟩
  · intro front d split
    obtain ⟨rfl, -⟩ := List.append_inj' split rfl
    rw [records]
    exact Nat.lt_succ_self _
  · rw [ended.recordLine, Progress.counted_line, Progress.line_after, List.count_append,
      Nat.add_assoc]
  · rw [records] at found
    exact (traced.numbered_of_ended inside fields i r found).append [c]

end Step

theorem traced (cs : List Char) : Traced cs := by
  -- The reader folds over the text, so each further character comes at its end.
  induction cs using List.reverseRecOn with
  | nil => exact traced_nil
  | append_singleton cs c ih =>
    have step := after_concat cs c
    rcases (after cs).step_cases c with
      ⟨mode, terminator, same⟩ | ⟨mode, other, within⟩ | ⟨inside, within | ended⟩
    · exact ih.concat_pass mode terminator (step.trans same)
    · exact ih.concat_begin mode other (step ▸ within)
    · exact ih.concat_within inside (step ▸ within)
    · exact ih.concat_ended inside (step ▸ ended)

/-- Every record of a text has the number of the line feeds up to the end of the record before. -/
theorem numbered_of_finish {r : Record} (found : (after cs).finish[index]? = some r) :
    Numbered cs index r.line := by
  have ended := (after cs).ended_endRecord
  unfold Progress.finish at found
  cases mode : (after cs).mode with
  | betweenRecords =>
    rw [mode] at found
    exact (traced cs).done index r found
  | _ =>
    rw [mode] at found
    exact (traced cs).numbered_of_ended (mode ▸ nofun) _ index r found

theorem Passed.eq_nil_of_longer {more gap' : List Char} (passed : Passed index earlier gap)
    (longer : Passed index (earlier ++ more) gap') : more = [] := by
  rcases List.eq_nil_or_concat' more with empty | ⟨front, c, rfl⟩
  · exact empty
  · have short := longer.shortest (earlier ++ front) c (List.append_assoc _ _ _).symm
    have read := Progress.length_records_after earlier front
    rw [passed.read] at read
    omega

theorem Begins.eq_nil_of_longer {more rest' : List Char}
    (begins : Begins index earlier gap (more ++ rest'))
    (longer : Passed index earlier (gap ++ more)) : more = [] := by
  cases more with
  | nil => rfl
  | cons c tail =>
    obtain ⟨d, head, other⟩ := begins.first
    cases head
    have terminator := longer.passed c (by simp)
    cases terminator.symm.trans other

theorem Begins.unique {earlier' gap' rest' : List Char} (begins : Begins index earlier gap rest)
    (begins' : Begins index earlier' gap' rest')
    (same : earlier ++ gap ++ rest = earlier' ++ gap' ++ rest') :
    earlier = earlier' ∧ gap = gap' := by
  rw [List.append_assoc, List.append_assoc] at same
  -- Of two starts of one text one is the longer; what it has more is read or passed over twice.
  have front : earlier = earlier' := by
    rcases List.append_eq_append_iff.mp same with ⟨more, rfl, -⟩ | ⟨more, rfl, -⟩
    · rw [begins.toPassed.eq_nil_of_longer begins'.toPassed, List.append_nil]
    · rw [begins'.toPassed.eq_nil_of_longer begins.toPassed, List.append_nil]
  subst front
  refine ⟨rfl, ?_⟩
  rcases List.append_eq_append_iff.mp (List.append_cancel_left same) with
    ⟨more, rfl, rfl⟩ | ⟨more, rfl, rfl⟩
  · rw [begins.eq_nil_of_longer begins'.toPassed, List.append_nil]
  · rw [begins'.eq_nil_of_longer begins.toPassed, List.append_nil]

end Begins

/-- The line ends of a text: a line feed, a carriage return, or both in this order. -/
def lineEnds : List Char → Nat
  | [] => 0
  | '\r' :: '\n' :: rest => lineEnds rest + 1
  | c :: rest => lineEnds rest + if isTerminator c then 1 else 0

/-- The carriage returns of a text that no line feed follows. -/
def loneReturns : List Char → Nat
  | [] => 0
  | '\r' :: '\n' :: rest => loneReturns rest
  | c :: rest => loneReturns rest + if c = '\r' then 1 else 0

/-- The line that a text has come to after some characters, counted from one. -/
def lineAfter (before : List Char) : Nat := 1 + lineEnds before

theorem lineEnds_eq (cs : List Char) : lineEnds cs = cs.count '\n' + loneReturns cs := by
  fun_induction lineEnds cs with
  | case1 => rfl
  | case2 rest ih =>
    rw [ih, loneReturns]
    simp
    omega
  | case3 c rest other ih =>
    have single : (if isTerminator c then 1 else 0) =
        (if c = '\n' then 1 else 0) + if c = '\r' then 1 else 0 := by
      by_cases feed : c = '\n'
      · subst feed
        rfl
      · simp [isTerminator, feed]
    rw [ih, loneReturns.eq_3 _ _ other, List.count_cons, single]
    simp only [beq_iff_eq]
    omega

theorem loneReturns_concat (cs : List Char) :
    loneReturns (cs ++ ['\r']) = loneReturns cs + 1 := by
  fun_induction loneReturns cs with
  | case1 => rfl
  | case2 rest ih => exact ih
  | case3 c rest other ih =>
    have other' : ∀ tail, c = '\r' → rest ++ ['\r'] = '\n' :: tail → False := by
      intro tail isReturn split
      cases rest with
      | nil => cases split
      | cons d more =>
        obtain ⟨rfl, -⟩ := List.cons.inj split
        exact other more isReturn rfl
    rw [List.cons_append, loneReturns.eq_3 _ _ other', ih]
    omega

/-- No line is missed exactly if the line ends are line feeds, with or without a carriage return
before, and none stands between the end of a record and the next record. -/
theorem missed_eq_zero_iff {earlier gap : List Char} (passed : ∀ c ∈ gap, isTerminator c = true) :
    gap.count '\n' + loneReturns (earlier ++ gap) = 0 ↔ gap = [] ∧ loneReturns earlier = 0 := by
  rw [Nat.add_eq_zero_iff]
  constructor
  · rintro ⟨noFeed, noReturn⟩
    rcases List.eq_nil_or_concat' gap with rfl | ⟨front, c, rfl⟩
    · rw [List.append_nil] at noReturn
      exact ⟨rfl, noReturn⟩
    · have terminator := passed c (by simp)
      rcases Bool.or_eq_true_iff.mp terminator with feed | isReturn
      · cases of_decide_eq_true feed
        simp at noFeed
      · cases of_decide_eq_true isReturn
        rw [← List.append_assoc, loneReturns_concat] at noReturn
        cases noReturn
  · rintro ⟨rfl, noReturn⟩
    rw [List.append_nil]
    exact ⟨rfl, noReturn⟩

theorem exists_marks (cs : List Char) :
    ∃ marks, cs = marks ++ dropMark cs ∧ ∀ c ∈ marks, c = byteOrderMark := by
  cases cs with
  | nil => exact ⟨[], rfl, nofun⟩
  | cons c rest =>
    by_cases mark : c = byteOrderMark
    · exact ⟨[c], by rw [dropMark, if_pos mark]; rfl, by simpa using mark⟩
    · exact ⟨[], by rw [dropMark, if_neg mark]; rfl, nofun⟩

theorem lineEnds_marks {marks : List Char} (given : ∀ c ∈ marks, c = byteOrderMark)
    (cs : List Char) : lineEnds (marks ++ cs) = lineEnds cs := by
  induction marks with
  | nil => rfl
  | cons c rest ih =>
    obtain ⟨rfl, others⟩ := List.forall_mem_cons.mp given
    exact ih others

/-- The record with an index is the first that is longer or shorter than the first one. -/
structure FirstMisfit (text : String) (index : Nat) (r : Record) : Prop where
  found : (records (dropMark text.toList))[index]? = some r
  misfit : r.fields.length ≠ (headerFields text).length
  former : ∀ j < index, ∀ fields ∈ (fieldLists text)[j]?,
    fields.length = (headerFields text).length

/-- The record with an index begins after so much of a text, marks included. -/
structure Spot (text : String) (index : Nat) (marks earlier gap rest : List Char) : Prop where
  parts : text.toList = marks ++ (earlier ++ gap ++ rest)
  marks : ∀ c ∈ marks, c = byteOrderMark
  unmarked : dropMark (dropMark text.toList) = earlier ++ gap ++ rest
  begins : Begins index earlier gap rest

theorem firstMisfit_of_misfit? {text : String} {r : Record} (found : misfit? text = some r) :
    ∃ index, FirstMisfit text index r := by
  obtain ⟨misfit, index, bound, here, former⟩ := List.find?_eq_some_iff_getElem.mp found
  refine ⟨index, here ▸ List.getElem?_eq_getElem bound, of_decide_eq_true misfit, ?_⟩
  intro j before fields given
  rw [fieldLists, List.getElem?_map, List.getElem?_eq_getElem (Nat.lt_trans before bound)] at given
  cases given
  simpa using former j before

theorem exists_spot {text : String} {index line : Nat}
    (numbered : Numbered (dropMark (dropMark text.toList)) index line) :
    ∃ marks earlier gap rest, Spot text index marks earlier gap rest ∧
      line = 1 + earlier.count '\n' := by
  obtain ⟨earlier, gap, rest, unmarked, begins, number⟩ := numbered
  obtain ⟨outer, parts, outerMarks⟩ := exists_marks text.toList
  obtain ⟨inner, parts', innerMarks⟩ := exists_marks (dropMark text.toList)
  refine ⟨outer ++ inner, earlier, gap, rest, ⟨?_, ?_, unmarked, begins⟩, number⟩
  · rw [← unmarked, List.append_assoc, ← parts', ← parts]
  · exact List.forall_mem_append.mpr ⟨outerMarks, innerMarks⟩

/-- A text with a header is refused for the first record that is longer or shorter than the first
one, and the number in the message is one more than the line feeds up to the end of the record
before. The line on which that record begins is further on by the line feeds between the two records
and the carriage returns that stand alone. So the number is right exactly if the record before ends
with a line feed right before the record and no carriage return stands alone before that. -/
theorem misfit_line {text : String} {why : Failure} (refused : toTable text true = .error why) :
    ∃ index r marks earlier gap rest, FirstMisfit text index r ∧
      Spot text index marks earlier gap rest ∧
      why = .csvSyntax (Ragged.message
        ⟨1 + earlier.count '\n', (headerFields text).length, r.fields.length⟩) ∧
      1 + earlier.count '\n' + (gap.count '\n' + loneReturns (earlier ++ gap)) =
        lineAfter (marks ++ (earlier ++ gap)) ∧
      (1 + earlier.count '\n' = lineAfter (marks ++ (earlier ++ gap)) ↔
        gap = [] ∧ loneReturns earlier = 0) := by
  cases misfit : misfit? text with
  | none => cases (toTable_of_even misfit).symm.trans refused
  | some r =>
    obtain ⟨index, first⟩ := firstMisfit_of_misfit? misfit
    obtain ⟨marks, earlier, gap, rest, spot, number⟩ :=
      exists_spot (numbered_of_finish first.found)
    have message : why = .csvSyntax (Ragged.message
        ⟨1 + earlier.count '\n', (headerFields text).length, r.fields.length⟩) := by
      rw [← number]
      exact Except.error.inj (refused.symm.trans (toTable_of_misfit misfit))
    have line : 1 + earlier.count '\n' + (gap.count '\n' + loneReturns (earlier ++ gap)) =
        lineAfter (marks ++ (earlier ++ gap)) := by
      rw [lineAfter, lineEnds_marks spot.marks, lineEnds_eq, List.count_append]
      omega
    refine ⟨index, r, marks, earlier, gap, rest, first, spot, message, line, ?_⟩
    rw [← missed_eq_zero_iff spot.begins.passed, ← line]
    omega

/-- A text with line ends of all kinds, of which none stands alone before its short record. -/
def folded : String := "x,\"a\r\nb\"\r\n1,2\n3\r4"

theorem misfit_line_folded :
    toTable folded true = .error (.csvSyntax "line 4: expected 2 fields but found 1") ∧
      ∃ index r marks earlier gap rest, FirstMisfit folded index r ∧
        Spot folded index marks earlier gap rest ∧
        (1 + earlier.count '\n' = lineAfter (marks ++ (earlier ++ gap)) ↔
          gap = [] ∧ loneReturns earlier = 0) := by
  have misfit : misfit? folded = some ⟨["3"], 4⟩ := by decide +kernel
  have header : headerFields folded = ["x", "a\r\nb"] := by decide +kernel
  have refused : toTable folded true =
      .error (.csvSyntax "line 4: expected 2 fields but found 1") := by
    rw [toTable_of_misfit misfit, header]
    rfl
  obtain ⟨index, r, marks, earlier, gap, rest, first, spot, -, -, right⟩ := misfit_line refused
  exact ⟨refused, index, r, marks, earlier, gap, rest, first, spot, right⟩

/-- A short third line after lines that end with a carriage return and a line feed. -/
def returned : String := "a,b\r\n1,2\r\n3\r\n"

theorem returned_begins :
    Begins 2 "a,b\r\n1,2\r".toList ['\n'] "3\r\n".toList := by
  have whole : "a,b\r\n1,2\r".toList = "a,b\r\n1,2".toList ++ ['\r'] := by decide +kernel
  refine ⟨⟨by decide +kernel, ?_, List.forall_mem_singleton.mpr rfl⟩, '3', rfl, by decide⟩
  intro front c split
  obtain ⟨rfl, -⟩ := List.append_inj' (split.symm.trans whole) rfl
  decide +kernel

/-- The third line is called the second. -/
theorem not_misfit_line :
    toTable returned true = .error (.csvSyntax "line 2: expected 2 fields but found 1") ∧
      ¬ ∀ text why, toTable text true = .error why →
        ∃ index r marks earlier gap rest, FirstMisfit text index r ∧
          Spot text index marks earlier gap rest ∧
          why = .csvSyntax (Ragged.message
            ⟨lineAfter (marks ++ (earlier ++ gap)), (headerFields text).length,
              r.fields.length⟩) := by
  have header : headerFields returned = ["a", "b"] := by decide +kernel
  have short : misfit? returned = some ⟨["3"], 2⟩ := by decide +kernel
  have refused : toTable returned true =
      .error (.csvSyntax "line 2: expected 2 fields but found 1") := by
    rw [toTable_of_misfit short, header]
    rfl
  refine ⟨refused, fun claim => ?_⟩
  obtain ⟨index, r, marks, earlier, gap, rest, first, spot, message⟩ := claim _ _ refused
  have read : records (dropMark returned.toList) =
      [⟨["a", "b"], 1⟩, ⟨["1", "2"], 1⟩, ⟨["3"], 2⟩] := by decide +kernel
  have found := first.found
  have misfit := first.misfit
  rw [read] at found
  rw [header] at misfit message
  match index with
  | 0 | 1 =>
    cases found
    exact misfit rfl
  | 2 =>
    cases found
    have whole : dropMark (dropMark returned.toList) =
        "a,b\r\n1,2\r".toList ++ ['\n'] ++ "3\r\n".toList := by decide +kernel
    obtain ⟨rfl, rfl⟩ := spot.begins.unique returned_begins (spot.unmarked.symm.trans whole)
    rw [lineAfter, lineEnds_marks spot.marks] at message
    exact absurd message (by decide +kernel)
  | index + 3 => cases found

end RecipeEngine.Csv
