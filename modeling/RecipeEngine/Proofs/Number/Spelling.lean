import Mathlib.Data.List.TakeWhile
import RecipeEngine.Number.Numeral

namespace RecipeEngine.Numeral

def Digits (cs : List Char) : Prop := ∀ c ∈ cs, c.isDigit = true

/-- A sign, or none, and whether it is a minus. -/
inductive SpellsSign : Bool → List Char → Prop
  | none : SpellsSign false []
  | plus : SpellsSign false ['+']
  | minus : SpellsSign true ['-']

/-- A point and the digits after it, or nothing. -/
inductive SpellsFraction : List Char → List Char → Prop
  | none : SpellsFraction [] []
  | point {digits} : Digits digits → SpellsFraction digits ('.' :: digits)

/-- The letter `e`, a sign and digits, or nothing. -/
inductive SpellsPower : Option (Bool × List Char) → List Char → Prop
  | none : SpellsPower none []
  | letter {c negative sign digits} : c = 'e' ∨ c = 'E' → SpellsSign negative sign →
      Digits digits → digits ≠ [] → SpellsPower (some (negative, digits)) (c :: (sign ++ digits))

inductive Spells : Numeral → List Char → Prop
  | parts {whole fraction power point exponent} : Digits whole → SpellsFraction fraction point →
      SpellsPower power exponent → ¬ (whole = [] ∧ fraction = []) →
      Spells ⟨whole, fraction, power⟩ (whole ++ (point ++ exponent))

def IsMark (c : Char) : Prop := c = '.' ∨ c = 'e' ∨ c = 'E' ∨ c = '+' ∨ c = '-'

/-- A class of digits: it has those of ASCII and no character that structures a numeral. -/
structure IsDigitClass (digit : Char → Bool) : Prop where
  ascii : ∀ c, c.isDigit = true → digit c = true
  mark : ∀ c, IsMark c → digit c = false

def Ends (digit : Char → Bool) (rest : List Char) : Prop :=
  ∀ c ∈ rest.head?, digit c = false ∧ ¬ IsMark c

theorem Digits.not_mark {c : Char} (isDigit : c.isDigit = true) : ¬ IsMark c := by
  rintro (rfl | rfl | rfl | rfl | rfl) <;> exact absurd isDigit (by decide)

theorem Digits.append {left right : List Char} (first : Digits left) (last : Digits right) :
    Digits (left ++ right) :=
  fun c member => (List.mem_append.mp member).elim (first c) (last c)

theorem ends_nil {digit : Char → Bool} : Ends digit [] := nofun

theorem Ends.ascii {digit : Char → Bool} {rest : List Char} (isClass : IsDigitClass digit)
    (ends : Ends digit rest) : Ends Char.isDigit rest := by
  intro c head
  obtain ⟨noDigit, noMark⟩ := ends c head
  refine ⟨?_, noMark⟩
  rw [← Bool.not_eq_true]
  intro isDigit
  rw [isClass.ascii c isDigit] at noDigit
  cases noDigit

section Maximal

variable {α : Type} {p : α → Bool} {rest : List α}

theorem takeWhile_append (stops : ∀ a ∈ rest.head?, p a = false) (body : List α) :
    (body ++ rest).takeWhile p = body.takeWhile p := by
  induction body with
  | nil =>
    cases rest with
    | nil => rfl
    | cons a tail => simp [stops a rfl]
  | cons a body ih => simp only [List.cons_append, List.takeWhile_cons, ih]

theorem dropWhile_append (stops : ∀ a ∈ rest.head?, p a = false) (body : List α) :
    (body ++ rest).dropWhile p = body.dropWhile p ++ rest := by
  induction body with
  | nil =>
    cases rest with
    | nil => rfl
    | cons a tail => simp [stops a rfl]
  | cons a body ih =>
    simp only [List.cons_append, List.dropWhile_cons, ih]
    split <;> rfl

theorem takeWhile_eq_left {body : List α} (inside : ∀ a ∈ body, p a = true)
    (stops : ∀ a ∈ rest.head?, p a = false) : (body ++ rest).takeWhile p = body := by
  rw [takeWhile_append stops, List.takeWhile_eq_self_iff.mpr inside]

theorem dropWhile_eq_right {body : List α} (inside : ∀ a ∈ body, p a = true)
    (stops : ∀ a ∈ rest.head?, p a = false) : (body ++ rest).dropWhile p = rest := by
  rw [dropWhile_append stops, List.dropWhile_eq_nil_iff.mpr inside, List.nil_append]

end Maximal

theorem isDigitClass_isDigit : IsDigitClass Char.isDigit where
  ascii _ isDigit := isDigit
  mark := by
    rintro c (rfl | rfl | rfl | rfl | rfl) <;> decide

/-- A sign is split off a text that does not begin with another one. -/
theorem SpellsSign.splitSign {negative : Bool} {sign body : List Char}
    (signed : SpellsSign negative sign) (bare : ∀ c ∈ body.head?, c ≠ '+' ∧ c ≠ '-') :
    splitSign (sign ++ body) = (negative, body) := by
  cases signed with
  | plus | minus => rfl
  | none =>
    cases body with
    | nil => rfl
    | cons c tail =>
      obtain ⟨plus, minus⟩ := bare c rfl
      simp [Numeral.splitSign, plus, minus]

theorem spellsSign_splitSign (cs : List Char) :
    ∃ sign, cs = sign ++ (splitSign cs).2 ∧ SpellsSign (splitSign cs).1 sign := by
  unfold splitSign
  split
  · exact ⟨_, rfl, .minus⟩
  · exact ⟨_, rfl, .plus⟩
  · exact ⟨_, rfl, .none⟩

section Scan

variable {digit : Char → Bool} {rest : List Char}

theorem Digits.inside (isClass : IsDigitClass digit) {cs : List Char} (digits : Digits cs) :
    ∀ c ∈ cs, digit c = true :=
  fun c member => isClass.ascii c (digits c member)

theorem Ends.boundary (ends : Ends digit rest) : ∀ c ∈ rest.head?, digit c = false :=
  fun c head => (ends c head).1

theorem Digits.head_bare {cs : List Char} (digits : Digits cs) (some : cs ≠ []) :
    ∀ c ∈ (cs ++ rest).head?, c ≠ '+' ∧ c ≠ '-' := by
  intro c head
  obtain ⟨first, tail, rfl⟩ := List.exists_cons_of_ne_nil some
  cases head
  have noMark := Digits.not_mark (digits c List.mem_cons_self)
  exact ⟨fun plus => noMark (by simp [IsMark, plus]), fun minus => noMark (by simp [IsMark, minus])⟩

theorem SpellsPower.scanPower (isClass : IsDigitClass digit) {power : Option (Bool × List Char)}
    {cs : List Char} (spelled : SpellsPower power cs) (ends : Ends digit rest) :
    scanPower digit (cs ++ rest) = (power, rest) := by
  cases spelled with
  | none =>
    cases rest with
    | nil => rfl
    | cons c tail =>
      have plain : ¬ (c = 'e' ∨ c = 'E') := by
        rintro (rfl | rfl) <;> exact (ends _ rfl).2 (by simp [IsMark])
      exact if_neg plain
  | @letter c negative sign digits isLetter signed isDigits some =>
    rw [List.cons_append, Numeral.scanPower, if_pos isLetter, List.append_assoc,
      signed.splitSign (isDigits.head_bare some)]
    dsimp only
    rw [takeWhile_eq_left (isDigits.inside isClass) ends.boundary,
      dropWhile_eq_right (isDigits.inside isClass) ends.boundary, if_neg (by simpa using some)]

/-- What may come after the fraction: an exponent, or the end of the numeral. -/
theorem SpellsPower.head (isClass : IsDigitClass digit) {power : Option (Bool × List Char)}
    {cs : List Char} (spelled : SpellsPower power cs) (ends : Ends digit rest) :
    ∀ c ∈ (cs ++ rest).head?, digit c = false ∧ c ≠ '.' := by
  cases spelled with
  | none => exact fun c head => ⟨ends.boundary c head, fun point => (ends c head).2 (.inl point)⟩
  | letter isLetter signed isDigits some =>
    intro c head
    cases head
    rcases isLetter with rfl | rfl
    · exact ⟨isClass.mark 'e' (by simp [IsMark]), by decide⟩
    · exact ⟨isClass.mark 'E' (by simp [IsMark]), by decide⟩

theorem SpellsFraction.scanFraction (isClass : IsDigitClass digit) {fraction cs : List Char}
    (spelled : SpellsFraction fraction cs)
    (ends : ∀ c ∈ rest.head?, digit c = false ∧ c ≠ '.') :
    scanFraction digit (cs ++ rest) = (fraction, rest) := by
  have boundary : ∀ c ∈ rest.head?, digit c = false := fun c head => (ends c head).1
  cases spelled with
  | none =>
    cases rest with
    | nil => rfl
    | cons c tail => simp [Numeral.scanFraction, (ends c rfl).2]
  | point isDigits =>
    rw [List.cons_append, Numeral.scanFraction,
      takeWhile_eq_left (isDigits.inside isClass) boundary,
      dropWhile_eq_right (isDigits.inside isClass) boundary]

theorem SpellsFraction.head (isClass : IsDigitClass digit) {fraction cs : List Char}
    (spelled : SpellsFraction fraction cs) (ends : ∀ c ∈ rest.head?, digit c = false ∧ c ≠ '.') :
    ∀ c ∈ (cs ++ rest).head?, digit c = false := by
  cases spelled with
  | none => exact fun c head => (ends c head).1
  | point _ =>
    intro c head
    cases head
    exact isClass.mark '.' (.inl rfl)

/-- The scan takes a numeral to its end and leaves the rest, whatever class of digits it goes by. -/
theorem Spells.scan (isClass : IsDigitClass digit) {n : Numeral} {cs : List Char}
    (spelled : Spells n cs) (ends : Ends digit rest) :
    scan digit (cs ++ rest) = some (n, rest) := by
  cases spelled with
  | @parts whole fraction power _ _ isDigits point exponent some =>
    have afterPoint := exponent.head isClass ends
    have afterWhole := point.head isClass afterPoint
    have nonempty : ¬ (whole.isEmpty && fraction.isEmpty) = true := by simpa using some
    rw [List.append_assoc, List.append_assoc, Numeral.scan,
      takeWhile_eq_left (isDigits.inside isClass) afterWhole,
      dropWhile_eq_right (isDigits.inside isClass) afterWhole,
      point.scanFraction isClass afterPoint]
    dsimp only
    rw [if_neg nonempty, exponent.scanPower isClass ends]

end Scan

theorem digits_takeWhile (cs : List Char) : Digits (cs.takeWhile Char.isDigit) :=
  fun _ member => List.mem_takeWhile_imp member

theorem spellsPower_scanPower (cs : List Char) :
    ∃ spelled, cs = spelled ++ (scanPower Char.isDigit cs).2 ∧
      SpellsPower (scanPower Char.isDigit cs).1 spelled := by
  cases cs with
  | nil => exact ⟨[], rfl, .none⟩
  | cons c after =>
    rw [scanPower]
    split
    · rename_i isLetter
      obtain ⟨sign, whole, signed⟩ := spellsSign_splitSign after
      dsimp only
      split
      · exact ⟨[], rfl, .none⟩
      · rename_i some
        refine ⟨c :: (sign ++ (splitSign after).2.takeWhile Char.isDigit), ?_,
          .letter isLetter signed (digits_takeWhile _) (by simpa using some)⟩
        rw [List.cons_append, List.append_assoc, List.takeWhile_append_dropWhile, ← whole]
    · exact ⟨[], rfl, .none⟩

theorem spellsFraction_scanFraction (cs : List Char) :
    ∃ spelled, cs = spelled ++ (scanFraction Char.isDigit cs).2 ∧
      SpellsFraction (scanFraction Char.isDigit cs).1 spelled := by
  unfold scanFraction
  split
  · rename_i after
    refine ⟨'.' :: after.takeWhile Char.isDigit, ?_, .point (digits_takeWhile after)⟩
    rw [List.cons_append, List.takeWhile_append_dropWhile]
  · exact ⟨[], rfl, .none⟩

theorem spells_of_scan {n : Numeral} {cs rest : List Char}
    (scanned : scan Char.isDigit cs = some (n, rest)) :
    ∃ body, cs = body ++ rest ∧ Spells n body := by
  rw [scan] at scanned
  obtain ⟨point, afterWhole, fraction⟩ := spellsFraction_scanFraction (cs.dropWhile Char.isDigit)
  obtain ⟨exponent, afterFraction, power⟩ :=
    spellsPower_scanPower (scanFraction Char.isDigit (cs.dropWhile Char.isDigit)).2
  dsimp only at scanned
  split at scanned
  · cases scanned
  · rename_i some
    cases scanned
    refine ⟨_, ?_, .parts (digits_takeWhile cs) fraction power (by simpa using some)⟩
    rw [List.append_assoc, List.append_assoc, ← afterFraction, ← afterWhole,
      List.takeWhile_append_dropWhile]

theorem SpellsFraction.digits {fraction cs : List Char} (spelled : SpellsFraction fraction cs) :
    Digits fraction := by
  cases spelled with
  | none => exact nofun
  | point digits => exact digits

theorem SpellsPower.digits {power : Option (Bool × List Char)} {cs : List Char}
    (spelled : SpellsPower power cs) : ∀ negative digits, power = some (negative, digits) →
      Digits digits := by
  cases spelled with
  | none => exact nofun
  | letter _ _ digits _ =>
    rintro _ _ ⟨⟩
    exact digits

theorem Spells.isAscii {n : Numeral} {cs : List Char} (spelled : Spells n cs) :
    n.isAscii = true := by
  cases spelled with
  | @parts whole fraction power _ _ digits point exponent _ =>
    have powerDigits : (power.map (·.2.all Char.isDigit)).getD true = true := by
      cases power with
      | none => rfl
      | some signed => exact List.all_eq_true.mpr (exponent.digits _ _ rfl)
    simp only [Numeral.isAscii, Bool.and_eq_true]
    exact ⟨⟨List.all_eq_true.mpr digits, List.all_eq_true.mpr point.digits⟩, powerDigits⟩

theorem Spells.toFloat? {n : Numeral} {cs : List Char} (spelled : Spells n cs) (negative : Bool) :
    n.toFloat? negative = some (n.value.toFloat negative) :=
  if_pos spelled.isAscii

theorem Spells.begins {n : Numeral} {cs : List Char} (spelled : Spells n cs) :
    ∃ c tail, cs = c :: tail ∧ (c.isDigit = true ∨ c = '.') := by
  cases spelled with
  | @parts whole fraction _ _ _ digits point exponent some =>
    cases whole with
    | cons c tail => exact ⟨c, _, rfl, .inl (digits c List.mem_cons_self)⟩
    | nil =>
      cases point with
      | none => exact absurd ⟨rfl, rfl⟩ some
      | point => exact ⟨'.', _, rfl, .inr rfl⟩

theorem SpellsSign.mark {negative : Bool} {sign : List Char} (signed : SpellsSign negative sign) :
    ∀ c ∈ sign, IsMark c := by
  cases signed <;> simp [IsMark]

theorem SpellsFraction.isDigit_or_mark {fraction point : List Char}
    (spelled : SpellsFraction fraction point) : ∀ c ∈ point, c.isDigit = true ∨ IsMark c := by
  cases spelled with
  | none => exact nofun
  | point digits =>
    exact List.forall_mem_cons.mpr ⟨.inr (.inl rfl), fun c here => .inl (digits c here)⟩

theorem SpellsPower.isDigit_or_mark {power : Option (Bool × List Char)} {exponent : List Char}
    (spelled : SpellsPower power exponent) : ∀ c ∈ exponent, c.isDigit = true ∨ IsMark c := by
  cases spelled with
  | none => exact nofun
  | letter isLetter signed digits _ =>
    have letter : IsMark _ := .inr (isLetter.imp id .inl)
    refine List.forall_mem_cons.mpr ⟨.inr letter, fun c here => ?_⟩
    rcases List.mem_append.mp here with inSign | inDigits
    · exact .inr (signed.mark c inSign)
    · exact .inl (digits c inDigits)

theorem Spells.isDigit_or_mark {n : Numeral} {cs : List Char} (spelled : Spells n cs) :
    ∀ c ∈ cs, c.isDigit = true ∨ IsMark c := by
  cases spelled with
  | parts digits point exponent _ =>
    intro c here
    rcases List.mem_append.mp here with inWhole | here
    · exact .inl (digits c inWhole)
    · exact (List.mem_append.mp here).elim (point.isDigit_or_mark c) (exponent.isDigit_or_mark c)

theorem Spells.isDigit {digit : Char → Bool} (isClass : IsDigitClass digit) {n : Numeral}
    {cs : List Char} (spelled : Spells n cs) : ∀ c ∈ cs, digit c = true → c.isDigit = true := by
  intro c here inside
  rcases spelled.isDigit_or_mark c here with isDigit | mark
  · exact isDigit
  · rw [isClass.mark c mark] at inside
    cases inside

theorem Spells.unique {m n : Numeral} {cs : List Char} (left : Spells m cs) (right : Spells n cs) :
    m = n := by
  have scanned := left.scan isDigitClass_isDigit ends_nil
  rw [right.scan isDigitClass_isDigit ends_nil] at scanned
  cases scanned
  rfl

/-- Digits with a point in them are a numeral without an exponent. -/
theorem spells_plain {whole fraction point : List Char} (digits : Digits whole)
    (spelled : SpellsFraction fraction point) (some : whole ≠ []) :
    Spells ⟨whole, fraction, none⟩ (whole ++ point) := by
  have parts := Spells.parts digits spelled .none fun none => some none.1
  rwa [List.append_nil] at parts

theorem Digits.spells {digits : List Char} (isDigits : Digits digits) (some : digits ≠ []) :
    Spells ⟨digits, [], none⟩ digits := by
  have spelled := spells_plain isDigits .none some
  rwa [List.append_nil] at spelled

end RecipeEngine.Numeral
