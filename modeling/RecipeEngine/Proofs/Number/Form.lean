import Mathlib.Computability.Language
import Mathlib.Data.Set.Finite.Lemmas
import RecipeEngine.Proofs.Number.Spelling

namespace RecipeEngine.Numeral

namespace Form

def digits (digit : Char → Bool) : Language Char := {cs | ∀ c ∈ cs, digit c = true}

def someDigits (digit : Char → Bool) : Language Char := {cs | cs ∈ digits digit ∧ cs ≠ []}

def optional (form : Language Char) : Language Char := 1 + form

def signed (form : Language Char) : Language Char := optional {['+'], ['-']} * form

def exponent (digit : Char → Bool) : Language Char :=
  {['e'], ['E']} * signed (someDigits digit)

def mantissa (digit : Char → Bool) : Language Char :=
  someDigits digit * optional {['.']} * digits digit + {['.']} * someDigits digit

/-- `(D+ .? D* | . D+) ([eE] [+-]? D+)?` -/
def numeral (digit : Char → Bool) : Language Char :=
  mantissa digit * optional (exponent digit)

/-- `Infinity | (D+ .? D* | . D+) ([eE] [+-]? D+)?` -/
def magnitude (digit : Char → Bool) : Language Char :=
  {infinityWord} + numeral digit

/-- `[+-]? (Infinity | (D+ .? D* | . D+) ([eE] [+-]? D+)?)` -/
def number (digit : Char → Bool) : Language Char :=
  signed (magnitude digit)

def integer (digit : Char → Bool) : Language Char :=
  signed (someDigits digit)

def IsBare (form : Language Char) : Prop :=
  ∀ body ∈ form, ∀ rest : List Char, ∀ c ∈ (body ++ rest).head?, c ≠ '+' ∧ c ≠ '-'

variable {digit : Char → Bool} {form : Language Char} {cs : List Char}

theorem mem_optional : cs ∈ optional form ↔ cs = [] ∨ cs ∈ form := by
  rw [optional, Language.mem_add, Language.mem_one]

theorem mem_signed : cs ∈ signed form ↔
    ∃ negative sign body, SpellsSign negative sign ∧ body ∈ form ∧ cs = sign ++ body := by
  rw [signed, Language.mem_mul]
  constructor
  · rintro ⟨sign, spelled, body, member, rfl⟩
    rcases mem_optional.mp spelled with rfl | rfl | rfl
    · exact ⟨_, _, body, .none, member, rfl⟩
    · exact ⟨_, _, body, .plus, member, rfl⟩
    · exact ⟨_, _, body, .minus, member, rfl⟩
  · rintro ⟨negative, sign, body, spelled, member, rfl⟩
    refine ⟨sign, mem_optional.mpr ?_, body, member, rfl⟩
    cases spelled with
    | none => exact .inl rfl
    | plus => exact .inr (.inl rfl)
    | minus => exact .inr (.inr rfl)

theorem mem_exponent : cs ∈ exponent digit ↔
    ∃ c body, (c = 'e' ∨ c = 'E') ∧ body ∈ signed (someDigits digit) ∧ cs = c :: body := by
  rw [exponent, Language.mem_mul]
  constructor
  · rintro ⟨letter, rfl | rfl, body, member, rfl⟩
    · exact ⟨'e', body, .inl rfl, member, rfl⟩
    · exact ⟨'E', body, .inr rfl, member, rfl⟩
  · rintro ⟨c, body, rfl | rfl, member, rfl⟩
    · exact ⟨['e'], .inl rfl, body, member, rfl⟩
    · exact ⟨['E'], .inr rfl, body, member, rfl⟩

/-- A mantissa has at most one point, and a digit on one side of it. -/
theorem mem_mantissa : cs ∈ mantissa digit ↔ ∃ whole point, whole ∈ digits digit ∧
    (point = [] ∧ whole ≠ [] ∨
      ∃ fraction ∈ digits digit, point = '.' :: fraction ∧ ¬ (whole = [] ∧ fraction = [])) ∧
    cs = whole ++ point := by
  rw [mantissa, Language.mem_add, Language.mem_mul, Language.mem_mul]
  constructor
  · rintro (⟨left, split, fraction, member, rfl⟩ | ⟨left, rfl, fraction, ⟨member, some⟩, rfl⟩)
    · obtain ⟨whole, ⟨inside, some⟩, point, spelled, rfl⟩ := Language.mem_mul.mp split
      rcases mem_optional.mp spelled with rfl | rfl
      · refine ⟨whole ++ fraction, [], ?_, .inl ⟨rfl, by simp [some]⟩, by simp⟩
        exact fun c here => (List.mem_append.mp here).elim (inside c) (member c)
      · have pointed : ¬ (whole = [] ∧ fraction = []) := fun none => some none.1
        exact ⟨whole, '.' :: fraction, inside, .inr ⟨fraction, member, rfl, pointed⟩, by simp⟩
    · have pointed : ¬ (([] : List Char) = [] ∧ fraction = []) := fun none => some none.2
      exact ⟨[], '.' :: fraction, nofun, .inr ⟨fraction, member, rfl, pointed⟩, rfl⟩
  · rintro ⟨whole, point, inside, ⟨rfl, some⟩ | ⟨fraction, member, rfl, some⟩, rfl⟩
    · have left : whole ∈ someDigits digit * optional {['.']} :=
        Language.mem_mul.mpr ⟨whole, ⟨inside, some⟩, [], mem_optional.mpr (.inl rfl), by simp⟩
      exact .inl ⟨whole, left, [], nofun, rfl⟩
    · by_cases empty : whole = []
      · subst empty
        exact .inr ⟨['.'], rfl, fraction, ⟨member, fun none => some ⟨rfl, none⟩⟩, rfl⟩
      · have left : whole ++ ['.'] ∈ someDigits digit * optional {['.']} :=
          Language.mem_mul.mpr ⟨whole, ⟨inside, empty⟩, ['.'], mem_optional.mpr (.inr rfl), rfl⟩
        exact .inl ⟨whole ++ ['.'], left, fraction, member, by simp⟩

theorem mem_magnitude : cs ∈ magnitude digit ↔ cs = infinityWord ∨ cs ∈ numeral digit := Iff.rfl

theorem digits_mono {less : Char → Bool} (more : ∀ c, less c = true → digit c = true)
    (member : cs ∈ digits less) : cs ∈ digits digit :=
  fun c here => more c (member c here)

end Form

open Form

section Scan

variable {digit : Char → Bool} {cs rest : List Char} {n : Numeral}

theorem splitSign_suffix (cs : List Char) : (splitSign cs).2 <:+ cs := by
  unfold splitSign
  split
  · exact List.suffix_cons _ _
  · exact List.suffix_cons _ _
  · exact List.suffix_refl _

theorem scanPower_suffix (digit : Char → Bool) (cs : List Char) :
    (scanPower digit cs).2 <:+ cs := by
  cases cs with
  | nil => exact List.suffix_refl _
  | cons c after =>
    rw [scanPower]
    split
    · dsimp only
      split
      · exact List.suffix_refl _
      · exact ((List.dropWhile_suffix digit).trans (splitSign_suffix after)).trans
          (List.suffix_cons c after)
    · exact List.suffix_refl _

theorem scanFraction_suffix (digit : Char → Bool) (cs : List Char) :
    (scanFraction digit cs).2 <:+ cs := by
  unfold scanFraction
  split
  · exact (List.dropWhile_suffix digit).trans (List.suffix_cons _ _)
  · exact List.suffix_refl _

theorem scan_eq_some_iff : scan digit cs = some (n, rest) ↔
    ¬ (cs.takeWhile digit = [] ∧ (scanFraction digit (cs.dropWhile digit)).1 = []) ∧
      n = ⟨cs.takeWhile digit, (scanFraction digit (cs.dropWhile digit)).1,
        (scanPower digit (scanFraction digit (cs.dropWhile digit)).2).1⟩ ∧
      rest = (scanPower digit (scanFraction digit (cs.dropWhile digit)).2).2 := by
  rw [scan]
  dsimp only
  split
  · rename_i none
    simp only [Bool.and_eq_true, List.isEmpty_iff] at none
    refine iff_of_false (fun same => ?_) fun both => both.1 none
    cases same
  · rename_i some
    simp only [Bool.and_eq_true, List.isEmpty_iff] at some
    simp only [Option.some.injEq, Prod.mk.injEq, some, not_false_eq_true, true_and]
    exact and_congr eq_comm eq_comm

theorem head_of_exponent {spelled : List Char} (isClass : IsDigitClass digit)
    (member : spelled ∈ Form.exponent digit) :
    ∃ c tail, spelled = c :: tail ∧ (c = 'e' ∨ c = 'E') ∧ digit c = false := by
  obtain ⟨c, tail, isLetter, -, rfl⟩ := mem_exponent.mp member
  refine ⟨c, tail, rfl, isLetter, isClass.mark c ?_⟩
  rcases isLetter with rfl | rfl <;> simp [IsMark]

theorem dropWhile_exponent {spelled : List Char} (isClass : IsDigitClass digit)
    (member : spelled ∈ Form.exponent digit) (rest : List Char) :
    (spelled ++ rest).dropWhile digit = spelled ++ rest := by
  obtain ⟨c, tail, rfl, -, stops⟩ := head_of_exponent isClass member
  simp [stops]

theorem scanFraction_exponent {spelled : List Char} (isClass : IsDigitClass digit)
    (member : spelled ∈ Form.exponent digit) (rest : List Char) :
    scanFraction digit (spelled ++ rest) = ([], spelled ++ rest) := by
  obtain ⟨c, tail, rfl, rfl | rfl, -⟩ := head_of_exponent isClass member <;> rfl

theorem bare_of_begins {c : Char} (isClass : IsDigitClass digit)
    (begins : digit c = true ∨ c = '.') : c ≠ '+' ∧ c ≠ '-' := by
  rcases begins with isDigit | rfl
  · constructor
    · rintro rfl
      rw [isClass.mark '+' (by simp [IsMark])] at isDigit
      cases isDigit
    · rintro rfl
      rw [isClass.mark '-' (by simp [IsMark])] at isDigit
      cases isDigit
  · decide

theorem isBare_someDigits (isClass : IsDigitClass digit) : IsBare (someDigits digit) := by
  rintro body ⟨inside, some⟩ rest c head
  obtain ⟨first, tail, rfl⟩ := List.exists_cons_of_ne_nil some
  cases head
  exact bare_of_begins isClass (.inl (inside c List.mem_cons_self))

theorem head_of_numeral {head : List Char} (member : head ∈ Form.numeral digit) :
    ∃ c tail, head = c :: tail ∧ (digit c = true ∨ c = '.') := by
  obtain ⟨left, mantissa, power, -, rfl⟩ := Language.mem_mul.mp member
  obtain ⟨whole, point, inside, shape, rfl⟩ := mem_mantissa.mp mantissa
  cases whole with
  | cons c tail => exact ⟨c, _, rfl, .inl (inside c List.mem_cons_self)⟩
  | nil =>
    rcases shape with ⟨-, some⟩ | ⟨fraction, -, rfl, -⟩
    · exact absurd rfl some
    · exact ⟨'.', _, rfl, .inr rfl⟩

theorem scanPower_exponent {spelled : List Char} (isClass : IsDigitClass digit)
    (member : spelled ∈ Form.exponent digit) (rest : List Char) :
    (scanPower digit (spelled ++ rest)).2 <:+ rest := by
  obtain ⟨c, after, isLetter, power, rfl⟩ := mem_exponent.mp member
  obtain ⟨negative, sign, body, signed, digits, rfl⟩ := mem_signed.mp power
  have bare := isBare_someDigits isClass body digits rest
  obtain ⟨inside, some⟩ := digits
  rw [List.cons_append, scanPower, if_pos isLetter, List.append_assoc, signed.splitSign bare]
  dsimp only
  rw [List.takeWhile_append_of_pos inside, if_neg (by simp [some]),
    List.dropWhile_append_of_pos inside]
  exact List.dropWhile_suffix digit

theorem scanPower_optional {spelled : List Char} (isClass : IsDigitClass digit)
    (member : spelled ∈ optional (Form.exponent digit)) (rest : List Char) :
    (scanPower digit ((spelled ++ rest).dropWhile digit)).2 <:+ rest := by
  rcases mem_optional.mp member with rfl | member
  · exact (scanPower_suffix digit _).trans (List.dropWhile_suffix digit)
  · rw [dropWhile_exponent isClass member]
    exact scanPower_exponent isClass member rest

/-- A text that goes on after a numeral has its scan end there or later. -/
theorem scan_append (isClass : IsDigitClass digit) {head : List Char}
    (member : head ∈ Form.numeral digit) (rest : List Char) :
    ∃ n left, scan digit (head ++ rest) = some (n, left) ∧ left <:+ rest := by
  obtain ⟨left, mantissa, power, exponent, rfl⟩ := Language.mem_mul.mp member
  obtain ⟨whole, point, inside, shape, rfl⟩ := mem_mantissa.mp mantissa
  rw [List.append_assoc, List.append_assoc]
  -- The point may come from the text after the numeral; then the scan goes on past its end.
  rcases shape with ⟨rfl, some⟩ | ⟨fraction, digits, rfl, some⟩
  · refine ⟨_, _, scan_eq_some_iff.mpr ⟨fun none => ?_, rfl, rfl⟩, ?_⟩
    · rw [List.takeWhile_append_of_pos inside] at none
      exact some (List.append_eq_nil_iff.mp none.1).1
    · rw [List.dropWhile_append_of_pos inside, List.nil_append]
      rcases mem_optional.mp exponent with rfl | member
      · exact (scanPower_suffix digit _).trans
          ((scanFraction_suffix digit _).trans (List.dropWhile_suffix digit))
      · rw [dropWhile_exponent isClass member, scanFraction_exponent isClass member]
        exact scanPower_exponent isClass member rest
  · have stops : digit '.' = false := isClass.mark '.' (.inl rfl)
    have point : (('.' :: fraction) ++ (power ++ rest)).dropWhile digit =
        '.' :: (fraction ++ (power ++ rest)) := by simp [stops]
    refine ⟨_, _, scan_eq_some_iff.mpr ⟨fun none => ?_, rfl, rfl⟩, ?_⟩
    · rw [List.takeWhile_append_of_pos inside, List.dropWhile_append_of_pos inside, point,
        scanFraction, List.takeWhile_append_of_pos digits] at none
      exact some ⟨(List.append_eq_nil_iff.mp none.1).1, (List.append_eq_nil_iff.mp none.2).1⟩
    · rw [List.dropWhile_append_of_pos inside, point, scanFraction,
        List.dropWhile_append_of_pos digits]
      exact scanPower_optional isClass exponent rest

/-- The exponent that the scan takes, if any; it has ASCII digits if its text has no others. -/
theorem exists_scanPower (digit : Char → Bool) (cs : List Char) :
    ∃ spelled ∈ optional (Form.exponent digit), cs = spelled ++ (scanPower digit cs).2 ∧
      ((∀ c ∈ spelled, digit c = true → c.isDigit = true) →
        ((scanPower digit cs).1.map (·.2.all Char.isDigit)).getD true = true) := by
  cases cs with
  | nil => exact ⟨[], mem_optional.mpr (.inl rfl), rfl, fun _ => rfl⟩
  | cons c after =>
    rw [scanPower]
    split
    · rename_i isLetter
      obtain ⟨sign, whole, signed⟩ := spellsSign_splitSign after
      dsimp only
      split
      · exact ⟨[], mem_optional.mpr (.inl rfl), rfl, fun _ => rfl⟩
      · rename_i some
        have inside : ∀ d ∈ (splitSign after).2.takeWhile digit, digit d = true :=
          fun d member => List.mem_takeWhile_imp member
        refine ⟨c :: (sign ++ (splitSign after).2.takeWhile digit), mem_optional.mpr (.inr ?_), ?_,
          fun ascii => ?_⟩
        · have digits : (splitSign after).2.takeWhile digit ∈ someDigits digit :=
            ⟨inside, by simpa using some⟩
          exact mem_exponent.mpr
            ⟨c, _, isLetter, mem_signed.mpr ⟨_, sign, _, signed, digits, rfl⟩, rfl⟩
        · rw [List.cons_append, List.append_assoc, List.takeWhile_append_dropWhile, ← whole]
        · refine List.all_eq_true.mpr fun d member => ascii d ?_ (inside d member)
          exact List.mem_cons_of_mem c (List.mem_append_right sign member)
    · exact ⟨[], mem_optional.mpr (.inl rfl), rfl, fun _ => rfl⟩

theorem exists_scanFraction (digit : Char → Bool) (cs : List Char) :
    ∃ point, (point = [] ∧ (scanFraction digit cs).1 = [] ∨
        point = '.' :: (scanFraction digit cs).1) ∧
      cs = point ++ (scanFraction digit cs).2 ∧ (scanFraction digit cs).1 ∈ digits digit := by
  unfold scanFraction
  split
  · rename_i after
    refine ⟨'.' :: after.takeWhile digit, .inr rfl, ?_, fun c => List.mem_takeWhile_imp⟩
    rw [List.cons_append, List.takeWhile_append_dropWhile]
  · exact ⟨[], .inl ⟨rfl, rfl⟩, rfl, nofun⟩

/-- What the scan takes is of the form, and has ASCII digits only if its text has no others. -/
theorem exists_scan (scanned : scan digit cs = some (n, rest)) :
    ∃ head ∈ Form.numeral digit, cs = head ++ rest ∧
      ((∀ c ∈ head, digit c = true → c.isDigit = true) → n.isAscii = true) := by
  obtain ⟨some, rfl, rfl⟩ := scan_eq_some_iff.mp scanned
  obtain ⟨point, shape, afterWhole, isDigits⟩ := exists_scanFraction digit (cs.dropWhile digit)
  obtain ⟨power, exponent, afterFraction, powerAscii⟩ :=
    exists_scanPower digit (scanFraction digit (cs.dropWhile digit)).2
  have inside : cs.takeWhile digit ∈ digits digit := fun c member => List.mem_takeWhile_imp member
  refine ⟨(cs.takeWhile digit ++ point) ++ power, ?_, ?_, fun ascii => ?_⟩
  · refine Language.mem_mul.mpr
      ⟨_, mem_mantissa.mpr ⟨_, point, inside, ?_, rfl⟩, power, exponent, rfl⟩
    rcases shape with ⟨rfl, none⟩ | same
    · exact .inl ⟨rfl, fun empty => some ⟨empty, none⟩⟩
    · exact .inr ⟨_, isDigits, same, some⟩
  · rw [List.append_assoc, List.append_assoc, ← afterFraction, ← afterWhole,
      List.takeWhile_append_dropWhile]
  · simp only [isAscii, Bool.and_eq_true, List.all_eq_true]
    refine ⟨⟨fun c member => ?_, fun c member => ?_⟩, powerAscii fun c member => ?_⟩
    · exact ascii c (by simp [member]) (inside c member)
    · refine ascii c ?_ (isDigits c member)
      rcases shape with ⟨-, none⟩ | same
      · rw [none] at member
        cases member
      · simp [same, member]
    · exact ascii c (by simp [member])

theorem takeWhile_isDigit (isClass : IsDigitClass digit)
    (ascii : ∀ c ∈ cs.takeWhile digit, c.isDigit = true) :
    cs.takeWhile Char.isDigit = cs.takeWhile digit ∧
      cs.dropWhile Char.isDigit = cs.dropWhile digit := by
  induction cs with
  | nil => exact ⟨rfl, rfl⟩
  | cons c cs ih =>
    cases inside : digit c with
    | true =>
      rw [List.takeWhile_cons_of_pos inside] at ascii
      obtain ⟨isDigit, later⟩ := List.forall_mem_cons.mp ascii
      simp [isDigit, inside, ih later]
    | false =>
      have other : c.isDigit = false := by
        rw [← Bool.not_eq_true]
        intro isDigit
        rw [isClass.ascii c isDigit] at inside
        cases inside
      simp [other, inside]

theorem scanFraction_isDigit (isClass : IsDigitClass digit)
    (ascii : ∀ c ∈ (scanFraction digit cs).1, c.isDigit = true) :
    scanFraction Char.isDigit cs = scanFraction digit cs := by
  unfold scanFraction at ascii ⊢
  split
  · obtain ⟨taken, left⟩ := takeWhile_isDigit isClass ascii
    rw [taken, left]
  · rfl

theorem scanPower_isDigit (isClass : IsDigitClass digit)
    (ascii : ((scanPower digit cs).1.map (·.2.all Char.isDigit)).getD true = true) :
    scanPower Char.isDigit cs = scanPower digit cs := by
  cases cs with
  | nil => rfl
  | cons c after =>
    rw [scanPower] at ascii ⊢
    rw [scanPower]
    split
    · rename_i isLetter
      rw [if_pos isLetter] at ascii
      dsimp only at ascii ⊢
      have digits : ∀ d ∈ (splitSign after).2.takeWhile digit, d.isDigit = true := by
        split at ascii
        · rename_i none
          rw [List.isEmpty_iff.mp none]
          intro d member
          cases member
        · exact List.all_eq_true.mp ascii
      obtain ⟨taken, left⟩ := takeWhile_isDigit isClass digits
      rw [taken, left]
    · rfl

theorem scan_isDigit (isClass : IsDigitClass digit) (scanned : scan digit cs = some (n, rest))
    (ascii : n.isAscii = true) : scan Char.isDigit cs = some (n, rest) := by
  obtain ⟨some, rfl, rfl⟩ := scan_eq_some_iff.mp scanned
  simp only [isAscii, Bool.and_eq_true, List.all_eq_true] at ascii
  obtain ⟨⟨whole, fraction⟩, power⟩ := ascii
  obtain ⟨taken, left⟩ := takeWhile_isDigit isClass whole
  have sameFraction := scanFraction_isDigit isClass fraction
  have samePower := scanPower_isDigit isClass power
  refine scan_eq_some_iff.mpr ⟨?_, ?_, ?_⟩
  · rwa [taken, left, sameFraction]
  · rw [taken, left, sameFraction, samePower]
  · rw [left, sameFraction, samePower]

theorem Spells.mem_numeral (isClass : IsDigitClass digit) (spelled : Spells n cs) :
    cs ∈ Form.numeral digit := by
  obtain ⟨head, member, whole, -⟩ := exists_scan (spelled.scan isClass ends_nil)
  rw [List.append_nil, List.append_nil] at whole
  exact whole ▸ member

theorem mem_numeral_isDigit : cs ∈ Form.numeral Char.isDigit ↔ ∃ n, Spells n cs := by
  refine ⟨fun member => ?_, fun ⟨n, spelled⟩ => spelled.mem_numeral isDigitClass_isDigit⟩
  obtain ⟨n, left, scanned, suffix⟩ := scan_append isDigitClass_isDigit member []
  obtain ⟨body, whole, spelled⟩ := spells_of_scan scanned
  rw [List.append_nil, List.suffix_nil.mp suffix, List.append_nil] at whole
  exact ⟨n, whole ▸ spelled⟩

end Scan

/-- The longest prefix of a text in a language. -/
structure IsLongest (form : Language Char) (cs head : List Char) : Prop where
  member : head ∈ form
  initial : head <+: cs
  longest : ∀ other ∈ form, other <+: cs → other.length ≤ head.length

section Longest

variable {form : Language Char} {digit : Char → Bool} {cs head rest : List Char} {n : Numeral}

theorem IsLongest.unique {other : List Char} (left : IsLongest form cs head)
    (right : IsLongest form cs other) : head = other := by
  have least := right.longest head left.member left.initial
  have most := left.longest other right.member right.initial
  exact (List.prefix_of_prefix_length_le left.initial right.initial least).eq_of_length
    (Nat.le_antisymm least most)

theorem isLongest_self (member : cs ∈ form) : IsLongest form cs cs :=
  ⟨member, List.prefix_refl cs, fun _ _ initial => initial.length_le⟩

theorem exists_isLongest (member : head ∈ form) (initial : head <+: cs) :
    ∃ longest, IsLongest form cs longest := by
  have finite : {other | other ∈ form ∧ other <+: cs}.Finite :=
    (List.finite_toSet cs.inits).subset fun other both => (List.mem_inits other cs).mpr both.2
  obtain ⟨longest, both, most⟩ := Set.exists_max_image _ List.length finite ⟨head, member, initial⟩
  exact ⟨longest, both.1, both.2, fun other isForm starts => most other ⟨isForm, starts⟩⟩

theorem isLongest_of_scan (isClass : IsDigitClass digit)
    (scanned : scan digit cs = some (n, rest)) :
    ∃ head, IsLongest (Form.numeral digit) cs head ∧ cs = head ++ rest ∧
      ((∀ c ∈ head, digit c = true → c.isDigit = true) → n.isAscii = true) := by
  obtain ⟨head, member, rfl, ascii⟩ := exists_scan scanned
  refine ⟨head, ⟨member, List.prefix_append head rest, ?_⟩, rfl, ascii⟩
  rintro other isForm ⟨after, whole⟩
  -- The scan of `other ++ after` is this scan, and it leaves no more than `after`.
  obtain ⟨_, left, scanned', suffix⟩ := scan_append isClass isForm after
  rw [whole, scanned] at scanned'
  cases scanned'
  have lengths := congrArg List.length whole
  have less := suffix.length_le
  rw [List.length_append, List.length_append] at lengths
  omega

theorem scan_eq_none_iff (isClass : IsDigitClass digit) :
    scan digit cs = none ↔ ∀ head ∈ Form.numeral digit, ¬ head <+: cs := by
  constructor
  · rintro none head member ⟨rest, rfl⟩
    obtain ⟨_, _, scanned, -⟩ := scan_append isClass member rest
    rw [none] at scanned
    cases scanned
  · intro absent
    cases scanned : scan digit cs with
    | none => rfl
    | some taken =>
      obtain ⟨head, longest, -⟩ := isLongest_of_scan isClass scanned
      exact absurd longest.initial (absent head longest.member)

/-- The scan has a value exactly if the longest prefix of the form is a numeral. -/
theorem scan_toFloat?_iff (isClass : IsDigitClass digit) {negative : Bool} {x : Float} :
    (∃ n rest, scan digit cs = some (n, rest) ∧ n.toFloat? negative = some x) ↔
      ∃ head, IsLongest (Form.numeral digit) cs head ∧
        ∃ n, Spells n head ∧ n.value.toFloat negative = x := by
  constructor
  · rintro ⟨n, rest, scanned, value⟩
    have ascii : n.isAscii = true := by
      rw [toFloat?] at value
      split at value
      · assumption
      · cases value
    obtain ⟨head, longest, whole, -⟩ := isLongest_of_scan isClass scanned
    obtain ⟨body, same, spelled⟩ := spells_of_scan (scan_isDigit isClass scanned ascii)
    rw [whole, List.append_left_inj] at same
    rw [spelled.toFloat?, Option.some_inj] at value
    exact ⟨head, longest, n, same ▸ spelled, value⟩
  · rintro ⟨head, longest, n, spelled, rfl⟩
    cases scanned : scan digit cs with
    | none =>
      have absent := (scan_eq_none_iff isClass).mp scanned
      exact absurd longest.initial (absent head longest.member)
    | some taken =>
      obtain ⟨m, rest⟩ := taken
      obtain ⟨other, longest', whole, ascii⟩ := isLongest_of_scan isClass scanned
      obtain rfl := longest.unique longest'
      obtain ⟨body, same, spelled'⟩ :=
        spells_of_scan (scan_isDigit isClass scanned (ascii (spelled.isDigit isClass)))
      rw [whole, List.append_left_inj] at same
      obtain rfl := (same ▸ spelled').unique spelled
      exact ⟨m, rest, rfl, spelled.toFloat? negative⟩

end Longest

end RecipeEngine.Numeral
