import RecipeEngine.Proofs.Number.Form
import RecipeEngine.Proofs.Number.Reading

namespace RecipeEngine

open RecipeEngine.Dyadic (withSign infinityBits)
open Text (isDecimalDigit dropBlanks)

namespace Numeral

open Form

/-- The number that an unsigned text is, with a sign before it. -/
inductive DenotesMagnitude (negative : Bool) : List Char → Float → Prop
  | infinity : DenotesMagnitude negative infinityWord (withSign negative infinityBits)
  | numeral {n cs} : Spells n cs → DenotesMagnitude negative cs (n.value.toFloat negative)

/-- The number that a text is: an infinity, or the double nearest to a numeral. -/
inductive Denotes : List Char → Float → Prop
  | signed {negative sign body x} : SpellsSign negative sign → DenotesMagnitude negative body x →
      Denotes (sign ++ body) x

section Signed

variable {form : Language Char} {digit : Char → Bool} {cs head : List Char} {x : Float}

theorem isLongest_signed {sign : List Char} (bare : IsBare form)
    (signed : SpellsSign (splitSign cs).1 sign) (whole : cs = sign ++ (splitSign cs).2) :
    IsLongest (Form.signed form) cs head ↔
      ∃ body, head = sign ++ body ∧ IsLongest form (splitSign cs).2 body := by
  have splits : ∀ other ∈ Form.signed form, other <+: cs →
      ∃ body ∈ form, other = sign ++ body ∧ body <+: (splitSign cs).2 := by
    rintro other member ⟨rest, rfl⟩
    obtain ⟨negative, sign', body, signed', isForm, rfl⟩ := mem_signed.mp member
    have split := signed'.splitSign (bare body isForm rest)
    rw [List.append_assoc, split] at whole
    rw [List.append_assoc, split]
    obtain rfl := (List.append_left_inj _).mp whole
    exact ⟨body, isForm, rfl, List.prefix_append body rest⟩
  have joined : ∀ body ∈ form, sign ++ body ∈ Form.signed form := fun _ isForm =>
    mem_signed.mpr ⟨_, sign, _, signed, isForm, rfl⟩
  have starts : ∀ body, body <+: (splitSign cs).2 → sign ++ body <+: cs := fun body initial => by
    rw [whole]
    exact (List.prefix_append_right_inj sign).mpr initial
  constructor
  · rintro ⟨member, initial, longest⟩
    obtain ⟨body, isForm, rfl, bodyInitial⟩ := splits head member initial
    refine ⟨body, rfl, isForm, bodyInitial, fun other otherForm otherInitial => ?_⟩
    have less := longest _ (joined other otherForm) (starts other otherInitial)
    rw [List.length_append, List.length_append] at less
    omega
  · rintro ⟨body, rfl, isForm, initial, longest⟩
    refine ⟨joined body isForm, starts body initial, fun other otherMember otherInitial => ?_⟩
    obtain ⟨otherBody, otherForm, rfl, otherStarts⟩ := splits other otherMember otherInitial
    have less := longest otherBody otherForm otherStarts
    rw [List.length_append, List.length_append]
    omega

theorem DenotesMagnitude.bare {negative : Bool} {body : List Char}
    (denoted : DenotesMagnitude negative body x) (rest : List Char) :
    ∀ c ∈ (body ++ rest).head?, c ≠ '+' ∧ c ≠ '-' := by
  cases denoted with
  | infinity =>
    intro c head
    cases head
    decide
  | numeral spelled => exact spelled.bare rest

theorem SpellsSign.append_inj {negative negative' : Bool} {sign sign' body body' : List Char}
    (signed : SpellsSign negative sign) (signed' : SpellsSign negative' sign')
    (bare : ∀ c ∈ (body ++ []).head?, c ≠ '+' ∧ c ≠ '-')
    (bare' : ∀ c ∈ (body' ++ []).head?, c ≠ '+' ∧ c ≠ '-')
    (same : sign ++ body = sign' ++ body') : negative = negative' ∧ body = body' := by
  rw [List.append_nil] at bare bare'
  have split := signed.splitSign bare
  rw [same, signed'.splitSign bare', Prod.mk.injEq] at split
  exact ⟨split.1.symm, split.2.symm⟩

/-- The longest prefix with a sign is the longest one after the sign, and has its value. -/
theorem longest_denotes_iff (bare : IsBare form) :
    (∃ head, IsLongest (Form.signed form) cs head ∧ Denotes head x) ↔
      ∃ body, IsLongest form (splitSign cs).2 body ∧
        DenotesMagnitude (splitSign cs).1 body x := by
  obtain ⟨sign, whole, signed⟩ := spellsSign_splitSign cs
  constructor
  · rintro ⟨head, longest, denoted⟩
    obtain ⟨body, same, bodyLongest⟩ := (isLongest_signed bare signed whole).mp longest
    cases denoted with
    | @signed negative sign' body' _ signed' magnitude =>
      obtain ⟨rfl, rfl⟩ := signed.append_inj signed' (bare body bodyLongest.member [])
        (magnitude.bare []) same.symm
      exact ⟨_, bodyLongest, magnitude⟩
  · rintro ⟨body, longest, magnitude⟩
    exact ⟨sign ++ body, (isLongest_signed bare signed whole).mpr ⟨body, rfl, longest⟩,
      .signed signed magnitude⟩

theorem Writes.mem_number (isClass : IsDigitClass digit) {negative : Bool} {n : Numeral}
    (written : Writes negative n cs) : cs ∈ Form.number digit := by
  obtain ⟨signed, spelled⟩ := written
  have magnitude := mem_magnitude.mpr (.inr (spelled.mem_numeral isClass))
  exact mem_signed.mpr ⟨_, _, _, signed, magnitude, rfl⟩

theorem isLongest_magnitude_of_word (letter : digit 'I' = false) (word : infinityWord <+: cs) :
    IsLongest (Form.magnitude digit) cs head ↔ head = infinityWord := by
  have only : ∀ other ∈ Form.magnitude digit, other <+: cs → other = infinityWord := by
    intro other member initial
    refine (mem_magnitude.mp member).resolve_right fun numeral => ?_
    obtain ⟨c, tail, rfl, begins⟩ := head_of_numeral numeral
    obtain ⟨rest, rfl⟩ := word
    obtain ⟨rest', same⟩ := initial
    obtain rfl : c = 'I' := (List.cons.inj same).1
    rcases begins with isDigit | point
    · rw [letter] at isDigit
      cases isDigit
    · exact absurd point (by decide)
  constructor
  · exact fun longest => only head longest.member longest.initial
  · rintro rfl
    refine ⟨mem_magnitude.mpr (.inl rfl), word, fun other member initial => ?_⟩
    rw [only other member initial]

theorem isLongest_magnitude_of_no_word (other : ¬ infinityWord <+: cs) :
    IsLongest (Form.magnitude digit) cs head ↔ IsLongest (Form.numeral digit) cs head := by
  have numeral : ∀ head ∈ Form.magnitude digit, head <+: cs → head ∈ Form.numeral digit :=
    fun head member initial => (mem_magnitude.mp member).resolve_left fun word =>
      other (word ▸ initial)
  constructor
  · intro longest
    exact ⟨numeral head longest.member longest.initial, longest.initial,
      fun next member => longest.longest next (mem_magnitude.mpr (.inr member))⟩
  · intro longest
    exact ⟨mem_magnitude.mpr (.inr longest.member), longest.initial,
      fun next member initial => longest.longest next (numeral next member initial) initial⟩

theorem denotesMagnitude_word {negative : Bool} :
    DenotesMagnitude negative infinityWord x ↔ x = withSign negative infinityBits := by
  constructor
  · generalize same : infinityWord = body
    rintro (_ | spelled)
    · rfl
    · obtain ⟨c, tail, rfl, begins⟩ := spelled.begins
      obtain rfl : 'I' = c := (List.cons.inj same).1
      exact absurd begins (by decide)
  · rintro rfl
    exact .infinity

theorem isBare_magnitude (isClass : IsDigitClass digit) : IsBare (Form.magnitude digit) := by
  intro body member rest c head
  rcases mem_magnitude.mp member with rfl | numeral
  · cases head
    decide
  · obtain ⟨first, tail, rfl, begins⟩ := head_of_numeral numeral
    cases head
    exact bare_of_begins isClass begins

end Signed

section Readers

variable {s : String} {x : Float}

/-- The reader of numbers gives the value of the longest prefix in which digits of all scripts
count, if it is a number. -/
theorem readPrefix?_eq_some_iff : readPrefix? s = some x ↔
    ∃ head, IsLongest (Form.number isDecimalDigit) (dropBlanks s.toList) head ∧
      Denotes head x := by
  rw [Form.number, longest_denotes_iff (isBare_magnitude isDigitClass_isDecimalDigit), readPrefix?]
  generalize splitSign (dropBlanks s.toList) = split
  obtain ⟨negative, body⟩ := split
  dsimp only
  by_cases word : infinityWord <+: body
  · have letter : isDecimalDigit 'I' = false := by decide
    rw [if_pos (List.isPrefixOf_iff_prefix.mpr word)]
    simp only [isLongest_magnitude_of_word letter word, exists_eq_left, denotesMagnitude_word,
      Option.some_inj, eq_comm]
  · have value : ∀ head, IsLongest (Form.numeral isDecimalDigit) body head →
        (DenotesMagnitude negative head x ↔ ∃ n, Spells n head ∧ n.value.toFloat negative = x) := by
      intro head longest
      constructor
      · rintro (_ | spelled)
        · exact absurd longest.initial word
        · exact ⟨_, spelled, rfl⟩
      · rintro ⟨n, spelled, rfl⟩
        exact .numeral spelled
    have heads : (∃ head, IsLongest (Form.magnitude isDecimalDigit) body head ∧
        DenotesMagnitude negative head x) ↔
          ∃ head, IsLongest (Form.numeral isDecimalDigit) body head ∧
            ∃ n, Spells n head ∧ n.value.toFloat negative = x := by
      refine exists_congr fun head => ?_
      rw [isLongest_magnitude_of_no_word word]
      exact and_congr_right (value head)
    rw [if_neg fun starts => word (List.isPrefixOf_iff_prefix.mp starts), heads,
      ← scan_toFloat?_iff isDigitClass_isDecimalDigit]
    cases scan isDecimalDigit body with
    | none => simp
    | some taken =>
      obtain ⟨n, rest⟩ := taken
      simp

theorem isLongest_someDigits {digit : Char → Bool} {cs head : List Char} :
    IsLongest (someDigits digit) cs head ↔ head = cs.takeWhile digit ∧ head ≠ [] := by
  have run : ∀ {cs : List Char}, cs.takeWhile digit ≠ [] →
      IsLongest (someDigits digit) cs (cs.takeWhile digit) := by
    intro cs some
    refine ⟨⟨fun c member => List.mem_takeWhile_imp member, some⟩, List.takeWhile_prefix digit, ?_⟩
    rintro other ⟨inside, -⟩ ⟨rest, rfl⟩
    rw [List.takeWhile_append_of_pos inside, List.length_append]
    exact Nat.le_add_right _ _
  constructor
  · intro longest
    obtain ⟨inside, some⟩ := longest.member
    obtain ⟨rest, whole⟩ := longest.initial
    refine ⟨longest.unique (run ?_), some⟩
    rw [← whole, List.takeWhile_append_of_pos inside]
    exact List.append_ne_nil_of_left_ne_nil some _
  · rintro ⟨rfl, some⟩
    exact run some

theorem DenotesMagnitude.digits {negative : Bool} {cs : List Char}
    (magnitude : DenotesMagnitude negative cs x) (inside : cs ∈ digits isDecimalDigit) :
    Digits cs := by
  cases magnitude with
  | infinity => exact absurd (inside 'I' List.mem_cons_self) (by decide)
  | numeral spelled =>
    exact fun c member => spelled.isDigit isDigitClass_isDecimalDigit c member (inside c member)

theorem toFloat?_digits {negative : Bool} {cs : List Char} (inside : cs ∈ digits isDecimalDigit)
    (some : cs ≠ []) :
    toFloat? negative ⟨cs, [], none⟩ = Option.some x ↔ DenotesMagnitude negative cs x := by
  constructor
  · intro value
    have ascii : Digits cs := by
      rw [toFloat?] at value
      split at value
      · rename_i ascii
        simp only [isAscii, Bool.and_eq_true, List.all_eq_true] at ascii
        exact ascii.1.1
      · cases value
    rw [(ascii.spells some).toFloat?, Option.some_inj] at value
    exact value ▸ .numeral (ascii.spells some)
  · intro magnitude
    have ascii := magnitude.digits inside
    cases magnitude with
    | infinity => exact absurd (inside 'I' List.mem_cons_self) (by decide)
    | numeral spelled =>
      rw [spelled.unique (ascii.spells some)]
      exact (ascii.spells some).toFloat? negative

/-- The reader of integers gives the value of the longest run of digits of all scripts, if it is a
number. -/
theorem readInteger?_eq_some_iff : readInteger? s = some x ↔
    ∃ head, IsLongest (Form.integer isDecimalDigit) (dropBlanks s.toList) head ∧
      Denotes head x := by
  rw [Form.integer, longest_denotes_iff (isBare_someDigits isDigitClass_isDecimalDigit),
    readInteger?]
  generalize splitSign (dropBlanks s.toList) = split
  obtain ⟨negative, body⟩ := split
  dsimp only
  generalize taken : body.takeWhile isDecimalDigit = digits
  simp only [isLongest_someDigits, taken, and_assoc, exists_eq_left]
  split
  · rename_i none
    exact iff_of_false nofun fun both => both.1 (List.isEmpty_iff.mp none)
  · rename_i some
    rw [List.isEmpty_iff] at some
    rw [toFloat?_digits (fun c member => List.mem_takeWhile_imp (taken ▸ member)) some]
    exact (and_iff_right some).symm

/-- What a reader finds at the head of a text. With the longest prefix of a form over ASCII digits
it finds the number that this prefix is, unless digits of another script make a longer one; then,
and without a prefix of the form, it finds nothing. -/
inductive FindsHead (form : (Char → Bool) → Language Char) (read : String → Option Float)
    (s : String) : Prop
  | found {head x} : IsLongest (form Char.isDigit) (dropBlanks s.toList) head →
      IsLongest (form isDecimalDigit) (dropBlanks s.toList) head → Denotes head x →
      read s = some x → FindsHead form read s
  | overrun {head longer} : IsLongest (form Char.isDigit) (dropBlanks s.toList) head →
      longer ∈ form isDecimalDigit → longer <+: dropBlanks s.toList →
      head.length < longer.length → read s = none → FindsHead form read s
  | absent : (∀ head ∈ form Char.isDigit, ¬ head <+: dropBlanks s.toList) →
      read s = none → FindsHead form read s

variable {form : (Char → Bool) → Language Char} {read : String → Option Float}

/-- What a reader finds if it gives the values of longest prefixes over digits of all scripts. -/
theorem findsHead_of_iff (bare : IsBare (form isDecimalDigit))
    (mono : ∀ cs ∈ form Char.isDigit, cs ∈ form isDecimalDigit)
    (number : ∀ cs ∈ form Char.isDigit, ∀ negative, ∃ x, DenotesMagnitude negative cs x)
    (ascii : ∀ cs ∈ form isDecimalDigit, ∀ negative x, DenotesMagnitude negative cs x →
      cs ∈ form Char.isDigit)
    (reads : ∀ x, read s = some x ↔
      ∃ head, IsLongest (Form.signed (form isDecimalDigit)) (dropBlanks s.toList) head ∧
        Denotes head x) : FindsHead (fun digit => Form.signed (form digit)) read s := by
  have signedMono : ∀ cs ∈ Form.signed (form Char.isDigit),
      cs ∈ Form.signed (form isDecimalDigit) := by
    intro cs member
    obtain ⟨negative, sign, body, signed, isForm, rfl⟩ := mem_signed.mp member
    exact mem_signed.mpr ⟨negative, sign, body, signed, mono body isForm, rfl⟩
  have signedAscii : ∀ cs ∈ Form.signed (form isDecimalDigit), ∀ x, Denotes cs x →
      cs ∈ Form.signed (form Char.isDigit) := by
    intro cs member x denoted
    obtain ⟨negative, sign, body, signed, isForm, same⟩ := mem_signed.mp member
    cases denoted with
    | signed signed' magnitude =>
      obtain ⟨rfl, rfl⟩ := signed.append_inj signed' (bare body isForm []) (magnitude.bare [])
        same.symm
      exact mem_signed.mpr ⟨_, _, body, signed', ascii body isForm _ x magnitude, rfl⟩
  by_cases present : ∃ head ∈ Form.signed (form Char.isDigit), head <+: dropBlanks s.toList
  · obtain ⟨head, member, initial⟩ := present
    obtain ⟨head, longest⟩ := exists_isLongest member initial
    by_cases overrun : ∃ longer ∈ Form.signed (form isDecimalDigit),
        longer <+: dropBlanks s.toList ∧ head.length < longer.length
    · obtain ⟨longer, member, initial, greater⟩ := overrun
      -- The reader takes a prefix that is too long to have ASCII digits only.
      refine .overrun longest member initial greater
        (Option.eq_none_iff_forall_ne_some.mpr fun x value => ?_)
      obtain ⟨other, otherLongest, denoted⟩ := (reads x).mp value
      have fits := longest.longest other (signedAscii other otherLongest.member x denoted)
        otherLongest.initial
      have reaches := otherLongest.longest longer member initial
      omega
    · have all : IsLongest (Form.signed (form isDecimalDigit)) (dropBlanks s.toList) head :=
        ⟨signedMono head longest.member, longest.initial, fun longer member initial =>
          Nat.le_of_not_lt fun greater => overrun ⟨longer, member, initial, greater⟩⟩
      obtain ⟨negative, sign, body, signed, isForm, rfl⟩ := mem_signed.mp longest.member
      obtain ⟨x, magnitude⟩ := number body isForm negative
      have denoted := Denotes.signed signed magnitude
      exact .found longest all denoted ((reads x).mpr ⟨_, all, denoted⟩)
  · refine .absent (fun head member initial => present ⟨head, member, initial⟩)
      (Option.eq_none_iff_forall_ne_some.mpr fun x value => present ?_)
    obtain ⟨head, longest, denoted⟩ := (reads x).mp value
    exact ⟨head, signedAscii head longest.member x denoted, longest.initial⟩

theorem findsHead_readPrefix? (s : String) : FindsHead Form.number readPrefix? s := by
  refine findsHead_of_iff (isBare_magnitude isDigitClass_isDecimalDigit) (fun cs member => ?_)
    (fun cs member negative => ?_) (fun cs _ negative x magnitude => ?_)
    fun x => readPrefix?_eq_some_iff
  · rcases mem_magnitude.mp member with word | numeral
    · exact mem_magnitude.mpr (.inl word)
    · obtain ⟨n, spelled⟩ := mem_numeral_isDigit.mp numeral
      exact mem_magnitude.mpr (.inr (spelled.mem_numeral isDigitClass_isDecimalDigit))
  · rcases mem_magnitude.mp member with rfl | numeral
    · exact ⟨_, .infinity⟩
    · obtain ⟨n, spelled⟩ := mem_numeral_isDigit.mp numeral
      exact ⟨_, .numeral spelled⟩
  · cases magnitude with
    | infinity => exact mem_magnitude.mpr (.inl rfl)
    | numeral spelled => exact mem_magnitude.mpr (.inr (spelled.mem_numeral isDigitClass_isDigit))

theorem findsHead_readInteger? (s : String) : FindsHead Form.integer readInteger? s := by
  refine findsHead_of_iff (isBare_someDigits isDigitClass_isDecimalDigit) (fun cs member => ?_)
    (fun cs member negative => ?_) (fun cs member negative x magnitude => ?_)
    fun x => readInteger?_eq_some_iff
  · exact ⟨digits_mono isDigitClass_isDecimalDigit.ascii member.1, member.2⟩
  · exact ⟨_, .numeral (Digits.spells member.1 member.2)⟩
  · exact ⟨magnitude.digits member.1, member.2⟩

/-- The readers of numbers and integers find the longest prefix of their forms. -/
theorem heads_found (s : String) :
    FindsHead Form.number readPrefix? s ∧ FindsHead Form.integer readInteger? s :=
  ⟨findsHead_readPrefix? s, findsHead_readInteger? s⟩

/-- A digit of another script after a number hides the number. -/
theorem not_heads_found_over_ascii :
    IsLongest (Form.number Char.isDigit) "5\u0663".toList ['5'] ∧
      IsLongest (Form.integer Char.isDigit) "5\u0663".toList ['5'] ∧ Denotes ['5'] 5 ∧
      readPrefix? "5\u0663" = none ∧ readInteger? "5\u0663" = none ∧
      (¬ ∀ s head x, IsLongest (Form.number Char.isDigit) (dropBlanks s.toList) head →
        Denotes head x → readPrefix? s = some x) ∧
      ¬ ∀ s head x, IsLongest (Form.integer Char.isDigit) (dropBlanks s.toList) head →
        Denotes head x → readInteger? s = some x := by
  have unsigned : SpellsSign (splitSign "5\u0663".toList).1 [] := .none
  have number : IsLongest (Form.number Char.isDigit) "5\u0663".toList ['5'] := by
    have scanned : scan Char.isDigit "5\u0663".toList = some (⟨['5'], [], none⟩, ['\u0663']) := by
      decide
    obtain ⟨head, longest, whole, -⟩ := isLongest_of_scan isDigitClass_isDigit scanned
    obtain rfl : ['5'] = head := (List.append_left_inj ['\u0663']).mp whole
    refine (isLongest_signed (isBare_magnitude isDigitClass_isDigit) unsigned rfl).mpr
      ⟨['5'], rfl, ?_⟩
    exact (isLongest_magnitude_of_no_word (by decide)).mpr longest
  have integer : IsLongest (Form.integer Char.isDigit) "5\u0663".toList ['5'] := by
    refine (isLongest_signed (isBare_someDigits isDigitClass_isDigit) unsigned rfl).mpr
      ⟨['5'], rfl, ?_⟩
    exact isLongest_someDigits.mpr ⟨by decide, by decide⟩
  have five : Denotes ['5'] 5 := by
    have value : (Numeral.mk ['5'] [] none).value.toFloat false = 5 := by decide +kernel
    have digits : Digits ['5'] := by simp [Digits]
    exact value ▸ .signed .none (.numeral (digits.spells (by decide)))
  have noNumber : readPrefix? "5\u0663" = none := by decide +kernel
  have noInteger : readInteger? "5\u0663" = none := by decide +kernel
  refine ⟨number, integer, five, noNumber, noInteger, fun found => ?_, fun found => ?_⟩
  · have value := found "5\u0663" ['5'] 5 number five
    rw [noNumber] at value
    cases value
  · have value := found "5\u0663" ['5'] 5 integer five
    rw [noInteger] at value
    cases value

end Readers

end Numeral

end RecipeEngine
