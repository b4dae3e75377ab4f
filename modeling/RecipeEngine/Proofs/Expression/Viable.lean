import RecipeEngine.Proofs.Expression.Grammar

namespace RecipeEngine.Grammar

/-- The tokens are a phrase of the layer, however deep its parts lie. -/
def Sentence (layer : Layer) (w : List Token) : Prop :=
  ∃ depth e, Derives layer depth w e

/-- Some more tokens make a member of the language of the tokens. -/
def Starts (language : List Token → Prop) (w : List Token) : Prop :=
  ∃ more, language (w ++ more)

/-- The tokens can be prolonged to a phrase of the layer. -/
abbrev Viable (layer : Layer) : List Token → Prop := Starts (Sentence layer)

/-- The arguments of a call, with the closing parenthesis after them. -/
inductive Listed : List Token → Prop
  | last {w} : Sentence .conditional w → Listed (w ++ [.symbol .closeParen])
  | more {w v} : Sentence .conditional w → Listed v → Listed (w ++ .symbol .comma :: v)

variable {w : List Token}

namespace Sentence

theorem loosen {level least : Nat} (looser : least ≤ level) :
    Sentence (.operators level) w → Sentence (.operators least) w := by
  rintro ⟨depth, e, derivation⟩
  exact ⟨depth, e, derivation.loosen looser⟩

theorem operand : Sentence .prefixed w → Sentence (.operators 5) w := by
  rintro ⟨depth, e, derivation⟩
  exact ⟨depth, e, .operand derivation⟩

theorem noChoice : Sentence (.operators 0) w → Sentence .conditional w := by
  rintro ⟨depth, e, derivation⟩
  exact ⟨depth, e, .noChoice derivation⟩

theorem noPrefix : Sentence .power w → Sentence .prefixed w := by
  rintro ⟨depth, e, derivation⟩
  exact ⟨depth, e, .noPrefix derivation⟩

theorem noExponent : Sentence .primary w → Sentence .power w := by
  rintro ⟨depth, e, derivation⟩
  exact ⟨depth, e, .noExponent derivation⟩

theorem prefixed {s : Symbol} {op : UnaryOp} (member : (s, op) ∈ before) :
    Sentence .prefixed w → Sentence .prefixed (.symbol s :: w) := by
  rintro ⟨depth, e, derivation⟩
  exact ⟨depth + 1, _, .prefixed member derivation⟩

theorem group : Sentence .conditional w →
    Sentence .primary (.symbol .openParen :: (w ++ [.symbol .closeParen])) := by
  rintro ⟨depth, e, derivation⟩
  exact ⟨depth + 1, e, .group derivation⟩

/-- Parts of a sentence are derived as deep as the deepest of them. -/
theorem joined {level : Nat} {l r : List Token} {s : Symbol} {op : BinaryOp}
    (member : (s, op) ∈ between level) (left : Sentence (.operators level) l)
    (right : Sentence (.operators (level + 1)) r) :
    Sentence (.operators level) (l ++ .symbol s :: r) := by
  obtain ⟨depth, a, left⟩ := left
  obtain ⟨depth', b, right⟩ := right
  exact ⟨max depth depth', _, .joined member (left.deepen (by omega)) (right.deepen (by omega))⟩

theorem raised {b x : List Token} (base : Sentence .primary b) (exponent : Sentence .prefixed x) :
    Sentence .power (b ++ .symbol .caret :: x) := by
  obtain ⟨depth, _, base⟩ := base
  obtain ⟨depth', _, exponent⟩ := exponent
  exact ⟨max depth depth' + 1, _,
    .raised (base.deepen (by omega)) (exponent.deepen (Nat.le_max_right _ _))⟩

theorem choice {c y n : List Token} (condition : Sentence (.operators 0) c)
    (yes : Sentence .conditional y) (no : Sentence .conditional n) :
    Sentence .conditional (c ++ .symbol .question :: (y ++ .symbol .colon :: n)) := by
  obtain ⟨depth, _, condition⟩ := condition
  obtain ⟨depth', _, yes⟩ := yes
  obtain ⟨depth'', _, no⟩ := no
  exact ⟨max depth (max depth' depth'') + 1, _,
    .choice (condition.deepen (by omega)) (yes.deepen (by omega)) (no.deepen (by omega))⟩

theorem number (x : Float) : Sentence .conditional [.number x] ∧ Sentence .primary [.number x] :=
  ⟨⟨0, _, .alone (.noPrefix (.noExponent .number))⟩,
    ⟨0, _, .number⟩⟩

end Sentence

theorem Listed.derives (listed : Listed w) :
    ∃ depth v e, ∃ pieces : List Piece, w = v ++ commaEach pieces ++ [.symbol .closeParen] ∧
      Derives .conditional depth v e ∧
      ∀ piece ∈ pieces, Derives .conditional depth piece.1 piece.2 := by
  induction listed with
  | last argument =>
    obtain ⟨depth, e, derivation⟩ := argument
    exact ⟨depth, _, e, [], by simp [commaEach], derivation, nofun⟩
  | more argument _ ih =>
    obtain ⟨depth, e, derivation⟩ := argument
    obtain ⟨depth', v, e', pieces, rfl, head, others⟩ := ih
    refine ⟨max depth depth', _, e, (v, e') :: pieces, by simp [commaEach],
      derivation.deepen (by omega), List.forall_mem_cons.mpr ⟨head.deepen (by omega), ?_⟩⟩
    exact fun piece member => (others piece member).deepen (by omega)

theorem Sentence.call {f : String} (notTrue : f ≠ "true") (notFalse : f ≠ "false")
    (listed : Listed w) : Sentence .primary (.name f :: .symbol .openParen :: w) := by
  obtain ⟨depth, v, e, pieces, rfl, head, others⟩ := listed.derives
  exact ⟨depth + 1, _, .callSome notTrue notFalse head others⟩

theorem Starts.of_mem {language : List Token → Prop} (member : language w) : Starts language w :=
  ⟨[], by rwa [List.append_nil]⟩

theorem Starts.mono {language larger : List Token → Prop} (within : ∀ v, language v → larger v) :
    Starts language w → Starts larger w := by
  rintro ⟨more, member⟩
  exact ⟨more, within _ member⟩

/-- The beginning of a part begins the whole, after what stands before the part. -/
theorem Starts.within {language whole : List Token → Prop} (front : List Token) (t : Token)
    (within : ∀ v, language v → ∃ after, whole (front ++ t :: (v ++ after))) :
    Starts language w → Starts whole (front ++ t :: w) := by
  rintro ⟨more, member⟩
  obtain ⟨after, complete⟩ := within _ member
  exact ⟨more ++ after, by simpa using complete⟩

theorem Starts.atEnd {language whole : List Token → Prop} (front : List Token) (t : Token)
    (within : ∀ v, language v → whole (front ++ t :: v)) :
    Starts language w → Starts whole (front ++ t :: w) :=
  Starts.within front t fun v member => ⟨[], by simpa using within v member⟩

namespace Viable

theorem nil : Viable .primary [] :=
  ⟨[.number 0], (Sentence.number 0).2⟩

theorem prefixed {s : Symbol} {op : UnaryOp} (member : (s, op) ∈ before) :
    Viable .prefixed w → Viable .prefixed (.symbol s :: w) :=
  Starts.atEnd [] (.symbol s) fun _ sentence => sentence.prefixed member

theorem joined {level : Nat} {l : List Token} {s : Symbol} {op : BinaryOp}
    (member : (s, op) ∈ between level) (left : Sentence (.operators level) l) :
    Viable (.operators (level + 1)) w → Viable (.operators level) (l ++ .symbol s :: w) :=
  Starts.atEnd l (.symbol s) fun _ sentence => left.joined member sentence

theorem raised {b : List Token} (base : Sentence .primary b) :
    Viable .prefixed w → Viable .power (b ++ .symbol .caret :: w) :=
  Starts.atEnd b (.symbol .caret) fun _ sentence => base.raised sentence

theorem yes {c : List Token} (condition : Sentence (.operators 0) c) :
    Viable .conditional w → Viable .conditional (c ++ .symbol .question :: w) :=
  Starts.within c (.symbol .question) fun _ sentence =>
    ⟨[.symbol .colon, .number 0], condition.choice sentence (Sentence.number 0).1⟩

theorem no {c y : List Token} (condition : Sentence (.operators 0) c)
    (yes : Sentence .conditional y) :
    Viable .conditional w →
      Viable .conditional ((c ++ .symbol .question :: y) ++ .symbol .colon :: w) :=
  Starts.atEnd (c ++ .symbol .question :: y) (.symbol .colon) fun v sentence => by
    simpa using condition.choice yes sentence

theorem group : Viable .conditional w → Viable .primary (.symbol .openParen :: w) :=
  Starts.within [] (.symbol .openParen) fun _ sentence => ⟨[.symbol .closeParen], sentence.group⟩

theorem listed : Viable .conditional w → Starts Listed w := by
  rintro ⟨more, sentence⟩
  exact ⟨more ++ [.symbol .closeParen], by simpa using Listed.last sentence⟩

theorem call {f : String} (notTrue : f ≠ "true") (notFalse : f ≠ "false") :
    Starts Listed w → Viable .primary (.name f :: .symbol .openParen :: w) :=
  Starts.atEnd [.name f] (.symbol .openParen) fun _ listed => .call notTrue notFalse listed

end Viable

theorem Starts.more {v : List Token} (argument : Sentence .conditional v) :
    Starts Listed w → Starts Listed (v ++ .symbol .comma :: w) :=
  Starts.atEnd v (.symbol .comma) fun _ listed => .more argument listed

end RecipeEngine.Grammar
