import RecipeEngine.Json.Basic
import RecipeEngine.Number.Numeral
import RecipeEngine.Yaml.Node

namespace RecipeEngine.Yaml.Node

def isNullWord (s : String) : Bool := ["null", "Null", "NULL", "~"].contains s

def truthWord? (s : String) : Option Bool :=
  if ["true", "True", "TRUE"].contains s then some true
  else if ["false", "False", "FALSE"].contains s then some false
  else none

/-- The number that digits of a base write; there must be some. -/
def digitsValue? (base : Nat) (digits : List Char) : Option Nat :=
  if digits.isEmpty then none
  else digits.foldl (fun n c => match n, Quoted.hexDigit? c with
    | some n, some d => if d < base then some (base * n + d) else none
    | _, _ => none) (some 0)

/-- Digits that start with a zero and are not the number zero: they are a text. -/
def hasLeadingZero (digits : List Char) : Bool :=
  1 < digits.length && digits.head? = some '0' && digits.all Char.isDigit

/-- The magnitude of an integer without its sign: hexadecimal, octal or binary after a mark, else
decimal without a leading zero. -/
def magnitude? (cs : List Char) : Option Nat :=
  let marked := match cs with
    | '0' :: 'x' :: digits => digitsValue? 16 digits
    | '0' :: 'o' :: digits => digitsValue? 8 digits
    | '0' :: 'b' :: digits => digitsValue? 2 digits
    | _ => none
  marked.or (if hasLeadingZero cs then none else digitsValue? 10 cs)

def integer? (cs : List Char) : Option Int :=
  let (negative, body) := Numeral.splitSign cs
  (magnitude? body).bind fun n =>
    if negative then (if n ≤ twoTo 127 then some (-n) else none)
    else if n < twoTo 128 then some n else none

def isInfinityWord (s : String) : Bool := [".inf", ".Inf", ".INF"].contains s

/-- A spelled float: a word, or a finite decimal number. -/
def float? (s : String) : Option Float :=
  let (negative, body) := Numeral.splitSign s.toList
  if isInfinityWord (String.ofList body) then some (Dyadic.withSign negative Dyadic.infinityBits)
  else if [".nan", ".NaN", ".NAN"].contains s then some (0.0 / 0.0)
  else if hasLeadingZero body then none
  else (Numeral.readAll? s.toList).filter Float.isFinite

/-- Integers that untyped content can hold: those of 64 bits, with or without sign. -/
def isWord (n : Int) : Bool := -(twoTo 63 : Int) ≤ n && n < twoTo 64

/-- What a plain scalar without a tag stands for: null, a truth value, a number or a text by how it
is spelled. -/
def spelled (s : String) : Except Problem Json :=
  if s.isEmpty || isNullWord s then .ok .null
  else match truthWord? s, integer? s.toList, float? s with
    | some b, _, _ => .ok (.bool b)
    | none, some n, _ =>
      if isWord n then .ok (.integer n) else .error ⟨.wrongShape "an integer of 64 bits", none⟩
    | none, none, some x => .ok (.float x)
    | none, none, none => .ok (.text s)

def standardTag (name : String) : String := "tag:yaml.org,2002:" ++ name

/-- Whether a tag is one of the text's own, which no content without a type can have. -/
def isLocal (tag : Option String) : Bool := tag.any fun t => t.toList.head? = some '!'

def demand {α : Type} (expected : String) (make : α → Json) : Option α → Except Problem Json
  | some a => .ok (make a)
  | none => .error ⟨.wrongShape expected, none⟩

def leaf (tag : Option String) (style : Style) (s : String) : Except Problem Json :=
  match tag with
  | none => if style = .plain then spelled s else .ok (.text s)
  | some t =>
    if isLocal tag then .error ⟨.wrongShape "content without a local tag", none⟩
    else if t = standardTag "bool" then demand "a boolean" .bool (truthWord? s)
    else if t = standardTag "int" then
      demand "an integer" .integer ((integer? s.toList).filter isWord)
    else if t = standardTag "float" then
      demand "a float" .float ((float? s).or (taggedFloat? s))
    else if t = standardTag "null" then
      demand "null" (fun _ => .null) (if isNullWord s then some () else none)
    else .ok (.text s)
where
  /-- A float whose tag makes up for a leading zero. -/
  taggedFloat? (s : String) : Option Float := (Numeral.readAll? s.toList).filter Float.isFinite

def shape {α : Type} (expected : String) : Except Problem α := .error ⟨.wrongShape expected, none⟩

def isBlank : Node → Bool
  | .scalar _ style s => style = .plain && s.isEmpty
  | _ => false

/-- A scalar as text. -/
def text : Node → Except Problem String
  | .scalar _ _ s => .ok s
  | _ => shape "a string"

def optionalText : Node → Except Problem (Option String)
  | .scalar none .plain s => .ok (if s.isEmpty || isNullWord s then none else some s)
  | .scalar (some tag) .plain s =>
    if tag = standardTag "null" then (if isNullWord s then .ok none else shape "null")
    else .ok (some s)
  | .scalar _ _ s => .ok (some s)
  | _ => shape "a string"

def flag : Node → Except Problem Bool
  | .scalar tag style s =>
    match truthWord? s with
    | some b =>
      if style = .plain || (style = .literal && tag = some (standardTag "bool")) then .ok b
      else shape "a boolean"
    | none => shape "a boolean"
  | _ => shape "a boolean"

/-- The items of a sequence; there are none where nothing is written. -/
def items (node : Node) : Except Problem (List Node) :=
  match node with
  | .sequence _ items => .ok items
  | _ => if node.isBlank then .ok [] else shape "a sequence"

/-- The entries of a mapping by the texts of their keys; there are none where nothing is
written. -/
def entries (node : Node) : Except Problem (List (String × Node)) :=
  match node with
  | .mapping _ entries => entries.mapM fun (key, value) => key.text.map (·, value)
  | _ => if node.isBlank then .ok [] else shape "a map"

/-- The entries of a mapping with fixed names, of which none may stand twice. -/
def fields (names : List String) (node : Node) : Except Problem (List (String × Node)) := do
  let all ← node.entries
  match names.find? fun name => 1 < (all.filter (·.1 = name)).length with
  | some name => .error ⟨.duplicateField name, none⟩
  | none => .ok all

def onlyFields (names : List String) (all : List (String × Node)) : Except Problem Unit :=
  match all.find? fun entry => !names.contains entry.1 with
  | some entry => .error ⟨.unknownField entry.1, none⟩
  | none => .ok ()

mutual

def toJson : Node → Except Problem Json
  | .scalar tag style s => do
    match ← leaf tag style s with
    | .float x => .ok (if x.isFinite then .float x else .null)
    | j => .ok j
  | .sequence tag items => do
    if isLocal tag then shape "content without a local tag"
    .ok (.list (← itemsToJson items))
  | .mapping tag entries => do
    if isLocal tag then shape "content without a local tag"
    .ok (.object (← entriesToJson entries))
  | .reference _ => shape "content without references"

def itemsToJson : List Node → Except Problem (List Json)
  | [] => .ok []
  | item :: rest => do
    let first ← toJson item
    .ok (first :: (← itemsToJson rest))

def entriesToJson : List (Node × Node) → Except Problem (List (String × Json))
  | [] => .ok []
  | (key, value) :: rest => do
    let name ← key.text
    let first ← toJson value
    .ok ((name, first) :: (← entriesToJson rest))

end

end RecipeEngine.Yaml.Node
