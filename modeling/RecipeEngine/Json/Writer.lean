import RecipeEngine.Json.Basic
import RecipeEngine.Number.Format

namespace RecipeEngine.Json

def fourHex (n : Nat) : List Char :=
  let digits := Nat.toDigits 16 n
  Decimal.zeros (4 - digits.length) ++ digits

def escaped (c : Char) : List Char :=
  if c = '"' then ['\\', '"']
  else if c = '\\' then ['\\', '\\']
  else if c = '\n' then ['\\', 'n']
  else if c = '\r' then ['\\', 'r']
  else if c = '\t' then ['\\', 't']
  else if c.toNat = 0x8 then ['\\', 'b']
  else if c.toNat = 0xc then ['\\', 'f']
  else if c.toNat < 0x20 then '\\' :: 'u' :: fourHex c.toNat
  else [c]

def quote (s : String) : List Char :=
  '"' :: (s.toList.flatMap escaped ++ ['"'])

/-- A number, a truth value, a text or null. A float that is not finite is written as null. -/
def writeLeaf : Json → List Char
  | .bool true => "true".toList
  | .bool false => "false".toList
  | .integer n => (toString n).toList
  | .float x => if x.isFinite then (NumberFormat.json x).toList else "null".toList
  | .text s => quote s
  | _ => "null".toList

mutual

def write : Json → List Char
  | .list items => '[' :: (writeItems items ++ [']'])
  | .object fields => '\x7b' :: (writeFields fields ++ ['\x7d'])
  | leaf => writeLeaf leaf

def writeItems : List Json → List Char
  | [] => []
  | [item] => write item
  | item :: next :: rest => write item ++ ',' :: writeItems (next :: rest)

def writeFields : List (String × Json) → List Char
  | [] => []
  | [(name, value)] => quote name ++ ':' :: write value
  | (name, value) :: next :: rest =>
    quote name ++ ':' :: (write value ++ ',' :: writeFields (next :: rest))

end

def newLine (depth : Nat) : List Char :=
  '\n' :: List.replicate (2 * depth) ' '

mutual

/-- The indented text of a value that starts at a given depth; empty containers stay closed. -/
def pretty (depth : Nat) : Json → List Char
  | .list [] => ['[', ']']
  | .list (item :: rest) =>
    '[' :: (prettyItems (depth + 1) (item :: rest) ++ newLine depth ++ [']'])
  | .object [] => ['\x7b', '\x7d']
  | .object (field :: rest) =>
    '\x7b' :: (prettyFields (depth + 1) (field :: rest) ++ newLine depth ++ ['\x7d'])
  | leaf => writeLeaf leaf

def prettyItems (depth : Nat) : List Json → List Char
  | [] => []
  | [item] => newLine depth ++ pretty depth item
  | item :: next :: rest =>
    newLine depth ++ pretty depth item ++ ',' :: prettyItems depth (next :: rest)

def prettyFields (depth : Nat) : List (String × Json) → List Char
  | [] => []
  | [(name, value)] => newLine depth ++ quote name ++ ':' :: ' ' :: pretty depth value
  | (name, value) :: next :: rest =>
    newLine depth ++ quote name ++ ':' :: ' ' :: (pretty depth value ++
      ',' :: prettyFields depth (next :: rest))

end

def compact (j : Json) : String := String.ofList j.write

def indented (j : Json) : String := String.ofList (j.pretty 0)

end RecipeEngine.Json
