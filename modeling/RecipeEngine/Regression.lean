import RecipeEngine.Failure
import RecipeEngine.Table

namespace RecipeEngine.Regression

/-- What the formulas need of a number type besides its four operations: where sums start, the whole
numbers, and a test for zero. So they can be read in doubles and in exact arithmetic. -/
structure Numbers (α : Type) where
  start : α
  ofNat : Nat → α
  isZero : α → Bool

def doubles : Numbers Float where
  start := -0.0
  ofNat n := Float.ofNat n
  isZero x := x == 0

/-- A fitted line and the share of the variation in `y` that it accounts for. -/
structure Line (α : Type) where
  slope : α
  intercept : α
  rSquared : α

inductive NoLine where
  | tooFewPoints
  | allXEqual
deriving DecidableEq, Repr

def NoLine.message : NoLine → String
  | .tooFewPoints => "Not enough numeric data points for regression (need at least 2)"
  | .allXEqual => "Regression is undefined: all x values are equal"

section Formulas

variable {α : Type} [Add α] [Sub α] [Mul α] [Div α]

def total (numbers : Numbers α) (values : List α) : α :=
  values.foldl (· + ·) numbers.start

def lineThrough (numbers : Numbers α) (points : List (α × α)) : Except NoLine (Line α) :=
  if points.length < 2 then .error .tooFewPoints
  else
    let n := numbers.ofNat points.length
    let sumX := total numbers (points.map fun p => p.1)
    let sumY := total numbers (points.map fun p => p.2)
    let sumXY := total numbers (points.map fun p => p.1 * p.2)
    let sumXX := total numbers (points.map fun p => p.1 * p.1)
    let denominator := n * sumXX - sumX * sumX
    if numbers.isZero denominator then .error .allXEqual
    else
      let slope := (n * sumXY - sumX * sumY) / denominator
      let intercept := (sumY - slope * sumX) / n
      let meanY := sumY / n
      let square (x : α) := x * x
      let variation := total numbers (points.map fun p => square (p.2 - meanY))
      let residue := total numbers (points.map fun p => square (p.2 - (slope * p.1 + intercept)))
      let one := numbers.ofNat 1
      .ok ⟨slope, intercept,
        if numbers.isZero variation then one else one - residue / variation⟩

/-- The line through points given by their coordinates; what the longer list has in excess is
left out. -/
def fit (numbers : Numbers α) (xs ys : List α) : Except NoLine (Line α) :=
  lineThrough numbers (xs.zip ys)

end Formulas

def equation (line : Line Float) : String :=
  "y = " ++ NumberFormat.fixed line.slope ++ "x + " ++ NumberFormat.fixed line.intercept

def metric (name : String) (cell : Scalar) : Row :=
  NameMap.ofList [("Metric", .text name), ("Value", cell)]

def summary (line : Line Float) : Table where
  columns := ["Metric", "Value"]
  rows :=
    [metric "Slope (m)" (.number line.slope),
     metric "Intercept (b)" (.number line.intercept),
     metric "R-Squared" (.number line.rSquared),
     metric "Equation" (.text (equation line))]

/-- The name that stands for the position of a row, counted from one. -/
def rowIndex : String := "#"

/-- The coordinate that a row gives under a name: the row's position for `#`, else its cell, if
that is a number other than NaN or a text that starts with one. -/
def coordinate? (index : Nat) (row : Row) (column : String) : Option Float :=
  if column = rowIndex then some (Float.ofNat (index + 1))
  else
    match row.get? column with
    | some (.number x) => if x.isNaN then none else some x
    | some (.text s) => Numeral.readPrefix? s
    | none => none

/-- The point that a row gives, if both its coordinates can be read. -/
def point? (x y : String) (index : Nat) (row : Row) : Option (Float × Float) :=
  match coordinate? index row x, coordinate? index row y with
  | some a, some b => some (a, b)
  | _, _ => none

def pointsFrom (x y : String) : Nat → List Row → List (Float × Float)
  | _, [] => []
  | index, row :: rest =>
    match point? x y index row with
    | some p => p :: pointsFrom x y (index + 1) rest
    | none => pointsFrom x y (index + 1) rest

/-- The points of a table under two names; rows that give none are passed over. -/
def points (t : Table) (x y : String) : List (Float × Float) :=
  pointsFrom x y 0 t.rows

def coordinates (t : Table) (x y : String) : List Float × List Float :=
  (points t x y).unzip

def NoLine.toFailure (why : NoLine) : Failure := .insufficientData why.message

end RecipeEngine.Regression
