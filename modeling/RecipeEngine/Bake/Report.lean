import RecipeEngine.Log

namespace RecipeEngine

structure Report where
  log : Log
  haltedAt : Option String
  /-- The steps passed over because their operations are not registered. -/
  skipped : List String
  committed : List String

namespace Report

def start : Report := ⟨[], none, [], []⟩

def isSuccess (report : Report) : Bool := report.haltedAt.isNone

end Report

end RecipeEngine
