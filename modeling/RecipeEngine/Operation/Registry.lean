import RecipeEngine.Operation.Builtin

namespace RecipeEngine

/-- Operations in the order of their listing, each id once. -/
structure Registry where
  listing : List Operation

namespace Registry

/-- Adds an operation at the end; a former one with its id goes. -/
def add (registry : Registry) (op : Operation) : Registry :=
  ⟨registry.listing.filter (·.id ≠ op.id) ++ [op]⟩

/-- The registry of a list; of several operations with one id the last stands. -/
def ofOperations (ops : List Operation) : Registry :=
  ops.foldl add ⟨[]⟩

def builtin : Registry := ofOperations Builtin.operations

def get? (registry : Registry) (id : String) : Option Operation :=
  registry.listing.find? (·.id = id)

theorem builtin_listing : builtin.listing = Builtin.operations := rfl

theorem mem_of_get? {registry : Registry} {id : String} {op : Operation}
    (found : registry.get? id = some op) : op ∈ registry.listing ∧ op.id = id := by
  have named := List.find?_some found
  exact ⟨List.mem_of_find?_eq_some found, by simpa using named⟩

def require (registry : Registry) (id : String) : Except Failure Operation :=
  match registry.get? id with
  | some op => .ok op
  | none => .error (.unknownOperation id)

def contains (registry : Registry) (id : String) : Bool :=
  (registry.get? id).isSome

/-- The groups that have operations, each with its operations in the order of the listing. -/
def byGroup (registry : Registry) : List (OperationGroup × List Operation) :=
  (OperationGroup.all.map fun group => (group, registry.listing.filter (·.group = group))).filter
    fun entry => !entry.2.isEmpty

def defaultsFor (registry : Registry) (id : String) : Except Failure Arguments :=
  (registry.require id).map Operation.defaults

def summary (registry : Registry) : String :=
  "[" ++ ", ".intercalate (registry.listing.map fun op => Text.quoted op.id) ++ "]"

end Registry

end RecipeEngine
