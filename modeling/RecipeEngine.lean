import RecipeEngine.Main
import RecipeEngine.Proofs.Bake.Coherence
import RecipeEngine.Proofs.Bake.Guard
import RecipeEngine.Proofs.Bake.Policy
import RecipeEngine.Proofs.Bake.References
import RecipeEngine.Proofs.Bake.Replay
import RecipeEngine.Proofs.Bake.WellFormed
import RecipeEngine.Proofs.Csv.Lines
import RecipeEngine.Proofs.Csv.Renaming
import RecipeEngine.Proofs.Csv.RoundTrip
import RecipeEngine.Proofs.Document.Missing
import RecipeEngine.Proofs.Expression.Equality
import RecipeEngine.Proofs.Expression.Offender
import RecipeEngine.Proofs.Expression.PlainName
import RecipeEngine.Proofs.Expression.QuotedName
import RecipeEngine.Proofs.Expression.Substitution
import RecipeEngine.Proofs.Kitchen.Isolation
import RecipeEngine.Proofs.Kitchen.Rebake
import RecipeEngine.Proofs.Log.RoundTrip
import RecipeEngine.Proofs.Number.Agreement
import RecipeEngine.Proofs.Recipe.EditSeries
import RecipeEngine.Proofs.Environment.Edits
import RecipeEngine.Proofs.Operation.Catalog
import RecipeEngine.Proofs.Operation.Columns
import RecipeEngine.Proofs.Number.Coarsest
import RecipeEngine.Proofs.Number.JsonText
import RecipeEngine.Proofs.Operation.NumericArgument
import RecipeEngine.Proofs.Regression.LeastSquares
import RecipeEngine.Proofs.Table.CellOrder
import RecipeEngine.Proofs.Expression.BoundedStack
import RecipeEngine.Proofs.Expression.Nesting
import RecipeEngine.Proofs.Regression.Points
