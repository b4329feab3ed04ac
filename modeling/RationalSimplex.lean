import RationalSimplex.Charts
import RationalSimplex.CommandLine.Arguments
import RationalSimplex.CommandLine.Run
import RationalSimplex.Configuration.Load
import RationalSimplex.Decimal.Basic
import RationalSimplex.Decimal.Conversion
import RationalSimplex.Fault.Basic
import RationalSimplex.Fault.Message
import RationalSimplex.Geometry.Bounds
import RationalSimplex.Geometry.Vertices
import RationalSimplex.Grid
import RationalSimplex.Index
import RationalSimplex.Json.Reader
import RationalSimplex.Json.Writer
import RationalSimplex.Linear.Constraint
import RationalSimplex.Linear.Expression
import RationalSimplex.Linear.Point
import RationalSimplex.Linear.Polytope
import RationalSimplex.Main
import RationalSimplex.Numeral
import RationalSimplex.Program.Basic
import RationalSimplex.Program.Canonical
import RationalSimplex.Program.Solved
import RationalSimplex.Proofs.Configuration.Load
import RationalSimplex.Proofs.Configuration.Parts
import RationalSimplex.Proofs.Configuration.Variables
import RationalSimplex.Proofs.Geometry.Attainment
import RationalSimplex.Proofs.Geometry.Bounds
import RationalSimplex.Proofs.Geometry.ConvexOrder
import RationalSimplex.Proofs.Geometry.Vertices
import RationalSimplex.Proofs.Json.Parts
import RationalSimplex.Proofs.Json.RoundTrip
import RationalSimplex.Proofs.Linear.Dot
import RationalSimplex.Proofs.Linear.Points
import RationalSimplex.Proofs.Matrix.Elimination
import RationalSimplex.Proofs.Matrix.Entries
import RationalSimplex.Proofs.Matrix.Residual
import RationalSimplex.Proofs.Numeral.Fraction
import RationalSimplex.Proofs.Numeral.Grammar
import RationalSimplex.Proofs.Numeral.NormalForm
import RationalSimplex.Proofs.Numeral.Reading
import RationalSimplex.Proofs.Numeral.Value
import RationalSimplex.Proofs.Program.CanonicalForm
import RationalSimplex.Proofs.Program.Canonize
import RationalSimplex.Proofs.Program.Certificate
import RationalSimplex.Proofs.Program.Entry
import RationalSimplex.Proofs.Program.ExtremePlans
import RationalSimplex.Proofs.Program.Invariant
import RationalSimplex.Proofs.Program.KeptRows
import RationalSimplex.Proofs.Program.Meaning
import RationalSimplex.Proofs.Program.PlanPath
import RationalSimplex.Proofs.Program.Refusal
import RationalSimplex.Proofs.Program.Replay
import RationalSimplex.Proofs.Program.Restoration
import RationalSimplex.Proofs.Program.Solve
import RationalSimplex.Proofs.Program.Structure
import RationalSimplex.Proofs.Simplex.Beginning
import RationalSimplex.Proofs.Simplex.Climb
import RationalSimplex.Proofs.Simplex.Cycling
import RationalSimplex.Proofs.Simplex.Dropping
import RationalSimplex.Proofs.Simplex.Expulsion
import RationalSimplex.Proofs.Simplex.Invariant
import RationalSimplex.Proofs.Simplex.Outcome
import RationalSimplex.Proofs.Simplex.Phase
import RationalSimplex.Proofs.Simplex.PhaseChange
import RationalSimplex.Proofs.Simplex.Pricing
import RationalSimplex.Proofs.Simplex.Reach
import RationalSimplex.Proofs.Simplex.Redundancy
import RationalSimplex.Proofs.Simplex.Replay
import RationalSimplex.Proofs.Simplex.Solve
import RationalSimplex.Proofs.Simplex.Trace
import RationalSimplex.Proofs.Simplex.Transition
import RationalSimplex.Proofs.Sorting.ByRuns
import RationalSimplex.Proofs.Sorting.Merge
import RationalSimplex.Proofs.Sorting.Order
import RationalSimplex.Proofs.Sorting.Runs
import RationalSimplex.Proofs.Success
import RationalSimplex.Proofs.Tableau.BasicSolution
import RationalSimplex.Proofs.Tableau.Elimination
import RationalSimplex.Proofs.Tableau.Erasure
import RationalSimplex.Proofs.Tableau.Forms
import RationalSimplex.Proofs.Tableau.Initial
import RationalSimplex.Proofs.Tableau.ObjectiveRow
import RationalSimplex.Proofs.Tableau.Pivot
import RationalSimplex.Proofs.Tableau.RatioTest
import RationalSimplex.Proofs.Tableau.Renumbering
import RationalSimplex.Proofs.Tableau.Uniqueness
import RationalSimplex.Proofs.Text.Trimming
import RationalSimplex.Proofs.Trace.RoundTrip
import RationalSimplex.RatMatrix.Basic
import RationalSimplex.RatMatrix.Pivot
import RationalSimplex.Reference
import RationalSimplex.Simplex.Phase
import RationalSimplex.Simplex.PivotRule
import RationalSimplex.Simplex.Solve
import RationalSimplex.SlotTable
import RationalSimplex.Sorting.ByRuns
import RationalSimplex.Sorting.Merge
import RationalSimplex.Sorting.Runs
import RationalSimplex.Tableau.Basic
import RationalSimplex.Tableau.Initial
import RationalSimplex.Text.Characters
import RationalSimplex.Text.LowerCase
import RationalSimplex.Text.Quoted
import RationalSimplex.Trace
import RationalSimplex.Value.Arithmetic
import RationalSimplex.Value.ArrayText
import RationalSimplex.Value.Basic
import RationalSimplex.Value.Collections
import RationalSimplex.Value.Elementwise
import RationalSimplex.Value.Layers
import RationalSimplex.Value.Number
import RationalSimplex.Value.Text
import RationalSimplex.Vocabulary
