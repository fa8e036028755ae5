import PatternAlgebra.Main
import PatternAlgebra.Element.Outline
import PatternAlgebra.Matcher.Debug
import PatternAlgebra.Matcher.Formula
import PatternAlgebra.Proofs.Element.Reading
import PatternAlgebra.Proofs.Matcher.First
import PatternAlgebra.Proofs.Matcher.FirstGap
import PatternAlgebra.Proofs.Matcher.Literal
import PatternAlgebra.Proofs.Matcher.Stop
import PatternAlgebra.Proofs.Matcher.Existence
import PatternAlgebra.Proofs.Matcher.Unchanged
import PatternAlgebra.Proofs.Element.Nodes
import PatternAlgebra.Proofs.Element.Scan
import PatternAlgebra.Proofs.Regex.Events
import PatternAlgebra.Proofs.Element.Captures
import PatternAlgebra.Proofs.Matcher.Complement
import PatternAlgebra.Proofs.Highlight.Paint
import PatternAlgebra.Proofs.Text.Lines
import PatternAlgebra.Proofs.CommandLine.Selection
import PatternAlgebra.Proofs.Matcher.NormalForm
import PatternAlgebra.Proofs.Matcher.Nesting
import PatternAlgebra.Proofs.Matcher.Rearrangement
import PatternAlgebra.Proofs.Element.Operands
import PatternAlgebra.Proofs.Element.Sequencing
import PatternAlgebra.Proofs.Element.Sets
import PatternAlgebra.Proofs.Regex.Interpretation
import PatternAlgebra.Proofs.Highlight.Positions
import PatternAlgebra.Proofs.Search.Ends
import PatternAlgebra.Proofs.Search.Glob
import PatternAlgebra.Proofs.Search.Literal
import PatternAlgebra.Proofs.Element.Outline
import PatternAlgebra.Proofs.Search.GlobSets
import PatternAlgebra.Proofs.Search.Subsequence
import PatternAlgebra.Proofs.Regex.Rendering
import PatternAlgebra.Proofs.Text.Tracking
