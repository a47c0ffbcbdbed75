import Stencil.Text.Alphanumeric
import Stencil.Text.Blank
import Stencil.Text.Case
import Stencil.Text.Cut
import Stencil.Text.Quoted
import Stencil.Decimal.Shortest
import Stencil.Value.Data
import Stencil.Value.Order
import Stencil.Value.Text
import Stencil.Error
import Stencil.Literal
import Stencil.Json
import Stencil.Template
import Stencil.Render
import Stencil.CommandLine.Directory
import Stencil.Main
import Stencil.Proofs.Fragment.Segmentation
import Stencil.Proofs.Scope.Flatten
import Stencil.Proofs.Literal.TextForm
import Stencil.Proofs.Render.Writing
import Stencil.Proofs.Template.Concatenation
import Stencil.Proofs.Template.Wrapping
import Stencil.Proofs.Node.Name
import Stencil.Proofs.Scope.Reach
import Stencil.Proofs.Scope.Extension
import Stencil.Proofs.Template.Failure
import Stencil.Proofs.Node.Occurrence
import Stencil.Proofs.Render.Failure
import Stencil.Proofs.Literal.Bound
import Stencil.Proofs.Template.Earliest
import Stencil.Proofs.Template.WellFormed
import Stencil.Proofs.Template.Interpolation
import Stencil.Proofs.Template.LiteralTag
import Stencil.Proofs.CommandLine.FileSystem
import Stencil.Proofs.CommandLine.Stages
import Stencil.Proofs.CommandLine.Range
import Stencil.Proofs.CommandLine.Precedence
import Stencil.Proofs.Literal.Nesting
import Stencil.Proofs.Literal.Place
import Stencil.Proofs.Literal.Integer
import Stencil.Proofs.Template.Strictness
import Stencil.Proofs.Value.Coherence
import Stencil.Proofs.Value.Position
import Stencil.Proofs.Value.Numeric
import Stencil.Proofs.Render.Invocation
