import DocQuery.Expression.Tree
import DocQuery.Main
import DocQuery.Session.Run
import DocQuery.Proofs.Expression.Grammar
import DocQuery.Proofs.Path.Name
import DocQuery.Proofs.Path.Bracket
import DocQuery.Proofs.Path.Piece
import DocQuery.Proofs.Path.RoundTrip
import DocQuery.Proofs.Query.Addressing
import DocQuery.Proofs.Query.Search
import DocQuery.Proofs.Path.Dotted
import DocQuery.Proofs.Edit.Growth
import DocQuery.Proofs.Edit.Putting
import DocQuery.Proofs.Edit.Stopping
import DocQuery.Proofs.Session.Tidy
import DocQuery.Proofs.Decimal.Bits
import DocQuery.Proofs.Decimal.Digits
import DocQuery.Proofs.Decimal.RoundTrip
import DocQuery.Proofs.Expression.Spelling
import DocQuery.Proofs.Query.Substitution
import DocQuery.Proofs.Expression.Quotes
import DocQuery.Proofs.Query.Quoting
import DocQuery.Proofs.Expression.Postorder
import DocQuery.Proofs.Expression.Acceptance
import DocQuery.Proofs.Json.Blanks
import DocQuery.Proofs.Store.Unfolding
import DocQuery.Proofs.Query.Locality
import DocQuery.Proofs.Session.Separation
import DocQuery.Proofs.Lazy.Pipeline
import DocQuery.Proofs.Query.Composition
import DocQuery.Proofs.Query.Slicing
import DocQuery.Proofs.Decimal.Finite
import DocQuery.Proofs.Store.Representation
import DocQuery.Proofs.Store.Extension
import DocQuery.Proofs.Store.Loading
import DocQuery.Proofs.Json.Lexing
import DocQuery.Proofs.Json.Reading
import DocQuery.Proofs.Document.ReadingBack
import DocQuery.Proofs.Path.NameRow
import DocQuery.Proofs.Path.Compiling
import DocQuery.Proofs.Edit.Target
import DocQuery.Proofs.Query.Pointwise
import DocQuery.Proofs.Document.Binding
import DocQuery.Proofs.Expression.FullMatch
import DocQuery.Proofs.Query.RootMarker
import DocQuery.Proofs.Expression.Defects
import DocQuery.Proofs.Expression.Requests
import DocQuery.Proofs.Query.Globs
import DocQuery.Proofs.Document.Columns
import DocQuery.Proofs.Document.Rewriting
import DocQuery.Proofs.Path.Tiling
import DocQuery.Proofs.Query.Fusing
import DocQuery.Proofs.Path.Classifying
