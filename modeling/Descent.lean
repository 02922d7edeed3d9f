import Descent.Node.Outline
import Descent.Session
import Descent.Wire.Tree
import Descent.Proofs.Session.Ranges
import Descent.Proofs.Feed.Order
import Descent.Proofs.Session.Registers
import Descent.Proofs.Session.Nesting
import Descent.Proofs.Json.Numbers
import Descent.Proofs.Json.Containers
import Descent.Proofs.Json.Values
import Descent.Proofs.Wire.Source
import Descent.Proofs.Json.Depth
import Descent.Proofs.Wire.Tree
import Descent.Proofs.Wire.RoundTrip
import Descent.Proofs.Cursor.Matching
import Descent.Proofs.Session.Chronicle
import Descent.Proofs.Session.Presentation
import Descent.Proofs.Session.Tiling
import Descent.Proofs.Session.Complaints
import Descent.Proofs.Text.Lines
import Descent.Proofs.Snippet.Lines
import Descent.Proofs.Snippet.Recovery
import Descent.Proofs.Snippet.Spans
import Descent.Proofs.Snippet.Carets
import Descent.Proofs.Json.Literals
import Descent.Proofs.Json.Numerals
import Descent.Proofs.Json.Documents
import Descent.Proofs.Json.Members
import Descent.Proofs.Json.Valuation
import Descent.Proofs.Wire.Compact
import Descent.Proofs.Wire.Rewriting
import Descent.Proofs.Wire.Tolerance
import Descent.Proofs.Node.Outlines
import Descent.Proofs.Session.Leaves
import Descent.Proofs.Node.Annotations
import Descent.Proofs.Node.Overlays
import Descent.Proofs.Text.Cuts
import Descent.Proofs.Token.Recovery
import Descent.Proofs.Paint.Sequences
import Descent.Proofs.Paint.Styles
import Descent.Proofs.Session.Closings
