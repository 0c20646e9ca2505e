import CompositeKey.Loading
import CompositeKey.Proofs.Compile.Agreement
import CompositeKey.Proofs.Compile.Conditions
import CompositeKey.Proofs.Compile.Constructors
import CompositeKey.Proofs.Compile.Image
import CompositeKey.Proofs.Compile.Lengths
import CompositeKey.Proofs.Compile.Locations
import CompositeKey.Proofs.Compile.Pairing
import CompositeKey.Proofs.Declaration.Interchange
import CompositeKey.Proofs.Declaration.Loaded
import CompositeKey.Proofs.Declaration.PropertyTable
import CompositeKey.Proofs.Declaration.Respelling
import CompositeKey.Proofs.Diagnostic.Access
import CompositeKey.Proofs.Diagnostic.Placement
import CompositeKey.Proofs.Document.Json.Encoding
import CompositeKey.Proofs.Key.Coherence
import CompositeKey.Proofs.Key.Elements
import CompositeKey.Proofs.Key.Encoding
import CompositeKey.Proofs.Report
import CompositeKey.Proofs.Target.NameTable
import CompositeKey.Proofs.Target.Selection
import CompositeKey.Proofs.Template.Capped
import CompositeKey.Proofs.Template.FailFast
import CompositeKey.Proofs.Template.Grammar
import CompositeKey.Proofs.Template.Lexemes
import CompositeKey.Proofs.Template.LexerRuns
import CompositeKey.Proofs.Template.Overflow
import CompositeKey.Proofs.Template.Separator
import CompositeKey.Report
import CompositeKey.Template.Checked
