import Signatures.Main
import Signatures.Registry
import Signatures.Json.Reader
import Signatures.Json.Spelling
import Signatures.Line.View
import Signatures.Signature.Spelling
import Signatures.Proofs.Halves
import Signatures.Proofs.Grammar
import Signatures.Proofs.Canonical
import Signatures.Proofs.Defects
import Signatures.Proofs.Layout
import Signatures.Proofs.Encoding
import Signatures.Proofs.Streams
import Signatures.Proofs.Pipeline
import Signatures.Proofs.Json.Reading
import Signatures.Proofs.Json.Writing
import Signatures.Proofs.Json.Documents
import Signatures.Proofs.FirstFault
import Signatures.Proofs.Parts
import Signatures.Proofs.Ink
import Signatures.Proofs.Outcomes
import Signatures.Proofs.Tidy
import Signatures.Proofs.Assembly
import Signatures.Proofs.LineEnds
import Signatures.Proofs.Messages
import Signatures.Proofs.Json.Layouts
import Signatures.Proofs.Registries
import Signatures.Proofs.Reports
import Signatures.Proofs.Edits
import Signatures.Proofs.Arguments
import Signatures.Proofs.Parentheses
