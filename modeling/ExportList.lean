import ExportList.Analysis
import ExportList.Command.Arguments
import ExportList.Command.Invocation
import ExportList.Command.Scan
import ExportList.Command.Usage
import ExportList.Concrete.Program
import ExportList.Concrete.Tree
import ExportList.Decimal.Binary64
import ExportList.Decimal.Shortest
import ExportList.Declaration
import ExportList.Digest.Sha256
import ExportList.Document
import ExportList.Document.Json
import ExportList.Main
import ExportList.Proofs.Sequence
import ExportList.Report
import ExportList.Script.Class
import ExportList.Script.Expression
import ExportList.Script.Fault
import ExportList.Script.Function
import ExportList.Script.Letter
import ExportList.Script.Matcher
import ExportList.Script.Module
import ExportList.Script.Pattern
import ExportList.Script.Reader
import ExportList.Script.Scanner
import ExportList.Script.Statement
import ExportList.Script.Token
import ExportList.Source
import ExportList.Statement
import ExportList.Store
import ExportList.Text
import ExportList.Text.Case
import ExportList.Text.Cased
import ExportList.Text.Digit
import ExportList.Text.Printable
import ExportList.Text.Quoted
import ExportList.Text.Utf8
import ExportList.Typed.Annotation
import ExportList.Typed.Cursor
import ExportList.Typed.Declaration
import ExportList.Typed.Element
import ExportList.Typed.Expression
import ExportList.Typed.Module
import ExportList.Typed.Pattern
import ExportList.Typed.Reader
import ExportList.Typed.Statement
import ExportList.Typed.Token
import ExportList.Proofs.Analysis
import ExportList.Proofs.Concrete.Extension
import ExportList.Proofs.Concrete.Names
import ExportList.Proofs.Exports
import ExportList.Proofs.Lines
import ExportList.Proofs.Store
import ExportList.Proofs.WriteBack
import ExportList.Proofs.Effects
import ExportList.Proofs.Script.Lexing
import ExportList.Proofs.Script.Simulation
import ExportList.Proofs.Script.Binding
import ExportList.Proofs.Script.Expression
import ExportList.Proofs.Script.Statement
import ExportList.Proofs.Script.Module
import ExportList.Proofs.Script.Listing
import ExportList.Proofs.Script.Program
import ExportList.Proofs.Readable
import ExportList.Proofs.Document.Parts
import ExportList.Proofs.Document.Reader
import ExportList.Proofs.Document.Json
import ExportList.Proofs.Document.RoundTrip
import ExportList.Proofs.Concrete.Description
import ExportList.Proofs.Portable
import ExportList.Proofs.Concrete.Place
import ExportList.Proofs.Cache
import ExportList.Proofs.CacheHistory
import ExportList.Proofs.Declaration
import ExportList.Proofs.Concrete.Faults
import ExportList.Proofs.Append
import ExportList.Proofs.Concrete.Texts
import ExportList.Proofs.Reordering
import ExportList.Proofs.Surrogates
import ExportList.Proofs.Concrete.Origins
import ExportList.Proofs.Concrete.Embedding
import ExportList.Proofs.Concrete.Comments
import ExportList.Proofs.Statement
import ExportList.Proofs.Concrete.Modules
import ExportList.Proofs.Concrete.Nesting
import ExportList.Proofs.Invocation
import ExportList.Proofs.Concrete.GrammarName
