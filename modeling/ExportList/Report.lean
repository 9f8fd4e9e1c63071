import ExportList.Source
import ExportList.Statement

/-!
The report on a document: the names it could export, those its export lists mention, those still
missing, and the statement that would export these.
-/

set_option autoImplicit false

namespace ExportList

/-- What is found out about a document. -/
structure Report where
  parsed : Parsed
  exportable : List Text
  exported : List Text
  missing : List Text
  statement : Option Text
deriving Repr

def Report.hasMissing (r : Report) : Bool := !r.missing.isEmpty

def report (options : RenderOptions) (parsed : Parsed) : Except NameError Report := do
  let exportable ← exportableNames parsed.statements
  let exported ← exportedNames parsed.statements
  let missing ← missingNames parsed.statements
  let statement := if missing.isEmpty then none else some (renderExport missing options)
  return { parsed, exportable, exported, missing, statement }

end ExportList
