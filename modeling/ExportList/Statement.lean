import ExportList.Text

/-!
The text of an export statement.
-/

set_option autoImplicit false

namespace ExportList

/-- How an export statement ends. -/
structure RenderOptions where
  semicolon : Bool := false
  trailingNewline : Bool := false
deriving DecidableEq, Repr

/-- The statement that exports some names, in their order and as often as they occur. -/
def renderExport (names : List Text) (options : RenderOptions) : Text :=
  "export \x7b " ++ Text.join ", " names ++ " \x7d" ++
    (if options.semicolon then ";" else "") ++ (if options.trailingNewline then "\n" else "")

end ExportList
