import ExportList.Text.Quoted
import ExportList.Text.Utf8

/-!
Concrete syntax trees: every token of a document is a node, with the grammar's name of it, its field
in the parent, its span, and flags for places where the document does not follow the grammar.
-/

set_option autoImplicit false

namespace ExportList.Concrete

/-- A place in a document: byte offset, row, and bytes since the row's start. -/
structure Point where
  offset : Nat
  row : Nat
  column : Nat
deriving DecidableEq, Repr

/-- What a tree says of one node.  Unnamed nodes are keywords and punctuation. -/
structure Label where
  kind : Text
  named : Bool := true
  isError : Bool := false
  isMissing : Bool := false
  hasError : Bool := false
  start : Point
  stop : Point
  role : Option Text := none
deriving DecidableEq, Repr

inductive Tree where
  | node (label : Label) (children : List Tree)
deriving Repr

namespace Tree

def label : Tree → Label
  | .node label _ => label

def children : Tree → List Tree
  | .node _ children => children

def kind (t : Tree) : Text := t.label.kind

def isKind (t : Tree) (kind : Text) : Bool := t.kind = kind

/-- The children that are not keywords or punctuation. -/
def namedChildren (t : Tree) : List Tree := t.children.filter fun child => child.label.named

def tokens (t : Tree) : List Text :=
  (t.children.filter fun child => !child.label.named).map kind

def child? (t : Tree) (role : Text) : Option Tree :=
  t.children.find? fun child => child.label.role = some role

def bytes (source : Bytes) (t : Tree) : Bytes :=
  Bytes.slice source t.label.start.offset t.label.stop.offset

mutual

/-- The first node at which the document leaves the grammar, looking only below nodes that are
flagged to hold an error. -/
def firstFault? : Tree → Option Tree
  | .node label children =>
    if label.isError || label.isMissing then some (.node label children)
    else if !label.hasError then none
    -- The flag is set, so the node itself is to blame where none below it is.
    else some ((firstFaultAmong? children).getD (.node label children))

def firstFaultAmong? : List Tree → Option Tree
  | [] => none
  | t :: rest =>
    match firstFault? t with
    | some fault => some fault
    | none => firstFaultAmong? rest

end

end Tree

/-- The code points between the start of a place's row and the place.  The row begins `byteColumn`
bytes before the place. -/
def characterColumn (source : Bytes) (offset byteColumn : Nat) : Nat :=
  -- A row that would begin before the document is counted back from its end.
  (Utf8.decodeLossy (Bytes.slice source ((offset : Int) - byteColumn) offset)).length

def Point.characterColumn (source : Bytes) (p : Point) : Nat :=
  Concrete.characterColumn source p.offset p.column

def Tree.complaint (source : Bytes) (fault : Tree) : Text :=
  if fault.label.isMissing then "Missing " ++ fault.kind
  else
    let snippet := Text.before (CodePoint.ofChar '\n') (Utf8.decodeLossy (fault.bytes source))
    if snippet.isEmpty then "Unexpected token"
    else "Unexpected token " ++ Text.quoted (snippet.take 20)

end ExportList.Concrete
