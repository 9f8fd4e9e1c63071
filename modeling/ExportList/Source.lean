import ExportList.Analysis
import ExportList.Concrete.Program
import ExportList.Digest.Sha256
import ExportList.Document.Json
import ExportList.Script.Module
import ExportList.Text.Digit
import ExportList.Typed.Module

/-!
Reading a document into a program.  There are two dialects: JavaScript has its own grammar, and for
TypeScript the concrete tree of the document is turned into a program.  A document that holds a
surrogate has no UTF-8 form and is refused in both.
-/

set_option autoImplicit false

namespace ExportList

def unnamedSource : Text := "<input>"

structure ParseError where
  description : Text
  line : Option Int := none
  column : Option Int := none
  sourceName : Text := unnamedSource
deriving DecidableEq, Repr

/-- The wording of the error; the place is part of it if both of its numbers are known. -/
def ParseError.message (e : ParseError) : Text :=
  match e.line, e.column with
  | some line, some column =>
    e.description ++ " (line " ++ Text.ofInt line ++ ", column " ++ Text.ofInt column ++ ")"
  | _, _ => e.description

inductive Dialect where
  | typescript
  | javascript
deriving DecidableEq, Repr

namespace Dialect

/-- The dialects in the order messages list them. -/
def all : List Dialect := [.typescript, .javascript]

def name : Dialect → Text
  | .typescript => "typescript"
  | .javascript => "javascript"

def ofName? (name : Text) : Option Dialect := all.find? fun dialect => dialect.name = name

def names : Text := Text.join ", " (all.map fun dialect => dialect.name.quoted)

end Dialect

inductive SourceError where
  /-- There is no dialect of that name. -/
  | unknownDialect (name : Text)
  /-- The document has no UTF-8 form. -/
  | unencodable (error : ParseError)
  /-- The document does not follow the grammar. -/
  | malformed (error : ParseError)
  /-- A name of the given tree ends inside a character. -/
  | undecodable (fault : Utf8.Fault)
deriving Repr

def unknownDialectMessage (name : Text) : Text :=
  "Unknown dialect " ++ name.quoted ++ "; expected one of (" ++ Dialect.names ++ ")"

/-- The place of the first surrogate: line and column from the given ones on, and itself. -/
def firstSurrogate? (line column : Nat) : Text → Option (Nat × Nat × CodePoint)
  | [] => none
  | c :: rest =>
    if c.isSurrogate then some (line, column, c)
    else if c = CodePoint.ofChar '\n' then firstSurrogate? (line + 1) 0 rest
    else firstSurrogate? line (column + 1) rest

def encodeSource (source sourceName : Text) : Except ParseError Bytes :=
  match Utf8.encode? source, firstSurrogate? 1 0 source with
  | some bytes, _ => .ok bytes
  | none, some (line, column, c) =>
    .error
      { description := "Invalid character " ++ Text.quoted [c] ++ ": surrogates not allowed"
        line := some line, column := some column, sourceName }
  -- Only a surrogate keeps a text from having a UTF-8 form, so nothing comes here.
  | none, none => .error { description := [], sourceName }

/-- The digest that tells documents apart; a document without a UTF-8 form has none. -/
def hashSource? (source : Text) : Option Text := (Utf8.encode? source).map Sha256.hexDigest

structure Parsed where
  program : Value
  sourceType : SourceType
  dialect : Dialect
  hash : Text
  sourceName : Text
deriving Repr

namespace Parsed

def statements (p : Parsed) : List Value := (p.program.field "body").items

/-- The document in which a result is stored. -/
def document (p : Parsed) : Value :=
  .object
    [("ast", p.program), ("source_type", .text p.sourceType.text),
      ("dialect", .text p.dialect.name), ("source_hash", .text p.hash),
      ("source_name", .text p.sourceName)]

def json (p : Parsed) : Except Json.Unprintable Text := Json.render p.document

def ofProgram (dialect : Dialect) (sourceName : Text) (bytes : Bytes) (program : Value) : Parsed :=
  { program
    sourceType := ExportList.sourceType (program.field "body").items
    dialect
    hash := Sha256.hexDigest bytes
    sourceName }

end Parsed

/-- The error at the node where a tree leaves the grammar. -/
def treeError (bytes : Bytes) (sourceName : Text) (fault : Concrete.Tree) : ParseError :=
  { description := fault.complaint bytes
    line := some (fault.label.start.row + 1)
    column := some (fault.label.start.characterColumn bytes)
    sourceName }

/-- Reads a document whose concrete tree is known. -/
def parseTree (source sourceName : Text) (tree : Concrete.Tree) : Except SourceError Parsed := do
  let bytes ← (encodeSource source sourceName).mapError .unencodable
  match tree.firstFault? with
  | some fault => throw (.malformed (treeError bytes sourceName fault))
  | none =>
    let program ← (Concrete.program bytes tree).mapError .undecodable
    return Parsed.ofProgram .typescript sourceName bytes program

/-- A description without the line number it may begin with. -/
def withoutLineNumber (description : Text) : Text :=
  if Text.startsWith description "Line " then
    let digits := (description.drop 5).takeWhile CodePoint.isDigit
    let rest : Text := description.drop (5 + digits.length)
    if !digits.isEmpty && Text.startsWith rest ": " then rest.drop 2 else description
  else description

/-- The error for a description and a place whose columns count from one. -/
def scriptError (description : Text) (line column : Option Int) (sourceName : Text) : ParseError :=
  { description := withoutLineNumber description
    line
    -- The column can be off the line when the token before spans several lines.
    column := column.map fun c => max (c - 1) 0
    sourceName }

def parseScript (source sourceName : Text) : Except SourceError Parsed := do
  let bytes ← (encodeSource source sourceName).mapError .unencodable
  match Script.parse (source.scalars?.getD []) with
  | .ok program => return Parsed.ofProgram .javascript sourceName bytes program
  | .error c =>
    throw (.malformed (scriptError c.fault.message (some c.line) (some c.column) sourceName))

/-- Where the concrete trees of documents come from: with or without JSX, from the text. -/
abbrev TreeSource := (jsx : Bool) → Text → Concrete.Tree

def grammarTrees : TreeSource := fun jsx source => Typed.tree jsx (source.scalars?.getD [])

/-- A document and how to read it. -/
structure Document where
  source : Text
  sourceName : Text := unnamedSource
  dialect : Dialect := .typescript
  jsx : Bool := false
deriving DecidableEq, Repr

def Document.parse (trees : TreeSource) (d : Document) : Except SourceError Parsed :=
  match d.dialect with
  | .javascript => parseScript d.source d.sourceName
  | .typescript => parseTree d.source d.sourceName (trees d.jsx d.source)

def requireDialect (name : Text) : Except SourceError Dialect :=
  match Dialect.ofName? name with
  | some dialect => .ok dialect
  | none => .error (.unknownDialect name)

end ExportList
