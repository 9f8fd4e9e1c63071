import ExportList.Command.Invocation
import ExportList.Store

/-!
A run of the command line on a store: what it prints, how it ends, and the store it leaves.
-/

set_option autoImplicit false

namespace ExportList.Command

/-- What a run logs when it is asked to. -/
inductive Event where
  | reading (sourceName : Text) (dialect : Dialect)
  | readTree (sourceName : Text) (statements : Nat)
  | retried (sourceName : Text)
  | counted (exportable statements : Nat)
  | kept (sourceName file : Text)
  | appended (path : Text)
deriving DecidableEq, Repr

namespace Event

/-- The part of the program that an event is logged by. -/
def origin : Event → Text
  | .reading .. => "autoexport.parser.source"
  | .readTree .. => "autoexport.parser.ts_parser"
  | .retried .. => "autoexport.parser.js_parser"
  | .counted .. => "autoexport.analyzer.declarations"
  | .kept .. => "autoexport.frontend.pipeline"
  | .appended .. => "autoexport.emitter.writer"

def message : Event → Text
  | .reading name dialect => "Parsing " ++ name ++ " as " ++ dialect.name
  | .readTree name statements =>
    "Parsed " ++ name ++ " with tree-sitter (" ++ Text.ofNat statements ++ " top-level statements)"
  | .retried name => "Module parse of " ++ name ++ " failed, retrying as script"
  | .counted exportable statements =>
    Text.ofNat exportable ++ " of " ++ Text.ofNat statements ++
      " top-level statements are exportable"
  | .kept name file => "Cached parse of " ++ name ++ " at " ++ file
  | .appended path => "Appended export statement to " ++ path

def line (e : Event) : Text := "DEBUG " ++ e.origin ++ ": " ++ e.message ++ "\n"

end Event

def readingEvents (d : Document) (result : Except SourceError Parsed) : List Event :=
  .reading d.sourceName d.dialect ::
    match d.dialect, result with
    | .typescript, .ok parsed => [.readTree d.sourceName parsed.statements.length]
    | .typescript, .error _ => []
    -- What is no module is read again as a script, whether or not it is one.
    | .javascript, .ok parsed =>
      if (parsed.program.field "sourceType").isText "script" then [.retried d.sourceName] else []
    | .javascript, .error _ => [.retried d.sourceName]

/-- What looking for names logs: a count for each time the exportable statements are gone
through. -/
def countingEvents (parsed : Parsed) (result : Except NameError Report) : List Event :=
  let count := Event.counted (exportableStatements parsed.statements).length
    parsed.statements.length
  match result with
  | .ok _ => [count, count]
  | .error _ => [count]

def reportEvents (trees : TreeSource) (d : Document) (options : RenderOptions)
    (cache : Option Cache) (result : Except Failure Report) : List Event :=
  let parsed := d.parse trees
  readingEvents d parsed ++
    match parsed with
    | .error _ => []
    | .ok parsed =>
      countingEvents parsed (report options parsed) ++
        match cache, result with
        | some cache, .ok _ => [.kept d.sourceName (cache.route.child parsed.cacheName).text]
        | _, _ => []

/-- Why a run ends without an exit code. -/
inductive Escape where
  | failure (failure : Failure)
  | store (error : StoreError)
deriving Repr

inductive Ending where
  | exit (code : Nat)
  | escape (escape : Escape)
deriving Repr

/-- A run's end, output, log and notice, and the store it leaves.  The notice goes to the error
output after what is logged. -/
structure Outcome where
  store : Store
  ending : Ending
  output : Text := []
  events : List Event := []
  notice : Text := []
deriving Repr

def Outcome.errors (o : Outcome) (verbose : Bool) : Text :=
  (if verbose then o.events.flatMap Event.line else []) ++ o.notice

/-- The place of an error as it stands behind the name of a file. -/
def placeText (line column : Option Int) : Text :=
  match line, column with
  | none, _ => []
  | some line, none => ":" ++ Text.ofInt line
  | some line, some column => ":" ++ Text.ofInt line ++ ":" ++ Text.ofInt column

def dialectOrDefault (dialect : Option Dialect) : Dialect := dialect.getD .typescript

/-- The end of a file name from its last point on, if there is something on both sides of it. -/
def suffix (name : Text) : Text :=
  let ending := (name.reverse.takeWhile (· ≠ CodePoint.ofChar '.')).reverse
  if ending.isEmpty || name.length ≤ ending.length + 1 then []
  else name.drop (name.length - ending.length - 1)

def impliesJsx (path : Path) : Bool :=
  let ending := suffix (path.getLast?.getD [])
  ending = Text.ofString ".jsx" || ending = Text.ofString ".tsx"

def readErrorText (path : Path) : StoreError → Text
  | .undecodable fault => fault.message
  -- A file that is not there is noticed before it is read.
  | _ => "[Errno 21] Is a directory: " ++ path.text.quoted

/-- What is said about a report that fails, if the run ends in good order then. -/
def failureNotice? (path : Path) : Failure → Option Text
  | .source (.malformed e) | .source (.unencodable e) =>
    some ("ERROR " ++ path.text ++ placeText e.line e.column ++ ": " ++ e.description ++ "\n")
  | .names (.unsupportedPattern declarator) =>
    some ("ERROR " ++ path.text ++ ": " ++
      (NameError.unsupportedPattern declarator).message ++ "\n")
  | .names (.missingIdentifier declaration) =>
    some ("ERROR " ++ path.text ++ ": " ++
      (NameError.missingIdentifier declaration).message ++ "\n")
  -- Names that are no texts or end inside a character, and results that cannot be kept.
  | _ => none

def failed (s : Store) (path : Path) (events : List Event) (failure : Failure) : Outcome :=
  match failureNotice? path failure with
  | some notice => { store := s, ending := .exit 1, events, notice }
  | none => { store := s, ending := .escape (.failure failure), events }

/-- Writes or prints the statement for some names. -/
def deliver (s : Store) (settings : Settings) (path : Path) (events : List Event)
    (names : List Text) : Outcome :=
  let statement := renderExport names { semicolon := settings.semicolon }
  if names.isEmpty then
    { store := s, ending := .exit 0, events
      notice := "INFO " ++ path.text ++ ": nothing to export\n" }
  else if settings.write then
    match s.appendStatement path statement with
    | (s, .ok ()) =>
      { store := s, ending := .exit 0, events := events ++ [.appended path.text]
        notice := "INFO " ++ path.text ++ ": appended " ++ statement ++ "\n" }
    | (s, .error e) => { store := s, ending := .escape (.store e), events }
  -- The output is written as UTF-8, like the files.
  else if (Utf8.encode? statement).isNone then
    { store := s, ending := .escape (.store .unencodable), events }
  else { store := s, ending := .exit 0, output := statement ++ "\n", events }

def scan (trees : TreeSource) (workingDirectory : Path) (s : Store) (input : Text)
    (settings : Settings) : Outcome :=
  let path := (Route.ofText input).resolve workingDirectory
  if !s.has path then
    { store := s, ending := .exit 1
      notice := "ERROR: Input file not found: " ++ path.text ++ "\n" }
  else
    match s.readText path with
    | .error e =>
      { store := s, ending := .exit 1
        notice := "ERROR: Failed to read " ++ path.text ++ ": " ++ readErrorText path e ++ "\n" }
    | .ok source =>
      let document : Document :=
        { source
          sourceName := path.text
          dialect := dialectOrDefault settings.dialect
          jsx := settings.jsx || impliesJsx path }
      let options : RenderOptions := { semicolon := settings.semicolon }
      let cache := settings.cacheDirectory.map fun directory =>
        { workingDirectory, route := Route.ofText directory : Cache }
      let (s, result) := s.report trees document options cache
      let events := reportEvents trees document options cache result
      match result with
      | .error failure => failed s path events failure
      | .ok report =>
        deliver s settings path events (if settings.all then report.exportable else report.missing)

/-- Runs the program; gives also its error output. -/
def run (trees : TreeSource) (workingDirectory : Path) (s : Store) (arguments : List Text) :
    Outcome × Text :=
  match invocation arguments with
  | .error (.help topic) => ({ store := s, ending := .exit 0, output := topic.help }, [])
  | .error (.refusal topic problem) =>
    ({ store := s, ending := .exit 2 },
      topic.usage ++ topic.name ++ ": error: " ++ problem.message ++ "\n")
  | .ok { scan := none, .. } =>
    ({ store := s, ending := .exit 1, output := Topic.help .program }, [])
  | .ok { verbose, scan := some (input, settings) } =>
    let outcome := scan trees workingDirectory s input settings
    (outcome, outcome.errors verbose)

end ExportList.Command
