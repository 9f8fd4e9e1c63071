import ExportList.Report

/-!
A store of files, the steps a run takes on it, and what can go wrong with them.  A path is the list
of components from the root directory on; the empty path is the root itself.
-/

set_option autoImplicit false

namespace ExportList

/-- Components from the root directory on. -/
abbrev Path := List Text

inductive Entry where
  | file (bytes : Bytes)
  | directory
deriving DecidableEq, Repr

/-- The files and directories below the root. -/
structure Store where
  entries : List (Path × Entry) := []
deriving DecidableEq, Repr

inductive StoreError where
  | isDirectory
  | notDirectory
  | alreadyExists
  | notFound
  | undecodable (fault : Utf8.Fault)
  | unencodable
deriving DecidableEq, Repr

namespace Store

def get? (s : Store) (path : Path) : Option Entry :=
  if path.isEmpty then some .directory
  else (s.entries.find? fun entry => entry.1 = path).map Prod.snd

def put (s : Store) (path : Path) (entry : Entry) : Store :=
  ⟨(path, entry) :: s.entries.filter fun old => old.1 ≠ path⟩

def has (s : Store) (path : Path) : Bool := (s.get? path).isSome

/-- The text of a file, its line ends in one form. -/
def readText (s : Store) (path : Path) : Except StoreError Text :=
  match s.get? path with
  | some (.file bytes) => ((Utf8.decode bytes).map Text.normalizeNewlines).mapError .undecodable
  | some .directory => .error .isDirectory
  | none => .error .notFound

/-- The bytes of a file that is about to be written, or none if there is no such file yet. -/
def openBytes (s : Store) (path : Path) : Except StoreError Bytes :=
  match s.get? path with
  | some (.file bytes) => .ok bytes
  | some .directory => .error .isDirectory
  | none =>
    match s.get? path.dropLast with
    | some .directory => .ok []
    | some (.file _) => .error .notDirectory
    | none => .error .notFound

/-- Puts a text at the end of some bytes of a file, which stay alone if the text has no UTF-8
form. -/
def writeAfter (s : Store) (path : Path) (bytes : Bytes) (text : Text) :
    Store × Except StoreError Unit :=
  match Utf8.encode? text with
  | some added => (s.put path (.file (bytes ++ added)), .ok ())
  | none => (s.put path (.file bytes), .error .unencodable)

def writeText (s : Store) (path : Path) (text : Text) : Store × Except StoreError Unit :=
  match s.openBytes path with
  -- Opening empties the file, and it stays empty if the text cannot be written.
  | .ok _ => s.writeAfter path [] text
  | .error e => (s, .error e)

def appendText (s : Store) (path : Path) (text : Text) : Store × Except StoreError Unit :=
  match s.openBytes path with
  | .ok bytes => s.writeAfter path bytes text
  | .error e => (s, .error e)

/-- Follows components from a path on; all but the last have to be directories. -/
def follow (s : Store) (path : Path) : List Text → Except StoreError Path
  | [] => .ok path
  | component :: rest =>
    match s.get? path with
    | none => .error .notFound
    | some (.file _) => .error .notDirectory
    | some .directory =>
      -- Only a directory that is there can be left by double dots.
      if component = Text.ofString ".." then s.follow path.dropLast rest
      else s.follow (path ++ [component]) rest

/-- Makes one directory below a path; one that is there already is left alone. -/
def makeDirectory (s : Store) (start : Path) (components : List Text) : Except StoreError Store :=
  match s.follow start components with
  | .error e => .error e
  | .ok path =>
    match s.get? path with
    | none => .ok (s.put path .directory)
    | some .directory => .ok s
    | some (.file _) => .error .alreadyExists

/-- Makes a directory and those above it, given the components last one first. -/
def makeDirectoriesReversed (s : Store) (start : Path) : List Text → Store × Except StoreError Unit
  | [] => (s, .ok ())
  | last :: above =>
    match s.makeDirectory start (last :: above).reverse with
    | .ok made => (made, .ok ())
    | .error .notFound =>
      -- Something above is missing: that is made first, and then this is tried again.
      match s.makeDirectoriesReversed start above with
      | (made, .ok ()) =>
        match made.makeDirectory start (last :: above).reverse with
        | .ok made => (made, .ok ())
        | .error e => (made, .error e)
      | failed => failed
    | .error e => (s, .error e)

def makeDirectories (s : Store) (start : Path) (components : List Text) :
    Store × Except StoreError Unit :=
  s.makeDirectoriesReversed start components.reverse

end Store

/-- A statement as it is put behind a text: on a line of its own that is ended. -/
def statementLine (existing statement : Text) : Text :=
  (if existing.isEmpty || existing.endsWith (CodePoint.ofChar '\n') then []
    else Text.ofString "\n") ++
    statement.dropTrailing (CodePoint.ofChar '\n') ++ Text.ofString "\n"

/-- Puts a statement on its own line at the end of a file. -/
def Store.appendStatement (s : Store) (path : Path) (statement : Text) :
    Store × Except StoreError Unit :=
  -- What the file holds decides only whether its last line has to be ended.
  match if s.has path then s.readText path else .ok [] with
  | .ok existing => s.appendText path (statementLine existing statement)
  | .error e => (s, .error e)

/-- A path as it is written: from the root or from the working directory, with single dots and
empty components left out. -/
structure Route where
  isAbsolute : Bool
  components : List Text
deriving DecidableEq, Repr

namespace Route

def ofText (t : Text) : Route where
  isAbsolute := Text.startsWith t "/"
  components := (Text.splitAt (CodePoint.ofChar '/') t).filter fun part =>
    !part.isEmpty && part ≠ Text.ofString "."

def start (r : Route) (workingDirectory : Path) : Path :=
  if r.isAbsolute then [] else workingDirectory

def child (r : Route) (name : Text) : Route := { r with components := r.components ++ [name] }

def text (r : Route) : Text := (if r.isAbsolute then "/" else "") ++ Text.join "/" r.components

/-- The path that a route leads to when directories are left by double dots whatever they hold. -/
def resolve (r : Route) (workingDirectory : Path) : Path :=
  r.components.foldl
    (fun path part => if part = Text.ofString ".." then path.dropLast else path ++ [part])
    (r.start workingDirectory)

end Route

def Path.text (path : Path) : Text := Route.text ⟨true, path⟩

def Parsed.cacheName (p : Parsed) : Text := p.hash ++ ".json"

inductive CacheError where
  | store (error : StoreError)
  | unprintable (fault : Json.Unprintable)
deriving DecidableEq, Repr

/-- A directory for results, and the path it is seen from. -/
structure Cache where
  workingDirectory : Path
  route : Route
deriving DecidableEq, Repr

/-- Keeps a result in a directory, which is made if need be. -/
def Store.keep (s : Store) (cache : Cache) (parsed : Parsed) : Store × Except CacheError Unit :=
  let start := cache.route.start cache.workingDirectory
  match s.makeDirectories start cache.route.components with
  | (s, .error e) => (s, .error (.store e))
  | (s, .ok ()) =>
    -- A result without a JSON text leaves its file alone, but the directory is there by now.
    match parsed.json, s.follow start (cache.route.child parsed.cacheName).components with
    | .error e, _ => (s, .error (.unprintable e))
    | .ok _, .error e => (s, .error (.store e))
    | .ok text, .ok path =>
      match s.writeText path text with
      | (s, .ok ()) => (s, .ok ())
      | (s, .error e) => (s, .error (.store e))

inductive Failure where
  | source (error : SourceError)
  | names (error : NameError)
  | cache (error : CacheError)
deriving Repr

/-- Reports on a document and keeps the result, if a directory for it is given. -/
def Store.report (s : Store) (trees : TreeSource) (document : Document) (options : RenderOptions)
    (cache : Option Cache) : Store × Except Failure Report :=
  match document.parse trees with
  | .error e => (s, .error (.source e))
  | .ok parsed =>
    match ExportList.report options parsed, cache with
    | .error e, _ => (s, .error (.names e))
    | .ok report, none => (s, .ok report)
    | .ok report, some cache =>
      match s.keep cache parsed with
      | (s, .ok ()) => (s, .ok report)
      | (s, .error e) => (s, .error (.cache e))

end ExportList
