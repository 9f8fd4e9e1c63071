import ExportList.Command.Scan

/-!
The command line on the disk: what a run may look at is read into a store before it, and what it has
changed is written back after it.
-/

set_option autoImplicit false

namespace ExportList.Command

/-- A path and all that lead to it, shortest first. -/
def ancestors (path : Path) : List Path := (List.range (path.length + 1)).map fun n => path.take n

def pathsAlong (workingDirectory : Path) (r : Route) : List Path :=
  (ancestors r.components).flatMap fun components =>
    ancestors (Route.resolve { r with components } workingDirectory)

/-- The paths that a run with some arguments may look at. -/
def visitedPaths (workingDirectory : Path) (arguments : List Text) : List Path :=
  match invocation arguments with
  | .ok { scan := some (input, settings), .. } =>
    ([input] ++ settings.cacheDirectory.toList).flatMap fun text =>
      pathsAlong workingDirectory (Route.ofText text)
  | _ => []

def diskName (path : Path) : String := (Text.toString? path.text).getD "/"

def readEntry (path : Path) : IO (Option Entry) := do
  try
    let place ← IO.FS.realPath (diskName path)
    if ← place.isDir then return some .directory
    let bytes ← IO.FS.readBinFile place
    return some (.file bytes.toList)
  catch _ => return none

def readStore (paths : List Path) : IO Store :=
  paths.foldlM
    (fun s path => do
      match ← readEntry path with
      | some entry => return s.put path entry
      | none => return s)
    {}

def writeEntry (path : Path) : Entry → IO Unit
  | .directory => IO.FS.createDirAll (diskName path)
  | .file bytes => IO.FS.writeBinFile (diskName path) ⟨bytes.toArray⟩

/-- Writes the entries of a store to the disk that are not in another one, older ones first. -/
def writeChanges (before after : Store) : IO Unit :=
  after.entries.reverse.forM fun entry => do
    unless before.get? entry.1 = some entry.2 do writeEntry entry.1 entry.2

def writeText (stream : IO.FS.Stream) (text : Text) : IO Unit := do
  stream.write ⟨((Utf8.encode? text).getD []).toArray⟩
  stream.flush

def Ending.code : Ending → UInt32
  | .exit code => code.toUInt32
  | .escape _ => 1

end ExportList.Command

open ExportList ExportList.Command in
def main (arguments : List String) : IO UInt32 := do
  let texts := arguments.map Text.ofString
  let current ← IO.currentDir
  let workingDirectory := (Route.ofText (Text.ofString current.toString)).resolve []
  let before ← readStore (visitedPaths workingDirectory texts)
  let (outcome, errors) := run grammarTrees workingDirectory before texts
  writeChanges before outcome.store
  writeText (← IO.getStdout) outcome.output
  writeText (← IO.getStderr) errors
  return outcome.ending.code
