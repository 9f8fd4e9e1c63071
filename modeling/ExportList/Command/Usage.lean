import ExportList.Text

/-!
The help texts of the command line.
-/

set_option autoImplicit false

namespace ExportList.Command

/-- The program as a whole, or its one command. -/
inductive Topic where
  | program
  | scan
deriving DecidableEq, Repr

namespace Topic

def name : Topic → Text
  | .program => "autoexport"
  | .scan => "autoexport scan"

def usage : Topic → Text
  | .program => "usage: autoexport [-h] [--verbose] \x7bscan\x7d ...\n"
  | .scan =>
    "usage: autoexport scan [-h] [--dialect \x7btypescript,javascript\x7d] [--jsx]\n" ++
    "                       [--all] [--semicolon] [--write] [--cache-dir CACHE_DIR]\n" ++
    "                       input\n"

def details : Topic → Text
  | .program =>
    "Generate an export statement for top-level declarations\n" ++
    "\n" ++
    "positional arguments:\n" ++
    "  \x7bscan\x7d\n" ++
    "    scan      Print an export statement for unexported declarations\n" ++
    "\n" ++
    "options:\n" ++
    "  -h, --help  show this help message and exit\n" ++
    "  --verbose   Log parsing and analysis details to stderr.\n"
  | .scan =>
    "positional arguments:\n" ++
    "  input                 Path to the JavaScript or TypeScript file\n" ++
    "\n" ++
    "options:\n" ++
    "  -h, --help            show this help message and exit\n" ++
    "  --dialect \x7btypescript,javascript\x7d\n" ++
    "                        Source dialect (defaults to typescript, which also\n" ++
    "                        reads modern JavaScript)\n" ++
    "  --jsx                 Enable JSX syntax (implied for .jsx and .tsx files).\n" ++
    "  --all                 Include names an existing export list already covers.\n" ++
    "  --semicolon           Terminate the generated statement with a semicolon.\n" ++
    "  --write               Append the statement to the input file instead of\n" ++
    "                        printing it.\n" ++
    "  --cache-dir CACHE_DIR\n" ++
    "                        Directory to store the parsed program as JSON.\n"

def help (t : Topic) : Text := t.usage ++ "\n" ++ t.details

end Topic

end ExportList.Command
