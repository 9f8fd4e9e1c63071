import ExportList.Command.Arguments
import ExportList.Command.Usage

/-!
What the arguments of a run ask for.  The program has one command; the arguments after its name are
its own, and those it does not know are reported by the program once the command has what it needs.
-/

set_option autoImplicit false

namespace ExportList.Command

inductive Problem where
  | ambiguous (ambiguity : Ambiguity)
  | unusedValue (option value : Text)
  | missingValue (option : Text)
  | invalidChoice (argument value choices : Text)
  | missingInput
  | unrecognized (arguments : List Text)
deriving DecidableEq, Repr

def Problem.message : Problem → Text
  | .ambiguous a =>
    "ambiguous option: " ++ a.argument ++ " could match " ++ Text.join ", " a.candidates
  | .unusedValue option value =>
    "argument " ++ option ++ ": ignored explicit argument " ++ value.quoted
  | .missingValue option => "argument " ++ option ++ ": expected one argument"
  | .invalidChoice argument value choices =>
    "argument " ++ argument ++ ": invalid choice: " ++ value.quoted ++
      " (choose from " ++ choices ++ ")"
  | .missingInput => "the following arguments are required: input"
  | .unrecognized arguments => "unrecognized arguments: " ++ Text.join " " arguments

/-- Why the arguments ask for no work. -/
inductive Interruption where
  | help (topic : Topic)
  | refusal (topic : Topic) (problem : Problem)
deriving DecidableEq, Repr

structure Settings where
  input : Option Text := none
  dialect : Option Dialect := none
  jsx : Bool := false
  all : Bool := false
  semicolon : Bool := false
  write : Bool := false
  cacheDirectory : Option Text := none
deriving DecidableEq, Repr

structure Invocation where
  verbose : Bool := false
  scan : Option (Text × Settings) := none
deriving DecidableEq, Repr

def helpNames : List Text := ["-h", "--help"]

/-- The interruption that asking for help leads to, given what is attached to the option. -/
def helpWith (topic : Topic) (name : Text) (attached : Option (Bool × Text)) : Interruption :=
  match attached with
  | none => .help topic
  | some (equals, value) =>
    let unused :=
      if name = Text.ofString "-h" then unusable? (CodePoint.ofChar 'h') equals value
      else some value
    match unused with
    | none => .help topic
    | some value => .refusal topic (.unusedValue "-h/--help" value)

def scanNames : List Text :=
  helpNames ++
    (["--dialect", "--jsx", "--all", "--semicolon", "--write", "--cache-dir"] : List Text)

def takesValue (name : Text) : Bool :=
  name = Text.ofString "--dialect" || name = Text.ofString "--cache-dir"

def Settings.setFlag (s : Settings) (name : Text) : Settings :=
  if name = Text.ofString "--jsx" then { s with jsx := true }
  else if name = Text.ofString "--all" then { s with all := true }
  else if name = Text.ofString "--semicolon" then { s with semicolon := true }
  else { s with write := true }

def Settings.setValue (s : Settings) (name value : Text) : Except Interruption Settings :=
  if name = Text.ofString "--dialect" then
    match Dialect.ofName? value with
    | some dialect => .ok { s with dialect := some dialect }
    | none => .error (.refusal .scan (.invalidChoice name value Dialect.names))
  else .ok { s with cacheDirectory := some value }

structure Progress where
  settings : Settings := {}
  /-- The option whose value comes next. -/
  awaiting : Option Text := none
  /-- Whether the argument before was the input. -/
  isAfterInput : Bool := false
  /-- The arguments without a place. -/
  others : List Text := []
deriving DecidableEq, Repr

namespace Progress

def withSettings (p : Progress) (settings : Settings) : Progress :=
  { p with settings, awaiting := none, isAfterInput := false }

def withOther (p : Progress) (argument : Text) : Progress :=
  { p with isAfterInput := false, others := p.others ++ [argument] }

def readOption (p : Progress) (name : Text) (attached : Option (Bool × Text)) :
    Except Interruption Progress :=
  if helpNames.contains name then .error (helpWith .scan name attached)
  else
    match takesValue name, attached with
    | true, some (_, value) => (p.settings.setValue name value).map p.withSettings
    | true, none => .ok { p with awaiting := some name, isAfterInput := false }
    | false, some (_, value) => .error (.refusal .scan (.unusedValue name value))
    | false, none => .ok (p.withSettings (p.settings.setFlag name))

/-- Reads a word: the input or, after it, one without a place. -/
def readWord (p : Progress) (word : Text) : Progress :=
  match p.settings.input with
  | none => { p.withSettings { p.settings with input := some word } with isAfterInput := true }
  | some _ => p.withOther word

/-- Reads two dashes alone, which may stand before or right after the input. -/
def readDashes (p : Progress) (argument : Text) : Progress :=
  if p.settings.input.isNone || p.isAfterInput then { p with isAfterInput := false }
  else p.withOther argument

def step (p : Progress) (argument : Text × Reading) : Except Interruption Progress :=
  match p.awaiting, argument.2 with
  | some name, .word => (p.settings.setValue name argument.1).map p.withSettings
  | some name, _ => .error (.refusal .scan (.missingValue name))
  | none, .word => .ok (p.readWord argument.1)
  | none, .dashes => .ok (p.readDashes argument.1)
  | none, .unknown => .ok (p.withOther argument.1)
  | none, .option name attached => p.readOption name attached

end Progress

def readingsFor (topic : Topic) (names arguments : List Text) :
    Except Interruption (List (Text × Reading)) :=
  (readArguments names arguments).mapError fun a => .refusal topic (.ambiguous a)

/-- The input, the settings and the arguments without a place that the scan command is given. -/
def scanSettings (arguments : List Text) : Except Interruption (Text × Settings × List Text) := do
  let readings ← readingsFor .scan scanNames arguments
  let p ← readings.foldlM Progress.step {}
  match p.awaiting, p.settings.input with
  | some name, _ => throw (.refusal .scan (.missingValue name))
  | none, none => throw (.refusal .scan .missingInput)
  | none, some input => return (input, p.settings, p.others)

def programNames : List Text := helpNames ++ [Text.ofString "--verbose"]

/-- The invocation that arguments before and after the command's name make up. -/
def invocationWith (verbose : Bool) (others : List Text) (command : Option (Text × Settings)) :
    Except Interruption Invocation :=
  if others.isEmpty then .ok { verbose, scan := command }
  else .error (.refusal .program (.unrecognized others))

/-- Goes through the arguments of the program, with those that have no place so far. -/
def programInvocation (verbose : Bool) (others : List Text) :
    List (Text × Reading) → Except Interruption Invocation
  | [] => invocationWith verbose others none
  | (argument, .unknown) :: rest => programInvocation verbose (others ++ [argument]) rest
  | (_, .option name attached) :: rest =>
    if helpNames.contains name then .error (helpWith .program name attached)
    else
      match attached with
      | some (_, value) => .error (.refusal .program (.unusedValue name value))
      | none => programInvocation true others rest
  -- Two dashes are taken for the command's name if something follows them.
  | [(argument, .dashes)] => invocationWith verbose (others ++ [argument]) none
  | (argument, _) :: rest =>
    if argument = Text.ofString "scan" then do
      let (input, settings, more) ← scanSettings (rest.map Prod.fst)
      invocationWith verbose (others ++ more) (some (input, settings))
    else .error (.refusal .program (.invalidChoice "command" argument (Text.quoted "scan")))

def invocation (arguments : List Text) : Except Interruption Invocation := do
  programInvocation false [] (← readingsFor .program programNames arguments)

end ExportList.Command
