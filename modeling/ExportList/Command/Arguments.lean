import ExportList.Source

/-!
Reading command-line arguments.  Options have one or two dashes; a long one may be cut short as long
as it stays the only one with that beginning, and may carry a value after an equals sign.  After two
dashes alone every argument is a word.
-/

set_option autoImplicit false

namespace ExportList.Command

/-- What an argument looks like to a command with certain options. -/
inductive Reading where
  | word
  | dashes
  /-- An option that the command does not have. -/
  | unknown
  /-- An option and the value attached to it, with or without an equals sign. -/
  | option (name : Text) (attached : Option (Bool × Text))
deriving DecidableEq, Repr

structure Ambiguity where
  argument : Text
  candidates : List Text
deriving DecidableEq, Repr

/-- A text at its first equals sign: what is before and, if there is one, what is after. -/
def splitEquals (t : Text) : Text × Option Text :=
  match t.dropWhile (· ≠ CodePoint.ofChar '=') with
  | [] => (t, none)
  | _ :: value => (t.takeWhile (· ≠ CodePoint.ofChar '='), some value)

/-- Whether a text is a minus sign and digits, perhaps with a point among them before the last, and
perhaps with a line feed at the end. -/
def isNegativeNumber (t : Text) : Bool :=
  match t with
  | [] => false
  | sign :: rest =>
    let body : Text := if Text.endsWith rest (CodePoint.ofChar '\n') then rest.dropLast else rest
    let whole : Text := body.takeWhile CodePoint.isDigit
    let tail : Text := body.drop whole.length
    sign = CodePoint.ofChar '-' &&
      match tail with
      | [] => !whole.isEmpty
      | point :: digits =>
        point = CodePoint.ofChar '.' && !digits.isEmpty && digits.all CodePoint.isDigit

/-- The readings of an argument that is no option's full name, by the options it may stand for. -/
def abbreviations (names : List Text) (argument : Text) : List (Text × Option (Bool × Text)) :=
  if Text.startsWith argument "--" then
    let (start, value) := splitEquals argument
    (names.filter fun name => name.startsWith start).map fun name =>
      (name, value.map fun v => (true, v))
  else
    -- With one dash the first letter is the option, and the rest is attached to it.
    (names.filter fun name => name = argument.take 2).map fun name =>
      (name, some (false, argument.drop 2))

/-- Reads an argument before which no two dashes stood alone. -/
def readArgument (names : List Text) (argument : Text) : Except Ambiguity Reading :=
  if argument = Text.ofString "--" then .ok .dashes
  else if !Text.startsWith argument "-" then .ok .word
  else if names.contains argument then .ok (.option argument none)
  -- A dash alone is a word.
  else if argument.length = 1 then .ok .word
  else
    match splitEquals argument, abbreviations names argument with
    | (name, some value), found =>
      if names.contains name then .ok (.option name (some (true, value)))
      else readAbbreviation found
    | (_, none), found => readAbbreviation found
where
  /-- The reading for the options an argument may stand for. -/
  readAbbreviation : List (Text × Option (Bool × Text)) → Except Ambiguity Reading
    | [] =>
      if isNegativeNumber argument || argument.contains (CodePoint.ofChar ' ') then .ok .word
      else .ok .unknown
    | [(name, attached)] => .ok (.option name attached)
    | found => .error ⟨argument, found.map Prod.fst⟩

/-- Reads arguments; all after two dashes alone are words. -/
def readArguments (names : List Text) : List Text → Except Ambiguity (List (Text × Reading))
  | [] => .ok []
  | argument :: rest => do
    match ← readArgument names argument with
    | .dashes => return (argument, .dashes) :: rest.map fun word => (word, .word)
    | reading => return (argument, reading) :: (← readArguments names rest)

/-- What is attached to a one-letter option without a value stands for further letters; gives the
part that cannot.  Letters other than that of the option are let pass. -/
def unusable? (letter : CodePoint) (equals : Bool) (attached : Text) : Option Text :=
  match attached with
  | [] => some []
  | c :: rest =>
    if equals || c = CodePoint.ofChar '-' then some attached
    else if c = letter then
      match rest with
      | [] => none
      | d :: value =>
        if d = CodePoint.ofChar '=' then unusable? letter true value
        else unusable? letter false (d :: value)
    else none

end ExportList.Command
