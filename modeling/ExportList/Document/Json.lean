import ExportList.Document

/-!
The JSON text of a document: two blanks of indentation for each level, one element or field a line,
and no escapes but for quotes, backslashes and control characters.
-/

set_option autoImplicit false

namespace ExportList.Json

/-- Why a document has no JSON text. -/
inductive Unprintable where
  | pattern
  | longInteger
deriving DecidableEq, Repr

/-- The most digits that an integer may have. -/
def maxDigits : Nat := 4300

def Unprintable.message : Unprintable → Text
  | .pattern => "Object of type Pattern is not JSON serializable"
  | .longInteger =>
    "Exceeds the limit (" ++ Text.ofNat maxDigits ++
      " digits) for integer string conversion; use " ++
      "sys.set_int_max_str_digits() to increase the limit"

def escapePoint (c : CodePoint) : Text :=
  if c = CodePoint.ofChar '"' then "\\\""
  else if c = CodePoint.ofChar '\\' then "\\\\"
  else if c = CodePoint.ofChar '\n' then "\\n"
  else if c = CodePoint.ofChar '\r' then "\\r"
  else if c = CodePoint.ofChar '\t' then "\\t"
  else if c.val = 0x0C then "\\f"
  else if c.val = 0x08 then "\\b"
  else if c.val < 0x20 then "\\u" ++ Text.hex 4 c.val
  else [c]

def quote (t : Text) : Text := "\"" ++ t.flatMap escapePoint ++ "\""

def newline (level : Nat) : Text :=
  CodePoint.ofChar '\n' :: List.replicate (2 * level) (CodePoint.ofChar ' ')

/-- The parts of a list or object between its brackets, one a line. -/
def layout (left right : CodePoint) (level : Nat) (parts : List Text) : Text :=
  if parts.isEmpty then [left, right]
  else
    left :: newline (level + 1) ++
      Text.join ((CodePoint.ofChar ',') :: newline (level + 1)) parts ++ newline level ++ [right]

def printInt (n : Int) : Except Unprintable Text :=
  -- The sign is no digit.
  if (Text.ofNat n.natAbs).length ≤ maxDigits then .ok (Text.ofInt n) else .error .longInteger

mutual

/-- The JSON text of a value at a level. -/
def print (level : Nat) : Value → Except Unprintable Text
  | .null => .ok "null"
  | .bool b => .ok (if b then "true" else "false")
  | .int n => printInt n
  | .float bits =>
    .ok (if bits = Binary64.infinityBits then "Infinity" else Binary64.toText bits)
  | .text t => .ok (quote t)
  | .pattern => .error .pattern
  | .list items =>
    (printItems (level + 1) items).map (layout (CodePoint.ofChar '[') (CodePoint.ofChar ']') level)
  | .object fields =>
    (printFields (level + 1) fields).map
      (layout (CodePoint.ofChar '{') (CodePoint.ofChar '}') level)

def printItems (level : Nat) : List Value → Except Unprintable (List Text)
  | [] => .ok []
  | item :: rest =>
    match print level item with
    | .error fault => .error fault
    | .ok part => (printItems level rest).map (part :: ·)

def printFields (level : Nat) : List (Text × Value) → Except Unprintable (List Text)
  | [] => .ok []
  | (key, value) :: rest =>
    match print level value with
    | .error fault => .error fault
    | .ok part => (printFields level rest).map ((quote key ++ ": " ++ part) :: ·)

end

def render (v : Value) : Except Unprintable Text := print 0 v

end ExportList.Json
