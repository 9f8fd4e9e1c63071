import ExportList.Concrete.Tree

/-!
Moving through the characters of a TypeScript document, and the gaps of blanks and comments between
its tokens.
-/

set_option autoImplicit false

namespace ExportList.Typed

open Concrete (Point)

def pointAfter (p : Point) (c : Char) : Point :=
  if c = '\n' then ⟨p.offset + 1, p.row + 1, 0⟩
  else ⟨p.offset + c.utf8Size, p.row, p.column + c.utf8Size⟩

structure Cursor where
  rest : List Char
  point : Point
deriving DecidableEq, Repr

namespace Cursor

def start (source : List Char) : Cursor := ⟨source, ⟨0, 0, 0⟩⟩

def skip : (count : Nat) → Cursor → Cursor
  | 0, c => c
  | count + 1, c =>
    match c.rest with
    | [] => c
    | first :: rest => skip count ⟨rest, pointAfter c.point first⟩

def skipWhile (test : Char → Bool) (point : Point) : List Char → Cursor
  | [] => ⟨[], point⟩
  | c :: rest => if test c then skipWhile test (pointAfter point c) rest else ⟨c :: rest, point⟩

def finish (c : Cursor) : Cursor := skipWhile (fun _ => true) c.point c.rest

end Cursor

/-- White space, and three characters without a width. -/
def isBlank (c : Char) : Bool :=
  inRanges
    [(0x09, 0x0D), (0x20, 0x20), (0x85, 0x85), (0xA0, 0xA0), (0x1680, 0x1680), (0x2000, 0x200B),
      (0x2028, 0x2029), (0x202F, 0x202F), (0x205F, 0x2060), (0x3000, 0x3000), (0xFEFF, 0xFEFF)]
    c.toNat

def endsLine (c : Char) : Bool :=
  c = '\n' || c = '\r' || c.toNat = 0x2028 || c.toNat = 0x2029

/-- ASCII characters with a meaning of their own. -/
def isPunctuation (c : Char) : Bool :=
  [':', ';', '`', '"', '\'', '@', '#', '.', ',', '|', '^', '&', '<', '=', '>', '+', '-', '*', '/',
    '\\', '%', '?', '!', '~', '(', ')', '[', ']', '\x7b', '\x7d'].contains c

def isWordStart (c : Char) : Bool :=
  0x20 ≤ c.toNat && !isBlank c && !c.isDigit && !isPunctuation c

def isWordPart (c : Char) : Bool := isWordStart c || c.isDigit

/-- What lies between two tokens: whether a line ends there, where the last comment before that
ends, and where all comments begin and end. -/
structure Gap where
  hasBreak : Bool := false
  commentStop : Option Point := none
  comments : List (Point × Point) := []
deriving DecidableEq, Repr

namespace Gap

def withBlank (g : Gap) (c : Char) : Gap := if c = '\n' then { g with hasBreak := true } else g

def withComment (g : Gap) (start stop : Point) : Gap :=
  { g with
    commentStop := if g.hasBreak then g.commentStop else some stop
    comments := g.comments ++ [(start, stop)] }

end Gap

/-- Where a gap can be: between comments, or inside one of either kind that began somewhere. -/
inductive Zone where
  | plain
  | line (start : Point)
  | block (start : Point)
deriving DecidableEq, Repr

/-- Whether a block comment ends at all. -/
def closesComment : List Char → Bool
  | [] => false
  | '*' :: '/' :: _ => true
  | _ :: rest => closesComment rest

def scanGap (zone : Zone) (gap : Gap) (point : Point) : List Char → Gap × Cursor
  | [] =>
    match zone with
    | .line start => (gap.withComment start point, ⟨[], point⟩)
    | _ => (gap, ⟨[], point⟩)
  | [c] =>
    match zone with
    | .plain =>
      if isBlank c then (gap.withBlank c, ⟨[], pointAfter point c⟩) else (gap, ⟨[c], point⟩)
    | .line start =>
      if endsLine c then ((gap.withComment start point).withBlank c, ⟨[], pointAfter point c⟩)
      else (gap.withComment start (pointAfter point c), ⟨[], pointAfter point c⟩)
    | .block _ => (gap, ⟨[], pointAfter point c⟩)
  | c :: d :: rest =>
    match zone with
    | .plain =>
      if isBlank c then scanGap .plain (gap.withBlank c) (pointAfter point c) (d :: rest)
      else if c = '/' && d = '/' then
        scanGap (.line point) gap (pointAfter (pointAfter point c) d) rest
      else if c = '/' && d = '*' && closesComment rest then
        scanGap (.block point) gap (pointAfter (pointAfter point c) d) rest
      else (gap, ⟨c :: d :: rest, point⟩)
    | .line start =>
      if endsLine c then
        scanGap .plain ((gap.withComment start point).withBlank c) (pointAfter point c) (d :: rest)
      else scanGap (.line start) gap (pointAfter point c) (d :: rest)
    | .block start =>
      if c = '*' && d = '/' then
        let stop := pointAfter (pointAfter point c) d
        scanGap .plain (gap.withComment start stop) stop rest
      else scanGap (.block start) gap (pointAfter point c) (d :: rest)

end ExportList.Typed
