import ExportList.Text

/-!
The UTF-8 form of texts.  Decoding reads the bytes one at a time and yields pieces: code points and
faults.  A fault covers the longest run of bytes that could still have begun a code point, so strict
decoding reports the first fault and lossy decoding puts one replacement character for each.
-/

set_option autoImplicit false

namespace ExportList

abbrev Bytes := List UInt8

namespace Utf8

def encodePoint (c : CodePoint) : Bytes :=
  let n := c.val
  if n < 0x80 then [n.toUInt8]
  else if n < 0x800 then [(0xC0 + n / 0x40).toUInt8, (0x80 + n % 0x40).toUInt8]
  else if n < 0x10000 then
    [(0xE0 + n / 0x1000).toUInt8, (0x80 + n / 0x40 % 0x40).toUInt8, (0x80 + n % 0x40).toUInt8]
  else
    [(0xF0 + n / 0x40000).toUInt8, (0x80 + n / 0x1000 % 0x40).toUInt8,
      (0x80 + n / 0x40 % 0x40).toUInt8, (0x80 + n % 0x40).toUInt8]

/-- The bytes of a text; a text with a surrogate has none. -/
def encode? : Text → Option Bytes
  | [] => some []
  | c :: rest =>
    if c.isSurrogate then none else (encode? rest).map (encodePoint c ++ ·)

inductive Reason where
  | invalidStart
  | invalidContinuation
  | unexpectedEnd
deriving DecidableEq, Repr

def Reason.message : Reason → Text
  | .invalidStart => "invalid start byte"
  | .invalidContinuation => "invalid continuation byte"
  | .unexpectedEnd => "unexpected end of data"

structure Fault where
  offset : Nat
  size : Nat
  first : UInt8
  reason : Reason
deriving DecidableEq, Repr

/-- The wording of a fault: the byte if it stands alone, else the range of positions. -/
def Fault.message (fault : Fault) : Text :=
  let place : Text :=
    if fault.size = 1 then
      "can't decode byte 0x" ++ Text.hex 2 fault.first.toNat ++ " in position " ++
        Text.ofNat fault.offset
    else
      "can't decode bytes in position " ++ Text.ofNat fault.offset ++ "-" ++
        Text.ofNat (fault.offset + fault.size - 1)
  "'utf-8' codec " ++ place ++ ": " ++ fault.reason.message

inductive Piece where
  | point (c : CodePoint)
  | fault (fault : Fault)
deriving DecidableEq, Repr

/-- The beginning of a code point: how many bytes follow, the range of the next one, and the bits
read so far. -/
structure Pending where
  missing : Nat
  lower : UInt8
  upper : UInt8
  value : Nat
  size : Nat
  first : UInt8
deriving DecidableEq, Repr

/-- What the first byte of a code point announces. -/
inductive Opening where
  | point (c : CodePoint)
  | pending (pending : Pending)
  | invalid
deriving DecidableEq, Repr

/-- Reads a first byte.  The ranges exclude overlong forms, surrogates and numbers past the end. -/
def opening (b : UInt8) : Opening :=
  let n := b.toNat
  if n < 0x80 then .point (CodePoint.ofNat n)
  -- Continuation bytes, and the first bytes of overlong pairs.
  else if n < 0xC2 then .invalid
  else if n < 0xE0 then .pending ⟨1, 0x80, 0xBF, n - 0xC0, 1, b⟩
  else if n < 0xF0 then
    .pending ⟨2, if n = 0xE0 then 0xA0 else 0x80, if n = 0xED then 0x9F else 0xBF, n - 0xE0, 1, b⟩
  else if n < 0xF5 then
    .pending ⟨3, if n = 0xF0 then 0x90 else 0x80, if n = 0xF4 then 0x8F else 0xBF, n - 0xF0, 1, b⟩
  else .invalid

def feedFresh (offset : Nat) (b : UInt8) : List Piece × Option Pending :=
  match opening b with
  | .point c => ([.point c], none)
  | .pending pending => ([], some pending)
  | .invalid => ([.fault ⟨offset, 1, b, .invalidStart⟩], none)

/-- Reads a byte inside a code point; one out of range ends the fault before it and begins anew. -/
def feedPending (offset : Nat) (pending : Pending) (b : UInt8) : List Piece × Option Pending :=
  if pending.lower ≤ b && b ≤ pending.upper then
    let value := pending.value * 0x40 + (b.toNat - 0x80)
    if pending.missing = 1 then ([.point (CodePoint.ofNat value)], none)
    else ([], some ⟨pending.missing - 1, 0x80, 0xBF, value, pending.size + 1, pending.first⟩)
  else
    let fault : Fault := ⟨offset - pending.size, pending.size, pending.first, .invalidContinuation⟩
    let (pieces, next) := feedFresh offset b
    (.fault fault :: pieces, next)

def feed (offset : Nat) (pending : Option Pending) (b : UInt8) : List Piece × Option Pending :=
  match pending with
  | none => feedFresh offset b
  | some pending => feedPending offset pending b

def piecesFrom (offset : Nat) (pending : Option Pending) : Bytes → List Piece
  | [] =>
    match pending with
    | none => []
    | some pending => [.fault ⟨offset - pending.size, pending.size, pending.first, .unexpectedEnd⟩]
  | b :: rest =>
    let (pieces, next) := feed offset pending b
    pieces ++ piecesFrom (offset + 1) next rest

def pieces (bytes : Bytes) : List Piece := piecesFrom 0 none bytes

/-- The code points of pieces without a fault, else the first fault. -/
def collect : List Piece → Except Fault Text
  | [] => .ok []
  | .point c :: rest => (collect rest).map (c :: ·)
  | .fault fault :: _ => .error fault

def decode (bytes : Bytes) : Except Fault Text := collect (pieces bytes)

/-- The code point a piece stands for when faults are replaced. -/
def Piece.replaced : Piece → CodePoint
  | .point c => c
  | .fault _ => CodePoint.ofNat 0xFFFD

/-- Decoding with a replacement character for each fault. -/
def decodeLossy (bytes : Bytes) : Text := (pieces bytes).map Piece.replaced

end Utf8

namespace Bytes

/-- An offset into a sequence of a given length; a negative one counts back from the end. -/
def clampOffset (length : Nat) (offset : Int) : Nat :=
  if offset < 0 then (length + offset).toNat else min offset.toNat length

def slice (bytes : Bytes) (start stop : Int) : Bytes :=
  let first := clampOffset bytes.length start
  (bytes.drop first).take (clampOffset bytes.length stop - first)

end Bytes

end ExportList
