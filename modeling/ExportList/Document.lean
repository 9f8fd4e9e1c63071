import ExportList.Decimal.Shortest
import ExportList.Text.Quoted

/-!
Documents: the ordered, JSON-like values that programs are exchanged as.  A program is an object
whose `type` field is its tag; a field that is absent reads as null.
-/

set_option autoImplicit false

namespace ExportList

/-- A document.  A compiled regular expression is a value without a JSON form. -/
inductive Value where
  | null
  | bool (b : Bool)
  | int (n : Int)
  | float (bits : Nat)
  | text (t : Text)
  | pattern
  | list (items : List Value)
  | object (fields : List (Text × Value))
deriving Repr

abbrev Fields := List (Text × Value)

namespace Fields

def get? (fields : Fields) (key : Text) : Option Value :=
  (fields.find? fun field => field.1 = key).map Prod.snd

/-- Gives a key a new value: in its place if it has one, else at the end. -/
def set (fields : Fields) (key : Text) (value : Value) : Fields :=
  match fields with
  | [] => [(key, value)]
  | field :: rest => if field.1 = key then (key, value) :: rest else field :: set rest key value

def update (fields changes : Fields) : Fields :=
  changes.foldl (fun fields change => set fields change.1 change.2) fields

end Fields

namespace Value

instance : Inhabited Value := ⟨.null⟩

def field? (v : Value) (key : Text) : Option Value :=
  match v with
  | .object fields => Fields.get? fields key
  | _ => none

/-- The value of a field; null if there is none. -/
def field (v : Value) (key : Text) : Value := (v.field? key).getD .null

/-- The elements of a list; anything else has none. -/
def items : Value → List Value
  | .list items => items
  | _ => []

def isNull : Value → Bool
  | .null => true
  | _ => false

def isText (v : Value) (t : Text) : Bool :=
  match v with
  | .text s => s = t
  | _ => false

def tag (v : Value) : Value := v.field "type"

def hasTag (v : Value) (t : Text) : Bool := v.tag.isText t

def nat (n : Nat) : Value := .int n

def string (s : String) : Value := .text s

mutual

/-- A value as messages show it inside another one. -/
def shown : Value → Text
  | .null => "None"
  | .bool b => if b then "True" else "False"
  | .int n => Text.ofInt n
  | .float bits => if bits = Binary64.infinityBits then "inf" else Binary64.toText bits
  | .text t => t.quoted
  | .pattern => "<pattern>"
  | .list items => "[" ++ Text.join ", " (shownItems items) ++ "]"
  | .object fields => "\x7b" ++ Text.join ", " (shownFields fields) ++ "\x7d"

def shownItems : List Value → List Text
  | [] => []
  | item :: rest => shown item :: shownItems rest

def shownFields : List (Text × Value) → List Text
  | [] => []
  | (key, value) :: rest => (key.quoted ++ ": " ++ shown value) :: shownFields rest

end

/-- A value as messages show it: a text stands for itself. -/
def display : Value → Text
  | .text t => t
  | v => shown v

end Value

end ExportList
