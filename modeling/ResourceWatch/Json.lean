import ResourceWatch.Number.Shortest

/-!
JSON values. An object is a list of members in the order in which it is written: keys that are array
indices come first, in ascending order, and the others follow in the order in which they were added.
-/

namespace ResourceWatch

inductive Json where
  | null
  | bool (value : Bool)
  | num (value : Number)
  | str (value : Text)
  | arr (items : List Json)
  | obj (members : List (Text × Json))
deriving Inhabited

abbrev Members := List (Text × Json)

namespace Members

/-- The array index that a key spells: its digits have no leading zero and its value is below
`2 ^ 32 - 1`. -/
def index? (key : Text) : Option Nat :=
  if key.isEmpty || !key.all Text.isDigit then none
  else if Text.ofNat (Text.digitsValue key) = key && Text.digitsValue key < Nat.pow 2 32 - 1 then
    some (Text.digitsValue key)
  else none

/-- Whether a new key stands in front of one that is already there. -/
def precedes (key other : Text) : Bool :=
  match index? key, index? other with
  | some index, some index' => index < index'
  | some _, none => true
  | none, _ => false

def get? (members : Members) (key : Text) : Option Json :=
  members.lookup key

def keys (members : Members) : List Text :=
  members.map Prod.fst

/-- Puts a new key at its place among the others. -/
def place (key : Text) (value : Json) : Members → Members
  | [] => [(key, value)]
  | member :: rest =>
    if precedes key member.1 then (key, value) :: member :: rest
    else member :: place key value rest

/-- Gives `key` a value: a key that is there keeps its position. -/
def insert (members : Members) (key : Text) (value : Json) : Members :=
  if (members.get? key).isSome then
    members.map fun member => if member.1 = key then (key, value) else member
  else
    members.place key value

def ofList (pairs : List (Text × Json)) : Members :=
  pairs.foldl (fun members pair => insert members pair.1 pair.2) []

def erase (members : Members) (key : Text) : Members :=
  members.filter (·.1 ≠ key)

end Members

namespace Json

def member? (value : Json) (key : Text) : Option Json :=
  match value with
  | .obj members => members.lookup key
  | _ => none

def str? : Json → Option Text
  | .str text => some text
  | _ => none

def num? : Json → Option Number
  | .num number => some number
  | _ => none

def required (key : Text) (value : Json) : List (Text × Json) :=
  [(key, value)]

/-- A member that is written only if it has a value. -/
def optional (key : Text) (value : Option Json) : List (Text × Json) :=
  match value with
  | some value => [(key, value)]
  | none => []

end Json

end ResourceWatch
