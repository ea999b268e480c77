import ResourceWatch.Json
import ResourceWatch.Failure
import ResourceWatch.Number.Decimal

/-!
Memos: free-form fields that handlers keep for a resource. A copy of a memo has fields of its own,
but arrays and objects in them are shared with the memo it was copied from. Shared values stand in
cells, and a change within one shows in all memos that share it.
-/

namespace ResourceWatch

/-- Why a place within a value cannot be given a value. -/
inductive Misplacement where
  /-- The path leads to something that has no members. -/
  | nowhere
  /-- An array cannot have this length. -/
  | badLength
deriving DecidableEq

namespace Json

/-- The number that a value stands for. -/
def toNumber : Json → Number
  | .null => 0
  | .bool value => if value then 1 else 0
  | .num number => number
  | .str text => Numeral.toNumber text
  | value =>
    match (Log.Value.ofJson value).text? with
    | some text => Numeral.toNumber text
    | none => .nan

/-- The sum of a value and a number. A value that is neither a number nor a truth value has the
digits put behind its text. -/
def plus (value : Json) (summand : Number) : Json :=
  match value with
  | .null | .bool _ | .num _ => .num (value.toNumber + summand)
  | value => .str (((Log.Value.ofJson value).text?).getD [] ++ summand.toText)

/-- Gives an item of an array a value; missing items before it are `null`. -/
def setItem (items : List Json) (index : Nat) (value : Json) : List Json :=
  if index < items.length then items.set index value
  else items ++ List.replicate (index - items.length) .null ++ [value]

/-- Gives an array a length; missing items are `null`. -/
def resize (items : List Json) (length : Nat) : List Json :=
  items.take length ++ List.replicate (length - items.length) .null

/-- The member of every object through which it inherits others. -/
def parentKey : Text := "__proto__"

/-- The members that every object inherits. -/
def inherited : List Text :=
  [parentKey, "constructor", "hasOwnProperty", "isPrototypeOf", "propertyIsEnumerable",
    "toLocaleString", "toString", "valueOf"]

/-- Gives a place within an inherited member a value, of which nothing is seen. -/
def assignInherited : List Text → Except Misplacement Unit
  | [] => .ok ()
  | [key] => if key = "name" || key = "length" then .error .nowhere else .ok ()
  | key :: next :: path =>
    if inherited.contains key then assignInherited (next :: path) else .error .nowhere

/-- Gives a member of an object a value. The parent of an object is not seen. -/
def assignMember (members : Members) (key : Text) (value : Json) : Members :=
  if key = parentKey && (Members.get? members key).isNone then members
  else Members.insert members key value

/-- Gives a member of an array a value: an item, the length, or something that is not seen. -/
def assignItem (items : List Json) (key : Text) (value : Json) :
    Except Misplacement (List Json) :=
  match Members.index? key with
  | some index => .ok (setItem items index value)
  | none =>
    if key = "length" then
      match value.toNumber.toInt? with
      | some length =>
        if 0 ≤ length ∧ length < Nat.pow 2 32 then .ok (resize items length.toNat)
        else .error .badLength
      | none => .error .badLength
    else .ok items

/-- Gives a place within a value, which must be there up to the last step of the path, a value. -/
def assign (value : Json) : List Text → Json → Except Misplacement Json
  | [], _ => .ok value
  | [key], .obj members => .ok (.obj (assignMember members key value))
  | [key], .arr items => (assignItem items key value).map .arr
  | key :: next :: path, .obj members =>
    match Members.get? members key with
    | some old => (assign value (next :: path) old).map fun new =>
        .obj (Members.insert members key new)
    | none =>
      if inherited.contains key then
        (assignInherited (next :: path)).map fun () => .obj members
      else .error .nowhere
  | key :: next :: path, .arr items =>
    match Members.index? key with
    | some index =>
      match items[index]? with
      | some old => (assign value (next :: path) old).map fun new =>
          .arr (setItem items index new)
      | none => .error .nowhere
    | none =>
      if inherited.contains key then
        (assignInherited (next :: path)).map fun () => .arr items
      else .error .nowhere
  | _, _ => .error .nowhere

end Json

/-- The values of the cells, by number. -/
abbrev Cells := List Json

/-- The value of a field: its own, or that of a cell. -/
inductive Field where
  | own (value : Json)
  | shared (cell : Nat)

namespace Field

def value (cells : Cells) : Field → Json
  | .own value => value
  | .shared cell => cells.getD cell .null

end Field

/-- Makes a field for a value; arrays and objects get a new cell. -/
def Cells.keep (cells : Cells) (value : Json) : Cells × Field :=
  match value with
  | .arr _ | .obj _ => (cells ++ [value], .shared cells.length)
  | _ => (cells, .own value)

inductive MemoKind where
  /-- A copy has all fields. -/
  | free
  /-- A copy has only the count, raised by a hundred. -/
  | counter
  /-- There is no copy. -/
  | single
deriving DecidableEq

structure Memo where
  kind : MemoKind := .free
  fields : List (Text × Field) := []

namespace Memo

def countKey : Text := "count"

def setField (fields : List (Text × Field)) (key : Text) (field : Field) : List (Text × Field) :=
  match fields with
  | [] => [(key, field)]
  | first :: rest => if first.1 = key then (key, field) :: rest else first :: setField rest key field

def set (memo : Memo) (key : Text) (field : Field) : Memo :=
  { memo with fields := setField memo.fields key field }

def toMembers (cells : Cells) (memo : Memo) : List (Text × Json) :=
  memo.fields.map fun (key, field) => (key, field.value cells)

def get? (cells : Cells) (memo : Memo) (key : Text) : Option Json :=
  (memo.fields.lookup key).map (·.value cells)

/-- A field's value plus a number; a missing field counts as zero. -/
def raised (cells : Cells) (memo : Memo) (key : Text) (summand : Number) : Field :=
  .own (((memo.get? cells key).getD .null).plus summand)

/-- A new counter counts from zero. -/
def empty (kind : MemoKind) : Memo :=
  match kind with
  | .counter => { kind, fields := [(countKey, .own (.num 0))] }
  | _ => { kind }

/-- The field that takes the place of copying. -/
def duplicateKey : Text := "duplicate"

/-- A copy, unless there is none or a field takes the place of copying. -/
def duplicate? (cells : Cells) (memo : Memo) : Option Memo :=
  if (memo.fields.lookup duplicateKey).isSome then none
  else
    match memo.kind with
    | .free => some memo
    | .counter =>
      some { kind := .counter, fields := [(countKey, memo.raised cells countKey 100)] }
    | .single => none

/-- Gives a field a value. The parent of a memo is not seen, but with another one the memo is not
copied. -/
def assignField (cells : Cells) (memo : Memo) (key : Text) (value : Json) : Cells × Memo :=
  if key = Json.parentKey then
    match value with
    | .bool _ | .num _ | .str _ => (cells, memo)
    | _ => (cells, { memo with kind := .single })
  else
    let (cells, field) := cells.keep value
    (cells, memo.set key field)

/-- Gives fields values, one after another. -/
def setAll (cells : Cells) (memo : Memo) : List (Text × Json) → Cells × Memo
  | [] => (cells, memo)
  | (key, value) :: rest =>
    let (cells, memo) := assignField cells memo key value
    setAll cells memo rest

/-- Gives a field, or a place within a shared value, a value. -/
def assign (cells : Cells) (memo : Memo) (path : List Text) (value : Json) :
    Except Misplacement (Cells × Memo) :=
  match path with
  | [] => .error .nowhere
  | [key] => .ok (assignField cells memo key value)
  | key :: rest =>
    match memo.fields.lookup key with
    | some (.shared cell) =>
      (Json.assign value rest (cells.getD cell .null)).map fun new => (cells.set cell new, memo)
    | some (.own _) => .error .nowhere
    | none =>
      if key = duplicateKey || Json.inherited.contains key then
        (Json.assignInherited rest).map fun () => (cells, memo)
      else .error .nowhere

/-- Adds one to the number of calls that a handler counts. -/
def countCall (cells : Cells) (memo : Memo) : Memo :=
  memo.set "calls" (memo.raised cells "calls" 1)

end Memo

/-- What the memos of new resources are copied from. -/
structure Template where
  memo : Memo
  /-- What copying fails with, if it always does. -/
  failure : Option Thrown := none

def Template.duplicate (cells : Cells) (template : Template) : Except Failure Memo :=
  match template.failure, template.memo.duplicate? cells with
  | some error, _ => .error (.external error)
  | none, some memo => .ok memo
  | none, none => .error .uncopyable

end ResourceWatch
