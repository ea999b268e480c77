import ResourceWatch.Json

/-!
Checking a value against what is expected of it. A check reports every fault that it finds, each
with the place of the fault, in the order in which the parts are checked.
-/

namespace ResourceWatch

namespace Schema

inductive Kind where
  | undefined
  | null
  | boolean
  | number
  | nan
  | integer
  | float
  | string
  | array
  | object
deriving DecidableEq

def Kind.name : Kind → Text
  | .undefined => "undefined"
  | .null => "null"
  | .boolean => "boolean"
  | .number => "number"
  | .nan => "nan"
  | .integer => "integer"
  | .float => "float"
  | .string => "string"
  | .array => "array"
  | .object => "object"

def Kind.of : Option Json → Kind
  | none => .undefined
  | some .null => .null
  | some (.bool _) => .boolean
  | some (.num .nan) => .nan
  | some (.num _) => .number
  | some (.str _) => .string
  | some (.arr _) => .array
  | some (.obj _) => .object

/-- What a value has too little of. -/
inductive Bound where
  | positive
  | nonnegative
  | nonemptyText
  | nonemptyArray
deriving DecidableEq

def Bound.message : Bound → Text
  | .positive => "Number must be greater than 0"
  | .nonnegative => "Number must be greater than or equal to 0"
  | .nonemptyText => "String must contain at least 1 character(s)"
  | .nonemptyArray => "Array must contain at least 1 element(s)"

inductive Fault where
  /-- Nothing is there. -/
  | missing
  | wrongKind (expected received : Kind)
  /-- Something that is no string stands where one of the options must. -/
  | noOption (options : List Text) (received : Kind)
  | unknownOption (options : List Text) (received : Text)
  | otherLiteral (expected : Text)
  | invalidUrl
  | tooSmall (bound : Bound)
deriving DecidableEq

def quotedOptions (options : List Text) : Text :=
  Text.join " | " (options.map fun option => "'" ++ option ++ ("'" : Text))

def Fault.code : Fault → Text
  | .missing | .wrongKind _ _ | .noOption _ _ => "invalid_type"
  | .unknownOption _ _ => "invalid_enum_value"
  | .otherLiteral _ => "invalid_literal"
  | .invalidUrl => "invalid_string"
  | .tooSmall _ => "too_small"

def Fault.message : Fault → Text
  | .missing => "Required"
  | .wrongKind expected received => "Expected " ++ expected.name ++ ", received " ++ received.name
  | .noOption options received =>
    "Expected " ++ quotedOptions options ++ ", received " ++ received.name
  | .unknownOption options received =>
    "Invalid enum value. Expected " ++ quotedOptions options ++ ", received '" ++ received ++ "'"
  | .otherLiteral expected => "Invalid literal value, expected \"" ++ expected ++ "\""
  | .invalidUrl => "Invalid url"
  | .tooSmall bound => bound.message

/-- A step from a value to a part of it. -/
inductive Step where
  | key (name : Text)
  | item (index : Nat)
deriving DecidableEq

structure Issue where
  path : List Step := []
  fault : Fault
deriving DecidableEq

/-- A value that passed its check, or everything that is wrong with it. -/
abbrev Checked (α : Type) := Except (List Issue) α

/-- A check of a value that may be absent. -/
abbrev Check (α : Type) := Option Json → Checked α

namespace Checked

def fail {α : Type} (fault : Fault) : Checked α :=
  .error [⟨[], fault⟩]

/-- Reports the faults of a part as faults of the whole. -/
def below {α : Type} (step : Step) : Checked α → Checked α
  | .ok value => .ok value
  | .error issues => .error (issues.map fun issue => ⟨step :: issue.path, issue.fault⟩)

/-- Combines two checked parts; the faults of both are reported. -/
def both {α β : Type} : Checked α → Checked β → Checked (α × β)
  | .ok first, .ok second => .ok (first, second)
  | .ok _, .error issues => .error issues
  | .error issues, .ok _ => .error issues
  | .error issues, .error more => .error (issues ++ more)

/-- Reports `fault` unless the condition holds. -/
def require (condition : Bool) (fault : Fault) : Checked Unit :=
  if condition then .ok () else fail fault

end Checked

open Checked

def wrongKind {α : Type} (expected : Kind) (value : Option Json) : Checked α :=
  match value with
  | none => fail .missing
  | some value => fail (.wrongKind expected (.of (some value)))

def string : Check Text
  | some (.str text) => .ok text
  | value => wrongKind .string value

def number : Check Number
  | some (.num .nan) => fail (.wrongKind .number .nan)
  | some (.num number) => .ok number
  | value => wrongKind .number value

/-- The members of an object, without the one that would be its prototype. -/
def record : Check (List (Text × Json))
  | some (.obj members) => .ok (Members.erase members "__proto__")
  | value => wrongKind .object value

def array : Check (List Json)
  | some (.arr items) => .ok items
  | value => wrongKind .array value

/-- Checks every item and reports the faults of all. -/
def items {α : Type} (check : Check α) : (index : Nat) → List Json → Checked (List α)
  | _, [] => .ok []
  | index, item :: rest =>
    (both (below (.item index) (check (some item))) (items check (index + 1) rest)).map
      fun (first, others) => first :: others

def arrayOf {α : Type} (check : Check α) : Check (List α) := fun value =>
  match array value with
  | .ok found => items check 0 found
  | .error issues => .error issues

/-- An absent value is accepted as such. -/
def optional {α : Type} (check : Check α) : Check (Option α)
  | none => .ok none
  | some value => (check (some value)).map some

/-- An absent value is replaced. -/
def withDefault {α : Type} (replacement : α) (check : Check α) : Check α
  | none => .ok replacement
  | some value => check (some value)

/-- Checks the member of an object. -/
def field {α : Type} (key : Text) (check : Check α) (members : List (Text × Json)) : Checked α :=
  below (.key key) (check (members.lookup key))

def nonemptyString : Check Text := fun value => do
  let text ← string value
  require (!text.isEmpty) (.tooSmall .nonemptyText)
  return text

/-- A whole number. -/
def whole : Check Number := fun value => do
  let found ← number value
  require found.isWhole (.wrongKind .integer .float)
  return found

/-- A whole number above zero; both faults may be found. -/
def positiveWhole : Check Number := fun value => do
  let found ← number value
  let _ ← both (require found.isWhole (.wrongKind .integer .float))
    (require (Number.lt 0 found) (.tooSmall .positive))
  return found

def nonnegative : Check Number := fun value => do
  let found ← number value
  require (Number.le 0 found) (.tooSmall .nonnegative)
  return found

/-- One of several strings, each of which stands for a value. -/
def oneOf {α : Type} (options : List (Text × α)) : Check α
  | some (.str text) =>
    match options.lookup text with
    | some value => .ok value
    | none => fail (.unknownOption (options.map Prod.fst) text)
  | none => fail .missing
  | some value => fail (.noOption (options.map Prod.fst) (.of (some value)))

def literal (expected : Text) : Check Unit
  | some (.str text) => require (text = expected) (.otherLiteral expected)
  | _ => fail (.otherLiteral expected)

end Schema

end ResourceWatch
