import ResourceWatch.Text

/-!
Header fields: a name, compared without regard to case and kept in lower case, and its one value.
-/

namespace ResourceWatch

abbrev Headers := List (Text × Text)

namespace Headers

open Text

/-- The units that a name may be made of. -/
def isNameUnit (u : UInt16) : Bool :=
  isLetter u || isDigit u || ("!#$%&'*+-.^_`|~".toList.any (unit · = u))

def isName (name : Text) : Bool :=
  !name.isEmpty && name.all isNameUnit

def isValueBlank (u : UInt16) : Bool :=
  u = 0x09 || u = 0x0A || u = 0x0D || u = 0x20

/-- A value without the blanks at its ends. -/
def normalize (value : Text) : Text :=
  ((value.dropWhile isValueBlank).reverse.dropWhile isValueBlank).reverse

/-- A value holds single bytes only, and neither a line end nor a NUL. -/
def isValue (value : Text) : Bool :=
  value.all fun u => u ≤ 0xFF && !(u = 0x00 || u = 0x0A || u = 0x0D)

def get? (headers : Headers) (name : Text) : Option Text :=
  headers.lookup (lower name)

/-- Gives a name, in lower case, the value; a value that is there is replaced. -/
def put (headers : Headers) (name value : Text) : Headers :=
  match headers with
  | [] => [(name, value)]
  | field :: rest => if field.1 = name then (name, value) :: rest else field :: put rest name value

/-- Sets a field, if the name and the value may be sent. -/
def set? (headers : Headers) (name value : Text) : Option Headers :=
  if isName name && isValue (normalize value) then
    some (headers.put (lower name) (normalize value))
  else none

/-- Sets fields one after another. -/
def setAll? (headers : Headers) : List (Text × Text) → Option Headers
  | [] => some headers
  | field :: rest =>
    match headers.set? field.1 field.2 with
    | some headers => headers.setAll? rest
    | none => none

end Headers

end ResourceWatch
