import ResourceWatch.Json.Printer

/-!
Values as they are thrown and logged: JSON values in which errors may stand.
-/

namespace ResourceWatch

inductive Log.Value where
  | null
  | bool (value : Bool)
  | num (value : Number)
  | str (value : Text)
  | error (name message : Text)
  | arr (items : List Log.Value)
  | obj (members : List (Text × Log.Value))
deriving Inhabited

namespace Log.Value

mutual

def ofJson : Json → Value
  | .null => .null
  | .bool value => .bool value
  | .num value => .num value
  | .str value => .str value
  | .arr items => .arr (ofItems items)
  | .obj members => .obj (ofMembers members)

def ofItems : List Json → List Value
  | [] => []
  | item :: rest => ofJson item :: ofItems rest

def ofMembers : List (Text × Json) → List (Text × Value)
  | [] => []
  | (key, value) :: rest => (key, ofJson value) :: ofMembers rest

end

mutual

/-- The value with each error in it as an object of its name and its message. -/
def toJson : Value → Json
  | .null => .null
  | .bool value => .bool value
  | .num value => .num value
  | .str value => .str value
  | .error name message => .obj [("name", .str name), ("message", .str message)]
  | .arr items => .arr (toItems items)
  | .obj members => .obj (toMembers members)

def toItems : List Value → List Json
  | [] => []
  | item :: rest => toJson item :: toItems rest

def toMembers : List (Text × Value) → List (Text × Json)
  | [] => []
  | (key, value) :: rest => (key, toJson value) :: toMembers rest

end

/-- An error's name and message, or the one of them that is not empty. -/
def errorText (name message : Text) : Text :=
  if name.isEmpty then message
  else if message.isEmpty then name
  else name ++ ": " ++ message

/-- The member that takes the place of an object's text. -/
def textKey : Text := "toString"

/-- The text of an object, unless a member of its own stands in the way. -/
def objectText? {α : Type} (members : List (Text × α)) : Option Text :=
  if (members.lookup textKey).isSome then none else some "[object Object]"

mutual

/-- The text that a value has within a message, if it has one. -/
def text? : Value → Option Text
  | .null => some "null"
  | .bool value => some (if value then "true" else "false")
  | .num value => some value.toText
  | .str value => some value
  | .error name message => some (errorText name message)
  | .arr items => itemsText? items
  | .obj members => objectText? members

/-- The texts of the items of an array between commas; `null` has none there. -/
def itemsText? : List Value → Option Text
  | [] => some []
  | [item] => itemText? item
  | item :: next :: rest => do
    let first ← itemText? item
    let others ← itemsText? (next :: rest)
    return first ++ Text.unit ',' :: others

def itemText? : Value → Option Text
  | .null => some []
  | .bool value => some (if value then "true" else "false")
  | .num value => some value.toText
  | .str value => some value
  | .error name message => some (errorText name message)
  | .arr items => itemsText? items
  | .obj members => objectText? members

end

end Log.Value

/-- What is thrown by code outside the library. -/
inductive Thrown where
  | error (name message : Text)
  /-- Something that is no error. -/
  | plain (json : Json)

def Thrown.toValue : Thrown → Log.Value
  | .error name message => .error name message
  | .plain json => .ofJson json

end ResourceWatch
