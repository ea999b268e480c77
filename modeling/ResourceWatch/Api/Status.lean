import ResourceWatch.Schema

/-!
The status object that an API server sends with most failures.
-/

namespace ResourceWatch

open Schema Checked

/-- The members of a status object that are read; all members are kept. -/
structure Status where
  status : Option Text
  code : Option Number
  reason : Option Text
  message : Option Text
  details : Option (List (Text × Json))
  members : List (Text × Json)

namespace Status

def check : Check Status := fun value => do
  let members ← record value
  let ((), status, code, reason, message, details) ←
    both (field "kind" (literal "Status") members)
      (both (field "status" (Schema.optional string) members)
        (both (field "code" (Schema.optional whole) members)
          (both (field "reason" (Schema.optional string) members)
            (both (field "message" (Schema.optional string) members)
              (field "details" (Schema.optional record) members)))))
  return ⟨status, code, reason, message, details, members⟩

def of? (value : Option Json) : Option Status :=
  (check value).toOption

def toJson (status : Status) : Json :=
  .obj (status.members.map fun (member : Text × Json) =>
    match status.details with
    | some details => if member.1 = "details" then (member.1, .obj details) else member
    | none => member)

end Status

end ResourceWatch
