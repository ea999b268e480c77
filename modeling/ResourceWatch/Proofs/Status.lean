import ResourceWatch.Api.Status

/-!
# When a status object is read

A status object is read as a whole or not at all: a member that is there without the form that is
expected of it hides all the others, and so it hides the code.
-/

namespace ResourceWatch

theorem Members.get?_erase (members : Members) {key other : Text} (hne : key ≠ other) :
    get? (erase members other) key = get? members key := by
  induction members with
  | nil => rfl
  | cons member rest ih =>
      obtain ⟨name, value⟩ := member
      rw [get?, get?] at ih
      rw [get?, get?, erase, List.filter_cons]
      by_cases hname : name = other
      · have hkey : (key == name) = false := by simpa [hname] using hne
        rw [if_neg (by simpa using hname), List.lookup_cons, hkey]
        exact ih
      · rw [if_pos (by simpa using hname), List.lookup_cons, List.lookup_cons]
        split
        · rfl
        · exact ih

namespace Json

def isStr : Json → Bool
  | .str _ => true
  | _ => false

def isObj : Json → Bool
  | .obj _ => true
  | _ => false

end Json

namespace Schema

variable {α β : Type} {key : Text} {members : List (Text × Json)}

theorem Checked.isOk_both (first : Checked α) (second : Checked β) :
    (Checked.both first second).isOk = (first.isOk && second.isOk) := by
  cases first <;> cases second <;> rfl

theorem Checked.isOk_map (found : Checked α) (next : α → β) :
    (found.map next).isOk = found.isOk := by
  cases found <;> rfl

theorem Checked.map_eq_ok {found : Checked α} {next : α → β} {value : β}
    (hmap : found.map next = .ok value) : ∃ first, found = .ok first ∧ next first = value := by
  cases found with
  | error issues => cases hmap
  | ok first => exact ⟨first, rfl, Except.ok.inj hmap⟩

theorem Checked.both_eq_ok {first : Checked α} {second : Checked β} {found : α × β}
    (hboth : Checked.both first second = .ok found) :
    first = .ok found.1 ∧ second = .ok found.2 := by
  cases first <;> cases second <;> cases hboth
  exact ⟨rfl, rfl⟩

theorem isOk_field (check : Check α) :
    (field key check members).isOk = (check (Members.get? members key)).isOk := by
  rw [field, Members.get?]
  cases check (members.lookup key) <;> rfl

theorem field_eq_ok {check : Check α} {found : α} (hfield : field key check members = .ok found) :
    check (Members.get? members key) = .ok found := by
  rw [field] at hfield
  rw [Members.get?]
  cases hcheck : check (members.lookup key) <;> simp_all [Checked.below]

theorem isOk_literal {expected : Text} {value : Option Json}
    (hvalue : value = some (.str expected)) : (literal expected value).isOk = true := by
  simp [hvalue, literal, Checked.require, Except.isOk, Except.toBool]

theorem isOk_optional_string (value : Option Json) :
    (Schema.optional string value).isOk = value.all Json.isStr := by
  rcases value with _ | _ | _ | _ | _ | _ | _ <;> rfl

theorem isOk_optional_record (value : Option Json) :
    (Schema.optional record value).isOk = value.all Json.isObj := by
  rcases value with _ | _ | _ | _ | _ | _ | _ <;> rfl

theorem optional_whole {code : Number} (hwhole : code.isWhole = true) :
    Schema.optional whole (some (.num code)) = .ok (some code) := by
  cases code with
  | nan => simp [Number.isWhole, Number.toInt?, Number.signedSteps?] at hwhole
  | infinite negative => simp [Number.isWhole, Number.toInt?, Number.signedSteps?] at hwhole
  | finite negative magnitude =>
      simp [Schema.optional, whole, number, Checked.require, hwhole, bind, Except.bind, pure,
        Except.pure, Except.map]

end Schema

namespace Status

open Schema Checked

/-- The members that are texts are so or absent, and the details are an object or absent. -/
def isReadable (members : Members) : Bool :=
  ([("status" : Text), "reason", "message"].all fun key =>
      (members.get? key).all Json.isStr) &&
    (members.get? "details").all Json.isObj

/-- A status with a whole code, whatever the other members are. -/
structure IsCoded (members : Members) (code : Number) : Prop where
  kind : members.get? "kind" = some (.str "Status")
  isWhole : code.isWhole = true
  code : members.get? "code" = some (.num code)

theorem get?_erase_proto (members : Members) :
    ∀ key ∈ [("kind" : Text), "status", "code", "reason", "message", "details"],
      Members.get? (members.erase "__proto__") key = members.get? key := by
  have hnone : ∀ key ∈ [("kind" : Text), "status", "code", "reason", "message", "details"],
      key ≠ ("__proto__" : Text) := by
    decide +kernel
  intro key hkey
  exact members.get?_erase (hnone key hkey)

theorem check_obj (members : Members) :
    check (some (.obj members)) =
      (both (field "kind" (literal "Status") (members.erase "__proto__"))
        (both (field "status" (Schema.optional string) (members.erase "__proto__"))
          (both (field "code" (Schema.optional Schema.whole) (members.erase "__proto__"))
            (both (field "reason" (Schema.optional string) (members.erase "__proto__"))
              (both (field "message" (Schema.optional string) (members.erase "__proto__"))
                (field "details" (Schema.optional record) (members.erase "__proto__"))))))).map
        fun ((), status, code, reason, message, details) =>
          ⟨status, code, reason, message, details, members.erase "__proto__"⟩ := rfl

variable {members : Members} {code : Number}

theorem isOk_check (hcoded : IsCoded members code) :
    (check (some (.obj members))).isOk = isReadable members := by
  have hsame := get?_erase_proto members
  simp only [List.forall_mem_cons] at hsame
  obtain ⟨hkind, hstatus, hcode, hreason, hmessage, hdetails, -⟩ := hsame
  have hwhole : (Schema.optional Schema.whole (members.get? "code")).isOk = true := by
    rw [hcoded.code, optional_whole hcoded.isWhole]
    rfl
  rw [check_obj, isOk_map]
  simp only [isOk_both, isOk_field, hkind, hstatus, hcode, hreason, hmessage, hdetails,
    isOk_literal hcoded.kind, hwhole, isOk_optional_string, isOk_optional_record, isReadable,
    List.all_cons, List.all_nil, Bool.true_and, Bool.and_true, Bool.and_assoc]

theorem code_of_check (hcoded : IsCoded members code) {status : Status}
    (hcheck : check (some (.obj members)) = .ok status) : status.code = some code := by
  rw [check_obj] at hcheck
  obtain ⟨parts, hparts, rfl⟩ := map_eq_ok hcheck
  obtain ⟨-, hrest⟩ := both_eq_ok hparts
  obtain ⟨-, hrest⟩ := both_eq_ok hrest
  have hcode := field_eq_ok (both_eq_ok hrest).1
  have hsame := get?_erase_proto members "code" (by decide +kernel)
  rw [hsame, hcoded.code, optional_whole hcoded.isWhole, Except.ok.injEq] at hcode
  exact hcode.symm

/-- **When the code is seen.** -/
theorem bind_code_of? (hcoded : IsCoded members code) :
    (of? (some (.obj members))).bind Status.code =
      if isReadable members then some code else none := by
  have hread := isOk_check hcoded
  rw [of?]
  cases hcheck : check (some (.obj members)) with
  | error issues =>
      rw [← hread, hcheck]
      rfl
  | ok status =>
      rw [← hread, hcheck]
      exact code_of_check hcoded hcheck

end Status

end ResourceWatch
