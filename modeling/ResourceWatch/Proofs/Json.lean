import ResourceWatch.Json

/-!
# Equality of JSON values

Whether two values are the same can be computed, so what a text is read as can be evaluated.
-/

namespace ResourceWatch.Json

mutual

/-- Whether two values are the same, with their members in the same order. -/
def beq : Json → Json → Bool
  | .null, .null => true
  | .bool left, .bool right => left == right
  | .num left, .num right => left == right
  | .str left, .str right => left == right
  | .arr left, .arr right => beqItems left right
  | .obj left, .obj right => beqMembers left right
  | _, _ => false

def beqItems : List Json → List Json → Bool
  | [], [] => true
  | left :: lefts, right :: rights => beq left right && beqItems lefts rights
  | _, _ => false

def beqMembers : Members → Members → Bool
  | [], [] => true
  | (key, left) :: lefts, (key', right) :: rights =>
      key == key' && beq left right && beqMembers lefts rights
  | _, _ => false

end

-- One case for each shape of the first value: the second has the same shape, or neither side holds.
mutual

theorem beq_iff : ∀ left right : Json, beq left right = true ↔ left = right
  | .null, right => by cases right <;> simp [beq]
  | .bool _, right => by cases right <;> simp [beq]
  | .num _, right => by cases right <;> simp [beq]
  | .str _, right => by cases right <;> simp [beq]
  | .arr items, right => by cases right <;> simp [beq, beqItems_iff items]
  | .obj members, right => by cases right <;> simp [beq, beqMembers_iff members]

theorem beqItems_iff : ∀ left right : List Json, beqItems left right = true ↔ left = right
  | [], right => by cases right <;> simp [beqItems]
  | item :: items, right => by cases right <;> simp [beqItems, beq_iff item, beqItems_iff items]

theorem beqMembers_iff : ∀ left right : Members, beqMembers left right = true ↔ left = right
  | [], right => by cases right <;> simp [beqMembers]
  | (key, value) :: members, right => by
      cases right <;> simp [beqMembers, beq_iff value, beqMembers_iff members, Prod.ext_iff]

end

instance : DecidableEq Json := fun left right =>
  decidable_of_iff (beq left right = true) (beq_iff left right)

end ResourceWatch.Json
