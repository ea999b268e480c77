import ResourceWatch.Json

/-!
# The order of an object's members

The members of an object have different keys, and a key that is an array index stands in front of
the keys that are larger indices or none. Building an object again from members that are so ordered
changes nothing.
-/

namespace ResourceWatch.Members

variable {members : Members} {key : Text} {value : Json}

/-- The keys differ, and none stands behind a key that it precedes. -/
def IsOrdered (members : Members) : Prop :=
  members.Pairwise fun earlier later =>
    earlier.1 ≠ later.1 ∧ precedes later.1 earlier.1 = false

/-- A member keeps its place when it gets another value. -/
theorem IsOrdered.map {change : Text × Json → Text × Json} (hordered : IsOrdered members)
    (hkeys : ∀ member, (change member).1 = member.1) : IsOrdered (members.map change) := by
  rw [IsOrdered, List.pairwise_map]
  exact hordered.imp fun hpair => by simpa only [hkeys] using hpair

theorem get?_eq_none_iff : members.get? key = none ↔ ∀ member ∈ members, key ≠ member.1 := by
  rw [get?, List.lookup_eq_none_iff]
  simp

theorem place_eq_append (hplace : ∀ member ∈ members, precedes key member.1 = false) :
    place key value members = members ++ [(key, value)] := by
  induction members with
  | nil => rfl
  | cons next rest ih =>
      obtain ⟨hnext, hrest⟩ := List.forall_mem_cons.mp hplace
      rw [place, if_neg (Bool.eq_false_iff.mp hnext), ih hrest, List.cons_append]

theorem insert_eq_append (hordered : IsOrdered (members ++ [(key, value)])) :
    insert members key value = members ++ [(key, value)] := by
  have hlast : ∀ member ∈ members, member.1 ≠ key ∧ precedes key member.1 = false := by
    simpa [IsOrdered, List.pairwise_append] using (List.pairwise_append.mp hordered).2.2
  have hnew : members.get? key = none :=
    get?_eq_none_iff.mpr fun member hmember => (hlast member hmember).1.symm
  rw [insert, hnew, if_neg (by simp), place_eq_append fun member hmember => (hlast member hmember).2]

/-- **Building an ordered object from its members gives them as they were.** -/
theorem ofList_eq_self (hordered : IsOrdered members) : ofList members = members := by
  have hfold (first second : Members) (hboth : IsOrdered (first ++ second)) :
      second.foldl (fun members pair => Members.insert members pair.1 pair.2) first =
        first ++ second := by
    induction second generalizing first with
    | nil => simp
    | cons pair rest ih =>
        have happend : first ++ pair :: rest = (first ++ [pair]) ++ rest := by simp
        have hfirst : IsOrdered (first ++ [pair]) := by
          rw [happend] at hboth
          exact (List.pairwise_append.mp hboth).1
        rw [List.foldl_cons, insert_eq_append hfirst, ih _ (happend ▸ hboth), happend]
  exact hfold [] members hordered

end ResourceWatch.Members
