import FieldRules.Data.Basic

/-!
This file looks up members by name, of which the last one counts. A member is smaller than what
holds it, so that a recursion may follow the members.
-/

namespace FieldRules

/-- The value of a name stands among the members, and it is smaller than they are. -/
theorem sizeOf_lastMember {Item : Type} [SizeOf Item] {members : List (String × Item)}
    {name : String} {item : Item}
    (found : (members.reverse.find? fun member => member.1 == name).map Prod.snd = some item) :
    sizeOf item < sizeOf members := by
  obtain ⟨⟨key, value⟩, sought, rfl⟩ := Option.map_eq_some_iff.1 found
  have member := List.mem_reverse.1 (List.mem_of_find?_eq_some sought)
  have smaller := List.sizeOf_lt_of_mem member
  rw [Prod.mk.sizeOf_spec] at smaller
  dsimp only
  omega

theorem Data.sizeOf_member? {data found : Data} {name : String}
    (present : data.member? name = some found) : sizeOf found < sizeOf data := by
  cases data with
  | table members =>
      have smaller : sizeOf found < sizeOf members := sizeOf_lastMember present
      rw [Data.table.sizeOf_spec]
      omega
  | _ => cases present

end FieldRules
