-- JSON objects, edited in place: a field inserted or removed.
import OmniTranslate.Json

namespace json

/-- The value under a field is replaced, or the field is new. -/
def insert_field (field : String) (v : Value) : List (String × Value) → List (String × Value)
  | [] => [(field, v)]
  | (k, w) :: fields => if k = field then (field, v) :: fields else (k, w) :: insert_field field v fields

def remove_field (field : String) (fields : List (String × Value)) : List (String × Value) :=
  fields.filter fun f => f.1 ≠ field

theorem lookup_cons_ne {field other : String} (hne : other ≠ field) (v : Value)
    (fields : List (String × Value)) : ((field, v) :: fields).lookup other = fields.lookup other := by
  rw [List.lookup_cons, beq_false_of_ne hne]

@[simp] theorem lookup_insert_field (field : String) (v : Value) (fields : List (String × Value)) :
    (insert_field field v fields).lookup field = some v := by
  induction fields with
  | nil => exact List.lookup_cons_self
  | cons f fields ih =>
    unfold insert_field
    split
    · exact List.lookup_cons_self
    · next hne => rw [lookup_cons_ne (Ne.symm hne), ih]

theorem lookup_insert_field_ne {field other : String} (hne : other ≠ field) (v : Value)
    (fields : List (String × Value)) : (insert_field field v fields).lookup other = fields.lookup other := by
  induction fields with
  | nil => exact lookup_cons_ne hne v []
  | cons f fields ih =>
    obtain ⟨k, w⟩ := f
    unfold insert_field
    split
    · next heq =>
      rw [heq, lookup_cons_ne hne, lookup_cons_ne hne]
    · rw [List.lookup_cons, List.lookup_cons, ih]

end json
