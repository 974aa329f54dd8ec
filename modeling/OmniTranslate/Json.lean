-- JSON values, as a program reads them: fields of objects, pointers, numbers
-- with an integer and a finite floating part, and the trimmed texts that
-- identities are made of.
import Mathlib.Data.Rat.Defs
import OmniTranslate.Text

namespace json

/-- A number is an unsigned integer, a negative integer or a finite float, given by its value. -/
inductive Number where
  | pos (n : Nat)
  | neg (n : Int)
  | float (q : ℚ)
deriving DecidableEq

inductive Value where
  | null
  | bool (b : Bool)
  | number (n : Number)
  | string (s : String)
  | array (items : List Value)
  | object (fields : List (String × Value))

namespace Value

/-! ## Equality -/

mutual

def same : Value → Value → Bool
  | null, null => true
  | bool a, bool b => a == b
  | number a, number b => a == b
  | string a, string b => a == b
  | array a, array b => same_items a b
  | object a, object b => same_fields a b
  | _, _ => false

def same_items : List Value → List Value → Bool
  | [], [] => true
  | v :: vs, w :: ws => same v w && same_items vs ws
  | _, _ => false

def same_fields : List (String × Value) → List (String × Value) → Bool
  | [], [] => true
  | (k, v) :: vs, (l, w) :: ws => k == l && same v w && same_fields vs ws
  | _, _ => false

end

mutual

theorem same_iff : ∀ v w : Value, same v w = true ↔ v = w
  | null, w => by cases w <;> simp [same]
  | bool a, w => by cases w <;> simp [same]
  | number a, w => by cases w <;> simp [same]
  | string a, w => by cases w <;> simp [same]
  | array a, w => by
    cases w with
    | array b => simp [same, same_items_iff a b]
    | _ => simp [same]
  | object a, w => by
    cases w with
    | object b => simp [same, same_fields_iff a b]
    | _ => simp [same]

theorem same_items_iff : ∀ vs ws : List Value, same_items vs ws = true ↔ vs = ws
  | [], ws => by cases ws <;> simp [same_items]
  | v :: vs, [] => by simp [same_items]
  | v :: vs, w :: ws => by simp [same_items, same_iff v w, same_items_iff vs ws]

theorem same_fields_iff : ∀ vs ws : List (String × Value), same_fields vs ws = true ↔ vs = ws
  | [], ws => by cases ws <;> simp [same_fields]
  | (k, v) :: vs, [] => by simp [same_fields]
  | (k, v) :: vs, (l, w) :: ws => by
    simp [same_fields, same_iff v w, same_fields_iff vs ws, and_assoc]

end

instance : DecidableEq Value := fun v w => decidable_of_iff _ (same_iff v w)

/-! ## Access -/

def as_str : Value → Option String
  | string s => some s
  | _ => none

def as_u64 : Value → Option Nat
  | number (.pos n) => some n
  | _ => none

/-- The value of a number. -/
def as_f64 : Value → Option ℚ
  | number (.pos n) => some n
  | number (.neg n) => some n
  | number (.float q) => some q
  | _ => none

def as_array : Value → Option (List Value)
  | array items => some items
  | _ => none

def as_object : Value → Option (List (String × Value))
  | object fields => some fields
  | _ => none

def is_null : Value → Bool
  | null => true
  | _ => false

def is_string (v : Value) : Bool := v.as_str.isSome

def is_object (v : Value) : Bool := v.as_object.isSome

/-- The field of an object, and nothing for a value of another kind. -/
def get (v : Value) (field : String) : Option Value := do (← v.as_object).lookup field

/-- The field of an object, `null` where there is none. -/
def index (v : Value) (field : String) : Value := (v.get field).getD null

/-- The value under a path of field names. -/
def pointer (v : Value) : List String → Option Value
  | [] => some v
  | field :: path => do (← v.get field).pointer path

/-- The text of a field that is a string. -/
def get_str (v : Value) (field : String) : Option String := do (← v.get field).as_str

end Value

/-! ## Texts -/

/-- A string without the white space around it. -/
def trim (s : String) : String := String.ofList (text.trim s.toList)

/-- The string is white space only. -/
def blank (s : String) : Bool := trim s == ""

end json
