import OpenidTlsConnector.Foundations.Fields
import OpenidTlsConnector.Foundations.Outcome

/-!
# JSON values

The values a claims set is made of, and the readers a derived decoder uses
for its field types.  Numbers are the unsigned integers such claims carry.
-/

namespace Foundations

inductive Json where
  | null
  | bool (value : Bool)
  | number (value : Nat)
  | string (value : String)
  | array (items : List Json)
  | object (fields : List (String × Json))

namespace Json

def strings (values : List String) : Json := .array (values.map .string)

def asString : Json → Option String
  | .string value => some value
  | _ => none

def asU64 : Json → Option Nat
  | .number value => if IsU64 value then some value else none
  | _ => none

def asStrings : Json → Option (List String)
  | .array items => items.mapM asString
  | _ => none

def asObject : Json → Option (Fields Json)
  | .object fields => some fields
  | _ => none

/-- The reader of an optional field: `null` stands for an absent value. -/
def asOptional {Result : Type} (read : Json → Option Result) : Json → Option (Option Result)
  | .null => some none
  | value => (read value).map some

@[simp]
theorem asString_string (value : String) : asString (.string value) = some value := rfl

@[simp]
theorem asObject_object (fields : List (String × Json)) :
    asObject (.object fields) = some fields := rfl

theorem asU64_number {value : Nat} (fits : IsU64 value) :
    asU64 (.number value) = some value := if_pos fits

@[simp]
theorem asStrings_strings (values : List String) : asStrings (strings values) = some values :=
  mapM_map_of_inverse asString_string values

@[simp]
theorem asOptional_string (value : String) :
    asOptional asString (.string value) = some (some value) := rfl

@[simp]
theorem asOptional_strings (values : List String) :
    asOptional asStrings (strings values) = some (some values) := by
  change (asStrings (strings values)).map some = _
  simp

end Json

end Foundations
