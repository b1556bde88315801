import OpenidTlsConnector.Foundations.Fields

/-!
# TOML values

A document is a table of such values, and its integers are signed.  Of a number
with a fraction and of a date only the literal is kept, since no reader below
takes one.
-/

namespace Foundations

inductive Toml where
  | string (value : String)
  | integer (value : Int64)
  | float (literal : String)
  | boolean (value : Bool)
  | datetime (literal : String)
  | array (items : List Toml)
  | table (fields : List (String × Toml))

namespace Toml

def asString : Toml → Option String
  | .string value => some value
  | _ => none

/-- An unsigned field takes the integers that are not negative. -/
def asU64 : Toml → Option UInt64
  | .integer value => if 0 ≤ value then some value.toUInt64 else none
  | _ => none

def asListOf {Result : Type} (read : Toml → Option Result) : Toml → Option (List Result)
  | .array items => items.mapM read
  | _ => none

def asStrings : Toml → Option (List String) := asListOf asString

@[simp]
theorem asString_string (value : String) : asString (.string value) = some value := rfl

@[simp]
theorem asListOf_array {Result : Type} (read : Toml → Option Result) (items : List Toml) :
    asListOf read (.array items) = items.mapM read := rfl

end Toml

end Foundations
