-- SUMMARY: TOML values: scalars, arrays and tables with ordered keys.
import DocAtlas.Number.Binary64

/-! # TOML values

What a TOML text means, without the places of its parts. The keys of a table
keep the order in which the text brings them in. -/

namespace DocAtlas.Toml

open Number (Binary64)

inductive Scalar where
  | string (s : String)
  | integer (n : Int)
  | float (x : Binary64)
  | boolean (b : Bool)
  /-- A date, a time or both, in canonical writing. -/
  | datetime (text : String)
  deriving DecidableEq

inductive Value where
  | scalar (s : Scalar)
  | array (items : List Value)
  | table (fields : List (String × Value))

namespace Value

abbrev string (s : String) : Value := .scalar (.string s)

abbrev boolean (b : Bool) : Value := .scalar (.boolean b)

/-- An array of strings. -/
def strings (items : List String) : Value := .array (items.map string)

mutual

def decEq : (v w : Value) → Decidable (v = w)
  | .scalar s, .scalar t => decidable_of_iff (s = t) (by simp)
  | .array a, .array b => @decidable_of_iff _ (a = b) (by simp) (decEqItems a b)
  | .table a, .table b => @decidable_of_iff _ (a = b) (by simp) (decEqFields a b)
  | .scalar _, .array _ | .scalar _, .table _ | .array _, .scalar _ => isFalse nofun
  | .array _, .table _ | .table _, .scalar _ | .table _, .array _ => isFalse nofun

def decEqItems : (a b : List Value) → Decidable (a = b)
  | [], [] => isTrue rfl
  | [], _ :: _ | _ :: _, [] => isFalse nofun
  | v :: a, w :: b =>
    have : Decidable (v = w) := decEq v w
    have : Decidable (a = b) := decEqItems a b
    decidable_of_iff (v = w ∧ a = b) (by simp)

def decEqFields : (a b : List (String × Value)) → Decidable (a = b)
  | [], [] => isTrue rfl
  | [], _ :: _ | _ :: _, [] => isFalse nofun
  | (k, v) :: a, (l, w) :: b =>
    have : Decidable (v = w) := decEq v w
    have : Decidable (a = b) := decEqFields a b
    decidable_of_iff ((k = l ∧ v = w) ∧ a = b) (by simp)

end

instance : DecidableEq Value := decEq

end Value

/-- A step from a value to a part of it. -/
inductive Step where
  | key (name : String)
  | item (index : Nat)
  deriving DecidableEq

end DocAtlas.Toml
