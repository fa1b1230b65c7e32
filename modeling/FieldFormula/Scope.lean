import Std.Data.HashMap
import Std.Data.TreeMap
import FieldFormula.Value

/-!
# Scopes

A scope says which fields a formula can read and what they hold. A field without a value is there
and holds null; a name that is no field at all is absent.
-/

namespace FieldFormula

/-- What can supply the values of fields. -/
class Scope (σ : Type) where
  -- The value of a field; none if there is no such field.
  lookup : σ → String → Option Value

/-- The value of the first of the fields with that name. -/
def lookupFirst (fields : List (String × Value)) (name : String) : Option Value :=
  (fields.find? fun field => field.1 == name).map Prod.snd

/-- Of fields with the same name the first counts. -/
instance : Scope (List (String × Value)) where
  lookup := lookupFirst

instance {n : Nat} : Scope (Vector (String × Value) n) where
  lookup fields name := lookupFirst fields.toList name

instance : Scope (Std.TreeMap String Value) where
  lookup fields name := fields.get? name

instance : Scope (Std.HashMap String Value) where
  lookup fields name := fields.get? name

structure NoFields where
  deriving DecidableEq, Repr

instance : Scope NoFields where
  lookup _ _ := none

end FieldFormula
