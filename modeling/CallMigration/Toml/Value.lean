import CallMigration.Decimal.Binary64

/-!
# Values of a configuration file

The values a TOML document can hold. Tables keep the order of their keys, and no
key occurs twice. Dates and times are kept as written.
-/

namespace CallMigration.Toml

/-- A value. -/
inductive Value where
  | text (value : String)
  | integer (value : Int)
  | number (value : Binary64)
  | boolean (value : Bool)
  | datetime (written : String)
  | array (items : List Value)
  | table (entries : List (String × Value))
deriving Repr, Inhabited

/-- The entry of a key. -/
def lookup? (entries : List (String × Value)) (key : String) : Option Value :=
  (entries.find? (·.1 == key)).map (·.2)

end CallMigration.Toml
