import CallMigration.Toml.Value

/-!
# Building tables

Headers and dotted keys build up nested tables. Each table remembers how it came to
be: by a header of its own, as the parent of one, or by a dotted key. A table is
defined once: a header may fill in a parent, dotted keys may add to a table made by
dotted keys, and nothing else may be opened again.
-/

namespace CallMigration.Toml

/-- How a table came to be. -/
inductive Origin where
  /-- By a header of its own. -/
  | header
  /-- As the parent in another table's header. -/
  | parent
  /-- By a dotted key. -/
  | dotted
deriving DecidableEq, Repr, Inhabited

/-- What stands under a key while a document is read. -/
inductive Item where
  | value (v : Value)
  | table (origin : Origin) (entries : List (String × Item))
  /-- An array of tables; the last one is open. -/
  | tables (closed : List (List (String × Item))) (last : List (String × Item))
deriving Repr, Inhabited

/-- The entries of a table while a document is read. -/
abbrev Entries := List (String × Item)

namespace Entries

/-- The item under a key. -/
def find? (entries : Entries) (key : String) : Option Item :=
  (List.find? (·.1 == key) entries).map (·.2)

/-- Put an item under a key, in place of one that is there. -/
def set (entries : Entries) (key : String) (item : Item) : Entries :=
  if entries.any (·.1 == key) then entries.map fun e => if e.1 == key then (key, item) else e
  else entries ++ [(key, item)]

/-- Change the table at a path with `act`, which also learns how that table came to be.
Tables that are missing are made, with the given origin. A dotted path enters no
table that has a header of its own. -/
def update (origin : Origin) (act : Origin → Entries → Option Entries) :
    List String → Origin → Entries → Option Entries
  | [], here, entries => act here entries
  | key :: path, _, entries =>
      match entries.find? key with
      | none => do
          let inner ← update origin act path origin []
          some (entries.set key (.table origin inner))
      | some (.value _) => none
      | some (.tables closed last) => do
          let last ← update origin act path .header last
          some (entries.set key (.tables closed last))
      | some (.table here inner) =>
          if origin = .dotted ∧ here = .header then none
          else do
            let inner ← update origin act path here inner
            some (entries.set key (.table here inner))

/-- Give a key its value. A dotted key ends in a table made by dotted keys. -/
def put (path : List String) (key : String) (v : Value) (entries : Entries) : Option Entries :=
  update .dotted (fun here entries =>
    if (!path.isEmpty && here != .dotted) || (entries.find? key).isSome then none
    else some (entries.set key (.value v))) path .header entries

/-- Open the table of a header. -/
def openTable (parents : List String) (key : String) (entries : Entries) : Option Entries :=
  update .parent (fun _ entries =>
    match entries.find? key with
    | none => some (entries.set key (.table .header []))
    | some (.table .parent inner) => some (entries.set key (.table .header inner))
    | some _ => none) parents .header entries

/-- Add a table to the array of a header. -/
def openElement (parents : List String) (key : String) (entries : Entries) : Option Entries :=
  update .parent (fun _ entries =>
    match entries.find? key with
    | none => some (entries.set key (.tables [] []))
    | some (.tables closed last) => some (entries.set key (.tables (closed ++ [last]) []))
    | some _ => none) parents .header entries

end Entries

mutual

/-- The value an item ends up as. -/
def Item.close : Item → Value
  | .value v => v
  | .table _ entries => .table (closeEntries entries)
  | .tables closed last => .array (closeAll closed ++ [.table (closeEntries last)])

/-- The values of entries. -/
def closeEntries : List (String × Item) → List (String × Value)
  | [] => []
  | (key, item) :: rest => (key, item.close) :: closeEntries rest

/-- The values of closed tables. -/
def closeAll : List (List (String × Item)) → List Value
  | [] => []
  | entries :: rest => .table (closeEntries entries) :: closeAll rest

end

end CallMigration.Toml
