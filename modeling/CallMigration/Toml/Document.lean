import CallMigration.Toml.Quoted
import CallMigration.Toml.Scalar
import CallMigration.Toml.Table

/-!
# TOML documents

A document is read line by line: headers open tables, and `key = value` lines fill
the table that is open. Values nest at most eighty deep, and a key has at most eighty
parts.
-/

namespace CallMigration.Toml

/-- How deep arrays and inline tables may nest. -/
def maxNesting : Nat := 80

/-- Read items up to a closing bracket, with commas between them and one allowed after
the last. The first argument bounds the number of items. -/
def items {α : Type} (item : Reader α) (close : Char) : Nat → Reader (List α)
  | 0, _ => none
  | count + 1, cs =>
      match skipTrivia cs with
      | [] => none
      | c :: rest =>
          if c = close then some ([], rest)
          else do
            let (first, after) ← item (c :: rest)
            match skipTrivia after with
            | ',' :: next => do
                let (others, next) ← items item close count next
                some (first :: others, next)
            | d :: next => if d = close then some ([first], next) else none
            | [] => none

/-- `key = value`, where `skip` leaves out what may stand around the sign and `value`
reads what follows it. -/
def keyValue? (skip : List Char → List Char) (value : Reader Value) (cs : List Char) :
    Option ((List String × Value) × List Char) := do
  let (key, rest) ← key? cs
  match skip rest with
  | '=' :: rest => do
      let (v, rest) ← value (skip rest)
      some ((key, v), rest)
  | _ => none

/-- Give the last part of a key its value, in the table that the parts before it name. -/
def putKey (entries : Entries) (pair : List String × Value) : Option Entries :=
  match pair.1.getLast? with
  | none => none
  | some key => entries.put pair.1.dropLast key pair.2

/-- A value that holds no other ones: a string, or what stands without quotes. -/
def plainValue? (cs : List Char) : Option (Value × List Char) :=
  match cs with
  | '"' :: _ | '\'' :: _ => (string? cs).map fun (s, rest) => (.text s, rest)
  | _ => scalar? cs

/-- A value in which arrays and inline tables nest at most `nesting` deep. Between the
brackets of either, lines may end wherever blanks may stand, but not within a key. -/
def value? : (nesting : Nat) → Reader Value
  | 0, cs => plainValue? cs
  | nesting + 1, cs =>
      match cs with
      | '[' :: rest => do
          let (vs, rest) ← items (value? nesting) ']' (rest.length + 1) rest
          some (.array vs, rest)
      | '\x7b' :: rest => do
          let (pairs, rest) ←
            items (keyValue? skipTrivia (value? nesting)) '\x7d' (rest.length + 1) rest
          let entries ← pairs.foldlM putKey []
          some (.table (closeEntries entries), rest)
      | _ => plainValue? cs

/-! ## Lines -/

/-- A document on the way: all its tables, and the header that is open. -/
structure Draft where
  entries : Entries
  header : List String

/-- Fill the open table. -/
def Draft.fill (d : Draft) (pair : List String × Value) : Option Draft := do
  let entries ← d.entries.update .parent (fun _ table => putKey table pair) d.header .header
  some { d with entries }

/-- Open a table or the next table of an array. -/
def Draft.openHeader (d : Draft) (element : Bool) (path : List String) : Option Draft := do
  let key ← path.getLast?
  let entries ←
    if element then d.entries.openElement path.dropLast key
    else d.entries.openTable path.dropLast key
  some ⟨entries, path⟩

/-- Read what a line holds, up to its end. -/
def lineContents (d : Draft) : Reader Draft
  | '[' :: '[' :: rest => do
      let (path, rest) ← key? rest
      match rest with
      | ']' :: ']' :: rest => do
          let d ← d.openHeader true path
          some (d, rest)
      | _ => none
  | '[' :: rest => do
      let (path, rest) ← key? rest
      match rest with
      | ']' :: rest => do
          let d ← d.openHeader false path
          some (d, rest)
      | _ => none
  | cs => do
      let (pair, rest) ← keyValue? skipBlanks (value? maxNesting) cs
      let d ← d.fill pair
      some (d, rest)

/-- Read lines. The first argument bounds their number. -/
def lines : Nat → Draft → List Char → Option Draft
  | 0, d, cs => if cs.isEmpty then some d else none
  | count + 1, d, cs =>
      match skipComment (skipBlanks cs) with
      | [] => some d
      | rest =>
          match lineEnd? rest with
          | some next => lines count d next
          | none =>
              -- a comment runs to the end of its line, so the line holds something else
              if (skipBlanks cs).head? = some '#' then none
              else do
                let (d, after) ← lineContents d (skipBlanks cs)
                let next ← restOfLine? after
                lines count d next

/-- Leave out a byte order mark at the start. -/
def dropMark : List Char → List Char
  | c :: rest => if c.toNat = 0xFEFF then rest else c :: rest
  | [] => []

/-- Read a document; `none` when it is not well formed. -/
def parse? (text : String) : Option (List (String × Value)) :=
  let cs := dropMark text.toList
  (lines (cs.length + 1) ⟨[], []⟩ cs).map fun d => closeEntries d.entries

end CallMigration.Toml
