import CallMigration.Config.Settings
import CallMigration.Toml.Document

/-!
# Settings from a configuration file

A record is read from a table by field name, or from an array by position; what is
left out takes its default, unknown fields are passed over, and a date counts as a
table of unknown fields. Settings that can be read are then validated.
-/

namespace CallMigration

/-- Why a configuration cannot be used. -/
inductive ConfigError where
  /-- The file could not be read. -/
  | unreadable (path : PathName) (reason : String)
  /-- The text is no document, or a value has the wrong form. -/
  | malformed (path : Option PathName)
  /-- The settings do not meet their conditions. -/
  | invalid (path : Option PathName) (issues : List SettingsIssue)
deriving DecidableEq, Repr

namespace ConfigError

/-- The text of the issues, one a line. -/
def issuesMessage (issues : List SettingsIssue) : String :=
  "\n".intercalate (issues.map SettingsIssue.message)

/-- The text of an error. What is wrong with a document is not told. -/
def message : ConfigError → String
  | unreadable path reason => s!"failed to read config from {path.text}: {reason}"
  | malformed none => "failed to parse config TOML"
  | malformed (some path) => s!"failed to parse config TOML ({path.text})"
  | invalid none issues => "invalid config: " ++ issuesMessage issues
  | invalid (some path) issues => s!"invalid config ({path.text}): " ++ issuesMessage issues

/-- The text of what is behind an error. -/
def cause? : ConfigError → Option String
  | unreadable _ reason => some reason
  | malformed _ => none
  | invalid _ issues => some (issuesMessage issues)

end ConfigError

namespace Config

open Toml (Value)

/-- The fields of a record, by name or by position. -/
inductive Fields where
  | named (entries : List (String × Value))
  | listed (values : List Value)

/-- The fields of a record value. -/
def fields? : Value → Option Fields
  | .table entries => some (.named entries)
  | .array values => some (.listed values)
  | .datetime _ => some (.named [])
  | _ => none

/-- The value of a field. -/
def Fields.get? (fs : Fields) (name : String) (position : Nat) : Option Value :=
  match fs with
  | .named entries => Toml.lookup? entries name
  | .listed values => values[position]?

/-- Read a field that may be left out. -/
def optional {α : Type} (fs : Fields) (name : String) (position : Nat) (default : α)
    (read : Value → Option α) : Option α :=
  match fs.get? name position with
  | some v => read v
  | none => some default

/-- Read a field that has to be there. -/
def required {α : Type} (fs : Fields) (name : String) (position : Nat)
    (read : Value → Option α) : Option α :=
  (fs.get? name position).bind read

/-! ## Values -/

def boolean? : Value → Option Bool
  | .boolean b => some b
  | _ => none

def text? : Value → Option String
  | .text s => some s
  | _ => none

def position? : Value → Option Nat
  | .integer n => if 0 ≤ n then some n.toNat else none
  | _ => none

def listOf? {α : Type} (read : Value → Option α) : Value → Option (List α)
  | .array vs => vs.mapM read
  | _ => none

/-- A fallback value: a scalar that is no date. -/
def literal? : Value → Option Literal
  | .boolean b => some (.boolean b)
  | .integer n => some (.integer n)
  | .number x => some (.number x)
  | .text s => some (.text s)
  | _ => none

/-- The policy of a name. -/
def policyNamed? : String → Option NullabilityPolicy
  | "null-only" => some .nullOnly
  | "null-or-undefined" => some .nullOrUndefined
  | _ => none

/-- A policy: its name, or a table with the name as its only key and nothing in it. -/
def policy? : Value → Option NullabilityPolicy
  | .text name => policyNamed? name
  | .table [(name, .table [])] => policyNamed? name
  | .table [(name, .array [])] => policyNamed? name
  | _ => none

/-! ## Records -/

def migration? (v : Value) : Option Migration := do
  let fs ← fields? v
  let deprecated ← required fs "deprecated" 0 text?
  let replacement ← required fs "replacement" 1 text?
  let subjectArgument ← optional fs "subject_argument" 2 0 position?
  let fallback ← optional fs "fallback" 3 (.boolean false) literal?
  some { deprecated, replacement, subjectArgument, fallback }

/-- The checker's part of the settings. -/
def checker? (v : Value) : Option (Bool × NullabilityPolicy × List String) := do
  let fs ← fields? v
  let strict ← optional fs "strict" 0 true boolean?
  let nullability ← optional fs "nullability" 1 .nullOnly policy?
  let ambientGlobals ← optional fs "ambient_globals" 2 [] (listOf? text?)
  some (strict, nullability, ambientGlobals)

/-- The settings of a document. -/
def settings? (entries : List (String × Value)) : Option Settings := do
  let fs := Fields.named entries
  let (strict, nullability, ambientGlobals) ← optional fs "checker" 0 (true, .nullOnly, []) checker?
  let migrations ← optional fs "migrations" 1 [Migration.standard] (listOf? migration?)
  some { strict, nullability, ambientGlobals, migrations }

/-- Read and validate the text of a configuration, which stands at `path`. -/
def load (path : Option PathName) (text : String) : Except ConfigError Settings :=
  match (Toml.parse? text).bind settings? with
  | none => .error (.malformed path)
  | some s => if s.issues.isEmpty then .ok s else .error (.invalid path s.issues)

end Config

end CallMigration
