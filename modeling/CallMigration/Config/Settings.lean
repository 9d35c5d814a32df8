import CallMigration.Migration
import CallMigration.Text.Blank

/-!
# Settings of a run

What a configuration file decides, the settings in effect without one, and the
conditions that settings have to meet.
-/

namespace CallMigration

/-- The settings of a run. -/
structure Settings where
  strict : Bool
  nullability : NullabilityPolicy
  ambientGlobals : List String
  migrations : List Migration
deriving DecidableEq, Repr, Inhabited

/-- A condition that settings do not meet. -/
inductive SettingsIssue where
  | noMigrations
  /-- A name is blank. -/
  | missingField (migration : Option String) (field : String)
  /-- A name is no identifier. -/
  | invalidName (migration : Option String) (field value : String)
  /-- A deprecated name is listed again. -/
  | duplicate (deprecated : String)
  /-- A global is no identifier. -/
  | invalidGlobal (value : String)
  /-- Two fields do not go together, or a value cannot be used. -/
  | invalidCombination (migration : Option String) (reason : String)
deriving DecidableEq, Repr

namespace SettingsIssue

/-- The text of an issue. -/
def message : SettingsIssue → String
  | noMigrations => "config contains no migrations"
  | missingField (some id) field => s!"migration '{id}' missing required field '{field}'"
  | missingField none field => s!"migration missing required field '{field}'"
  | invalidName (some id) field value =>
      s!"migration '{id}' field '{field}' is not an identifier: '{value}'"
  | invalidName none field value => s!"migration field '{field}' is not an identifier: '{value}'"
  | duplicate deprecated => s!"migration '{deprecated}' is defined more than once"
  | invalidGlobal value => s!"ambient global is not an identifier: '{value}'"
  | invalidCombination (some id) reason =>
      s!"migration '{id}' has invalid configuration: {reason}"
  | invalidCombination none reason => s!"invalid migration configuration: {reason}"

end SettingsIssue

namespace Settings

/-- The settings without a configuration. -/
def standard : Settings := ⟨true, .nullOnly, [], [Migration.standard]⟩

/-- The options under which types are checked. -/
def options (s : Settings) : Options := ⟨s.strict, s.ambientGlobals⟩

/-- The transform that carries out the migrations in a program. -/
def transform (s : Settings) (program : Program) : Transform :=
  Migration.transform s.migrations s.nullability program

/-! ## Validation -/

/-- The issue with a name of a migration. -/
def nameIssues (id : Option String) (field value : String) : List SettingsIssue :=
  if Text.isBlankText value then [.missingField id field]
  else if Text.isIdentifier value then []
  else [.invalidName id field value]

/-- The issue with a fallback value. -/
def fallbackIssues (id : Option String) : Literal → List SettingsIssue
  | .number value =>
      if value.isFinite then []
      else [.invalidCombination id s!"fallback {value.render} is not a finite number"]
  | _ => []

/-- The issues of a migration, given the deprecated names before it. -/
def migrationIssues (seen : List String) (m : Migration) : List SettingsIssue :=
  let id := if m.deprecated == "" then none else some m.deprecated
  nameIssues id "deprecated" m.deprecated ++ nameIssues id "replacement" m.replacement ++
    (if m.deprecated != "" && seen.contains m.deprecated then [.duplicate m.deprecated] else []) ++
    (if m.deprecated != "" && m.deprecated == m.replacement then
      [.invalidCombination id "replacement must differ from the deprecated name"] else []) ++
    fallbackIssues id m.fallback

/-- The issues of a list of migrations, given the deprecated names before it. -/
def migrationsIssues (seen : List String) : List Migration → List SettingsIssue
  | [] => []
  | m :: ms => migrationIssues seen m ++ migrationsIssues (m.deprecated :: seen) ms

/-- All issues of settings, in the order of the migrations, those of globals last. -/
def issues (s : Settings) : List SettingsIssue :=
  (if s.migrations.isEmpty then [.noMigrations] else []) ++ migrationsIssues [] s.migrations ++
    (s.ambientGlobals.filter (!Text.isIdentifier ·)).map .invalidGlobal

end Settings

end CallMigration
