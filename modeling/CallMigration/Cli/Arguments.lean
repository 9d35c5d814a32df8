import CallMigration.PathName

/-!
# Command lines

What the arguments of a run ask for. Options may stand anywhere after the command,
short ones may be joined, and `--` ends them. An option that takes a value may have
it attached. Except for the verbosity no option may be repeated. A question for the
version before the command ends the reading.
-/

namespace CallMigration.Cli

/-- The kinds of run. -/
inductive Verb where
  /-- Revise files in place. -/
  | apply
  /-- Report the files that would change. -/
  | check
deriving DecidableEq, Repr

/-- An option. -/
inductive Flag where
  | verbose
  | config
  | root
  | dryRun
  | diff
  | json
  | version
deriving DecidableEq, Repr

/-- Why arguments are no command. -/
inductive Halt where
  /-- They make no sense. -/
  | usage
  /-- They ask for the version. -/
  | version
deriving DecidableEq, Repr

namespace Flag

/-- Whether an option takes a value. -/
def takesValue : Flag → Bool
  | config => true
  | root => true
  | _ => false

/-- The options of a kind of run. -/
def allowed : Option Verb → Flag → Bool
  | _, verbose => true
  | none, version => true
  | some .apply, config | some .apply, root | some .apply, dryRun | some .apply, diff => true
  | some .check, config | some .check, json => true
  | _, _ => false

def ofLong? : String → Option Flag
  | "verbose" => some verbose
  | "config" => some config
  | "root" => some root
  | "dry-run" => some dryRun
  | "diff" => some diff
  | "json" => some json
  | "version" => some version
  | _ => none

def ofShort? : Char → Option Flag
  | 'v' => some verbose
  | 'c' => some config
  | 'r' => some root
  | 'n' => some dryRun
  | 'd' => some diff
  | 'V' => some version
  | _ => none

end Flag

/-- What was read so far: the kind of run, the options in order, and the paths. -/
structure Reading where
  verb : Option Verb
  options : List (Flag × String)
  paths : List PathName
deriving Repr

namespace Reading

/-- An option that may be given here. -/
def permitted (r : Reading) (flag : Option Flag) : Except Halt Flag :=
  match flag with
  | some flag => if Flag.allowed r.verb flag then .ok flag else .error .usage
  | none => .error .usage

/-- Note an option that may be given here. One that is repeated, or lacks its value,
is refused. -/
def note (r : Reading) (flag : Flag) (value : String) : Except Halt Reading :=
  if flag = .version then .error .version
  else if flag ≠ .verbose ∧ r.options.any (·.1 == flag) then .error .usage
  else if flag.takesValue ∧ value = "" then .error .usage
  else .ok { r with options := r.options ++ [(flag, value)] }

/-- Note an argument that is no option: the kind of run, then paths. -/
def positional (r : Reading) (argument : String) : Except Halt Reading :=
  match r.verb with
  | none =>
      match argument with
      | "apply" => .ok { r with verb := some .apply }
      | "check" => .ok { r with verb := some .check }
      | _ => .error .usage
  | some _ =>
      if argument = "" then .error .usage else .ok { r with paths := r.paths ++ [⟨argument⟩] }

/-- Read joined short options. Answers the option that still waits for its value. -/
def short (r : Reading) : List Char → Except Halt (Reading × Option Flag)
  | [] => .ok (r, none)
  | c :: rest => do
      let flag ← r.permitted (Flag.ofShort? c)
      match flag.takesValue, rest with
      | true, [] => .ok (r, some flag)
      | true, '=' :: value => return (← r.note flag (String.ofList value), none)
      | true, value => return (← r.note flag (String.ofList value), none)
      | false, rest => (← r.note flag "").short rest

/-- Read a long option, with a value when `=` follows the name. -/
def long (r : Reading) (text : List Char) : Except Halt (Reading × Option Flag) := do
  let flag ← r.permitted (Flag.ofLong? (String.ofList (text.takeWhile (· ≠ '='))))
  match text.dropWhile (· ≠ '='), flag.takesValue with
  | [], true => .ok (r, some flag)
  | [], false => return (← r.note flag "", none)
  | _ :: value, true => return (← r.note flag (String.ofList value), none)
  | _ :: _, false => .error .usage

/-- Read arguments; `waiting` is an option whose value comes next. -/
def all (r : Reading) (waiting : Option Flag) : List String → Except Halt Reading
  | [] => if waiting.isSome then .error .usage else .ok r
  | argument :: rest =>
      match waiting, argument.toList with
      | some flag, cs =>
          if cs.head? = some '-' ∧ cs ≠ ['-'] then .error .usage
          else (r.note flag argument).bind fun r => r.all none rest
      | none, ['-', '-'] =>
          if r.verb.isNone ∧ !rest.isEmpty then .error .usage
          else rest.foldlM positional r
      | none, '-' :: '-' :: name => (r.long name).bind fun (r, waiting) => r.all waiting rest
      | none, '-' :: c :: cs => (r.short (c :: cs)).bind fun (r, waiting) => r.all waiting rest
      | none, _ => (r.positional argument).bind fun r => r.all none rest

/-- Whether an option was given. -/
def has (r : Reading) (flag : Flag) : Bool := r.options.any (·.1 == flag)

/-- The path given with an option. -/
def path? (r : Reading) (flag : Flag) : Option PathName :=
  (r.options.find? (·.1 == flag)).map fun o => ⟨o.2⟩

end Reading

/-- What a run is asked to do. -/
inductive Command where
  | apply (paths : List PathName) (config root : Option PathName) (dryRun diff : Bool)
  | check (paths : List PathName) (config : Option PathName) (json : Bool)
deriving DecidableEq, Repr

/-- The paths that a command names. -/
def Command.namedPaths : Command → List PathName
  | .apply paths config root _ _ => paths ++ config.toList ++ root.toList
  | .check paths config _ => paths ++ config.toList

/-- The command of a list of arguments. -/
def Command.parse (arguments : List String) : Except Halt Command := do
  let r ← Reading.all ⟨none, [], []⟩ none arguments
  match r.verb with
  | some .apply =>
      .ok (.apply r.paths (r.path? .config) (r.path? .root) (r.has .dryRun) (r.has .diff))
  | some .check => .ok (.check r.paths (r.path? .config) (r.has .json))
  | none => .error .usage

end CallMigration.Cli
