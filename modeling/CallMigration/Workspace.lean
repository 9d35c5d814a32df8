import CallMigration.Disk.Resolve

/-!
# Workspaces

A workspace bounds what may be written: only files whose real place is at or below
its root, and not inside installed packages or version control data.
-/

namespace CallMigration

/-- A project root without links. -/
structure Workspace where
  root : PathName
deriving DecidableEq, Repr

/-- Why a path may not be written. -/
inductive WorkspaceError where
  | outside (path root : PathName)
  | forbidden (path directory : PathName)
  /-- The path stands for nothing. -/
  | unresolved (path : PathName) (cause : DiskError)
deriving DecidableEq, Repr

namespace WorkspaceError

/-- The text of an error. -/
def message : WorkspaceError → String
  | outside path root => s!"Path is outside workspace: {path.text} (workspace: {root.text})"
  | forbidden path directory =>
      s!"Path is in forbidden directory: {path.text} (forbidden: {directory.text})"
  | unresolved path cause => s!"Failed to canonicalize {path.text}: {cause.message}"

/-- The text of what is behind an error. -/
def cause? : WorkspaceError → Option String
  | unresolved _ cause => some cause.message
  | _ => none

end WorkspaceError

namespace Workspace

/-- Names of directories in which nothing is written. -/
def forbiddenNames : List String := ["node_modules", ".git"]

/-- The real path of a path. -/
def canonical (d : Disk) (path : PathName) : Except WorkspaceError PathName :=
  match d.canonicalize path with
  | .ok p => .ok p
  | .error e => .error (.unresolved path e)

/-- The workspace of a root. -/
def ofRoot (d : Disk) (root : PathName) : Except WorkspaceError Workspace :=
  match canonical d root with
  | .ok p => .ok ⟨p⟩
  | .error e => .error e

/-- The first forbidden directory on the way from `base` along the components. -/
def forbiddenOn (base : PathName) : List PathName.Component → Option PathName
  | [] => none
  | .name n :: rest =>
      let here := base.join ⟨n⟩
      if forbiddenNames.contains n then some here else forbiddenOn here rest
  | _ :: rest => forbiddenOn base rest

/-- The real path of a path that may be written. Relative paths start at the root. -/
def validate (w : Workspace) (d : Disk) (path : PathName) : Except WorkspaceError PathName :=
  match canonical d (if path.isAbsolute then path else w.root.join path) with
  | .error e => .error e
  | .ok real =>
      match real.relativeTo? w.root with
      | none => .error (.outside real w.root)
      | some below =>
          match forbiddenOn w.root below with
          | some directory => .error (.forbidden real directory)
          | none => .ok real

end Workspace

end CallMigration
