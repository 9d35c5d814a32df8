import CallMigration.Disk.Resolve

/-!
# Going through directories

What stands at a path is visited first, then, if it is a directory, all that is below it: an
entry before what it holds, and the entries of a directory in the order in which the disk
lists them. A link is followed where the path leads, and nowhere below. A test says what is
visited at all; a directory that is passed over is not listed either.
-/

namespace CallMigration

/-- An entry that is visited. -/
structure Visit where
  /-- How far below the start it is. -/
  depth : Nat
  /-- The path of the start, with the names that lead to the entry. -/
  path : PathName
  entry : Entry

namespace Visit

def isDirectory (v : Visit) : Bool :=
  match v.entry with
  | .directory _ => true
  | _ => false

def isFile (v : Visit) : Bool :=
  match v.entry with
  | .file .. => true
  | _ => false

/-- The last name of the path. A path that ends in none stands for itself. -/
def name (v : Visit) : String := v.path.fileName?.getD v.path.text

end Visit

/-- Why what a path stands for is not visited, or not listed. -/
structure VisitError where
  path : PathName
  cause : DiskError
deriving DecidableEq, Repr

namespace VisitError

/-- The text of an error. -/
def message (e : VisitError) : String :=
  s!"IO error for operation on {e.path.text}: {e.cause.message}"

end VisitError

namespace Disk

/-- The name of an entry that is directly in a directory. -/
def childName? (directory place : Place) : Option String :=
  if place.dropLast = directory then place.getLast? else none

/-- The names in a directory, with what stands there, in the order of the disk. -/
def list (d : Disk) (place : Place) : Except DiskError (List (String × Entry)) :=
  if d.isDirectory place then
    .ok (d.entries.filterMap fun e => (childName? place e.1).map fun name => (name, e.2))
  else .error .notDirectory

/-- The length of the longest place. -/
def height (d : Disk) : Nat := d.entries.foldr (fun e n => max e.1.length n) 0

theorem length_le_height {d : Disk} {e : Place × Entry} (he : e ∈ d.entries) :
    e.1.length ≤ d.height := by
  unfold height
  generalize d.entries = entries at he
  induction entries with
  | nil => cases he
  | cons first rest ih =>
      rw [List.foldr_cons]
      rcases List.mem_cons.mp he with rfl | hrest
      · exact Nat.le_max_left _ _
      · exact Nat.le_trans (ih hrest) (Nat.le_max_right _ _)

/-- What is in a directory is no deeper than the deepest entry. -/
theorem length_lt_height {d : Disk} {place : Place} {found : List (String × Entry)}
    (hlist : d.list place = .ok found) {child : String × Entry} (hchild : child ∈ found) :
    place.length < d.height := by
  unfold list at hlist
  split at hlist
  · cases hlist
    obtain ⟨e, he, hname⟩ := List.mem_filterMap.mp hchild
    obtain ⟨name, hname, -⟩ := Option.map_eq_some_iff.mp hname
    obtain ⟨rfl, hlast⟩ := Option.ite_none_right_eq_some.mp hname
    have hne : e.1 ≠ [] := by
      intro hnil
      rw [hnil] at hlast
      cases hlast
    have hlength := List.length_pos_iff.mpr hne
    have hbound := length_le_height he
    rw [List.length_dropLast]
    omega
  · cases hlist

/-- Visit an entry and what is below it, as far as the test allows. -/
def visitsFrom (d : Disk) (meets : Visit → Bool) (depth : Nat) (path : PathName) (place : Place)
    (entry : Entry) : List (Except VisitError Visit) :=
  let here : Visit := ⟨depth, path, entry⟩
  if !meets here then []
  else
    .ok here ::
      if here.isDirectory then
        match hlist : d.list place with
        | .error cause => [.error ⟨path, cause⟩]
        | .ok found => found.attach.flatMap fun ⟨(name, inner), hchild⟩ =>
            have := length_lt_height hlist hchild
            d.visitsFrom meets (depth + 1) (path.join ⟨name⟩) (place ++ [name]) inner
      else []
termination_by d.height - place.length
decreasing_by
  rw [List.length_append, List.length_singleton]
  omega

/-- The visits that start at a path. -/
def visits (d : Disk) (meets : Visit → Bool) (path : PathName) : List (Except VisitError Visit) :=
  match d.resolve path with
  | .error cause => [.error ⟨path, cause⟩]
  | .ok place =>
      match d.entry? place with
      | some entry => d.visitsFrom meets 0 path place entry
      | none => [.error ⟨path, .notFound⟩]

end Disk

end CallMigration
