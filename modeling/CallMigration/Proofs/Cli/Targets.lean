import CallMigration.Cli.Run
import CallMigration.Proofs.PathName
import CallMigration.Proofs.Program.Loaded
import CallMigration.Proofs.Revision.Walk
import Mathlib.Data.List.Basic

/-!
# Sources and targets of a run

The files of a loaded program are sources that were read from the disk, and what is revised
are those of them that hold more than declarations. The target of a revision is the real
place of its source. A workspace gives it only when it lies at or below the root, by whole
names, and when no directory between them is closed to writing.
-/

namespace CallMigration

/-- When nothing fails, each item has its result and each result its item. -/
theorem results_of_mapM {α β ε : Type} {f : α → Except ε β} {items : List α} {results : List β}
    (hmap : items.mapM f = .ok results) :
    (∀ a ∈ items, ∃ b ∈ results, f a = .ok b) ∧ ∀ b ∈ results, ∃ a ∈ items, f a = .ok b := by
  induction items generalizing results with
  | nil =>
      cases hmap
      simp
  | cons a rest ih =>
      rw [List.mapM_cons] at hmap
      cases hhead : f a with
      | error e =>
          rw [hhead] at hmap
          cases hmap
      | ok b =>
          cases hrest : rest.mapM f with
          | error e =>
              rw [hhead, hrest] at hmap
              cases hmap
          | ok others =>
              rw [hhead, hrest] at hmap
              cases hmap
              obtain ⟨hitems, hresults⟩ := ih hrest
              constructor
              · refine List.forall_mem_cons.mpr ⟨⟨b, List.mem_cons_self, hhead⟩, fun c hc => ?_⟩
                obtain ⟨r, hr, hok⟩ := hitems c hc
                exact ⟨r, List.mem_cons_of_mem _ hr, hok⟩
              · refine List.forall_mem_cons.mpr ⟨⟨a, List.mem_cons_self, hhead⟩, fun r hr => ?_⟩
                obtain ⟨c, hc, hok⟩ := hresults r hr
                exact ⟨c, List.mem_cons_of_mem _ hc, hok⟩

/-! ## Loaded sources -/

namespace Program

variable {grammar : Grammar}

/-- A file of a loaded program is one of the given paths, with the text that the disk holds
there. -/
theorem readText_of_mem_load {d : Disk} {options : Options} {paths : List PathName}
    {program : Program} (hload : Program.load d grammar options paths = .ok program)
    {file : SourceFile} (hfile : file ∈ program.files) :
    file.path ∈ paths ∧ d.readText file.path = .ok file.text := by
  rw [Program.load] at hload
  cases hread : paths.mapM (readSource d) with
  | error e =>
      rw [hread] at hload
      cases hload
  | ok sources =>
      rw [hread] at hload
      change ofSources grammar 0 options sources = .ok program at hload
      obtain ⟨path, hpath, hok⟩ := (results_of_mapM hread).2 _ (mem_of_ofSources hload hfile)
      rw [readSource] at hok
      split at hok
      next htext =>
        obtain ⟨rfl, rfl⟩ := Prod.mk.inj (Except.ok.inj hok)
        exact ⟨hpath, htext⟩
      next => cases hok

end Program

/-- What is revised are source files, each as it is alone. -/
theorem Revision.exists_of_mem_ofProgram {transform : Transform} {program : Program}
    {revisions : List Revision} (hok : ofProgram transform program = .ok revisions)
    {r : Revision} (hr : r ∈ revisions) :
    ∃ file ∈ program.files, file.path.isDeclaration = false ∧
      ofFile transform file = .ok r ∧ r.path = file.path ∧ r.source = file.text := by
  obtain ⟨all, hall, rfl⟩ := runFiles_eq_ok_iff.mp hok
  replace hr := (List.mem_filter.mp hr).1
  obtain ⟨file, hfile, hrevised⟩ :
      ∃ file ∈ sources program.files, ofFile transform file = .ok r := by
    generalize sources program.files = files at hall
    clear hok
    induction hall with
    | nil => cases hr
    | cons hhead _ ih =>
        rcases List.mem_cons.mp hr with rfl | hr
        · exact ⟨_, List.mem_cons_self, hhead⟩
        · obtain ⟨file, hfile, hrevised⟩ := ih hr
          exact ⟨file, List.mem_cons_of_mem _ hfile, hrevised⟩
  obtain ⟨hmem, hsource⟩ := List.mem_filter.mp hfile
  have hkind : file.path.isDeclaration = false := by simpa [SourceFile.isDeclaration] using hsource
  exact ⟨file, hmem, hkind, hrevised, ofFile_eq_ok hrevised⟩

/-! ## Places inside a workspace -/

namespace Workspace

variable {d : Disk} {w : Workspace}

/-- The place is at or below the root, by whole names, and none of the names below the root is
that of a directory in which nothing is written. -/
structure Permits (root place : Place) : Prop where
  inside : root <+: place
  allowed : ∀ name ∈ place.drop root.length, name ≠ "node_modules" ∧ name ≠ ".git"

theorem forbiddenOn_eq_none_iff {base : PathName} {names : List String} :
    forbiddenOn base (names.map .name) = none ↔
      ∀ name ∈ names, name ≠ "node_modules" ∧ name ≠ ".git" := by
  induction names generalizing base with
  | nil => simp [forbiddenOn]
  | cons name names ih =>
      have hmem : forbiddenNames.contains name = true ↔ name = "node_modules" ∨ name = ".git" := by
        simp [forbiddenNames]
      rw [List.map_cons, forbiddenOn, List.forall_mem_cons]
      split
      next hname =>
        rcases hmem.mp hname with rfl | rfl <;> simp
      next hname =>
        rw [hmem, not_or] at hname
        simp [ih, hname]

theorem ofRoot_eq_ok_iff {root : PathName} :
    ofRoot d root = .ok w ↔ ∃ place, d.resolve root = .ok place ∧ w.root = Disk.pathName place := by
  obtain ⟨real⟩ := w
  unfold ofRoot canonical
  cases hreal : d.canonicalize root with
  | error e =>
      simp only [reduceCtorEq, false_iff, not_exists, not_and]
      intro place hplace
      rw [Disk.canonicalize, hplace] at hreal
      cases hreal
  | ok found =>
      obtain ⟨place, hplace, rfl⟩ := Disk.canonicalize_eq_ok_iff.mp hreal
      simp [hplace, eq_comm]

/-- An absolute path that may be written leads to a place that the root permits, and what is
given for it is the path name of that place. -/
theorem exists_place_of_validate (hhere : d.Direct d.workingDirectory) {root : Place}
    (hroot : d.Direct root) (hw : w.root = Disk.pathName root) {path real : PathName}
    (habsolute : path.isAbsolute = true) (hreal : w.validate d path = .ok real) :
    ∃ place, d.resolve path = .ok place ∧ real = Disk.pathName place ∧ Permits root place := by
  unfold validate canonical at hreal
  rw [if_pos habsolute] at hreal
  cases hfound : d.canonicalize path with
  | error e => simp [hfound] at hreal
  | ok found =>
      obtain ⟨place, hplace, rfl⟩ := Disk.canonicalize_eq_ok_iff.mp hfound
      have hnames := (Disk.direct_of_resolve hhere hplace).names
      rw [hfound] at hreal
      simp only [PathName.relativeTo?, hw, Disk.components_pathName hnames,
        Disk.components_pathName hroot.names] at hreal
      split at hreal
      · cases hreal
      next below hbelow =>
        split at hbelow
        next hprefix =>
          rw [List.isPrefixOf_iff_prefix, List.cons_prefix_cons] at hprefix
          have hnamed : Function.Injective PathName.Component.name := fun _ _ => by simp
          obtain ⟨rest, rfl⟩ := (List.prefix_map_iff_of_injective hnamed).mp hprefix.2
          cases hbelow
          split at hreal
          · cases hreal
          next hallowed =>
            cases hreal
            simp only [List.length_cons, List.drop_succ_cons, List.map_append, List.drop_left]
              at hallowed
            refine ⟨root ++ rest, hplace, rfl, List.prefix_append _ _, ?_⟩
            rw [List.drop_left]
            exact forbiddenOn_eq_none_iff.mp hallowed
        next => cases hbelow

end Workspace

end CallMigration
