import CallMigration.Proofs.Cli.Targets
import CallMigration.Proofs.Commit.Interrupted
import CallMigration.Proofs.Migration.Untracked

/-!
# What a run changes

A run prepares, revises in memory, finds the targets and verifies them before it writes the
first file. When it ends before that, the disk is as it was. What is changed otherwise are
files of the workspace that are sources of the run and hold more than declarations, and each
of them holds a text that the run computed for it.
-/

namespace CallMigration.Cli

variable {d : Disk} {grammar : Grammar}

/-! ## Writing revisions -/

theorem exists_of_target {w : Workspace} {r : Revision} {write : FileWrite}
    (htarget : target d w r = .ok write) :
    ∃ real, w.validate d ((workingPath d).join r.path) = .ok real ∧
      write = .ofTexts real r.source r.revised := by
  unfold target at htarget
  cases hreal : w.validate d ((workingPath d).join r.path) with
  | error e =>
      rw [hreal] at htarget
      cases htarget
  | ok real =>
      rw [hreal] at htarget
      simp only [Except.ok.injEq] at htarget
      exact ⟨real, rfl, htarget.symm⟩

/-- The file of a target is at the real place of the source, inside the workspace. -/
theorem fileAt_of_target (hhere : d.Direct d.workingDirectory) {root : PathName} {w : Workspace}
    (hroot : Workspace.ofRoot d root = .ok w) {r : Revision} {write : FileWrite}
    (htarget : target d w r = .ok write) (haccepted : ¬write.IsRefused d) :
    ∃ place base old mode, d.resolve ((workingPath d).join r.path) = .ok place ∧
      d.resolve root = .ok base ∧ Workspace.Permits base place ∧
      d.FileAt write.file place old mode := by
  obtain ⟨real, hreal, rfl⟩ := exists_of_target htarget
  obtain ⟨base, hbase, hw⟩ := Workspace.ofRoot_eq_ok_iff.mp hroot
  have habsolute : ((workingPath d).join r.path).isAbsolute = true :=
    PathName.isAbsolute_iff_startsWith.mpr
      (PathName.startsWith_join (Disk.startsWith_pathName _) r.path)
  obtain ⟨place, hplace, rfl, hpermits⟩ := Workspace.exists_place_of_validate hhere
    (Disk.direct_of_resolve hhere hbase) hw habsolute hreal
  have hdirect := Disk.direct_of_resolve hhere hplace
  obtain ⟨there, text, mode, -, hfile⟩ :=
    FileWrite.exists_fileAt (w := .ofTexts (Disk.pathName place) r.source r.revised)
      ⟨place, hdirect, rfl⟩ haccepted
  obtain ⟨rfl, -, -⟩ := (Disk.resolve_eq_ok_iff hdirect).mp hfile.resolve
  exact ⟨there, base, _, mode, hplace, hbase, hpermits, hfile⟩

/-- The disk of a commit is that of a batch of targets, or the one before. -/
theorem commit_cases (d : Disk) (root : PathName) (rs : List Revision) :
    (commit d root rs).1 = d ∨ ∃ w writes, Workspace.ofRoot d root = .ok w ∧
      rs.mapM (target d w) = .ok writes ∧
      (commit d root rs).1 = (FileWrite.applyBatch d writes).1 := by
  unfold commit
  split
  · exact .inl rfl
  · split
    · exact .inl rfl
    next w hroot =>
      split
      · exact .inl rfl
      next writes hwrites =>
        refine .inr ⟨w, writes, hroot, hwrites, ?_⟩
        obtain ⟨last, result⟩ := FileWrite.applyBatch d writes
        cases result <;> rfl

/-- Whatever fails, a commit changes files of the workspace only, each to the revised text of a
source that is there. -/
theorem commit_entry (hhere : d.Direct d.workingDirectory) (root : PathName) (rs : List Revision)
    (place : Place) :
    Disk.entry? (commit d root rs).1 place = d.entry? place ∨
      ∃ r ∈ rs, ∃ base old mode, d.resolve ((workingPath d).join r.path) = .ok place ∧
        d.resolve root = .ok base ∧ Workspace.Permits base place ∧
        d.entry? place = some (.file old mode) ∧
        Disk.entry? (commit d root rs).1 place = some (.file r.revised.toUTF8 mode) := by
  rcases commit_cases d root rs with hdisk | ⟨w, writes, hroot, hwrites, hdisk⟩
  · exact .inl (by rw [hdisk])
  · rw [hdisk]
    rcases FileWrite.mapM_verify_cases d writes with ⟨-, e, herror⟩ | ⟨haccepted, -⟩
    · rw [FileWrite.applyBatch, herror]
      exact .inl rfl
    · rw [FileWrite.applyBatch_eq_writeAll haccepted]
      have htargets := (results_of_mapM hwrites).2
      have hfiles : ∀ t ∈ writes.map fun w => (w, decide (d.readText w.file = .ok w.contents)),
          ∃ place old mode, d.FileAt t.1.file place old mode := by
        refine List.forall_mem_map.mpr fun write hwrite => ?_
        obtain ⟨r, -, htarget⟩ := htargets write hwrite
        obtain ⟨there, _, old, mode, -, -, -, hfile⟩ :=
          fileAt_of_target hhere hroot htarget (haccepted write hwrite)
        exact ⟨there, old, mode, hfile⟩
      rcases FileWrite.writeAll_entry hfiles place with
        hkept | ⟨t, ht, old, mode, hfile, hnew⟩
      · exact .inl hkept
      · obtain ⟨write, hwrite, rfl⟩ := List.mem_map.mp ht
        obtain ⟨r, hr, htarget⟩ := htargets write hwrite
        obtain ⟨there, base, _, _, hplace, hbase, hpermits, hthere⟩ :=
          fileAt_of_target hhere hroot htarget (haccepted write hwrite)
        obtain ⟨real, -, rfl⟩ := exists_of_target htarget
        cases hthere.resolve.symm.trans hfile.resolve
        exact .inr ⟨r, hr, base, old, mode, hplace, hbase, hpermits, hfile.entry, hnew⟩

/-! ## Runs -/

/-- The ways in which a command ends before its first write: it does not write, its settings or
sources are not found, they cannot be read, parsed or revised, the root stands for nothing, or
one of the targets may not be written or does not hold what was read. -/
inductive Command.EndsEarly (d : Disk) (grammar : Grammar) : Command → Prop
  | check {paths config json} : EndsEarly d grammar (.check paths config json)
  | dryRun {paths config root diff} : EndsEarly d grammar (.apply paths config root true diff)
  | unprepared {paths config root dryRun diff f} (hprepare : prepare d paths config = .error f) :
      EndsEarly d grammar (.apply paths config root dryRun diff)
  | unrevised {paths config root dryRun diff p f} (hprepare : prepare d paths config = .ok p)
      (hrevise : revise d grammar p = .error f) :
      EndsEarly d grammar (.apply paths config root dryRun diff)
  | rootless {paths config root dryRun diff e}
      (hroot : Workspace.ofRoot d (root.getD (workingPath d)) = .error e) :
      EndsEarly d grammar (.apply paths config root dryRun diff)
  | rejected {paths config root dryRun diff p rs w r e} (hprepare : prepare d paths config = .ok p)
      (hrevise : revise d grammar p = .ok rs)
      (hroot : Workspace.ofRoot d (root.getD (workingPath d)) = .ok w)
      (hr : r ∈ rs) (htarget : target d w r = .error e) :
      EndsEarly d grammar (.apply paths config root dryRun diff)
  | refused {paths config root dryRun diff p rs w r write e}
      (hprepare : prepare d paths config = .ok p) (hrevise : revise d grammar p = .ok rs)
      (hroot : Workspace.ofRoot d (root.getD (workingPath d)) = .ok w)
      (hr : r ∈ rs) (htarget : target d w r = .ok write) (hverify : write.verify d = .error e) :
      EndsEarly d grammar (.apply paths config root dryRun diff)

/-- An `apply` leaves the disk as it was, or that of the commit of its revisions. -/
theorem runApply_cases (d : Disk) (grammar : Grammar) (paths : List PathName)
    (config root : Option PathName) (dryRun diff : Bool) :
    (runApply d grammar paths config root dryRun diff).disk = d ∨
      dryRun = false ∧ ∃ p rs, prepare d paths config = .ok p ∧ revise d grammar p = .ok rs ∧
        (runApply d grammar paths config root dryRun diff).disk =
          (commit d (root.getD (workingPath d)) rs).1 := by
  unfold runApply
  split
  · exact .inl rfl
  next p hprepare =>
    dsimp only
    split
    · exact .inl rfl
    next rs hrevise =>
      split
      · exact .inl rfl
      next hdry =>
        refine .inr ⟨by simpa using hdry, p, rs, hprepare, hrevise, ?_⟩
        obtain ⟨last, result⟩ := commit d (root.getD (workingPath d)) rs
        cases result <;> rfl

theorem runCheck_disk (d : Disk) (grammar : Grammar) (paths : List PathName)
    (config : Option PathName) (json : Bool) :
    (runCheck d grammar paths config json).disk = d := by
  unfold runCheck
  split
  · rfl
  · split <;> rfl

/-- A target that is refused keeps the whole batch from being written. -/
theorem commit_of_refused {root : PathName} {w : Workspace}
    (hroot : Workspace.ofRoot d root = .ok w) {rs : List Revision} {r : Revision} (hr : r ∈ rs)
    {write : FileWrite} (htarget : target d w r = .ok write) {e : WriteError}
    (hverify : write.verify d = .error e) : (commit d root rs).1 = d := by
  rcases commit_cases d root rs with hdisk | ⟨w', writes, hroot', hwrites, hdisk⟩
  · exact hdisk
  · cases hroot.symm.trans hroot'
    obtain ⟨write', hmem, htarget'⟩ := (results_of_mapM hwrites).1 r hr
    cases htarget.symm.trans htarget'
    rw [hdisk]
    rcases FileWrite.mapM_verify_cases d writes with ⟨-, cause, herror⟩ | ⟨haccepted, -⟩
    · rw [FileWrite.applyBatch, herror]
    · rcases FileWrite.verify_cases d write with ⟨hrefused, -⟩ | ⟨-, hok⟩
      · exact absurd hrefused (haccepted write hmem)
      · cases hverify.symm.trans hok

/-- Before the first write nothing is changed. -/
theorem Command.EndsEarly.disk {command : Command} (hearly : command.EndsEarly d grammar) :
    (command.run d grammar).disk = d := by
  have happly : ∀ {paths config root dryRun diff},
      (∀ p rs, dryRun = false → prepare d paths config = .ok p → revise d grammar p = .ok rs →
        (commit d (root.getD (workingPath d)) rs).1 = d) →
      (Command.run d grammar (.apply paths config root dryRun diff)).disk = d := by
    intro paths config root dryRun diff hcommit
    rcases runApply_cases d grammar paths config root dryRun diff with
      hdisk | ⟨hdry, p, rs, hprepare, hrevise, hdisk⟩
    · exact hdisk
    · exact hdisk.trans (hcommit p rs hdry hprepare hrevise)
  cases hearly with
  | check => exact runCheck_disk ..
  | dryRun => exact happly (by simp)
  | unprepared hprepare => exact happly (by simp [hprepare])
  | unrevised hprepare hrevise =>
      refine happly fun p rs _ hprepare' hrevise' => ?_
      cases hprepare.symm.trans hprepare'
      cases hrevise.symm.trans hrevise'
  | rootless hroot =>
      refine happly fun p rs _ _ _ => ?_
      rcases commit_cases d _ rs with hdisk | ⟨w, _, hroot', -⟩
      · exact hdisk
      · cases hroot.symm.trans hroot'
  | rejected hprepare hrevise hroot hr htarget =>
      refine happly fun p rs _ hprepare' hrevise' => ?_
      cases hprepare.symm.trans hprepare'
      cases hrevise.symm.trans hrevise'
      rcases commit_cases d _ _ with hdisk | ⟨w, writes, hroot', hwrites, -⟩
      · exact hdisk
      · cases hroot.symm.trans hroot'
        obtain ⟨write, -, hok⟩ := (results_of_mapM hwrites).1 _ hr
        cases htarget.symm.trans hok
  | refused hprepare hrevise hroot hr htarget hverify =>
      refine happly fun p rs _ hprepare' hrevise' => ?_
      cases hprepare.symm.trans hprepare'
      cases hrevise.symm.trans hrevise'
      exact commit_of_refused hroot hr htarget hverify

theorem exists_of_revise {p : Preparation} {rs : List Revision}
    (hrevise : revise d grammar p = .ok rs) :
    ∃ program, Program.load d grammar p.settings.options p.sources = .ok program ∧
      Revision.ofProgram (p.settings.transform program) program = .ok rs := by
  unfold revise at hrevise
  split at hrevise
  · cases hrevise
  next program hload =>
    split at hrevise
    · cases hrevise
    next hrevised =>
      cases hrevise
      exact ⟨program, hload, hrevised⟩

/-- Only an `apply` that is no dry run changes anything. -/
theorem exists_apply_of_changed {arguments : List String} {place : Place}
    (hchanged : Disk.entry? (run d grammar arguments).disk place ≠ d.entry? place) :
    ∃ paths config root diff p rs,
      Command.parse arguments = .ok (.apply paths config root false diff) ∧
      prepare d paths config = .ok p ∧ revise d grammar p = .ok rs ∧
      (run d grammar arguments).disk = (commit d (root.getD (workingPath d)) rs).1 := by
  unfold run at hchanged ⊢
  split at hchanged
  · exact absurd rfl hchanged
  · exact absurd rfl hchanged
  next command hparse =>
    cases command with
    | check paths config json =>
        rw [Command.run, runCheck_disk] at hchanged
        exact absurd rfl hchanged
    | apply paths config root dryRun diff =>
        rcases runApply_cases d grammar paths config root dryRun diff with
          hdisk | ⟨rfl, p, rs, hprepare, hrevise, hdisk⟩
        · rw [Command.run, hdisk] at hchanged
          exact absurd rfl hchanged
        · exact ⟨paths, config, root, diff, p, rs, hparse, hprepare, hrevise, hdisk⟩

/-- Let no link stand on the way to the working directory. Every place at which a run leaves
something else is the real place of a source that the run loaded and that holds more than
declarations; it is at or below the real root, by whole names, and below it neither in installed
packages nor in version control data; and it now holds the text into which that source was
revised. A command that ends before its first write leaves the disk as it was. -/
theorem run_changes (d : Disk) (grammar : Grammar) (arguments : List String)
    (hhere : d.Direct d.workingDirectory) :
    let ending := run d grammar arguments
    (∀ place, ending.disk.entry? place ≠ d.entry? place →
      ∃ paths config root diff preparation program,
        Command.parse arguments = .ok (.apply paths config root false diff) ∧
        prepare d paths config = .ok preparation ∧
        Program.load d grammar preparation.settings.options preparation.sources = .ok program ∧
        ∃ file ∈ program.files, file.path ∈ preparation.sources ∧
          d.readText file.path = .ok file.text ∧ file.path.isDeclaration = false ∧
          d.resolve ((workingPath d).join file.path) = .ok place ∧
          ∃ base r old mode, d.resolve (root.getD (workingPath d)) = .ok base ∧
            Workspace.Permits base place ∧
            Revision.ofFile (preparation.settings.transform program) file = .ok r ∧
            d.entry? place = some (.file old mode) ∧
            ending.disk.entry? place = some (.file r.revised.toUTF8 mode)) ∧
      ∀ command, Command.parse arguments = .ok command → command.EndsEarly d grammar →
        ending.disk = d := by
  intro ending
  constructor
  · intro place hchanged
    obtain ⟨paths, config, root, diff, p, rs, hparse, hprepare, hrevise, hdisk⟩ :=
      exists_apply_of_changed hchanged
    obtain ⟨program, hload, hrevised⟩ := exists_of_revise hrevise
    change ending.disk = _ at hdisk
    rw [hdisk] at hchanged ⊢
    obtain ⟨r, hr, base, old, mode, hplace, hbase, hpermits, hold, hnew⟩ :=
      (commit_entry hhere _ rs place).resolve_left hchanged
    obtain ⟨file, hfile, hsource, hfileRevised, hpath, -⟩ :=
      Revision.exists_of_mem_ofProgram hrevised hr
    obtain ⟨hlisted, htext⟩ := Program.readText_of_mem_load hload hfile
    rw [hpath] at hplace
    exact ⟨paths, config, root, diff, p, program, hparse, hprepare, hload, file, hfile, hlisted,
      htext, hsource, hplace, base, r, old, mode, hbase, hpermits, hfileRevised, hold, hnew⟩
  · intro command hparse hearly
    have hending : ending = command.run d grammar := by
      simp only [ending, run, hparse]
    rw [hending, hearly.disk]

namespace Sample

/-- A source in a directory, and a link to it beside the directory. -/
def disk : Disk where
  entries := [(["w"], .directory 0o755), (["w", "src"], .directory 0o755),
    (["w", "src", "a.ts"], .file Migration.Sample.file.text.toUTF8 0o600),
    (["w", "l.ts"], .link ⟨"src/a.ts"⟩)]
  workingDirectory := ["w"]
  faults := []

def known : Grammar :=
  .ofKnown [(.typeScript, Migration.Sample.file.text, Migration.Sample.file.tree)]

/-- How many bytes stand there. -/
def size : Entry → Nat
  | .file contents _ => contents.size
  | _ => 0

theorem direct_workingDirectory : disk.Direct disk.workingDirectory := by
  have hname : Disk.IsName "w" := ⟨by decide, by decide, by decide, by decide⟩
  exact disk.direct_nil.concat hname fun target => by simp [disk, Disk.entry?]

end Sample

/-- With the link as its argument, a run changes the file behind it, which then holds the text
into which the loaded source is revised; a dry run does not. -/
theorem run_changes_sample :
    Sample.disk.Direct Sample.disk.workingDirectory ∧
      (run Sample.disk Sample.known ["apply", "l.ts"]).code = 0 ∧
      Disk.entry? (run Sample.disk Sample.known ["apply", "l.ts"]).disk ["w", "src", "a.ts"] ≠
        Sample.disk.entry? ["w", "src", "a.ts"] ∧
      (∃ preparation program, prepare Sample.disk [⟨"l.ts"⟩] none = .ok preparation ∧
        Program.load Sample.disk Sample.known preparation.settings.options preparation.sources =
          .ok program ∧
        ∃ file ∈ program.files, ∃ base r old mode,
          Revision.ofFile (preparation.settings.transform program) file = .ok r ∧
          Sample.disk.resolve ⟨"/w"⟩ = .ok base ∧
          Workspace.Permits base ["w", "src", "a.ts"] ∧
          Sample.disk.entry? ["w", "src", "a.ts"] = some (.file old mode) ∧
          Disk.entry? (run Sample.disk Sample.known ["apply", "l.ts"]).disk
            ["w", "src", "a.ts"] = some (.file r.revised.toUTF8 mode)) ∧
      (run Sample.disk Sample.known ["apply", "-n", "l.ts"]).disk = Sample.disk := by
  have hhere := Sample.direct_workingDirectory
  have hchanged :
      Disk.entry? (run Sample.disk Sample.known ["apply", "l.ts"]).disk ["w", "src", "a.ts"] ≠
        Sample.disk.entry? ["w", "src", "a.ts"] := by
    intro hsame
    have hsize := congrArg (Option.map Sample.size) hsame
    revert hsize
    decide +kernel
  have hparse : Command.parse ["apply", "l.ts"] =
      .ok (.apply [⟨"l.ts"⟩] none none false false) := by decide +kernel
  have hdry : Command.parse ["apply", "-n", "l.ts"] =
      .ok (.apply [⟨"l.ts"⟩] none none true false) := by decide +kernel
  refine ⟨hhere, by decide +kernel, hchanged, ?_, ?_⟩
  · obtain ⟨paths, config, root, diff, p, program, happly, hprepare, hload, file, hfile, -, -, -, -,
      base, r, old, mode, hbase, hpermits, hrevised, hold, hnew⟩ :=
      (run_changes Sample.disk Sample.known ["apply", "l.ts"] hhere).1 _ hchanged
    cases hparse.symm.trans happly
    exact ⟨p, program, hprepare, hload, file, hfile, base, r, old, mode, hrevised, hbase, hpermits,
      hold, hnew⟩
  · exact (run_changes Sample.disk Sample.known ["apply", "-n", "l.ts"] hhere).2 _ hdry .dryRun

end CallMigration.Cli
