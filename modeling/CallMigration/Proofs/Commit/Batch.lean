import CallMigration.Commit
import CallMigration.Proofs.Disk.Replace
import Mathlib.Data.List.Basic

/-!
# Batches of guarded writes

A batch looks at every file before it writes the first. When one of them cannot be read, or
holds neither its new contents nor what is expected, nothing is written. Otherwise, as long
as no step of writing fails, all files of the batch hold their new contents in the end and
nothing else is changed, so the same batch finds nothing left to do. The paths have to be
canonical and different: only then does writing one file leave the others alone.
-/

namespace CallMigration.FileWrite

variable {d : Disk} {w : FileWrite} {ws : List FileWrite}

/-! ## Verification -/

/-- The file cannot be read, or it holds neither the new contents nor what is expected. -/
def IsRefused (d : Disk) (w : FileWrite) : Prop :=
  (∃ e, d.readText w.file = .error e) ∨
    ∃ text, d.readText w.file = .ok text ∧ text ≠ w.contents ∧ w.expected.isMet text = false

theorem verify_cases (d : Disk) (w : FileWrite) :
    (w.IsRefused d ∧ ∃ e, w.verify d = .error e) ∨
      ¬w.IsRefused d ∧ w.verify d = .ok (decide (d.readText w.file = .ok w.contents)) := by
  unfold verify IsRefused
  cases d.readText w.file with
  | error e => simp
  | ok text =>
      by_cases hheld : text = w.contents
      · simp [hheld]
      · cases hmet : w.expected.isMet text <;> simp [hheld, hmet]

theorem not_isRefused_of_verify (hok : ∃ held, w.verify d = .ok held) : ¬w.IsRefused d := by
  obtain ⟨held, hok⟩ := hok
  rcases verify_cases d w with ⟨-, e, herror⟩ | ⟨haccepted, -⟩
  · cases hok.symm.trans herror
  · exact haccepted

theorem exists_fileAt (hpath : d.IsCanonical w.file) (haccepted : ¬w.IsRefused d) :
    ∃ place text mode, d.readText w.file = .ok text ∧
      d.FileAt w.file place text.toUTF8 mode := by
  cases htext : d.readText w.file with
  | error e => exact absurd (.inl ⟨e, htext⟩) haccepted
  | ok text =>
      obtain ⟨place, mode, hfile⟩ := hpath.exists_fileAt (Disk.readText_eq_ok_iff.mp htext)
      exact ⟨place, text, mode, rfl, hfile⟩

/-- All files are accepted, or the batch stops at the first one that is refused. -/
theorem mapM_verify_cases (d : Disk) (ws : List FileWrite) :
    ((∃ w ∈ ws, w.IsRefused d) ∧ ∃ e, ws.mapM (verify d) = .error e) ∨
      (∀ w ∈ ws, ¬w.IsRefused d) ∧
        ws.mapM (verify d) = .ok (ws.map fun w => decide (d.readText w.file = .ok w.contents)) := by
  induction ws with
  | nil => exact .inr ⟨by simp, rfl⟩
  | cons w ws ih =>
      rw [List.mapM_cons]
      rcases verify_cases d w with ⟨hrefused, e, herror⟩ | ⟨haccepted, hok⟩
      · rw [herror]
        exact .inl ⟨⟨w, List.mem_cons_self, hrefused⟩, e, rfl⟩
      · rw [hok]
        rcases ih with ⟨⟨w', hw', hrefused⟩, e, herror⟩ | ⟨hrest, hflags⟩
        · rw [herror]
          exact .inl ⟨⟨w', List.mem_cons_of_mem _ hw', hrefused⟩, e, rfl⟩
        · rw [hflags]
          exact .inr ⟨List.forall_mem_cons.mpr ⟨haccepted, hrest⟩, rfl⟩

/-! ## Writing -/

/-- The file of a write is there. With the mark set it holds its new contents; without it no
step of writing it fails. -/
def IsReady (d : Disk) (t : FileWrite × Bool) : Prop :=
  ∃ place old mode, d.FileAt t.1.file place old mode ∧
    (t.2 = true → old = t.1.contents.toUTF8) ∧
    (t.2 = false → ∀ step, d.fails place step = false)

theorem IsReady.of_sameTree {d' : Disk} {t : FileWrite × Bool} (ht : IsReady d t)
    (hsame : d'.SameTree d)
    (hentry : ∀ place, d.resolve t.1.file = .ok place → d'.entry? place = d.entry? place) :
    IsReady d' t := by
  obtain ⟨place, old, mode, hfile, hheld, hsteps⟩ := ht
  refine ⟨place, old, mode, hfile.of_sameTree hsame ?_, hheld, ?_⟩
  · rw [hentry place hfile.resolve, hfile.entry]
  · intro hmark step
    rw [Disk.fails, hsame.faults]
    exact hsteps hmark step

/-- One write changes what its file holds, and nothing else. -/
theorem exists_write {place : Place} {old : ByteArray} {mode : Nat}
    (hfile : d.FileAt w.file place old mode) (hsteps : ∀ step, d.fails place step = false) :
    ∃ d', w.write d = .ok d' ∧ d'.SameTree d ∧
      d'.entry? place = some (.file w.contents.toUTF8 mode) ∧
      ∀ p, p ≠ place → d'.entry? p = d.entry? p := by
  have hplace := Disk.ne_nil_of_file hfile.entry
  refine ⟨d.set place (.file w.contents.toUTF8 mode), ?_, Disk.sameTree_set hfile.entry, ?_, ?_⟩
  · rw [write, hfile.replaceFile hsteps]
  · rw [Disk.entry?_set hplace, if_pos rfl]
  · intro p hp
    rw [Disk.entry?_set hplace, if_neg hp]

/-- What is reported of a file, given whether it held its new contents. -/
def result (held : Bool) (w : FileWrite) : WriteResult :=
  if held then .alreadyApplied w.file else w.appliedResult

/-- Files at different places are written one by one, and each of them in the end holds its
new contents. Whatever stands at another place stays there. -/
theorem writeAll_eq {todo : List (FileWrite × Bool)} (hready : ∀ t ∈ todo, IsReady d t)
    (hapart : todo.Pairwise fun t t' => d.resolve t.1.file ≠ d.resolve t'.1.file) :
    ∃ d', writeAll d todo = (d', .ok (todo.map fun t => t.1.result t.2)) ∧ d'.SameTree d ∧
      (∀ t ∈ todo, ∃ place mode, d'.FileAt t.1.file place t.1.contents.toUTF8 mode) ∧
      ∀ place, (∀ t ∈ todo, d.resolve t.1.file ≠ .ok place) → d'.entry? place = d.entry? place := by
  induction todo generalizing d with
  | nil => exact ⟨d, rfl, .refl d, by simp, fun _ _ => rfl⟩
  | cons head rest ih =>
      obtain ⟨w, held⟩ := head
      obtain ⟨⟨place, old, mode, hfile, hheld, hsteps⟩, hrest⟩ := List.forall_mem_cons.mp hready
      obtain ⟨hfirst, hrestApart⟩ := List.pairwise_cons.mp hapart
      have hfree : ∀ t ∈ rest, d.resolve t.1.file ≠ .ok place := by
        intro t ht hplace
        exact hfirst t ht (hfile.resolve.trans hplace.symm)
      cases held with
      | true =>
          obtain ⟨d', hrun, hsame, hfiles, hother⟩ := ih hrest hrestApart
          refine ⟨d', by simp [writeAll, hrun, result, Except.map], hsame, ?_, ?_⟩
          · refine List.forall_mem_cons.mpr ⟨⟨place, mode, hfile.of_sameTree hsame ?_⟩, hfiles⟩
            rw [hother place hfree, hfile.entry, hheld rfl]
          · intro p hp
            exact hother p (List.forall_mem_cons.mp hp).2
      | false =>
          obtain ⟨next, hwrite, hnext, hwritten, hkept⟩ := exists_write hfile (hsteps rfl)
          -- The files that are left are where they were, with what they held.
          have hrest : ∀ t ∈ rest, IsReady next t := by
            intro t ht
            refine (hrest t ht).of_sameTree hnext fun p hp => hkept p ?_
            rintro rfl
            exact hfree t ht hp
          simp only [← hnext.resolve] at hrestApart hfree
          obtain ⟨d', hrun, hsame, hfiles, hother⟩ := ih hrest hrestApart
          have hsame := hsame.trans hnext
          refine ⟨d', by simp [writeAll, hwrite, hrun, result, Except.map], hsame, ?_, ?_⟩
          · refine List.forall_mem_cons.mpr ⟨⟨place, mode, hfile.of_sameTree hsame ?_⟩, hfiles⟩
            rw [hother place hfree, hwritten]
          · intro p hp
            obtain ⟨hne, hp⟩ := List.forall_mem_cons.mp hp
            simp only [← hnext.resolve] at hp
            rw [hother p hp]
            apply hkept
            rintro rfl
            exact hne hfile.resolve

/-! ## Batches -/

/-- A batch without refused files writes those that do not hold their new contents. -/
theorem applyBatch_eq_writeAll (haccepted : ∀ w ∈ ws, ¬w.IsRefused d) :
    applyBatch d ws =
      writeAll d (ws.map fun w => (w, decide (d.readText w.file = .ok w.contents))) := by
  rcases mapM_verify_cases d ws with ⟨⟨w, hw, hrefused⟩, -⟩ | ⟨-, hflags⟩
  · exact absurd hrefused (haccepted w hw)
  · rw [applyBatch, hflags, List.map_prod_left_eq_zip]

/-- A batch whose files all hold their new contents changes nothing. -/
theorem applyBatch_of_held (hheld : ∀ w ∈ ws, d.readText w.file = .ok w.contents) :
    applyBatch d ws = (d, .ok (ws.map fun w => .alreadyApplied w.file)) := by
  have haccepted : ∀ w ∈ ws, ¬w.IsRefused d := by
    rintro w hw (⟨e, herror⟩ | ⟨text, htext, hother, -⟩)
    · cases (hheld w hw).symm.trans herror
    · cases (hheld w hw).symm.trans htext
      exact hother rfl
  have hmarks : ws.map (fun w => (w, decide (d.readText w.file = .ok w.contents))) =
      ws.map fun w => (w, true) :=
    List.map_congr_left fun w hw => by rw [decide_eq_true (hheld w hw)]
  rw [applyBatch_eq_writeAll haccepted, hmarks]
  clear hheld haccepted hmarks
  induction ws with
  | nil => rfl
  | cons w ws ih => simp [writeAll, ih, Except.map]

/-- Different canonical paths lead to different files. -/
theorem pairwise_resolve (hcanonical : ∀ w ∈ ws, d.IsCanonical w.file)
    (hdistinct : (ws.map (·.file)).Nodup) (haccepted : ∀ w ∈ ws, ¬w.IsRefused d) :
    ws.Pairwise fun w w' => d.resolve w.file ≠ d.resolve w'.file := by
  refine (List.pairwise_map.mp hdistinct).imp_of_mem ?_
  intro w w' hw hw' hne hsame
  obtain ⟨place, _, _, -, hfile⟩ := exists_fileAt (hcanonical w hw) (haccepted w hw)
  have hplace := ((hcanonical w hw).of_resolve hfile.resolve).2.1
  have hplace' := ((hcanonical w' hw').of_resolve (hsame ▸ hfile.resolve)).2.1
  exact hne (hplace.trans hplace'.symm)

/-- A batch of writes to different canonical paths, where no step of a write that has to be
made fails. If a file is refused, there is an error and the disk is as it was. Otherwise
every file holds its new contents, whatever stands elsewhere is as it was, and a file is
reported as applied before just if it held its new contents; a second run reports that of
all files and changes nothing. -/
theorem applyBatch_of_canonical (d : Disk) (ws : List FileWrite)
    (hcanonical : ∀ w ∈ ws, d.IsCanonical w.file) (hdistinct : (ws.map (·.file)).Nodup)
    (hsteps : ∀ w ∈ ws, d.readText w.file ≠ .ok w.contents →
      ∀ place, d.resolve w.file = .ok place → ∀ step, d.fails place step = false) :
    ((∃ w ∈ ws, w.IsRefused d) ∧ ∃ e, applyBatch d ws = (d, .error e)) ∨
      (∀ w ∈ ws, ¬w.IsRefused d) ∧ ∃ d',
        applyBatch d ws = (d', .ok (ws.map fun w =>
          if d.readText w.file = .ok w.contents then .alreadyApplied w.file
          else .applied w.file w.contents.utf8ByteSize)) ∧
        (∀ w ∈ ws, d'.readText w.file = .ok w.contents) ∧
        (∀ place, (∀ w ∈ ws, d.resolve w.file ≠ .ok place) →
          d'.entry? place = d.entry? place) ∧
        applyBatch d' ws = (d', .ok (ws.map fun w => .alreadyApplied w.file)) := by
  rcases mapM_verify_cases d ws with ⟨hrefused, e, herror⟩ | ⟨haccepted, -⟩
  · refine .inl ⟨hrefused, e, ?_⟩
    rw [applyBatch, herror]
  · refine .inr ⟨haccepted, ?_⟩
    have hready : ∀ w ∈ ws, IsReady d (w, decide (d.readText w.file = .ok w.contents)) := by
      intro w hw
      obtain ⟨place, text, mode, htext, hfile⟩ := exists_fileAt (hcanonical w hw) (haccepted w hw)
      refine ⟨place, text.toUTF8, mode, hfile, ?_, ?_⟩
      · intro hheld
        rw [htext] at hheld
        rw [Except.ok.inj (of_decide_eq_true hheld)]
      · intro hchanged
        exact hsteps w hw (of_decide_eq_false hchanged) place hfile.resolve
    obtain ⟨d', hrun, -, hfiles, hother⟩ := writeAll_eq (List.forall_mem_map.mpr hready)
      (List.pairwise_map.mpr (pairwise_resolve hcanonical hdistinct haccepted))
    have hheld : ∀ w ∈ ws, d'.readText w.file = .ok w.contents := by
      intro w hw
      obtain ⟨place, mode, hfile⟩ := List.forall_mem_map.mp hfiles w hw
      exact Disk.readText_eq_ok_iff.mpr hfile.readBytes
    refine ⟨d', ?_, hheld, ?_, applyBatch_of_held hheld⟩
    · rw [applyBatch_eq_writeAll haccepted, hrun]
      simp [result, appliedResult, Function.comp_def]
    · intro place hplace
      exact hother place (List.forall_mem_map.mpr hplace)

namespace Sample

/-- Two files and a link to the first one. -/
def disk : Disk where
  entries := [(["w"], .directory 0o755), (["w", "a.ts"], .file "old".toUTF8 0o644),
    (["w", "b.ts"], .file "new b".toUTF8 0o600), (["w", "c.ts"], .link ⟨"a.ts"⟩)]
  workingDirectory := ["w"]
  faults := []

def workspace : Workspace := ⟨⟨"/w"⟩⟩

/-- A write to the first file, and one to the second, which was made before. -/
def batch : List FileWrite :=
  [ofTexts ⟨"/w/a.ts"⟩ "old" "new", ofTexts ⟨"/w/b.ts"⟩ "old b" "new b"]

theorem direct_workingDirectory : disk.Direct disk.workingDirectory := by
  have hname : Disk.IsName "w" := ⟨by decide, by decide, by decide, by decide⟩
  exact disk.direct_nil.concat hname fun target => by simp [disk, Disk.entry?]

end Sample

/-- The paths are what the workspace gives for the link and for the second file. The first
file is written, the second is left alone, and then both hold their new contents. -/
theorem applyBatch_sample :
    Sample.workspace.validate Sample.disk ⟨"c.ts"⟩ = .ok ⟨"/w/a.ts"⟩ ∧
      Sample.workspace.validate Sample.disk ⟨"b.ts"⟩ = .ok ⟨"/w/b.ts"⟩ ∧
      ∃ d', applyBatch Sample.disk Sample.batch =
          (d', .ok [.applied ⟨"/w/a.ts"⟩ 3, .alreadyApplied ⟨"/w/b.ts"⟩]) ∧
        d'.readText ⟨"/w/a.ts"⟩ = .ok "new" ∧
        d'.entry? ["w", "c.ts"] = some (.link ⟨"a.ts"⟩) ∧
        applyBatch d' Sample.batch =
          (d', .ok [.alreadyApplied ⟨"/w/a.ts"⟩, .alreadyApplied ⟨"/w/b.ts"⟩]) := by
  have hlink : Sample.workspace.validate Sample.disk ⟨"c.ts"⟩ = .ok ⟨"/w/a.ts"⟩ := by
    decide +kernel
  have hfile : Sample.workspace.validate Sample.disk ⟨"b.ts"⟩ = .ok ⟨"/w/b.ts"⟩ := by
    decide +kernel
  have hcanonical : ∀ w ∈ Sample.batch, Sample.disk.IsCanonical w.file := by
    simp only [Sample.batch, List.forall_mem_cons]
    exact ⟨Workspace.isCanonical_of_validate Sample.direct_workingDirectory hlink,
      Workspace.isCanonical_of_validate Sample.direct_workingDirectory hfile, by simp⟩
  have haccepted : ∀ w ∈ Sample.batch, ¬w.IsRefused Sample.disk := by
    simp only [Sample.batch, List.forall_mem_cons]
    exact ⟨not_isRefused_of_verify ⟨false, by decide +kernel⟩,
      not_isRefused_of_verify ⟨true, by decide +kernel⟩, by simp⟩
  have hplaces : ∀ w ∈ Sample.batch, Sample.disk.resolve w.file ≠ .ok ["w", "c.ts"] := by
    decide +kernel
  have hresults : Sample.batch.map (fun w =>
      if Sample.disk.readText w.file = .ok w.contents then WriteResult.alreadyApplied w.file
      else .applied w.file w.contents.utf8ByteSize) =
      [.applied ⟨"/w/a.ts"⟩ 3, .alreadyApplied ⟨"/w/b.ts"⟩] := by decide +kernel
  rcases applyBatch_of_canonical Sample.disk Sample.batch hcanonical (by decide +kernel)
      (fun _ _ _ _ _ _ => rfl) with ⟨⟨w, hw, hrefused⟩, -⟩ | ⟨-, d', hrun, hheld, hother, hagain⟩
  · exact absurd hrefused (haccepted w hw)
  · refine ⟨hlink, hfile, d', ?_, hheld _ List.mem_cons_self, ?_, hagain⟩
    · rw [hrun, hresults]
    · rw [hother _ hplaces]
      rfl

end CallMigration.FileWrite
