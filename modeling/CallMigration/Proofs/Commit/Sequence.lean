import CallMigration.Proofs.Commit.Interrupted
import CallMigration.Proofs.Disk.Links

/-!
# Batches and single writes

A batch verifies all files before it writes the first, while single writes verify a file right
before they write it. Both do the same as long as no file that is written is named again later
in the batch. A file that is named twice is where they part: the batch does not see that its
first write made the second one stale, and overwrites what it has just written.
-/

namespace CallMigration.FileWrite

variable {d next : Disk} {w v : FileWrite} {ws : List FileWrite}

/-- Verify and write one file after the other, up to the first that fails. -/
def applyAll (d : Disk) : List FileWrite → Disk × Except WriteError (List WriteResult)
  | [] => (d, .ok [])
  | w :: rest =>
      match w.apply d with
      | (d, .error e) => (d, .error e)
      | (d, .ok result) =>
          let (d, results) := applyAll d rest
          (d, results.map (result :: ·))

/-! ## One write -/

theorem exists_file_of_accepted (haccepted : ¬w.IsRefused d) :
    ∃ place contents mode, d.resolve w.file = .ok place ∧
      d.entry? place = some (.file contents mode) := by
  cases htext : d.readText w.file with
  | error e => exact absurd (.inl ⟨e, htext⟩) haccepted
  | ok text =>
      obtain ⟨place, mode, hfile⟩ :=
        Disk.readBytes_eq_ok_iff.mp (Disk.readText_eq_ok_iff.mp htext)
      exact ⟨place, text.toUTF8, mode, hfile⟩

/-- A step leaves the files of other writes where they were, with what they held. -/
theorem settle_other {held : Bool} (hstep : settle d (w, held) = .ok next)
    (hw : ¬w.IsRefused d) (hv : ¬v.IsRefused d)
    (hapart : held = false → d.resolve w.file ≠ d.resolve v.file) :
    next.resolve v.file = d.resolve v.file ∧ next.readText v.file = d.readText v.file := by
  cases held with
  | true =>
      cases hstep
      exact ⟨rfl, rfl⟩
  | false =>
      obtain ⟨file, old, mode, hfile, hold⟩ := exists_file_of_accepted hw
      obtain ⟨there, contents, mode', hthere, hcontents⟩ := exists_file_of_accepted hv
      have hne : there ≠ file := by
        rintro rfl
        exact hapart rfl (hfile.trans hthere.symm)
      have hwrite : w.write d = .ok next := hstep
      unfold write at hwrite
      split at hwrite
      next made hmade =>
        cases hwrite
        obtain ⟨hresolve, hkept⟩ :=
          Disk.resolve_of_replaceFile hfile hold hmade hthere hcontents hne
        refine ⟨hresolve.trans hthere.symm, ?_⟩
        have hread : next.readBytes v.file = d.readBytes v.file := by
          rw [Disk.readBytes_eq_ok_iff.mpr ⟨there, mode', hresolve, hkept⟩,
            Disk.readBytes_eq_ok_iff.mpr ⟨there, mode', hthere, hcontents⟩]
        rw [Disk.readText, Disk.readText, hread]
      next => cases hwrite

theorem isRefused_congr (hread : next.readText w.file = d.readText w.file) :
    w.IsRefused next ↔ w.IsRefused d := by
  rw [IsRefused, IsRefused, hread]

/-- A single write of an accepted file is a step of a batch. -/
theorem apply_of_settle (hw : ¬w.IsRefused d)
    (hstep : settle d (w, decide (d.readText w.file = .ok w.contents)) = .ok next) :
    w.apply d = (next, .ok (w.result (decide (d.readText w.file = .ok w.contents)))) := by
  rcases verify_cases d w with ⟨hrefused, -⟩ | ⟨-, hverify⟩
  · exact absurd hrefused hw
  · rw [apply, hverify]
    cases hheld : decide (d.readText w.file = .ok w.contents) with
    | true =>
        rw [hheld] at hstep
        cases hstep
        rfl
    | false =>
        rw [hheld] at hstep
        have hwrite : w.write d = .ok next := hstep
        simp only [hwrite]
        rfl

/-! ## Batches -/

/-- No file that has to be written is named again later. -/
def WrittenOnce (d : Disk) (ws : List FileWrite) : Prop :=
  ws.Pairwise fun w v => d.readText w.file ≠ .ok w.contents → d.resolve w.file ≠ d.resolve v.file

/-- The writes of a batch, each with whether its file holds the new contents. -/
def marked (d : Disk) (ws : List FileWrite) : List (FileWrite × Bool) :=
  ws.map fun w => (w, decide (d.readText w.file = .ok w.contents))

theorem applyAll_of_apply_ok {result : WriteResult} (happly : w.apply d = (next, .ok result))
    (rest : List FileWrite) : applyAll d (w :: rest) =
      ((applyAll next rest).1, (applyAll next rest).2.map (result :: ·)) := by
  rw [applyAll, happly]

theorem applyAll_eq_writeAll (haccepted : ∀ w ∈ ws, ¬w.IsRefused d) (honce : WrittenOnce d ws)
    {results : List WriteResult} (hok : (writeAll d (marked d ws)).2 = .ok results) :
    applyAll d ws = writeAll d (marked d ws) := by
  induction ws generalizing d results with
  | nil => rfl
  | cons w rest ih =>
      obtain ⟨hw, hrest⟩ := List.forall_mem_cons.mp haccepted
      obtain ⟨hfirst, honce⟩ := List.pairwise_cons.mp honce
      rw [marked, List.map_cons] at hok ⊢
      cases hstep : settle d (w, decide (d.readText w.file = .ok w.contents)) with
      | error e =>
          rw [writeAll_of_settle_error hstep] at hok
          cases hok
      | ok next =>
          -- The writes that are left see the disk of the beginning in all that they ask of it.
          have hkept : ∀ v ∈ rest, next.resolve v.file = d.resolve v.file ∧
              next.readText v.file = d.readText v.file := by
            intro v hv
            exact settle_other hstep hw (hrest v hv) fun h => hfirst v hv (of_decide_eq_false h)
          have hmarked : marked d rest = marked next rest :=
            List.map_congr_left fun v hv => by rw [(hkept v hv).2]
          have hnextOnce : WrittenOnce next rest := by
            refine honce.imp_of_mem fun {v u} hv hu hpair => ?_
            rw [(hkept v hv).1, (hkept v hv).2, (hkept u hu).1]
            exact hpair
          have hnextAccepted : ∀ v ∈ rest, ¬v.IsRefused next := fun v hv =>
            (isRefused_congr (hkept v hv).2).not.mpr (hrest v hv)
          rw [writeAll_of_settle_ok hstep, ← marked, hmarked] at hok ⊢
          rw [applyAll_of_apply_ok (apply_of_settle hw hstep)]
          cases hrun : (writeAll next (marked next rest)).2 with
          | error e =>
              rw [hrun] at hok
              cases hok
          | ok made => rw [ih hnextAccepted hnextOnce hrun, hrun]

/-- Whenever a batch succeeds in which no file that has to be written is named again later, the
same writes one after the other, each of them verified when its turn comes, give the same results
and leave the same disk. -/
theorem applyAll_eq_applyBatch {results : List WriteResult}
    (hok : (applyBatch d ws).2 = .ok results) (honce : WrittenOnce d ws) :
    applyAll d ws = applyBatch d ws := by
  rcases mapM_verify_cases d ws with ⟨-, e, herror⟩ | ⟨haccepted, -⟩
  · rw [applyBatch, herror] at hok
    cases hok
  · rw [applyBatch_eq_writeAll haccepted] at hok ⊢
    exact applyAll_eq_writeAll haccepted honce hok

namespace Sample

/-- A write through the link, and one to the second file, which was made before. -/
def linkedBatch : List FileWrite :=
  [ofTexts ⟨"c.ts"⟩ "old" "new", ofTexts ⟨"./b.ts"⟩ "old b" "new b"]

/-- Two writes to one file, both of what it held first. -/
def staleBatch : List FileWrite :=
  [ofTexts ⟨"a.ts"⟩ "old" "new", ofTexts ⟨"a.ts"⟩ "old" "newer"]

end Sample

/-- The link gives way to a file, and the file to which it led is as it was. -/
theorem applyAll_linked :
    (applyAll Sample.disk Sample.linkedBatch).2 =
        .ok [.applied ⟨"c.ts"⟩ 3, .alreadyApplied ⟨"./b.ts"⟩] ∧
      (applyAll Sample.disk Sample.linkedBatch).1.readText ⟨"c.ts"⟩ = .ok "new" ∧
      (applyAll Sample.disk Sample.linkedBatch).1.readText ⟨"a.ts"⟩ = .ok "old" := by
  have honce : WrittenOnce Sample.disk Sample.linkedBatch := by
    unfold WrittenOnce
    decide +kernel
  have hok : (applyBatch Sample.disk Sample.linkedBatch).2 =
      .ok [.applied ⟨"c.ts"⟩ 3, .alreadyApplied ⟨"./b.ts"⟩] := by decide +kernel
  rw [applyAll_eq_applyBatch hok honce]
  exact ⟨hok, by decide +kernel⟩

/-- The batch makes both writes, while the second one fails when it is verified in its turn. -/
theorem applyBatch_stale :
    (applyBatch Sample.disk Sample.staleBatch).2 =
        .ok [.applied ⟨"a.ts"⟩ 3, .applied ⟨"a.ts"⟩ 5] ∧
      (applyBatch Sample.disk Sample.staleBatch).1.readText ⟨"a.ts"⟩ = .ok "newer" ∧
      (applyAll Sample.disk Sample.staleBatch).2 = .error (.changed ⟨"a.ts"⟩) ∧
      (applyAll Sample.disk Sample.staleBatch).1.readText ⟨"a.ts"⟩ = .ok "new" := by
  decide +kernel

end CallMigration.FileWrite
