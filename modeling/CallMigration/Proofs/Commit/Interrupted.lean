import CallMigration.Proofs.Commit.Batch

/-!
# Interrupted batches

Any step of a write may fail. A batch that passed its verification makes its writes one after
the other and takes none of them back, so a write that fails leaves the files of the writes
before it changed. Whatever fails, a file that reads otherwise afterwards is one of the batch,
and it holds the new contents that one of the writes has for it.
-/

namespace CallMigration.FileWrite

variable {d d' : Disk} {w : FileWrite} {ws : List FileWrite}

/-- What is done about one file: nothing when it holds its new contents. -/
def settle (d : Disk) (t : FileWrite × Bool) : Except WriteError Disk :=
  if t.2 then .ok d else t.1.write d

theorem writeAll_of_settle_error {t : FileWrite × Bool} {e : WriteError}
    (hstep : settle d t = .error e) (rest : List (FileWrite × Bool)) :
    writeAll d (t :: rest) = (d, .error e) := by
  obtain ⟨w, held⟩ := t
  cases held with
  | true => cases hstep
  | false =>
      have hwrite : w.write d = .error e := hstep
      rw [writeAll, hwrite]

theorem writeAll_of_settle_ok {t : FileWrite × Bool} {next : Disk}
    (hstep : settle d t = .ok next) (rest : List (FileWrite × Bool)) :
    writeAll d (t :: rest) =
      ((writeAll next rest).1, (writeAll next rest).2.map (t.1.result t.2 :: ·)) := by
  obtain ⟨w, held⟩ := t
  cases held with
  | true =>
      cases hstep
      rfl
  | false =>
      have hwrite : w.write d = .ok next := hstep
      rw [writeAll, hwrite]
      rfl

/-! ## What a failure leaves behind -/

/-- Writing that fails made all writes before the one that failed. -/
theorem exists_of_writeAll_error {todo : List (FileWrite × Bool)} {e : WriteError}
    (hrun : writeAll d todo = (d', .error e)) :
    ∃ first w rest results, todo = first ++ (w, false) :: rest ∧
      writeAll d first = (d', .ok results) ∧ w.write d' = .error e := by
  induction todo generalizing d with
  | nil => cases hrun
  | cons t rest ih =>
      cases hstep : settle d t with
      | error cause =>
          obtain ⟨w, held⟩ := t
          rw [writeAll_of_settle_error hstep] at hrun
          cases hrun
          cases held with
          | true => cases hstep
          | false => exact ⟨[], w, rest, [], rfl, rfl, hstep⟩
      | ok next =>
          rw [writeAll_of_settle_ok hstep] at hrun
          cases hrest : writeAll next rest with
          | mk last result =>
              rw [hrest] at hrun
              cases result with
              | ok results => cases hrun
              | error cause =>
                  cases hrun
                  obtain ⟨first, w, left, results, rfl, hfirst, hfailed⟩ := ih hrest
                  refine ⟨t :: first, w, left, t.1.result t.2 :: results, rfl, ?_, hfailed⟩
                  rw [writeAll_of_settle_ok hstep, hfirst]
                  rfl

/-- A batch fails in one of two ways. A file was refused, and the disk is as it was; or all
files were accepted and a write failed, and then the writes before it were made as if they had
been the whole batch. -/
theorem applyBatch_of_error {e : WriteError} (hbatch : applyBatch d ws = (d', .error e)) :
    ((∃ w ∈ ws, w.IsRefused d) ∧ d' = d) ∨
      (∀ w ∈ ws, ¬w.IsRefused d) ∧ ∃ first w rest results, ws = first ++ w :: rest ∧
        applyBatch d first = (d', .ok results) ∧ d.readText w.file ≠ .ok w.contents ∧
        w.write d' = .error e ∧
        ((∀ v ∈ first, d.readText v.file = .ok v.contents) → d' = d) := by
  rcases mapM_verify_cases d ws with ⟨hrefused, cause, herror⟩ | ⟨haccepted, -⟩
  · rw [applyBatch, herror] at hbatch
    cases hbatch
    exact .inl ⟨hrefused, rfl⟩
  · rw [applyBatch_eq_writeAll haccepted] at hbatch
    obtain ⟨marked, w, left, results, hsplit, hfirst, hfailed⟩ := exists_of_writeAll_error hbatch
    obtain ⟨first, others, rfl, hmarked, hothers⟩ := List.map_eq_append_iff.mp hsplit
    obtain ⟨v, rest, rfl, hv, -⟩ := List.map_eq_cons_iff.mp hothers
    obtain ⟨rfl, hheld⟩ := Prod.mk.inj hv
    have hmade : applyBatch d first = (d', .ok results) := by
      rw [applyBatch_eq_writeAll fun v hv => haccepted v (List.mem_append_left _ hv), hmarked]
      exact hfirst
    refine .inr ⟨haccepted, first, v, rest, results, rfl, hmade, of_decide_eq_false hheld,
      hfailed, fun hall => ?_⟩
    rw [applyBatch_of_held hall] at hmade
    exact (Prod.mk.inj hmade).1.symm

namespace Sample

/-- The disk without the permission to put a file in the place of the third one. -/
def guardedDisk : Disk where
  entries := [(["w"], .directory 0o755), (["w", "a.ts"], .file "old a".toUTF8 0o644),
    (["w", "b.ts"], .file "new b".toUTF8 0o644), (["w", "c.ts"], .file "old c".toUTF8 0o644)]
  workingDirectory := ["w"]
  faults := [(["w", "c.ts"], .rename)]

def guardedBatch : List FileWrite :=
  [ofTexts ⟨"/w/a.ts"⟩ "old a" "new a", ofTexts ⟨"/w/b.ts"⟩ "old b" "new b",
    ofTexts ⟨"/w/c.ts"⟩ "old c" "new c"]

end Sample

/-- The third write fails, with the first one made and the second one not needed. -/
theorem applyBatch_of_error_sample : ∃ first w rest results,
    Sample.guardedBatch = first ++ w :: rest ∧
      applyBatch Sample.guardedDisk first =
        ((applyBatch Sample.guardedDisk Sample.guardedBatch).1, .ok results) ∧
      w.write (applyBatch Sample.guardedDisk Sample.guardedBatch).1 =
        .error (.failed ⟨"/w/c.ts"⟩ .denied) := by
  have herror : (applyBatch Sample.guardedDisk Sample.guardedBatch).2 =
      .error (.failed ⟨"/w/c.ts"⟩ .denied) := by decide +kernel
  rcases applyBatch_of_error (Prod.ext rfl herror) with
    ⟨⟨w, hw, hrefused⟩, -⟩ | ⟨-, first, w, rest, results, hsplit, hfirst, -, hfailed, -⟩
  · have haccepted : ∀ w ∈ Sample.guardedBatch, ∃ held, w.verify Sample.guardedDisk = .ok held := by
      decide +kernel
    exact absurd hrefused (not_isRefused_of_verify (haccepted w hw))
  · exact ⟨first, w, rest, results, hsplit, hfirst, hfailed⟩

/-- The batch reports an error, and the first file reads otherwise. -/
theorem applyBatch_halfway :
    (applyBatch Sample.guardedDisk Sample.guardedBatch).2 =
        .error (.failed ⟨"/w/c.ts"⟩ .denied) ∧
      Sample.guardedDisk.readText ⟨"/w/a.ts"⟩ = .ok "old a" ∧
      (applyBatch Sample.guardedDisk Sample.guardedBatch).1.readText ⟨"/w/a.ts"⟩ = .ok "new a" := by
  decide +kernel

/-! ## What may read otherwise -/

/-- One step changes what its file holds, or nothing. -/
theorem settle_entry {t : FileWrite × Bool} {place : Place} {old : ByteArray} {mode : Nat}
    (hfile : d.FileAt t.1.file place old mode) {next : Disk} (hstep : settle d t = .ok next) :
    next.SameTree d ∧ ∀ p, next.entry? p = d.entry? p ∨
      p = place ∧ next.entry? p = some (.file t.1.contents.toUTF8 mode) := by
  obtain ⟨w, held⟩ := t
  cases held with
  | true =>
      cases hstep
      exact ⟨.refl d, fun _ => .inl rfl⟩
  | false =>
      have hwrite : w.write d = .ok next := hstep
      rw [write] at hwrite
      split at hwrite
      next made hmade =>
        cases hwrite
        cases hfile.eq_set_of_replaceFile hmade
        refine ⟨Disk.sameTree_set hfile.entry, fun p => ?_⟩
        rw [Disk.entry?_set (Disk.ne_nil_of_file hfile.entry)]
        by_cases hp : p = place
        · exact .inr ⟨hp, if_pos hp⟩
        · exact .inl (if_neg hp)
      next => cases hwrite

/-- A place holds what it held, or the new contents of a write whose file is there. -/
theorem writeAll_entry {todo : List (FileWrite × Bool)}
    (hfiles : ∀ t ∈ todo, ∃ place old mode, d.FileAt t.1.file place old mode) (p : Place) :
    Disk.entry? (writeAll d todo).1 p = d.entry? p ∨
      ∃ t ∈ todo, ∃ old mode, d.FileAt t.1.file p old mode ∧
        Disk.entry? (writeAll d todo).1 p = some (.file t.1.contents.toUTF8 mode) := by
  induction todo generalizing d with
  | nil => exact .inl rfl
  | cons t rest ih =>
      obtain ⟨⟨place, old, mode, hfile⟩, hrest⟩ := List.forall_mem_cons.mp hfiles
      cases hstep : settle d t with
      | error cause =>
          rw [writeAll_of_settle_error hstep]
          exact .inl rfl
      | ok next =>
          rw [writeAll_of_settle_ok hstep]
          obtain ⟨hsame, hentry⟩ := settle_entry hfile hstep
          have hnext : ∀ s ∈ rest, ∃ place old mode, next.FileAt s.1.file place old mode := by
            intro s hs
            obtain ⟨there, held, mode', hthere⟩ := hrest s hs
            rcases hentry there with hkept | ⟨rfl, hnew⟩
            · exact ⟨there, held, mode', hthere.of_sameTree hsame (hkept.trans hthere.entry)⟩
            · exact ⟨there, _, _, hthere.of_sameTree hsame hnew⟩
          rcases ih hnext with hlast | ⟨s, hs, held, mode', hthere, hlast⟩
          · rcases hentry p with hkept | ⟨rfl, hnew⟩
            · exact .inl (hlast.trans hkept)
            · exact .inr ⟨t, List.mem_cons_self, old, mode, hfile, hlast.trans hnew⟩
          · -- The file had the same permissions before, whatever it held.
            refine .inr ⟨s, List.mem_cons_of_mem _ hs, ?_⟩
            rcases hentry p with hkept | ⟨rfl, hnew⟩
            · exact ⟨held, mode', hthere.of_sameTree hsame.symm (hkept ▸ hthere.entry), hlast⟩
            · cases hnew.symm.trans hthere.entry
              exact ⟨old, mode, hthere.of_sameTree hsame.symm hfile.entry, hlast⟩

end CallMigration.FileWrite
