import CallMigration.Proofs.Disk.Canonical

/-!
# Replacing files

Where a path leads depends on the directories and links of a disk, and on which places are
taken, but not on what files hold. Replacing a file by a file therefore moves nothing: every
path leads where it led before, and only the replaced file reads otherwise.
-/

namespace CallMigration

/-- The entry without what a file holds. -/
def Entry.hollow : Entry → Entry
  | .file _ _ => .file .empty 0
  | e => e

namespace Disk

variable {d d' : Disk} {place : Place}

/-! ## Entries -/

theorem lookup_setEntry (place p : Place) (e : Entry) (entries : List (Place × Entry)) :
    (setEntry place e entries).lookup p = if p = place then some e else entries.lookup p := by
  induction entries with
  | nil => by_cases hp : p = place <;> simp [setEntry, List.lookup_cons, beq_eq_decide, hp]
  | cons head rest ih =>
      obtain ⟨q, old⟩ := head
      unfold setEntry
      by_cases hq : q = place
      · by_cases hp : p = place <;> simp [hq, List.lookup_cons, beq_eq_decide, hp]
      · rw [if_neg hq, List.lookup_cons, List.lookup_cons, ih]
        by_cases hp : p = q
        · simp [hp, hq]
        · simp [beq_eq_decide, hp]

theorem entry?_set {p : Place} {e : Entry} (hplace : place ≠ []) :
    Disk.entry? (d.set place e) p = if p = place then some e else d.entry? p := by
  unfold entry? set
  by_cases hp : p = []
  · rw [if_pos hp, if_pos hp, if_neg (hp ▸ Ne.symm hplace)]
  · rw [if_neg hp, if_neg hp, lookup_setEntry]

theorem ne_nil_of_file {contents : ByteArray} {mode : Nat}
    (hentry : d.entry? place = some (.file contents mode)) : place ≠ [] := by
  rintro rfl
  simp [ entry?] at hentry

/-! ## Disks that differ in what files hold -/

/-- The same directories and links, and files at the same places. -/
structure SameTree (d' d : Disk) : Prop where
  entry (place : Place) : (d'.entry? place).map Entry.hollow = (d.entry? place).map Entry.hollow
  workingDirectory : d'.workingDirectory = d.workingDirectory
  faults : d'.faults = d.faults

namespace SameTree

theorem refl (d : Disk) : d.SameTree d := ⟨fun _ => rfl, rfl, rfl⟩

theorem symm (hsame : d'.SameTree d) : d.SameTree d' where
  entry place := (hsame.entry place).symm
  workingDirectory := hsame.workingDirectory.symm
  faults := hsame.faults.symm

theorem trans {d'' : Disk} (hfirst : d''.SameTree d') (hsecond : d'.SameTree d) :
    d''.SameTree d where
  entry place := (hfirst.entry place).trans (hsecond.entry place)
  workingDirectory := hfirst.workingDirectory.trans hsecond.workingDirectory
  faults := hfirst.faults.trans hsecond.faults

/-- What can be told of an entry without reading a file. -/
theorem cases (hsame : d'.SameTree d) (place : Place) :
    d'.entry? place = d.entry? place ∨ ∃ c m c' m',
      d'.entry? place = some (.file c' m') ∧ d.entry? place = some (.file c m) := by
  have hentry := hsame.entry place
  generalize d'.entry? place = e', d.entry? place = e at hentry
  match e', e with
  | none, none => exact .inl rfl
  | some (.file c' m'), some (.file c m) => exact .inr ⟨c, m, c', m', rfl, rfl⟩
  | some (.directory m'), some (.directory m) => exact .inl (by simpa [Entry.hollow] using hentry)
  | some (.link t'), some (.link t) => exact .inl (by simpa [Entry.hollow] using hentry)
  | none, some e => simp at hentry
  | some e, none => simp at hentry
  | some (.file _ _), some (.directory _) => simp [Entry.hollow] at hentry
  | some (.file _ _), some (.link _) => simp [Entry.hollow] at hentry
  | some (.directory _), some (.file _ _) => simp [Entry.hollow] at hentry
  | some (.directory _), some (.link _) => simp [Entry.hollow] at hentry
  | some (.link _), some (.file _ _) => simp [Entry.hollow] at hentry
  | some (.link _), some (.directory _) => simp [Entry.hollow] at hentry

theorem isDirectory (hsame : d'.SameTree d) (place : Place) :
    d'.isDirectory place = d.isDirectory place := by
  unfold Disk.isDirectory
  rcases hsame.cases place with heq | ⟨c, m, c', m', h', h⟩
  · rw [heq]
  · rw [h, h']

theorem isSome_entry? (hsame : d'.SameTree d) (place : Place) :
    (d'.entry? place).isSome = (d.entry? place).isSome := by
  rcases hsame.cases place with heq | ⟨c, m, c', m', h', h⟩
  · rw [heq]
  · rw [h, h']
    rfl

theorem walk (hsame : d'.SameTree d) (here : Place) (ps : List String) :
    d'.walk here ps = d.walk here ps := by
  induction ps generalizing here with
  | nil => rfl
  | cons piece rest ih =>
      rw [Disk.walk, Disk.walk, hsame.isDirectory, ih here, ih here.dropLast]
      rcases hsame.cases (here ++ [piece]) with heq | ⟨c, m, c', m', h', h⟩
      · rw [heq, ih]
      · rw [h, h', ih]

theorem follow (hsame : d'.SameTree d) (walks : Nat) (here : Place) (ps : List String) :
    d'.follow walks here ps = d.follow walks here ps := by
  induction walks generalizing here ps with
  | zero => rfl
  | succ walks ih =>
      rw [Disk.follow, Disk.follow, hsame.walk]
      simp only [ih]

/-- Paths lead to the same places. -/
theorem resolve (hsame : d'.SameTree d) (path : PathName) : d'.resolve path = d.resolve path := by
  have hlocate : d'.locate path = d.locate path := by
    rw [locate, locate, hsame.workingDirectory, hsame.follow]
  rw [Disk.resolve, Disk.resolve, hlocate]
  simp only [hsame.isSome_entry?]

theorem entryPlace (hsame : d'.SameTree d) (path : PathName) :
    d'.entryPlace path = d.entryPlace path := by
  unfold Disk.entryPlace
  simp only [hsame.resolve, hsame.isDirectory]

end SameTree

theorem sameTree_set {contents contents' : ByteArray} {mode mode' : Nat}
    (hentry : d.entry? place = some (.file contents mode)) :
    (d.set place (.file contents' mode')).SameTree d where
  entry p := by
    rw [entry?_set (ne_nil_of_file hentry)]
    split
    next hp => rw [hp, hentry]; rfl
    next => rfl
  workingDirectory := rfl
  faults := rfl

/-! ## Files -/

/-- The path leads to a file at a place, both when links are followed and as an entry of its
directory. -/
structure FileAt (d : Disk) (path : PathName) (place : Place) (contents : ByteArray)
    (mode : Nat) : Prop where
  resolve : d.resolve path = .ok place
  entryPlace : d.entryPlace path = .ok place
  entry : d.entry? place = some (.file contents mode)

theorem readBytes_eq_ok_iff {path : PathName} {contents : ByteArray} :
    d.readBytes path = .ok contents ↔
      ∃ place mode, d.resolve path = .ok place ∧ d.entry? place = some (.file contents mode) := by
  rw [readBytes]
  cases d.resolve path with
  | error e => simp [bind, Except.bind]
  | ok place =>
      simp only [bind, Except.bind, Except.ok.injEq]
      cases hentry : d.entry? place with
      | none => simp [hentry]
      | some e => cases e <;> simp [hentry]

theorem IsCanonical.exists_fileAt {path : PathName} (hpath : d.IsCanonical path)
    {contents : ByteArray} (hread : d.readBytes path = .ok contents) :
    ∃ place mode, d.FileAt path place contents mode := by
  obtain ⟨place, mode, hresolve, hentry⟩ := readBytes_eq_ok_iff.mp hread
  refine ⟨place, mode, hresolve, ?_, hentry⟩
  obtain ⟨hdirect, rfl, hopen⟩ := hpath.of_resolve hresolve
  obtain ⟨directory, name, rfl⟩ := (List.eq_nil_or_concat' place).resolve_left
    (ne_nil_of_file hentry)
  exact entryPlace_pathName hdirect hopen

namespace FileAt

variable {path : PathName} {contents contents' : ByteArray} {mode mode' : Nat}

theorem readBytes (hfile : d.FileAt path place contents mode) :
    d.readBytes path = .ok contents :=
  readBytes_eq_ok_iff.mpr ⟨place, mode, hfile.resolve, hfile.entry⟩

theorem replaceFile (hfile : d.FileAt path place contents mode)
    (hsteps : ∀ step, d.fails place step = false) :
    d.replaceFile path contents' = .ok (d.set place (.file contents' mode)) := by
  have hmode : d.mode? path = some mode := by
    simp [mode?, entryAt?, hfile.resolve, hfile.entry]
  simp [Disk.replaceFile, hfile.entryPlace, hsteps, hmode, bind, Except.bind]

theorem eq_set_of_replaceFile {next : Disk} (hfile : d.FileAt path place contents mode)
    (hreplace : d.replaceFile path contents' = .ok next) :
    next = d.set place (.file contents' mode) := by
  have hmode : d.mode? path = some mode := by
    simp [mode?, entryAt?, hfile.resolve, hfile.entry]
  rw [Disk.replaceFile, hfile.entryPlace, hmode] at hreplace
  simp only [bind, Except.bind, Option.getD_some] at hreplace
  split at hreplace
  · cases hreplace
  · exact (Except.ok.inj hreplace).symm

/-- A file is where it was on a disk with the same tree, and it holds what stands there. -/
theorem of_sameTree (hfile : d.FileAt path place contents mode) (hsame : d'.SameTree d)
    (hentry : d'.entry? place = some (.file contents' mode')) :
    d'.FileAt path place contents' mode' where
  resolve := (hsame.resolve path).trans hfile.resolve
  entryPlace := (hsame.entryPlace path).trans hfile.entryPlace
  entry := hentry

end FileAt

/-! ## Texts -/

theorem fromUTF8?_eq_some_iff {contents : ByteArray} {text : String} :
    String.fromUTF8? contents = some text ↔ contents = text.toUTF8 := by
  unfold String.fromUTF8?
  constructor
  · intro hsome
    split at hsome
    · cases hsome
      rfl
    · cases hsome
  · rintro rfl
    rw [String.toUTF8_eq_toByteArray, dif_pos text.isValidUTF8]
    rfl

theorem readText_eq_ok_iff {path : PathName} {text : String} :
    d.readText path = .ok text ↔ d.readBytes path = .ok text.toUTF8 := by
  rw [readText]
  cases d.readBytes path with
  | error e => simp [bind, Except.bind]
  | ok contents =>
      rw [Except.ok.injEq, ← fromUTF8?_eq_some_iff]
      cases htext : String.fromUTF8? contents <;> simp [bind, Except.bind, htext]

end Disk

end CallMigration
