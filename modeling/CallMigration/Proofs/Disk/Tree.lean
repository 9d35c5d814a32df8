import CallMigration.Proofs.Disk.Links
import Mathlib.Data.List.Induction
import Mathlib.Data.List.Nodup

/-!
# Disks as trees

The entries of a disk make a tree when each place is listed once, by names, and lies in a
directory. No link is passed then on the way to an entry, so the places of files can be told
from the list of entries, and in which order they are listed is not seen by any path.
-/

namespace CallMigration.Disk

instance : DecidablePred IsName := fun s =>
  decidable_of_iff (s ≠ "" ∧ '/' ∉ s.toList ∧ s ≠ "." ∧ s ≠ "..")
    ⟨fun h => ⟨h.1, h.2.1, h.2.2.1, h.2.2.2⟩, fun h => ⟨h.1, h.2, h.3, h.4⟩⟩

/-- Each place is listed once, by names, and lies in a directory. Work starts in a directory. -/
structure IsTree (d : Disk) : Prop where
  places : (d.entries.map Prod.fst).Nodup
  names : ∀ e ∈ d.entries, ∀ s ∈ e.1, IsName s
  parents : ∀ e ∈ d.entries, e.1 ≠ [] ∧ d.isDirectory e.1.dropLast = true
  start : d.isDirectory d.workingDirectory = true

instance : DecidablePred IsTree := fun d =>
  decidable_of_iff
    ((d.entries.map Prod.fst).Nodup ∧ (∀ e ∈ d.entries, ∀ s ∈ e.1, IsName s) ∧
      (∀ e ∈ d.entries, e.1 ≠ [] ∧ d.isDirectory e.1.dropLast = true) ∧
      d.isDirectory d.workingDirectory = true)
    ⟨fun h => ⟨h.1, h.2.1, h.2.2.1, h.2.2.2⟩, fun h => ⟨h.1, h.2, h.3, h.4⟩⟩

variable {d : Disk} {place : Place}

theorem isDirectory_iff : d.isDirectory place = true ↔
    ∃ mode, d.entry? place = some (.directory mode) := by
  unfold Disk.isDirectory
  split <;> simp_all

theorem lookup_eq_some_iff_mem {entries : List (Place × Entry)} {e : Entry}
    (hplaces : (entries.map Prod.fst).Nodup) :
    entries.lookup place = some e ↔ (place, e) ∈ entries := by
  induction entries with
  | nil => simp
  | cons head rest ih =>
      obtain ⟨p, first⟩ := head
      rw [List.map_cons, List.nodup_cons] at hplaces
      rw [List.lookup_cons, List.mem_cons, ← ih hplaces.2]
      by_cases hp : place = p
      · subst hp
        have hrest : rest.lookup place ≠ some e := fun hlookup =>
          hplaces.1 (List.mem_map.mpr ⟨_, (ih hplaces.2).mp hlookup, rfl⟩)
        simp [hrest, eq_comm]
      · simp [beq_eq_decide, hp]

namespace IsTree

theorem entry?_eq_some_iff (hd : d.IsTree) {e : Entry} (hplace : place ≠ []) :
    d.entry? place = some e ↔ (place, e) ∈ d.entries := by
  rw [ entry?, if_neg hplace, lookup_eq_some_iff_mem hd.places]

/-- What stands below a place stands in directories. -/
theorem isDirectory_of_append (hd : d.IsTree) {names : List String} (hnames : names ≠ [])
    (hentry : (d.entry? (place ++ names)).isSome = true) : d.isDirectory place = true := by
  induction names using List.reverseRecOn with
  | nil => exact absurd rfl hnames
  | append_singleton front last ih =>
      obtain ⟨e, he⟩ := Option.isSome_iff_exists.mp hentry
      have hmem := (hd.entry?_eq_some_iff (by simp)).mp he
      have hparent : d.isDirectory (place ++ front) = true := by
        simpa [← List.append_assoc] using (hd.parents _ hmem).2
      by_cases hfront : front = []
      · simpa [hfront] using hparent
      · exact ih hfront (isSome_entry?_of_isDirectory hparent)

/-- No link stands on the way to a directory. -/
theorem direct (hd : d.IsTree) (hplace : d.isDirectory place = true) : d.Direct place where
  names := by
    by_cases hroot : place = []
    · simp [hroot]
    · obtain ⟨mode, hentry⟩ := isDirectory_iff.mp hplace
      exact hd.names _ ((hd.entry?_eq_some_iff hroot).mp hentry)
  noLink p hp target htarget := by
    obtain ⟨rest, rfl⟩ := hp
    have hp : d.isDirectory p = true := by
      by_cases hrest : rest = []
      · simpa [hrest] using hplace
      · exact hd.isDirectory_of_append hrest (isSome_entry?_of_isDirectory hplace)
    obtain ⟨mode, hmode⟩ := isDirectory_iff.mp hp
    simp [hmode] at htarget

/-- A path that stands for something stands for a file or for a directory. -/
theorem isFile_or_isDirectory (hd : d.IsTree) {path : PathName}
    (hpresent : d.isPresent path = true) :
    d.isFile path = true ∨ ∃ there, d.resolve path = .ok there ∧ d.isDirectory there = true := by
  unfold isPresent isFile entryAt? at *
  cases hresolve : d.resolve path with
  | error e => simp [hresolve] at hpresent
  | ok there =>
      have hthere := (direct_of_resolve (hd.direct hd.start) hresolve).noLink there List.prefix_rfl
      simp only [hresolve] at hpresent ⊢
      obtain ⟨e, he⟩ := Option.isSome_iff_exists.mp hpresent
      cases e with
      | file => exact .inl (by simp [he])
      | directory => exact .inr ⟨there, rfl, isDirectory_iff.mpr ⟨_, he⟩⟩
      | link target => exact absurd he (hthere target)

/-- Whatever stands in a directory bears a name. -/
theorem isName_of_entry? (hd : d.IsTree) {name : String} {e : Entry}
    (hentry : d.entry? (place ++ [name]) = some e) : IsName name :=
  hd.names _ ((hd.entry?_eq_some_iff (by simp)).mp hentry) name (by simp)

/-! ## The order of the entries -/

variable {entries : List (Place × Entry)}

theorem entry?_of_perm (hd : d.IsTree) (hperm : entries.Perm d.entries) (place : Place) :
    Disk.entry? { d with entries := entries } place = d.entry? place := by
  have hplaces : (entries.map Prod.fst).Nodup := (hperm.map Prod.fst).nodup_iff.mpr hd.places
  by_cases hplace : place = []
  · simp [ entry?, hplace]
  · rw [ entry?, entry?, if_neg hplace, if_neg hplace]
    apply Option.ext
    intro e
    rw [lookup_eq_some_iff_mem hplaces, lookup_eq_some_iff_mem hd.places, hperm.mem_iff]

theorem sameTree_of_perm (hd : d.IsTree) (hperm : entries.Perm d.entries) :
    Disk.SameTree { d with entries := entries } d where
  entry place := by rw [hd.entry?_of_perm hperm]
  workingDirectory := rfl
  faults := rfl

theorem of_perm (hd : d.IsTree) (hperm : entries.Perm d.entries) :
    Disk.IsTree { d with entries := entries } where
  places := (hperm.map Prod.fst).nodup_iff.mpr hd.places
  names e he := hd.names e (hperm.mem_iff.mp he)
  parents e he := by
    rw [(hd.sameTree_of_perm hperm).isDirectory]
    exact hd.parents e (hperm.mem_iff.mp he)
  start := by
    rw [(hd.sameTree_of_perm hperm).isDirectory]
    exact hd.start

end IsTree

end CallMigration.Disk
