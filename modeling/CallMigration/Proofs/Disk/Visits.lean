import CallMigration.Disk.Visit
import CallMigration.Proofs.Disk.Tree

/-!
# Visits of a tree

On a disk that is a tree every directory can be listed, so no visit fails. What is visited is
told level by level: the start, if the test allows it, and what is visited from the entries of a
directory that is visited.
-/

namespace CallMigration.Disk

variable {d : Disk} {meets : Visit → Bool} {depth : Nat} {path : PathName} {place : Place}
  {entry : Entry} {v : Visit}

/-- From an entry another one is visited, or the entry itself. -/
inductive Visited (d : Disk) (meets : Visit → Bool) :
    Nat → PathName → Place → Entry → Visit → Prop where
  | here {depth : Nat} {path : PathName} {place : Place} {entry : Entry}
      (allowed : meets ⟨depth, path, entry⟩ = true) :
      Visited d meets depth path place entry ⟨depth, path, entry⟩
  | enter {depth : Nat} {path : PathName} {place : Place} {mode : Nat} {name : String}
      {inner : Entry} {v : Visit} (allowed : meets ⟨depth, path, .directory mode⟩ = true)
      (child : d.entry? (place ++ [name]) = some inner)
      (onward : Visited d meets (depth + 1) (path.join ⟨name⟩) (place ++ [name]) inner v) :
      Visited d meets depth path place (.directory mode) v

/-- The test allows the entry from which others are visited. -/
theorem Visited.start (hvisited : Visited d meets depth path place entry v) :
    meets ⟨depth, path, entry⟩ = true := by
  cases hvisited with
  | here allowed => exact allowed
  | enter allowed => exact allowed

/-! ## Listing a directory -/

theorem childName?_eq_some_iff {p : Place} {name : String} :
    childName? place p = some name ↔ p = place ++ [name] := by
  unfold childName?
  constructor
  · intro hname
    obtain ⟨rfl, hlast⟩ := Option.ite_none_right_eq_some.mp hname
    obtain ⟨front, rfl⟩ := List.getLast?_eq_some_iff.mp hlast
    rw [List.dropLast_concat]
  · rintro rfl
    simp

namespace IsTree

theorem exists_list (hd : d.IsTree) (hplace : d.isDirectory place = true) :
    ∃ found, d.list place = .ok found ∧
      ∀ name e, (name, e) ∈ found ↔ d.entry? (place ++ [name]) = some e := by
  refine ⟨_, if_pos hplace, fun name e => ?_⟩
  rw [hd.entry?_eq_some_iff (List.append_ne_nil_of_right_ne_nil _ (List.cons_ne_nil _ _)),
    List.mem_filterMap]
  constructor
  · rintro ⟨⟨p, other⟩, hmem, hchild⟩
    obtain ⟨found, hfound, hsame⟩ := Option.map_eq_some_iff.mp hchild
    cases hsame
    rwa [← childName?_eq_some_iff.mp hfound]
  · intro hmem
    exact ⟨_, hmem, by rw [childName?_eq_some_iff.mpr rfl, Option.map_some]⟩

/-! ## What is visited -/

/-- One level of visits: an entry that is allowed and, if it is a directory, what is visited from
the entries in it. -/
theorem mem_visitsFrom (hd : d.IsTree) (hentry : d.entry? place = some entry)
    (hallowed : meets ⟨depth, path, entry⟩ = true) {x : Except VisitError Visit} :
    x ∈ d.visitsFrom meets depth path place entry ↔
      x = .ok ⟨depth, path, entry⟩ ∨ ∃ mode name inner, entry = .directory mode ∧
        d.entry? (place ++ [name]) = some inner ∧
          x ∈ d.visitsFrom meets (depth + 1) (path.join ⟨name⟩) (place ++ [name]) inner := by
  rw [visitsFrom]
  simp only [hallowed, Bool.not_true, Bool.false_eq_true, if_false, List.mem_cons]
  refine or_congr_right ?_
  cases entry with
  | file contents mode => simp [Visit.isDirectory]
  | link target => simp [Visit.isDirectory]
  | directory mode =>
      obtain ⟨found, hlist, hfound⟩ := hd.exists_list (isDirectory_iff.mpr ⟨mode, hentry⟩)
      simp only [Visit.isDirectory, if_true]
      split
      next hnone => cases hlist.symm.trans hnone
      next found' hlist' =>
        cases hlist.symm.trans hlist'
        rw [List.mem_flatMap]
        constructor
        · rintro ⟨⟨⟨name, inner⟩, hchild⟩, -, hx⟩
          exact ⟨mode, name, inner, rfl, (hfound name inner).mp hchild, hx⟩
        · rintro ⟨-, name, inner, -, hchild, hx⟩
          exact ⟨⟨(name, inner), (hfound name inner).mpr hchild⟩, List.mem_attach _ _, hx⟩

/-- No visit fails, and the visits are those of what is visited. -/
theorem mem_visitsFrom_iff (hd : d.IsTree) (hentry : d.entry? place = some entry)
    {x : Except VisitError Visit} :
    x ∈ d.visitsFrom meets depth path place entry ↔
      ∃ v, x = .ok v ∧ Visited d meets depth path place entry v := by
  constructor
  · intro hx
    induction depth, path, place, entry using visitsFrom.induct d meets with
    | case1 depth path place entry here hskipped =>
        rw [visitsFrom, if_pos hskipped] at hx
        cases hx
    | case2 depth path place entry here hmeets ih =>
        have hallowed : meets here = true := by simpa using hmeets
        rcases (hd.mem_visitsFrom hentry hallowed).mp hx with
          rfl | ⟨mode, name, inner, rfl, hchild, hx⟩
        · exact ⟨here, rfl, .here hallowed⟩
        · obtain ⟨found, hlist, hfound⟩ := hd.exists_list (isDirectory_iff.mpr ⟨mode, hentry⟩)
          have hmem := (hfound name inner).mpr hchild
          obtain ⟨v, rfl, hvisited⟩ := ih found hlist name inner hmem hchild hx
          exact ⟨v, rfl, .enter hallowed hchild hvisited⟩
  · rintro ⟨v, rfl, hvisited⟩
    induction hvisited with
    | here allowed => exact (hd.mem_visitsFrom hentry allowed).mpr (.inl rfl)
    | enter allowed child _ ih =>
        exact (hd.mem_visitsFrom hentry allowed).mpr (.inr ⟨_, _, _, rfl, child, ih child⟩)

end IsTree

end CallMigration.Disk
