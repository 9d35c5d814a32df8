import CallMigration.Cli.Sources
import CallMigration.Proofs.Disk.Visits

/-!
# What the sources of a run are

On a disk that is a tree, the files that are visited from a directory are those that are reached
from it through directories that are neither hidden nor `node_modules`; the directory itself may
be either. These are also the files below it with no skipped name on the way, picked from all
entries of the disk. The sources of a run are strictly in order, so they are settled by what the
given paths stand for: neither the order of these paths nor that of the disk's entries is seen in
them.
-/

namespace CallMigration.Cli

variable {d : Disk} {path : PathName} {place : Place} {names : List String}

/-! ## Sorted lists without repetition -/

section Distinct

variable {p : PathName} {ps : List PathName}

theorem mem_of_mem_consDistinct {q : PathName} (hq : q ∈ consDistinct p ps) : q = p ∨ q ∈ ps := by
  cases ps with
  | nil => simpa [consDistinct] using hq
  | cons first rest =>
      rw [consDistinct] at hq
      split at hq <;> grind

theorem mem_components_consDistinct {cs : List PathName.Component} :
    cs ∈ (consDistinct p ps).map PathName.components ↔
      cs = p.components ∨ cs ∈ ps.map PathName.components := by
  cases ps with
  | nil => simp [consDistinct]
  | cons first rest =>
      rw [consDistinct]
      split
      next hsame => simp [PathName.same_iff.mp hsame]
      next => simp

/-- In front of a strictly sorted list a path name gives another one, if it is not behind any
member. -/
theorem pairwise_consDistinct (hle : ∀ q ∈ ps, (p.compare q).isLE = true)
    (hps : ps.Pairwise fun p q => p.compare q = .lt) :
    (consDistinct p ps).Pairwise fun p q => p.compare q = .lt := by
  cases ps with
  | nil => simp [consDistinct]
  | cons first rest =>
      obtain ⟨hfirst, hrest⟩ := List.pairwise_cons.mp hps
      rw [consDistinct]
      split
      next hsame =>
        have heq := PathName.compare_eq_eq_iff.mpr (PathName.same_iff.mp hsame)
        refine List.pairwise_cons.mpr ⟨fun q hq => ?_, hrest⟩
        exact Std.TransCmp.lt_of_eq_of_lt heq (hfirst q hq)
      next hne =>
        have hlt : p.compare first = .lt := by
          have hne' : p.compare first ≠ .eq := fun heq =>
            hne (PathName.same_iff.mpr (PathName.compare_eq_eq_iff.mp heq))
          have hfirstLE := hle first List.mem_cons_self
          cases hcompare : p.compare first <;> simp_all
        refine List.pairwise_cons.mpr ⟨List.forall_mem_cons.mpr ⟨hlt, fun q hq => ?_⟩, hps⟩
        exact Std.TransCmp.lt_trans hlt (hfirst q hq)

theorem mem_of_mem_dropRepeated {q : PathName} (hq : q ∈ dropRepeated ps) : q ∈ ps := by
  induction ps with
  | nil => exact hq
  | cons p ps ih =>
      rcases mem_of_mem_consDistinct hq with rfl | hq
      · exact List.mem_cons_self
      · exact List.mem_cons_of_mem _ (ih hq)

theorem mem_components_dropRepeated {cs : List PathName.Component} :
    cs ∈ (dropRepeated ps).map PathName.components ↔ cs ∈ ps.map PathName.components := by
  induction ps with
  | nil => rfl
  | cons p ps ih =>
      rw [List.map_cons, List.mem_cons, ← ih]
      exact mem_components_consDistinct

theorem pairwise_dropRepeated (hps : ps.Pairwise fun p q => (p.compare q).isLE = true) :
    (dropRepeated ps).Pairwise fun p q => p.compare q = .lt := by
  induction ps with
  | nil => exact .nil
  | cons p ps ih =>
      obtain ⟨hp, hps⟩ := List.pairwise_cons.mp hps
      exact pairwise_consDistinct (fun q hq => hp q (mem_of_mem_dropRepeated hq)) (ih hps)

theorem pairwise_mergeSort_compare (ps : List PathName) :
    (ps.mergeSort fun p q => p.compare q != .gt).Pairwise
      fun p q => (p.compare q).isLE = true := by
  have hle : (fun p q : PathName => p.compare q != .gt) = fun p q => (p.compare q).isLE := by
    funext p q
    cases p.compare q <;> rfl
  rw [hle]
  refine List.pairwise_mergeSort (fun _ _ _ => Std.TransCmp.isLE_trans) (fun p q => ?_) ps
  have hswap : q.compare p = (p.compare q).swap := Std.OrientedCmp.eq_swap
  rw [hswap]
  cases p.compare q <;> rfl

theorem nodup_components (hps : ps.Pairwise fun p q => p.compare q = .lt) :
    (ps.map PathName.components).Nodup := by
  refine List.pairwise_map.mpr (hps.imp fun {p q} hlt heq => ?_)
  rw [PathName.compare_eq_eq_iff.mpr heq] at hlt
  cases hlt

/-- The same path names, as to their components, have one strictly sorted list. -/
theorem map_components_eq {qs : List PathName} (hps : ps.Pairwise fun p q => p.compare q = .lt)
    (hqs : qs.Pairwise fun p q => p.compare q = .lt)
    (hmem : ∀ cs, cs ∈ ps.map PathName.components ↔ cs ∈ qs.map PathName.components) :
    ps.map PathName.components = qs.map PathName.components := by
  have hsorted : ∀ {ps : List PathName}, ps.Pairwise (fun p q => p.compare q = .lt) →
      (ps.map PathName.components).Pairwise fun as bs =>
        List.compareLex PathName.Component.compare as bs = .lt := fun hps =>
    List.pairwise_map.mpr (hps.imp fun hlt => PathName.compare_eq _ _ ▸ hlt)
  have hperm := (List.perm_ext_iff_of_nodup (nodup_components hps) (nodup_components hqs)).mpr hmem
  refine List.Perm.eq_of_pairwise (fun as bs _ _ hlt hgt => ?_) (hsorted hps) (hsorted hqs) hperm
  rw [Std.OrientedCmp.gt_of_lt hlt] at hgt
  cases hgt

end Distinct

/-! ## What a path stands for -/

/-- The path name with names below it. -/
def pathBelow (path : PathName) (names : List String) : PathName :=
  names.foldl (fun p name => p.join ⟨name⟩) path

/-- The names lead from a directory to a file, through directories that are neither hidden nor
`node_modules`. -/
inductive Reaches (d : Disk) : Place → List String → Prop where
  | file {here : Place} {name : String} {contents : ByteArray} {mode : Nat}
      (entry : d.entry? (here ++ [name]) = some (.file contents mode)) : Reaches d here [name]
  | enter {here : Place} {name : String} {rest : List String}
      (directory : d.isDirectory (here ++ [name]) = true) (own : name ≠ "node_modules")
      (visible : name.toList.head? ≠ some '.') (onward : Reaches d (here ++ [name]) rest) :
      Reaches d here (name :: rest)

/-- A file stands for itself, and a directory for the supported files that are reached from
it. -/
inductive StandsFor (d : Disk) (path : PathName) : PathName → Prop where
  | itself (file : d.isFile path = true) : StandsFor d path path
  | below {place : Place} {names : List String} {dialect : Dialect}
      (resolve : d.resolve path = .ok place) (directory : d.isDirectory place = true)
      (reaches : Reaches d place names)
      (supported : Dialect.ofPath? (pathBelow path names) = some dialect) :
      StandsFor d path (pathBelow path names)

theorem isSkipped_eq_false_iff {name : String} :
    isSkipped name = false ↔ name ≠ "node_modules" ∧ name.toList.head? ≠ some '.' := by
  have hdot : Text.startsWith "." name = true ↔ name.toList.head? = some '.' := by
    rw [Text.startsWith]
    cases name.toList with
    | nil => simp
    | cons c cs => simpa using eq_comm
  rw [isSkipped, Bool.or_eq_false_iff, ← Bool.not_eq_true (Text.startsWith "." name), hdot]
  simp

/-- What is reached is a file with no skipped name before its own. -/
theorem reaches_iff (hd : d.IsTree) (hplace : d.isDirectory place = true) :
    Reaches d place names ↔
      (∃ contents mode, d.entry? (place ++ names) = some (.file contents mode)) ∧
        names.dropLast.any isSkipped = false := by
  induction names generalizing place with
  | nil =>
      obtain ⟨mode, hentry⟩ := Disk.isDirectory_iff.mp hplace
      constructor
      · rintro ⟨⟩
      · simp [hentry]
  | cons name rest ih =>
      have hassoc : place ++ name :: rest = place ++ [name] ++ rest := by simp
      cases rest with
      | nil =>
          constructor
          · intro hreach
            cases hreach with
            | file entry => exact ⟨⟨_, _, entry⟩, rfl⟩
            | enter _ _ _ onward => cases onward
          · rintro ⟨⟨contents, mode, entry⟩, -⟩
            exact .file entry
      | cons next rest =>
          rw [hassoc, List.dropLast_cons_cons, List.any_cons, Bool.or_eq_false_iff,
            isSkipped_eq_false_iff]
          constructor
          · intro hreach
            cases hreach with
            | enter directory own visible onward =>
                obtain ⟨hfile, hrest⟩ := (ih directory).mp onward
                exact ⟨hfile, ⟨own, visible⟩, hrest⟩
          · rintro ⟨hfile, ⟨own, visible⟩, hrest⟩
            have hdirectory : d.isDirectory (place ++ [name]) = true := by
              obtain ⟨contents, mode, hentry⟩ := hfile
              exact hd.isDirectory_of_append (List.cons_ne_nil _ _) (by rw [hentry]; rfl)
            exact .enter hdirectory own visible ((ih hdirectory).mpr ⟨hfile, hrest⟩)

/-! ## What is visited from a directory -/

theorem isVisited_start {v : Visit} (hdepth : v.depth = 0) : isVisited v = true := by
  simp [isVisited, hdepth]

theorem isVisited_of_not_directory {v : Visit} (hentry : v.isDirectory = false) :
    isVisited v = true := by
  simp [isVisited, hentry]

/-- Below the start a directory is visited when its name is not skipped. -/
theorem isVisited_below {depth mode : Nat} {name : String} (htext : path.text ≠ "")
    (hname : Disk.IsName name) :
    isVisited ⟨depth + 1, path.join ⟨name⟩, .directory mode⟩ = !isSkipped name := by
  simp [isVisited, Visit.isDirectory, Visit.name, PathName.fileName?_join htext hname]

theorem reaches_of_visited (hd : d.IsTree) {depth mode : Nat} {v : Visit} (htext : path.text ≠ "")
    (hvisited : Disk.Visited d isVisited depth path place (.directory mode) v)
    (hfile : v.isFile = true) : ∃ names, Reaches d place names ∧ v.path = pathBelow path names := by
  generalize hentry : Entry.directory mode = entry at hvisited
  induction hvisited generalizing mode with
  | here =>
      cases hentry
      cases hfile
  | @enter depth path place _ name inner v _ child onward ih =>
      have hname := hd.isName_of_entry? child
      cases inner with
      | file contents =>
          cases onward with
          | here => exact ⟨[name], .file child, rfl⟩
      | link target =>
          cases onward with
          | here => cases hfile
      | directory innerMode =>
          have hkept := (isVisited_below htext hname).symm.trans onward.start
          obtain ⟨own, visible⟩ := isSkipped_eq_false_iff.mp ((Bool.not_eq_true' _).mp hkept)
          obtain ⟨names, hreach, hpath⟩ := ih (PathName.text_join_ne htext hname) hfile rfl
          have hdirectory := Disk.isDirectory_iff.mpr ⟨innerMode, child⟩
          exact ⟨name :: names, .enter hdirectory own visible hreach, hpath⟩

theorem visited_of_reaches (hd : d.IsTree) {depth mode : Nat} (htext : path.text ≠ "")
    (hallowed : isVisited ⟨depth, path, .directory mode⟩ = true) (hreach : Reaches d place names) :
    ∃ v, Disk.Visited d isVisited depth path place (.directory mode) v ∧ v.isFile = true ∧
      v.path = pathBelow path names := by
  induction hreach generalizing depth mode path with
  | file entry =>
      exact ⟨_, .enter hallowed entry (.here (isVisited_of_not_directory rfl)), rfl, rfl⟩
  | enter directory own visible _ ih =>
      obtain ⟨innerMode, child⟩ := Disk.isDirectory_iff.mp directory
      have hname := hd.isName_of_entry? child
      have hkept := isSkipped_eq_false_iff.mpr ⟨own, visible⟩
      have hvisited : isVisited ⟨depth + 1, _, .directory innerMode⟩ = true :=
        (isVisited_below htext hname).trans ((Bool.not_eq_true' _).mpr hkept)
      obtain ⟨v, honward, hfile, hpath⟩ := ih (PathName.text_join_ne htext hname) hvisited
      exact ⟨v, .enter hallowed child honward, hfile, hpath⟩

/-- A path that leads to a directory is no file. -/
theorem isFile_eq_false (hresolve : d.resolve path = .ok place)
    (hplace : d.isDirectory place = true) : d.isFile path = false := by
  obtain ⟨mode, hentry⟩ := Disk.isDirectory_iff.mp hplace
  simp [Disk.isFile, Disk.entryAt?, hresolve, hentry]

theorem isPresent_eq_true (hresolve : d.resolve path = .ok place)
    (hplace : d.isDirectory place = true) : d.isPresent path = true := by
  obtain ⟨mode, hentry⟩ := Disk.isDirectory_iff.mp hplace
  simp [Disk.isPresent, Disk.entryAt?, hresolve, hentry]

/-- Outcomes that are all known are known together. -/
theorem exists_mapM_id {ε α : Type} {outcomes : List (Except ε α)}
    (hok : ∀ x ∈ outcomes, ∃ a, x = .ok a) :
    ∃ found, outcomes.mapM id = .ok found ∧ ∀ a, a ∈ found ↔ .ok a ∈ outcomes := by
  induction outcomes with
  | nil => exact ⟨[], rfl, by simp⟩
  | cons x rest ih =>
      obtain ⟨⟨a, rfl⟩, hrest⟩ := List.forall_mem_cons.mp hok
      obtain ⟨found, hfound, hmem⟩ := ih hrest
      refine ⟨a :: found, ?_, by simp [hmem]⟩
      rw [List.mapM_cons, hfound]
      rfl

/-- A directory has sources, the supported files that are reached from it. -/
theorem exists_sourcesOf_directory (hd : d.IsTree) (hresolve : d.resolve path = .ok place)
    (hplace : d.isDirectory place = true) :
    ∃ files, sourcesOf d path = .ok files ∧ ∀ f, f ∈ files ↔ ∃ names dialect,
      Reaches d place names ∧ Dialect.ofPath? (pathBelow path names) = some dialect ∧
        f = pathBelow path names := by
  obtain ⟨mode, hentry⟩ := Disk.isDirectory_iff.mp hplace
  have htext : path.text ≠ "" := (Disk.resolve_eq_ok_iff_leads.mp hresolve).1
  have hvisits : ∀ x, x ∈ d.visits isVisited path ↔
      ∃ v, x = .ok v ∧ Disk.Visited d isVisited 0 path place (.directory mode) v := by
    intro x
    simp only [Disk.visits, hresolve, hentry]
    exact hd.mem_visitsFrom_iff hentry
  have hok : ∀ x ∈ d.visits isVisited path, ∃ v, x = .ok v := fun x hx =>
    ((hvisits x).mp hx).imp fun _ hv => hv.1
  obtain ⟨found, hfound, hmem⟩ := exists_mapM_id hok
  refine ⟨(found.filter isSource).map (·.path), ?_, fun f => ?_⟩
  · simp [sourcesOf, isFile_eq_false hresolve hplace, isPresent_eq_true hresolve hplace, hfound]
  · rw [List.mem_map]
    constructor
    · rintro ⟨v, hv, rfl⟩
      obtain ⟨hv, hsource⟩ := List.mem_filter.mp hv
      obtain ⟨hfile, hsupported⟩ := (Bool.and_eq_true _ _).mp hsource
      obtain ⟨_, hsame, hvisited⟩ := (hvisits _).mp ((hmem v).mp hv)
      cases hsame
      obtain ⟨names, hreach, hpath⟩ := reaches_of_visited hd htext hvisited hfile
      obtain ⟨dialect, hdialect⟩ := Option.isSome_iff_exists.mp hsupported
      exact ⟨names, dialect, hreach, hpath ▸ hdialect, hpath⟩
    · rintro ⟨names, dialect, hreach, hdialect, rfl⟩
      obtain ⟨v, hvisited, hfile, hpath⟩ := visited_of_reaches hd htext (isVisited_start rfl) hreach
      have hsource : isSource v = true := by
        rw [isSource, hfile, hpath, hdialect]
        rfl
      have hv := (hmem v).mpr ((hvisits _).mpr ⟨v, rfl, hvisited⟩)
      exact ⟨v, List.mem_filter.mpr ⟨hv, hsource⟩, hpath⟩

/-- A path that is present stands for some sources, all of which are listed. -/
theorem exists_sourcesOf (hd : d.IsTree) (hpresent : d.isPresent path = true) :
    ∃ files, sourcesOf d path = .ok files ∧ ∀ f, f ∈ files ↔ StandsFor d path f := by
  rcases hd.isFile_or_isDirectory hpresent with hfile | ⟨place, hresolve, hplace⟩
  · refine ⟨[path], if_pos hfile, fun f => ?_⟩
    rw [List.mem_singleton]
    constructor
    · rintro rfl
      exact .itself hfile
    · intro hstands
      cases hstands with
      | itself => rfl
      | below resolve directory =>
          rw [isFile_eq_false resolve directory] at hfile
          cases hfile
  · obtain ⟨files, hfiles, hmem⟩ := exists_sourcesOf_directory hd hresolve hplace
    refine ⟨files, hfiles, fun f => (hmem f).trans ?_⟩
    constructor
    · rintro ⟨names, dialect, reaches, supported, rfl⟩
      exact .below hresolve hplace reaches supported
    · intro hstands
      cases hstands with
      | itself file =>
          rw [isFile_eq_false hresolve hplace] at file
          cases file
      | below resolve directory reaches supported =>
          cases hresolve.symm.trans resolve
          exact ⟨_, _, reaches, supported, rfl⟩

/-- The sources of a directory are the supported files below it that have no skipped name before
their own, picked from all that is on the disk. -/
theorem mem_sourcesOf_directory_iff (hd : d.IsTree) (hresolve : d.resolve path = .ok place)
    (hplace : d.isDirectory place = true) {files : List PathName}
    (hfiles : sourcesOf d path = .ok files) {f : PathName} :
    f ∈ files ↔ ∃ names contents mode, (place ++ names, .file contents mode) ∈ d.entries ∧
      names.dropLast.any isSkipped = false ∧ f = pathBelow path names ∧
        (Dialect.ofPath? f).isSome = true := by
  obtain ⟨_, hsources, hmem⟩ := exists_sourcesOf_directory hd hresolve hplace
  cases hfiles.symm.trans hsources
  rw [hmem]
  constructor
  · rintro ⟨names, dialect, hreach, hdialect, rfl⟩
    obtain ⟨⟨contents, mode, hentry⟩, hkept⟩ := (reaches_iff hd hplace).mp hreach
    have hfile := (hd.entry?_eq_some_iff (Disk.ne_nil_of_file hentry)).mp hentry
    exact ⟨names, contents, mode, hfile, hkept, rfl, by rw [hdialect]; rfl⟩
  · rintro ⟨names, contents, mode, hfile, hkept, rfl, hsupported⟩
    obtain ⟨dialect, hdialect⟩ := Option.isSome_iff_exists.mp hsupported
    have hentry := (hd.entry?_eq_some_iff (hd.parents _ hfile).1).mpr hfile
    exact ⟨names, dialect, (reaches_iff hd hplace).mpr ⟨⟨_, _, hentry⟩, hkept⟩, hdialect, rfl⟩

/-- The path name of a file that is reached leads to that file. -/
theorem resolve_pathBelow (hd : d.IsTree) (hresolve : d.resolve path = .ok place)
    (hplace : d.isDirectory place = true) (hreach : Reaches d place names) :
    d.resolve (pathBelow path names) = .ok (place ++ names) := by
  induction hreach generalizing path with
  | file entry =>
      exact Disk.resolve_join hresolve hplace (hd.isName_of_entry? entry) entry (by simp)
  | enter directory own visible onward ih =>
      obtain ⟨mode, entry⟩ := Disk.isDirectory_iff.mp directory
      have hinner :=
        Disk.resolve_join hresolve hplace (hd.isName_of_entry? entry) entry (by simp)
      rw [List.append_cons]
      exact ih hinner directory

theorem StandsFor.isFile (hd : d.IsTree) {f : PathName} (hstands : StandsFor d path f) :
    d.isFile f = true := by
  cases hstands with
  | itself file => exact file
  | below resolve directory reaches supported =>
      obtain ⟨⟨contents, mode, hentry⟩, -⟩ := (reaches_iff hd directory).mp reaches
      simp [Disk.isFile, Disk.entryAt?, resolve_pathBelow hd resolve directory reaches, hentry]

/-- Another order of the entries makes no difference to what a path stands for. -/
theorem StandsFor.of_sameTree {d' : Disk} (hsame : d'.SameTree d)
    (hentry : ∀ place, d'.entry? place = d.entry? place) {f : PathName}
    (hstands : StandsFor d path f) : StandsFor d' path f := by
  cases hstands with
  | itself file =>
      refine .itself ?_
      simpa only [Disk.isFile, Disk.entryAt?, hsame.resolve, hentry] using file
  | below resolve directory reaches supported =>
      refine .below (hsame.resolve _ ▸ resolve) (hsame.isDirectory _ ▸ directory) ?_ supported
      clear supported resolve directory
      induction reaches with
      | file entry => exact .file ((hentry _).trans entry)
      | enter directory own visible _ ih =>
          exact .enter (hsame.isDirectory _ ▸ directory) own visible ih

/-! ## The sources of a run -/

/-- The files are strictly in order, and they are just those that the paths stand for. -/
structure IsListing (d : Disk) (paths files : List PathName) : Prop where
  sorted : files.Pairwise fun p q => p.compare q = .lt
  distinct : (files.map PathName.components).Nodup
  isFile : ∀ f ∈ files, d.isFile f = true
  sound : ∀ f ∈ files, ∃ path ∈ paths, StandsFor d path f
  complete : ∀ path ∈ paths, ∀ f, StandsFor d path f → ∃ g ∈ files, g.components = f.components

/-- Paths that stand for the same files have one listing. -/
theorem IsListing.map_components_eq {d' : Disk} {paths paths' files files' : List PathName}
    (hfiles : IsListing d paths files) (hfiles' : IsListing d' paths' files')
    (hpaths : ∀ p, p ∈ paths' ↔ p ∈ paths)
    (hstands : ∀ p f, StandsFor d' p f ↔ StandsFor d p f) :
    files'.map PathName.components = files.map PathName.components := by
  refine Cli.map_components_eq hfiles'.sorted hfiles.sorted fun cs => ?_
  rw [List.mem_map, List.mem_map]
  constructor
  · rintro ⟨f, hf, rfl⟩
    obtain ⟨p, hp, hpf⟩ := hfiles'.sound f hf
    exact hfiles.complete p ((hpaths p).mp hp) f ((hstands p f).mp hpf)
  · rintro ⟨f, hf, rfl⟩
    obtain ⟨p, hp, hpf⟩ := hfiles.sound f hf
    exact hfiles'.complete p ((hpaths p).mpr hp) f ((hstands p f).mpr hpf)

theorem exists_mapM_sourcesOf (hd : d.IsTree) {paths : List PathName}
    (hpresent : ∀ p ∈ paths, d.isPresent p = true) :
    ∃ found, paths.mapM (sourcesOf d) = .ok found ∧
      ∀ f, f ∈ found.flatten ↔ ∃ p ∈ paths, StandsFor d p f := by
  induction paths with
  | nil => exact ⟨[], rfl, by simp⟩
  | cons p rest ih =>
      obtain ⟨hp, hrest⟩ := List.forall_mem_cons.mp hpresent
      obtain ⟨files, hfiles, hmem⟩ := exists_sourcesOf hd hp
      obtain ⟨found, hfound, hmems⟩ := ih hrest
      refine ⟨files :: found, ?_, fun f => ?_⟩
      · rw [List.mapM_cons, hfiles, hfound]
        rfl
      · simp [hmem, hmems]

theorem exists_collect (hd : d.IsTree) {paths : List PathName} (hpaths : paths ≠ [])
    (hpresent : ∀ p ∈ paths, d.isPresent p = true) :
    ∃ files, collect d paths = .ok files ∧ IsListing d paths files := by
  obtain ⟨found, hfound, hmem⟩ := exists_mapM_sourcesOf hd hpresent
  have hsorted := pairwise_dropRepeated (pairwise_mergeSort_compare found.flatten)
  have hsound : ∀ f ∈ dropRepeated (found.flatten.mergeSort fun p q => p.compare q != .gt),
      ∃ p ∈ paths, StandsFor d p f := fun f hf =>
    (hmem f).mp (List.mem_mergeSort.mp (mem_of_mem_dropRepeated hf))
  refine ⟨_, ?_, hsorted, nodup_components hsorted, ?_, hsound, ?_⟩
  · have hempty : paths.isEmpty = false := by simpa using hpaths
    rw [collect, hempty, if_neg Bool.false_ne_true]
    exact congrArg (· >>= _) hfound
  · intro f hf
    obtain ⟨p, -, hstands⟩ := hsound f hf
    exact hstands.isFile hd
  · intro p hp f hstands
    rw [← List.mem_map, mem_components_dropRepeated]
    exact List.mem_map_of_mem (List.mem_mergeSort.mpr ((hmem f).mpr ⟨p, hp, hstands⟩))

/-- Paths that are all present have a listing of what they stand for, and it depends neither on
the order and repetition of the paths nor on the order in which the disk lists its entries. -/
theorem collect_isListing (hd : d.IsTree) {paths : List PathName} (hpaths : paths ≠ [])
    (hpresent : ∀ p ∈ paths, d.isPresent p = true) :
    ∃ files, collect d paths = .ok files ∧ IsListing d paths files ∧
      ∀ (entries : List (Place × Entry)) (paths' : List PathName),
        entries.Perm d.entries → (∀ p, p ∈ paths' ↔ p ∈ paths) →
        ∃ files', collect { d with entries := entries } paths' = .ok files' ∧
          files'.map PathName.components = files.map PathName.components := by
  obtain ⟨files, hfiles, hlisting⟩ := exists_collect hd hpaths hpresent
  refine ⟨files, hfiles, hlisting, fun entries paths' hperm hsame => ?_⟩
  have htree := hd.sameTree_of_perm hperm
  have hentry := hd.entry?_of_perm hperm
  have hpaths' : paths' ≠ [] := by
    rintro rfl
    exact hpaths (List.eq_nil_iff_forall_not_mem.mpr fun p hp => by simpa using (hsame p).mpr hp)
  have hpresent' : ∀ p ∈ paths', Disk.isPresent { d with entries := entries } p = true := by
    intro p hp
    simpa only [Disk.isPresent, Disk.entryAt?, htree.resolve, hentry] using
      hpresent p ((hsame p).mp hp)
  obtain ⟨files', hfiles', hlisting'⟩ := exists_collect (hd.of_perm hperm) hpaths' hpresent'
  refine ⟨files', hfiles', hlisting.map_components_eq hlisting' hsame fun p f => ⟨?_, ?_⟩⟩
  · exact fun hstands => hstands.of_sameTree htree.symm fun place => (hentry place).symm
  · exact fun hstands => hstands.of_sameTree htree hentry

namespace Sample

/-- Sources beside a hidden directory, `node_modules` and a link back. -/
def nested : Disk where
  entries := [(["w"], .directory 0o755), (["w", "src"], .directory 0o755),
    (["w", "src", "b.ts"], .file .empty 0o644), (["w", "src", "a.tsx"], .file .empty 0o644),
    (["w", "src", "a.md"], .file .empty 0o644), (["w", "src", ".old"], .directory 0o755),
    (["w", "src", ".old", "c.ts"], .file .empty 0o644),
    (["w", "src", "node_modules"], .directory 0o755),
    (["w", "src", "node_modules", "d.ts"], .file .empty 0o644),
    (["w", "src", "up"], .link ⟨".."⟩)]
  workingDirectory := ["w"]
  faults := []

def overlapping : List PathName :=
  [⟨"src/"⟩, ⟨"src/node_modules"⟩, ⟨"src/a.md"⟩, ⟨"src//b.ts"⟩]

end Sample

/-- A directory that is not entered from above is listed when it is given. -/
theorem collect_isListing_sample :
    Sample.nested.IsTree ∧ (∀ p ∈ Sample.overlapping, Sample.nested.isPresent p = true) ∧
      ∃ files files', collect Sample.nested Sample.overlapping = .ok files ∧
        IsListing Sample.nested Sample.overlapping files ∧
        (∃ f ∈ files, f.components = [.name "src", .name "node_modules", .name "d.ts"]) ∧
        collect { Sample.nested with entries := Sample.nested.entries.reverse }
          (Sample.overlapping.reverse ++ Sample.overlapping) = .ok files' ∧
        files'.map PathName.components = files.map PathName.components := by
  have hd : Sample.nested.IsTree := by decide +kernel
  have hpresent : ∀ p ∈ Sample.overlapping, Sample.nested.isPresent p = true := by decide +kernel
  obtain ⟨files, hfiles, hlisting, hsame⟩ := collect_isListing hd (by decide) hpresent
  obtain ⟨files', hfiles', hequal⟩ := hsame Sample.nested.entries.reverse
    (Sample.overlapping.reverse ++ Sample.overlapping) (List.reverse_perm _) (by simp)
  have hstands : StandsFor Sample.nested ⟨"src/node_modules"⟩
      (pathBelow ⟨"src/node_modules"⟩ ["d.ts"]) := by
    have hfile : Reaches Sample.nested ["w", "src", "node_modules"] ["d.ts"] := .file rfl
    exact .below (by rfl) (by decide +kernel) hfile (by rfl)
  have hlisted := hlisting.complete _ (by decide) _ hstands
  exact ⟨hd, hpresent, files, files', hfiles, hlisting, hlisted, hfiles', hequal⟩

end CallMigration.Cli
