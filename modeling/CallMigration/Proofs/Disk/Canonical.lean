import CallMigration.Disk.Resolve
import CallMigration.Workspace
import Mathlib.Data.List.Basic

/-!
# Canonical path names

The canonical path name of a place is its names with slashes before them, provided that no
link stands on the way to it. Reading such a path name gives the names back, and following
them leads to the place itself or nowhere. Every path name that the disk gives in place of
another one is canonical.
-/

namespace CallMigration

/-! ## Cutting texts at slashes -/

namespace Text

theorem splitChars_of_not_mem {sep : Char} {cs : List Char} (hsep : sep ∉ cs) :
    splitChars sep cs = [cs] := by
  induction cs with
  | nil => rfl
  | cons c cs ih =>
      rw [List.mem_cons, not_or] at hsep
      rw [splitChars, if_neg (Ne.symm hsep.1), ih hsep.2]

theorem splitChars_append_cons {sep : Char} {cs : List Char} (hsep : sep ∉ cs)
    (rest : List Char) : splitChars sep (cs ++ sep :: rest) = cs :: splitChars sep rest := by
  induction cs with
  | nil => rw [List.nil_append, splitChars, if_pos rfl]
  | cons c cs ih =>
      rw [List.mem_cons, not_or] at hsep
      rw [List.cons_append, splitChars, if_neg (Ne.symm hsep.1), ih hsep.2]

/-- Cutting undoes joining. -/
theorem splitChars_intercalate {sep : Char} {piece : List Char} {pieces : List (List Char)}
    (hsep : ∀ cs ∈ piece :: pieces, sep ∉ cs) :
    splitChars sep ([sep].intercalate (piece :: pieces)) = piece :: pieces := by
  induction pieces generalizing piece with
  | nil =>
      rw [List.intercalate_singleton]
      exact splitChars_of_not_mem (hsep piece List.mem_cons_self)
  | cons next pieces ih =>
      obtain ⟨hpiece, hrest⟩ := List.forall_mem_cons.mp hsep
      rw [List.intercalate_cons_cons, List.append_assoc, List.singleton_append,
        splitChars_append_cons hpiece, ih hrest]

theorem not_mem_of_mem_splitChars {sep : Char} {cs piece : List Char}
    (hpiece : piece ∈ splitChars sep cs) : sep ∉ piece := by
  induction cs generalizing piece with
  | nil =>
      rw [List.mem_singleton.mp hpiece]
      exact List.not_mem_nil
  | cons c cs ih =>
      unfold splitChars at hpiece
      split at hpiece
      · rcases List.mem_cons.mp hpiece with rfl | hrest
        · exact List.not_mem_nil
        · exact ih hrest
      next hne =>
        split at hpiece
        · rw [List.mem_singleton.mp hpiece, List.mem_singleton]
          exact Ne.symm hne
        next first rest hsplit =>
          rw [hsplit] at ih
          rcases List.mem_cons.mp hpiece with rfl | hrest
          · rw [List.mem_cons, not_or]
            exact ⟨Ne.symm hne, ih List.mem_cons_self⟩
          · exact ih (List.mem_cons_of_mem _ hrest)

theorem endsWith_slash {text : String} :
    endsWith "/" text = true ↔ text.toList.getLast? = some '/' := by
  rw [endsWith, dropEnding?, ← List.head?_reverse]
  cases text.toList.reverse with
  | nil => simp
  | cons last rest =>
      by_cases hlast : '/' = last
      · simp [← hlast]
      · simp [hlast, Ne.symm hlast]

/-- A joined text ends like its last piece. -/
theorem getLast?_intercalate {sep : Char} {piece : List Char} {pieces : List (List Char)}
    (hpieces : ∀ cs ∈ piece :: pieces, cs ≠ [] ∧ sep ∉ cs) :
    ∃ c, c ≠ sep ∧ ([sep].intercalate (piece :: pieces)).getLast? = some c := by
  induction pieces generalizing piece with
  | nil =>
      obtain ⟨hne, hsep⟩ := hpieces piece List.mem_cons_self
      refine ⟨piece.getLast hne, ?_, ?_⟩
      · exact fun heq => hsep (heq ▸ List.getLast_mem hne)
      · rw [List.intercalate_singleton, List.getLast?_eq_getLast_of_ne_nil hne]
  | cons next pieces ih =>
      obtain ⟨c, hc, hlast⟩ := ih (List.forall_mem_cons.mp hpieces).2
      refine ⟨c, hc, ?_⟩
      rw [List.intercalate_cons_cons, List.getLast?_append, hlast, Option.some_or]

end Text

namespace Disk

/-! ## Path names of places -/

/-- A piece of a path name that names an entry of a directory. -/
structure IsName (s : String) : Prop where
  nonempty : s ≠ ""
  noSlash : '/' ∉ s.toList
  notCurrent : s ≠ "."
  notParent : s ≠ ".."

theorem IsName.pieceComponent? {s : String} (hs : IsName s) :
    PathName.pieceComponent? s = some (.name s) := by
  simp [PathName.pieceComponent?, hs.nonempty, hs.notCurrent, hs.notParent]

theorem IsName.split {s : String} (hs : IsName s) : Text.split '/' s = [s] := by
  simp [Text.split, Text.splitChars_of_not_mem hs.noSlash]

variable {d : Disk} {place : Place}

theorem toList_pathName (place : Place) :
    (pathName place).text.toList = '/' :: ['/'].intercalate (place.map String.toList) := by
  simp [pathName, String.toList_append, String.toList_intercalate]

theorem startsWith_pathName (place : Place) : Text.startsWith "/" (pathName place).text = true := by
  simp [Text.startsWith, toList_pathName]

theorem text_pathName_ne (place : Place) : (pathName place).text ≠ "" := by
  intro hempty
  have hlist := toList_pathName place
  rw [hempty] at hlist
  cases hlist

theorem split_pathName (hnames : ∀ s ∈ place, IsName s) (hplace : place ≠ []) :
    Text.split '/' (pathName place).text = "" :: place := by
  cases place with
  | nil => exact absurd rfl hplace
  | cons s rest =>
      have hslash : ∀ cs ∈ s.toList :: rest.map String.toList, '/' ∉ cs := by
        intro cs hcs
        obtain ⟨t, ht, rfl⟩ := List.mem_map.mp (List.map_cons ▸ hcs)
        exact (hnames t ht).noSlash
      rw [Text.split, toList_pathName, List.map_cons, Text.splitChars, if_pos rfl,
        Text.splitChars_intercalate hslash]
      simp [Function.comp_def]

theorem split_pathName_nil : Text.split '/' (pathName []).text = ["", ""] := by decide +kernel

theorem components_pathName (hnames : ∀ s ∈ place, IsName s) :
    (pathName place).components = .root :: place.map .name := by
  have hpieces : place.filterMap PathName.pieceComponent? = place.map .name := by
    rw [← List.filterMap_eq_map]
    exact List.filterMap_congr fun s hs => (hnames s hs).pieceComponent?
  unfold PathName.components
  by_cases hplace : place = []
  · rw [hplace, split_pathName_nil]
    rfl
  · rw [split_pathName hnames hplace]
    simp [hplace, hpieces]

/-- The pieces of a canonical path name are the names of its place. -/
theorem pieces_pathName (hnames : ∀ s ∈ place, IsName s) (hplace : place ≠ []) :
    pieces (pathName place) = place := by
  have hfilter : ("" :: place).filter (· ≠ "") = place := by
    rw [List.filter_cons_of_neg (by simp), List.filter_eq_self]
    intro s hs
    simpa using (hnames s hs).nonempty
  have hends : Text.endsWith "/" (pathName place).text = false := by
    obtain ⟨s, rest, rfl⟩ := List.exists_cons_of_ne_nil hplace
    have hpieces : ∀ cs ∈ s.toList :: rest.map String.toList, cs ≠ [] ∧ '/' ∉ cs := by
      intro cs hcs
      obtain ⟨t, ht, rfl⟩ := List.mem_map.mp (List.map_cons ▸ hcs)
      exact ⟨by simpa using (hnames t ht).nonempty, (hnames t ht).noSlash⟩
    obtain ⟨c, hc, hlast⟩ := Text.getLast?_intercalate hpieces
    rw [← Bool.not_eq_true, Text.endsWith_slash, toList_pathName, List.map_cons, List.getLast?_cons,
      hlast]
    simpa using hc
  rw [pieces, split_pathName hnames hplace, hends]
  simpa using hfilter

theorem fileName?_pathName {name : String} (hnames : ∀ s ∈ place ++ [name], IsName s) :
    (pathName (place ++ [name])).fileName? = some name := by
  rw [PathName.fileName?, components_pathName hnames, List.map_append, List.map_singleton,
    ← List.cons_append, List.getLast?_concat]

theorem parent?_pathName {name : String} (hnames : ∀ s ∈ place ++ [name], IsName s) :
    (pathName (place ++ [name])).parent? = some (pathName place) := by
  rw [PathName.parent?, components_pathName hnames, List.map_append, List.map_singleton,
    ← List.cons_append, List.getLast?_concat, List.dropLast_concat]
  simp [PathName.ofComponents, pathName, Function.comp_def, PathName.Component.text]

/-! ## Following canonical path names -/

/-- The way to a place goes by names, and no link stands on it, nor at the place. -/
structure Direct (d : Disk) (place : Place) : Prop where
  names : ∀ s ∈ place, IsName s
  noLink : ∀ p, p <+: place → ∀ target, d.entry? p ≠ some (.link target)

/-- The path name is that of a place to which it leads without links. -/
def IsCanonical (d : Disk) (path : PathName) : Prop :=
  ∃ place, d.Direct place ∧ path = pathName place

theorem Direct.of_prefix {first : Place} (hplace : d.Direct place) (hfirst : first <+: place) :
    d.Direct first where
  names s hs := hplace.names s (hfirst.subset hs)
  noLink p hp := hplace.noLink p (hp.trans hfirst)

theorem direct_nil (d : Disk) : d.Direct [] where
  names := by simp
  noLink p hp target := by
    rw [List.prefix_nil.mp hp]
    simp [ entry?]

theorem Direct.concat (hplace : d.Direct place) {name : String} (hname : IsName name)
    (hentry : ∀ target, d.entry? (place ++ [name]) ≠ some (.link target)) :
    d.Direct (place ++ [name]) where
  names s hs := by
    rcases List.mem_append.mp hs with hs | hs
    · exact hplace.names s hs
    · rwa [List.mem_singleton.mp hs]
  noLink p hp := by
    rcases List.prefix_concat_iff.mp hp with rfl | hp
    · exact hentry
    · exact hplace.noLink p hp

/-- Along the pieces there are directories, the place where they lead apart. -/
def OpenTo (d : Disk) : Place → List String → Prop
  | _, [] => True
  | here, piece :: rest => d.isDirectory here = true ∧ OpenTo d (here ++ [piece]) rest

theorem OpenTo.isDirectory {here : Place} {first : List String} {piece : String}
    {rest : List String} (hopen : d.OpenTo here (first ++ piece :: rest)) :
    d.isDirectory (here ++ first) = true := by
  induction first generalizing here with
  | nil => simpa using hopen.1
  | cons next first ih => simpa using ih hopen.2

theorem OpenTo.left {here : Place} {first rest : List String}
    (hopen : d.OpenTo here (first ++ rest)) : d.OpenTo here first := by
  induction first generalizing here with
  | nil => trivial
  | cons next first ih => exact ⟨hopen.1, ih hopen.2⟩

/-- Without links in the way a walk arrives where the names say, or it fails. -/
theorem walk_eq_ok_iff {here : Place} {names : List String} (hplace : d.Direct (here ++ names))
    {w : Walk} :
    d.walk here names = .ok w ↔ w = .arrived (here ++ names) ∧ d.OpenTo here names := by
  induction names generalizing here with
  | nil => simp [walk, OpenTo, eq_comm]
  | cons piece rest ih =>
      have hpiece : IsName piece := hplace.names piece (by simp)
      have hassoc : here ++ piece :: rest = here ++ [piece] ++ rest := by simp
      rw [walk, OpenTo]
      cases hdirectory : d.isDirectory here with
      | false => simp
      | true =>
          simp only [Bool.not_true, Bool.false_eq_true, if_false, if_neg hpiece.notCurrent,
            if_neg hpiece.notParent, true_and]
          rw [hassoc] at hplace ⊢
          split
          next target htarget =>
            exact absurd htarget (hplace.noLink _ (List.prefix_append _ _) target)
          next => exact ih hplace
          next hnone =>
            cases rest with
            | nil => simp [OpenTo, eq_comm]
            | cons next rest => simp [OpenTo, Disk.isDirectory, hnone]

theorem locate_eq_ok_iff (hplace : d.Direct place) {there : Place} :
    d.locate (pathName place) = .ok there ↔ there = place ∧ d.OpenTo [] place := by
  rw [locate, if_neg (text_pathName_ne place), startOf, if_pos (startsWith_pathName place)]
  by_cases hnil : place = []
  · -- The path name of the root is a slash, which asks for a directory.
    have hpieces : pieces (pathName []) = ["."] := by decide +kernel
    rw [hnil, hpieces]
    simp [follow, walk, OpenTo, Disk.isDirectory, entry?, eq_comm]
  · rw [pieces_pathName hplace.names hnil, follow]
    have hwalk : ∀ {w}, d.walk [] place = .ok w ↔ w = .arrived place ∧ d.OpenTo [] place :=
      walk_eq_ok_iff hplace
    cases hresult : d.walk [] place with
    | error e =>
        have hclosed : ¬d.OpenTo [] place := by
          intro hopen
          rw [hwalk.mpr ⟨rfl, hopen⟩] at hresult
          cases hresult
        simp [hclosed]
    | ok w =>
        obtain ⟨rfl, hopen⟩ := hwalk.mp hresult
        simp [hopen, eq_comm]

/-- A canonical path name stands for its own place or for nothing. -/
theorem resolve_eq_ok_iff (hplace : d.Direct place) {there : Place} :
    d.resolve (pathName place) = .ok there ↔
      there = place ∧ d.OpenTo [] place ∧ (d.entry? place).isSome = true := by
  rw [resolve]
  cases hlocate : d.locate (pathName place) with
  | error e =>
      have hclosed : ¬d.OpenTo [] place := by
        intro hopen
        rw [(locate_eq_ok_iff hplace).mpr ⟨rfl, hopen⟩] at hlocate
        cases hlocate
      simp [hclosed, bind, Except.bind]
  | ok found =>
      obtain ⟨rfl, hopen⟩ := (locate_eq_ok_iff hplace).mp hlocate
      cases hentry : (d.entry? found).isSome <;> simp [hopen, hentry, bind, Except.bind, eq_comm]

theorem IsCanonical.of_resolve {path : PathName} (hpath : d.IsCanonical path)
    (hresolve : d.resolve path = .ok place) :
    d.Direct place ∧ path = pathName place ∧ d.OpenTo [] place := by
  obtain ⟨own, hown, rfl⟩ := hpath
  obtain ⟨rfl, hopen, -⟩ := (resolve_eq_ok_iff hown).mp hresolve
  exact ⟨hown, rfl, hopen⟩

theorem isSome_entry?_of_isDirectory (hdirectory : d.isDirectory place = true) :
    (d.entry? place).isSome = true := by
  unfold Disk.isDirectory at hdirectory
  split at hdirectory
  next hentry => rw [hentry]; rfl
  next => cases hdirectory

/-- The directory entry of a canonical path name is at its place. -/
theorem entryPlace_pathName {name : String} (hplace : d.Direct (place ++ [name]))
    (hopen : d.OpenTo [] (place ++ [name])) :
    d.entryPlace (pathName (place ++ [name])) = .ok (place ++ [name]) := by
  have hdirectory : d.isDirectory place = true := hopen.isDirectory
  have hresolve : d.resolve (pathName place) = .ok place :=
    (resolve_eq_ok_iff (hplace.of_prefix (List.prefix_append _ _))).mpr
      ⟨rfl, hopen.left, isSome_entry?_of_isDirectory hdirectory⟩
  rw [entryPlace, fileName?_pathName hplace.names, parent?_pathName hplace.names]
  simp [text_pathName_ne, hresolve, hdirectory, bind, Except.bind]

/-! ## Path names that a disk gives -/

theorem mem_pieces {path : PathName} {s : String} (hs : s ∈ pieces path) :
    s ≠ "" ∧ '/' ∉ s.toList := by
  have hsplit : ∀ s ∈ (Text.split '/' path.text).filter (· ≠ ""), s ≠ "" ∧ '/' ∉ s.toList := by
    intro s hs
    obtain ⟨hs, hne⟩ := List.mem_filter.mp hs
    obtain ⟨cs, hcs, rfl⟩ := List.mem_map.mp hs
    refine ⟨by simpa using hne, ?_⟩
    rw [String.toList_ofList]
    exact Text.not_mem_of_mem_splitChars hcs
  unfold pieces at hs
  dsimp only at hs
  split at hs
  · rcases List.mem_append.mp hs with hs | hs
    · exact hsplit s hs
    · rw [List.mem_singleton.mp hs]
      decide
  · exact hsplit s hs

/-- A walk from a place without links on the way leads to another such place, or stops at a
link in such a place. -/
theorem direct_of_walk {here : Place} {ps : List String} (hhere : d.Direct here)
    (hps : ∀ s ∈ ps, s ≠ "" ∧ '/' ∉ s.toList) {w : Walk} (hwalk : d.walk here ps = .ok w) :
    (∀ there, w = .arrived there → d.Direct there) ∧
      ∀ directory target rest, w = .atLink directory target rest →
        d.Direct directory ∧ rest ⊆ ps := by
  induction ps generalizing here with
  | nil =>
      cases hwalk
      refine ⟨?_, by simp⟩
      rintro there ⟨⟩
      exact hhere
  | cons piece rest ih =>
      obtain ⟨hpiece, hrest⟩ := List.forall_mem_cons.mp hps
      have hstep : ∀ {next : Place}, d.Direct next → d.walk next rest = .ok w →
          (∀ there, w = .arrived there → d.Direct there) ∧
            ∀ directory target left, w = .atLink directory target left →
              d.Direct directory ∧ left ⊆ piece :: rest := by
        intro next hnext hwalk
        obtain ⟨harrived, hlink⟩ := ih hnext hrest hwalk
        refine ⟨harrived, fun directory target left hw => ?_⟩
        obtain ⟨hdirectory, hleft⟩ := hlink directory target left hw
        exact ⟨hdirectory, List.subset_cons_of_subset _ hleft⟩
      rw [walk] at hwalk
      split at hwalk
      · cases hwalk
      · split at hwalk
        · exact hstep hhere hwalk
        · split at hwalk
          · exact hstep (hhere.of_prefix (List.dropLast_prefix _)) hwalk
          next hcurrent hparent =>
            have hname : IsName piece := ⟨hpiece.1, hpiece.2, hcurrent, hparent⟩
            split at hwalk
            · cases hwalk
              refine ⟨by simp, ?_⟩
              rintro directory target left ⟨⟩
              exact ⟨hhere, List.subset_cons_self _ _⟩
            next entry hnolink hentry =>
              refine hstep (hhere.concat hname fun target htarget => ?_) hwalk
              exact hnolink target (Option.some.inj (hentry.symm.trans htarget))
            next hnone =>
              split at hwalk
              · cases hwalk
                refine ⟨?_, by simp⟩
                rintro there ⟨⟩
                exact hhere.concat hname (by simp [hnone])
              · cases hwalk

theorem direct_of_follow {walks : Nat} {here there : Place} {ps : List String}
    (hhere : d.Direct here) (hps : ∀ s ∈ ps, s ≠ "" ∧ '/' ∉ s.toList)
    (hfollow : d.follow walks here ps = .ok there) : d.Direct there := by
  induction walks generalizing here ps with
  | zero => cases hfollow
  | succ walks ih =>
      rw [follow] at hfollow
      split at hfollow
      · cases hfollow
      next place hwalk =>
        cases hfollow
        exact (direct_of_walk hhere hps hwalk).1 _ rfl
      next directory target rest hwalk =>
        obtain ⟨hdirectory, hrest⟩ := (direct_of_walk hhere hps hwalk).2 _ _ _ rfl
        split at hfollow
        · cases hfollow
        · have hstart : d.Direct (startOf directory target) := by
            unfold startOf
            split
            · exact d.direct_nil
            · exact hdirectory
          refine ih hstart ?_ hfollow
          intro s hs
          rcases List.mem_append.mp hs with hs | hs
          · exact mem_pieces hs
          · exact hps s (hrest hs)

/-- No link stands on the way to the place that a path name stands for, if none stands on the
way to the working directory. -/
theorem direct_of_resolve (hhere : d.Direct d.workingDirectory) {path : PathName}
    (hresolve : d.resolve path = .ok place) : d.Direct place := by
  have hstart : d.Direct (startOf d.workingDirectory path) := by
    unfold startOf
    split
    · exact d.direct_nil
    · exact hhere
  rw [resolve, locate] at hresolve
  split at hresolve
  · cases hresolve
  · cases hfollow : d.follow (maxLinks + 1) (startOf d.workingDirectory path) (pieces path) with
    | error e =>
        rw [hfollow] at hresolve
        cases hresolve
    | ok there =>
        rw [hfollow] at hresolve
        cases hentry : (d.entry? there).isSome <;> simp [hentry, bind, Except.bind] at hresolve
        rw [← hresolve]
        exact direct_of_follow hstart (fun _ => mem_pieces) hfollow

theorem canonicalize_eq_ok_iff {path real : PathName} :
    d.canonicalize path = .ok real ↔
      ∃ place, d.resolve path = .ok place ∧ real = pathName place := by
  rw [canonicalize]
  cases d.resolve path <;> simp [Except.map, eq_comm]

/-- The path name that a disk gives in place of another one is canonical, if the working
directory is. -/
theorem isCanonical_of_canonicalize (hhere : d.Direct d.workingDirectory) {path real : PathName}
    (hreal : d.canonicalize path = .ok real) : d.IsCanonical real := by
  obtain ⟨place, hresolve, rfl⟩ := canonicalize_eq_ok_iff.mp hreal
  exact ⟨place, direct_of_resolve hhere hresolve, rfl⟩

end Disk

/-- A path that may be written is canonical. -/
theorem Workspace.isCanonical_of_validate {w : Workspace} {d : Disk} {path real : PathName}
    (hhere : d.Direct d.workingDirectory) (hreal : w.validate d path = .ok real) :
    d.IsCanonical real := by
  unfold validate canonical at hreal
  split at hreal
  · cases hreal
  next found hfound =>
    split at hfound
    next hcanonical =>
      cases hfound
      split at hreal
      · cases hreal
      · split at hreal
        · cases hreal
        · cases hreal
          exact d.isCanonical_of_canonicalize hhere hcanonical
    next => cases hfound

end CallMigration
