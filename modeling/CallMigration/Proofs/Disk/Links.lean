import CallMigration.Proofs.Disk.Replace
import CallMigration.Proofs.PathName

/-!
# Ways through links

A path is followed piece by piece, and a link puts its own pieces before those that are left.
`Leads` says so without a limit and counts the links instead, so a way can be cut after any of
its pieces. Two things follow. A path that leads to a file names an entry that is this file or
a link that leads to it. Putting a file in place of that entry moves no path that leads to
another file.
-/

namespace CallMigration.Disk

variable {d : Disk} {here there : Place} {ps qs : List String} {links : Nat}

/-! ## Ways -/

/-- The pieces lead from one place to another, through a number of links. -/
inductive Leads (d : Disk) : Nat → Place → List String → Place → Prop where
  | stay {here : Place} : Leads d 0 here [] here
  | current {links : Nat} {here there : Place} {rest : List String}
      (directory : d.isDirectory here = true) (onward : Leads d links here rest there) :
      Leads d links here ("." :: rest) there
  | parent {links : Nat} {here there : Place} {rest : List String}
      (directory : d.isDirectory here = true) (onward : Leads d links here.dropLast rest there) :
      Leads d links here (".." :: rest) there
  | enter {links : Nat} {here there : Place} {piece : String} {rest : List String} {e : Entry}
      (directory : d.isDirectory here = true) (name : piece ≠ "." ∧ piece ≠ "..")
      (entry : d.entry? (here ++ [piece]) = some e) (noLink : ∀ target, e ≠ .link target)
      (onward : Leads d links (here ++ [piece]) rest there) :
      Leads d links here (piece :: rest) there
  /-- Nothing stands where the last piece leads. -/
  | free {here : Place} {piece : String}
      (directory : d.isDirectory here = true) (name : piece ≠ "." ∧ piece ≠ "..")
      (entry : d.entry? (here ++ [piece]) = none) : Leads d 0 here [piece] (here ++ [piece])
  | link {links : Nat} {here there : Place} {piece : String} {rest : List String}
      {target : PathName} (directory : d.isDirectory here = true)
      (name : piece ≠ "." ∧ piece ≠ "..")
      (entry : d.entry? (here ++ [piece]) = some (.link target)) (text : target.text ≠ "")
      (onward : Leads d links (startOf here target) (pieces target ++ rest) there) :
      Leads d (links + 1) here (piece :: rest) there

/-- A way without links is a walk that arrives, and a way with links is a walk to the first
of them and a way from there. -/
theorem leads_iff_walk : d.Leads links here ps there ↔
    (links = 0 ∧ d.walk here ps = .ok (.arrived there)) ∨
      ∃ left directory target rest, links = left + 1 ∧
        d.walk here ps = .ok (.atLink directory target rest) ∧ target.text ≠ "" ∧
        d.Leads left (startOf directory target) (pieces target ++ rest) there := by
  constructor
  · intro hway
    induction hway with
    | stay => exact .inl ⟨rfl, rfl⟩
    | current directory _ ih => simpa [walk, directory] using ih
    | parent directory _ ih => simpa [walk, directory] using ih
    | @enter _ _ _ _ _ e directory name entry noLink _ ih =>
        cases e with
        | link target => exact absurd rfl (noLink target)
        | file => simpa [walk, directory, name, entry] using ih
        | directory => simpa [walk, directory, name, entry] using ih
    | free directory name entry => simp [walk, directory, name, entry]
    | link directory name entry text onward =>
        exact .inr ⟨_, _, _, _, rfl, by simp [walk, directory, name, entry], text, onward⟩
  · intro hwalk
    induction ps generalizing here with
    | nil =>
        rcases hwalk with ⟨rfl, hwalk⟩ | ⟨_, _, _, _, _, hwalk, -⟩
        · cases hwalk
          exact .stay
        · cases hwalk
    | cons piece rest ih =>
        rw [walk] at hwalk
        split at hwalk
        · simp at hwalk
        next hdirectory =>
          have directory : d.isDirectory here = true := by simpa using hdirectory
          split at hwalk
          next hpiece => exact hpiece ▸ .current directory (ih hwalk)
          next hcurrent =>
            split at hwalk
            next hpiece => exact hpiece ▸ .parent directory (ih hwalk)
            next hparent =>
              split at hwalk
              next target entry =>
                rcases hwalk with ⟨-, hwalk⟩ | ⟨left, _, _, _, rfl, hwalk, text, onward⟩
                · cases hwalk
                · cases hwalk
                  exact .link directory ⟨hcurrent, hparent⟩ entry text onward
              next e noLink entry =>
                exact .enter directory ⟨hcurrent, hparent⟩ entry
                  (fun target he => noLink target he) (ih hwalk)
              next entry =>
                split at hwalk
                next hrest =>
                  rcases hwalk with ⟨rfl, hwalk⟩ | ⟨_, _, _, _, _, hwalk, -⟩
                  · cases hwalk
                    rw [List.isEmpty_iff.mp hrest]
                    exact .free directory ⟨hcurrent, hparent⟩ entry
                  · cases hwalk
                next => simp at hwalk

theorem follow_eq_ok_iff {walks : Nat} :
    d.follow walks here ps = .ok there ↔ ∃ links < walks, d.Leads links here ps there := by
  induction walks generalizing here ps with
  | zero => simp [follow]
  | succ walks ih =>
      rw [follow]
      constructor
      · intro hfollow
        split at hfollow
        · cases hfollow
        next hwalk =>
          cases hfollow
          exact ⟨0, walks.succ_pos, leads_iff_walk.mpr (.inl ⟨rfl, hwalk⟩)⟩
        next directory target rest hwalk =>
          split at hfollow
          · cases hfollow
          next text =>
            obtain ⟨links, hlinks, onward⟩ := ih.mp hfollow
            refine ⟨links + 1, Nat.succ_lt_succ hlinks, leads_iff_walk.mpr (.inr ?_)⟩
            exact ⟨links, directory, target, rest, rfl, hwalk, text, onward⟩
      · rintro ⟨links, hlinks, hway⟩
        rcases leads_iff_walk.mp hway with
          ⟨-, hwalk⟩ | ⟨left, directory, target, rest, rfl, hwalk, text, onward⟩
        · rw [hwalk]
        · rw [hwalk]
          exact (if_neg text).trans (ih.mpr ⟨left, Nat.lt_of_succ_lt_succ hlinks, onward⟩)

namespace Leads

/-- Where pieces lead is settled. -/
theorem unique {links' : Nat} {there' : Place} (hway : d.Leads links here ps there)
    (hway' : d.Leads links' here ps there') : there = there' := by
  have hfollow := follow_eq_ok_iff.mpr ⟨links, Nat.lt_succ_of_le (Nat.le_add_right _ links'), hway⟩
  have hfollow' := follow_eq_ok_iff.mpr ⟨links', Nat.lt_succ_of_le (Nat.le_add_left _ links), hway'⟩
  exact Except.ok.inj (hfollow.symm.trans hfollow')

/-- Only a directory has a way onward. -/
theorem isDirectory (hway : d.Leads links here ps there) (hps : ps ≠ []) :
    d.isDirectory here = true := by
  cases hway with
  | stay => exact absurd rfl hps
  | current directory => exact directory
  | parent directory => exact directory
  | enter directory => exact directory
  | free directory => exact directory
  | link directory => exact directory

theorem of_current (hway : d.Leads links here ("." :: ps) there) :
    d.isDirectory here = true ∧ d.Leads links here ps there := by
  refine ⟨hway.isDirectory (List.cons_ne_nil _ _), ?_⟩
  generalize hpiece : "." = piece at hway
  cases hway with
  | current _ onward => exact onward
  | parent => exact absurd hpiece (by decide)
  | enter _ name => exact absurd hpiece.symm name.1
  | free _ name => exact absurd hpiece.symm name.1
  | link _ name => exact absurd hpiece.symm name.1

/-- A way can be cut after any of its pieces. -/
theorem exists_of_append (hway : d.Leads links here (ps ++ qs) there) :
    ∃ first second middle, links = first + second ∧ d.Leads first here ps middle ∧
      d.Leads second middle qs there := by
  generalize hall : ps ++ qs = all at hway
  induction hway generalizing ps with
  | stay =>
      obtain ⟨rfl, rfl⟩ := List.append_eq_nil_iff.mp hall
      exact ⟨0, 0, _, rfl, .stay, .stay⟩
  | current directory onward ih =>
      rcases List.append_eq_cons_iff.mp hall with ⟨rfl, rfl⟩ | ⟨ps, rfl, hrest⟩
      · exact ⟨0, _, _, (Nat.zero_add _).symm, .stay, .current directory onward⟩
      · obtain ⟨first, second, middle, rfl, hfirst, hsecond⟩ := ih hrest.symm
        exact ⟨first, second, middle, rfl, .current directory hfirst, hsecond⟩
  | parent directory onward ih =>
      rcases List.append_eq_cons_iff.mp hall with ⟨rfl, rfl⟩ | ⟨ps, rfl, hrest⟩
      · exact ⟨0, _, _, (Nat.zero_add _).symm, .stay, .parent directory onward⟩
      · obtain ⟨first, second, middle, rfl, hfirst, hsecond⟩ := ih hrest.symm
        exact ⟨first, second, middle, rfl, .parent directory hfirst, hsecond⟩
  | enter directory name entry noLink onward ih =>
      rcases List.append_eq_cons_iff.mp hall with ⟨rfl, rfl⟩ | ⟨ps, rfl, hrest⟩
      · exact ⟨0, _, _, (Nat.zero_add _).symm, .stay, .enter directory name entry noLink onward⟩
      · obtain ⟨first, second, middle, rfl, hfirst, hsecond⟩ := ih hrest.symm
        exact ⟨first, second, middle, rfl, .enter directory name entry noLink hfirst, hsecond⟩
  | free directory name entry =>
      rcases List.append_eq_cons_iff.mp hall with ⟨rfl, rfl⟩ | ⟨ps, rfl, hrest⟩
      · exact ⟨0, 0, _, rfl, .stay, .free directory name entry⟩
      · obtain ⟨rfl, rfl⟩ := List.append_eq_nil_iff.mp hrest.symm
        exact ⟨0, 0, _, rfl, .free directory name entry, .stay⟩
  | link directory name entry text onward ih =>
      rcases List.append_eq_cons_iff.mp hall with ⟨rfl, rfl⟩ | ⟨ps, rfl, rfl⟩
      · exact ⟨0, _, _, (Nat.zero_add _).symm, .stay, .link directory name entry text onward⟩
      · obtain ⟨first, second, middle, rfl, hfirst, hsecond⟩ := ih (List.append_assoc ..)
        exact ⟨first + 1, second, middle, Nat.add_right_comm ..,
          .link directory name entry text hfirst, hsecond⟩

theorem exists_of_cons {piece : String} (hway : d.Leads links here (piece :: ps) there) :
    ∃ first second middle, links = first + second ∧ d.Leads first here [piece] middle ∧
      d.Leads second middle ps there :=
  exists_of_append hway

theorem append {second : Nat} {middle : Place} (hfirst : d.Leads links here ps middle)
    (hsecond : d.Leads second middle qs there) :
    d.Leads (links + second) here (ps ++ qs) there := by
  induction hfirst with
  | stay => rwa [Nat.zero_add]
  | current directory _ ih => exact .current directory (ih hsecond)
  | parent directory _ ih => exact .parent directory (ih hsecond)
  | enter directory name entry noLink _ ih => exact .enter directory name entry noLink (ih hsecond)
  | free directory name entry =>
      -- Where nothing stands there is no way onward.
      cases qs with
      | nil =>
          cases hsecond
          exact .free directory name entry
      | cons =>
          have hdirectory := hsecond.isDirectory (List.cons_ne_nil _ _)
          simp [Disk.isDirectory, entry] at hdirectory
  | link directory name entry text _ ih =>
      rw [Nat.add_right_comm]
      exact .link directory name entry text (List.append_assoc .. ▸ ih hsecond)

/-- Pieces that stay where they are do not count on the way to a directory. -/
theorem filter_iff (hthere : d.isDirectory there = true) :
    d.Leads links here (ps.filter (· ≠ ".")) there ↔ d.Leads links here ps there := by
  induction ps generalizing links here with
  | nil => rfl
  | cons piece rest ih =>
      by_cases hpiece : piece = "."
      · rw [List.filter_cons_of_neg (by simpa using hpiece), hpiece, ih]
        constructor
        · intro hway
          refine .current ?_ hway
          by_cases hrest : rest = []
          · subst hrest
            cases hway
            exact hthere
          · exact hway.isDirectory hrest
        · intro hway
          exact hway.of_current.2
      · rw [List.filter_cons_of_pos (by simpa using hpiece)]
        constructor
        · intro hway
          obtain ⟨first, second, middle, rfl, hfirst, hsecond⟩ := hway.exists_of_cons
          exact hfirst.append (ih.mp hsecond)
        · intro hway
          obtain ⟨first, second, middle, rfl, hfirst, hsecond⟩ := hway.exists_of_cons
          exact hfirst.append (ih.mpr hsecond)

end Leads

/-! ## Path names -/

theorem resolve_eq_ok_iff_leads {path : PathName} : d.resolve path = .ok there ↔
    path.text ≠ "" ∧ (d.entry? there).isSome = true ∧ ∃ links < maxLinks + 1,
      d.Leads links (startOf d.workingDirectory path) (pieces path) there := by
  rw [← follow_eq_ok_iff, resolve, locate]
  by_cases htext : path.text = ""
  · simp [htext, bind, Except.bind]
  · rw [if_neg htext]
    cases d.follow (maxLinks + 1) (startOf d.workingDirectory path) (pieces path) with
    | error e => simp [bind, Except.bind]
    | ok found =>
        simp only [bind, Except.bind]
        grind

/-- The piece that a component adds to a way. -/
def stepPiece? : PathName.Component → Option String
  | .root | .current => none
  | .parent => some ".."
  | .name s => some s

theorem filter_pieces (path : PathName) :
    (pieces path).filter (· ≠ ".") = path.components.filterMap stepPiece? := by
  have hpiece : ∀ s, (PathName.pieceComponent? s).bind stepPiece? =
      if s = "" ∨ s = "." then none else some s := by
    intro s
    unfold PathName.pieceComponent?
    split
    · rfl
    · split
      next hparent => rw [hparent]; rfl
      next => rfl
  have hrest : ∀ names : List String,
      (names.filterMap PathName.pieceComponent?).filterMap stepPiece? =
        (names.filter (· ≠ "")).filter (· ≠ ".") := by
    intro names
    rw [List.filterMap_filterMap, List.filter_filter, ← List.filterMap_eq_filter]
    apply List.filterMap_congr
    intro s _
    rw [hpiece]
    by_cases hs : s = "" <;> by_cases hs' : s = "." <;> simp [hs, hs', Option.guard]
  have hpieces : (pieces path).filter (· ≠ ".") =
      ((Text.split '/' path.text).filter (· ≠ "")).filter (· ≠ ".") := by
    unfold pieces
    dsimp only
    split <;> simp
  rw [hpieces, PathName.components]
  cases Text.split '/' path.text with
  | nil => rfl
  | cons first rest =>
      dsimp only
      rw [List.filterMap_append, hrest]
      split
      next hfirst => simp [hfirst, stepPiece?]
      next hcurrent =>
        split
        next hfirst => simp [hfirst.1, stepPiece?]
        next =>
          have hlead : (PathName.pieceComponent? first).toList =
              [first].filterMap PathName.pieceComponent? := by
            cases hfirst : PathName.pieceComponent? first <;> simp [hfirst]
          rw [hlead, hrest, ← List.filter_append, ← List.filter_append]
          rfl

theorem startOf_congr {p q : PathName} (hsame : p.isAbsolute = q.isAbsolute) (here : Place) :
    startOf here p = startOf here q := by
  rw [Bool.eq_iff_iff, PathName.isAbsolute_iff_startsWith, PathName.isAbsolute_iff_startsWith,
    ← Bool.eq_iff_iff] at hsame
  rw [startOf, startOf, hsame]

/-- A path name leads to a directory when its components make the steps of a way there. -/
theorem resolve_of_leads {path : PathName} (htext : path.text ≠ "")
    (hdirectory : d.isDirectory there = true) (hlinks : links < maxLinks + 1)
    (hway : d.Leads links (startOf d.workingDirectory path) ps there)
    (hsteps : ps.filter (· ≠ ".") = path.components.filterMap stepPiece?) :
    d.resolve path = .ok there := by
  refine resolve_eq_ok_iff_leads.mpr
    ⟨htext, isSome_entry?_of_isDirectory hdirectory, links, hlinks, ?_⟩
  rw [← Leads.filter_iff hdirectory, filter_pieces, ← hsteps, Leads.filter_iff hdirectory]
  exact hway

/-- The last piece of a path name that leads to a file is the last of its components, and the
pieces before it make the steps of the others. -/
theorem exists_pieces_of_leads {path : PathName} {front : List PathName.Component} {name : String}
    (hcomponents : path.components = front ++ [.name name])
    (hway : d.Leads links here (pieces path) there) (hthere : d.isDirectory there = false) :
    ∃ first, pieces path = first ++ [name] ∧
      first.filter (· ≠ ".") = front.filterMap stepPiece? := by
  have hsteps := filter_pieces path
  rw [hcomponents, List.filterMap_append] at hsteps
  rcases List.eq_nil_or_concat' (pieces path) with hnil | ⟨first, last, hpieces⟩
  · simp [hnil, stepPiece?] at hsteps
  · rw [hpieces] at hway hsteps
    have hlast : last ≠ "." := by
      rintro rfl
      obtain ⟨_, _, middle, rfl, -, hstay⟩ := hway.exists_of_append
      obtain ⟨hmiddle, hstay⟩ := hstay.of_current
      cases hstay
      exact absurd hmiddle (by simp [hthere])
    rw [List.filter_append, List.filter_cons_of_pos (by simpa using hlast), List.filter_nil]
      at hsteps
    obtain ⟨hfirst, hname⟩ := List.append_inj' hsteps rfl
    refine ⟨first, ?_, hfirst⟩
    rw [hpieces, List.singleton_inj.mp hname]

/-- The directory of a path name is where its pieces before the last one lead. -/
theorem resolve_parent {path : PathName} {front : List PathName.Component} {name : String}
    (hcomponents : path.components = front ++ [.name name])
    (hdirectory : d.isDirectory there = true) (hlinks : links < maxLinks + 1)
    (hway : d.Leads links (startOf d.workingDirectory path) ps there)
    (hsteps : ps.filter (· ≠ ".") = front.filterMap stepPiece?) {parent : PathName}
    (hparent : path.parent? = some parent) :
    d.resolve (if parent.text = "" then ⟨"."⟩ else parent) = .ok there := by
  have hwritten : parent = PathName.ofComponents front := by
    simpa [PathName.parent?, hcomponents, eq_comm] using hparent
  have hwritable : PathName.IsWritable front := by
    have hdrop := (PathName.isWritable_components path).dropLast
    rwa [hcomponents, List.dropLast_concat] at hdrop
  have hread : parent.components = front := by
    rw [hwritten, PathName.components_ofComponents hwritable]
  split
  next hempty =>
    have hfront : front = [] := by
      obtain ⟨text⟩ := parent
      cases hempty
      exact hread.symm.trans (by decide)
    have hdot : PathName.isAbsolute ⟨"."⟩ = false := by decide
    have hsame : path.isAbsolute = PathName.isAbsolute ⟨"."⟩ := by
      rw [hdot, PathName.isAbsolute, hcomponents, hfront]
      simp
    refine resolve_of_leads (by decide) hdirectory hlinks (startOf_congr hsame _ ▸ hway) ?_
    rw [hsteps, hfront]
    decide
  next htext =>
    have hfront : front ≠ [] := by
      rintro rfl
      exact htext (hwritten ▸ rfl)
    have hsame : path.isAbsolute = parent.isAbsolute := by
      rw [PathName.isAbsolute, PathName.isAbsolute, hcomponents, hread,
        List.head?_append_of_ne_nil _ hfront]
    exact resolve_of_leads htext hdirectory hlinks (startOf_congr hsame _ ▸ hway)
      (hread.symm ▸ hsteps)

/-- A name that is joined to a path name is the last piece, after pieces that make its steps. -/
theorem exists_pieces_join {path : PathName} {name : String} (htext : path.text ≠ "")
    (hname : IsName name) :
    ∃ front, pieces (path.join ⟨name⟩) = front ++ [name] ∧
      front.filter (· ≠ ".") = (pieces path).filter (· ≠ ".") := by
  obtain ⟨front, hjoin, hfront⟩ := PathName.split_join htext hname
  have hends : Text.endsWith "/" (path.join ⟨name⟩).text = false := by
    obtain ⟨last, hlast⟩ : ∃ last, name.toList.getLast? = some last := by
      rw [← Option.isSome_iff_exists, List.getLast?_isSome]
      simpa using hname.nonempty
    have hslash : last ≠ '/' := fun heq => hname.noSlash (heq ▸ List.mem_of_getLast? hlast)
    rw [← Bool.not_eq_true, Text.endsWith_slash, PathName.text_join htext hname]
    split <;> simp [String.toList_append, List.getLast?_cons, hlast, hslash]
  refine ⟨front.filter (· ≠ ""), ?_, ?_⟩
  · simp [pieces, hjoin, hends, hname.nonempty]
  · rcases hfront with ⟨hp, hslash⟩ | ⟨hp, hslash⟩ <;> simp [pieces, hp, hslash]

/-- From a directory a name leads to the entry of that name, unless it is a link. -/
theorem resolve_join {path : PathName} {name : String} (hresolve : d.resolve path = .ok there)
    (hdirectory : d.isDirectory there = true) (hname : IsName name) {e : Entry}
    (hentry : d.entry? (there ++ [name]) = some e) (hlink : ∀ target, e ≠ .link target) :
    d.resolve (path.join ⟨name⟩) = .ok (there ++ [name]) := by
  obtain ⟨htext, -, links, hlinks, hway⟩ := resolve_eq_ok_iff_leads.mp hresolve
  obtain ⟨front, hpieces, hfront⟩ := exists_pieces_join htext hname
  have hjoined := PathName.text_join_ne htext hname
  have hstart : startOf d.workingDirectory (path.join ⟨name⟩) = startOf d.workingDirectory path :=
    startOf_congr (PathName.isAbsolute_join htext hname) _
  have hfirst : d.Leads links (startOf d.workingDirectory path) front there := by
    rwa [← Leads.filter_iff hdirectory, hfront, Leads.filter_iff hdirectory]
  have hlast : d.Leads 0 there [name] (there ++ [name]) :=
    .enter hdirectory ⟨hname.notCurrent, hname.notParent⟩ hentry hlink .stay
  refine resolve_eq_ok_iff_leads.mpr ⟨hjoined, by rw [hentry]; rfl, links, hlinks, ?_⟩
  rw [hpieces, hstart]
  exact hfirst.append hlast

/-- A link stands at the place, and it leads to another place. -/
def LinksTo (d : Disk) (place there : Place) : Prop :=
  ∃ directory name target links, place = directory ++ [name] ∧
    d.entry? place = some (.link target) ∧
    d.Leads links (startOf directory target) (pieces target) there

/-- A path that leads to a file names this file or a link to it. -/
theorem exists_entryPlace {path : PathName} (hresolve : d.resolve path = .ok there)
    {contents : ByteArray} {mode : Nat} (hfile : d.entry? there = some (.file contents mode)) :
    ∃ place, d.entryPlace path = .ok place ∧ (place = there ∨ d.LinksTo place there) := by
  unfold entryPlace
  split
  next => exact ⟨there, hresolve, .inl rfl⟩
  next name hname =>
    obtain ⟨front, hcomponents⟩ : ∃ front, path.components = front ++ [.name name] := by
      unfold PathName.fileName? at hname
      split at hname
      next hlast =>
        cases hname
        exact List.getLast?_eq_some_iff.mp hlast
      next => cases hname
    have hparent : path.parent? = some (PathName.ofComponents front) := by
      simp [PathName.parent?, hcomponents]
    obtain ⟨-, -, links, hlinks, hway⟩ := resolve_eq_ok_iff_leads.mp hresolve
    have hthere : d.isDirectory there = false := by simp [Disk.isDirectory, hfile]
    obtain ⟨first, hpieces, hsteps⟩ := exists_pieces_of_leads hcomponents hway hthere
    rw [hpieces] at hway
    obtain ⟨before, after, directory, rfl, hbefore, hafter⟩ := hway.exists_of_append
    have hdirectory := hafter.isDirectory (List.cons_ne_nil _ _)
    have hfound := resolve_parent hcomponents hdirectory (by omega) hbefore hsteps hparent
    refine ⟨directory ++ [name], ?_, ?_⟩
    · simp [hparent, hfound, hdirectory, bind, Except.bind]
    · have hsolid := PathName.isSolid_of_mem_components
        (hcomponents ▸ List.mem_append_right front List.mem_cons_self)
      generalize hlast : [name] = last at hafter
      cases hafter with
      | stay => cases hlast
      | current => exact absurd (List.cons.inj hlast).1 hsolid.text_ne.2
      | parent => exact absurd (List.cons.inj hlast).1 hsolid.ne_parent
      | enter _ _ _ _ onward =>
          cases hlast
          cases onward
          exact .inl rfl
      | free _ _ hfree =>
          cases hlast
          cases hfree.symm.trans hfile
      | link _ _ hlink _ onward =>
          cases hlast
          exact .inr ⟨directory, name, _, _, rfl, hlink, List.append_nil _ ▸ onward⟩

/-! ## Replaced entries -/

theorem isDirectory_set {place : Place} {contents : ByteArray} {mode : Nat} (hplace : place ≠ [])
    (hold : d.isDirectory place = false) (p : Place) :
    (d.set place (.file contents mode)).isDirectory p = d.isDirectory p := by
  by_cases hp : p = place
  · rw [hp, hold, Disk.isDirectory, entry?_set hplace, if_pos rfl]
  · rw [Disk.isDirectory, Disk.isDirectory, entry?_set hplace, if_neg hp]

/-- With a file in place of a link to a file, only the ways to that file are lost. -/
theorem Leads.set_of_linksTo {place file : Place} (hlink : d.LinksTo place file)
    (hfile : d.isDirectory file = false) {contents : ByteArray} {mode : Nat}
    (hway : d.Leads links here ps there) (hne : there ≠ file) :
    (d.set place (.file contents mode)).Leads links here ps there := by
  obtain ⟨directory, name, target, through, rfl, hentry, hthrough⟩ := hlink
  have hplace : directory ++ [name] ≠ [] := by simp
  have hold : d.isDirectory (directory ++ [name]) = false := by simp [Disk.isDirectory, hentry]
  have hsame : ∀ p, (d.set (directory ++ [name]) (.file contents mode)).isDirectory p =
      d.isDirectory p := isDirectory_set hplace hold
  induction hway with
  | stay => exact .stay
  | current hdirectory _ ih => exact .current (hsame _ ▸ hdirectory) (ih hne)
  | parent hdirectory _ ih => exact .parent (hsame _ ▸ hdirectory) (ih hne)
  | enter hdirectory hname hnext hnoLink _ ih =>
      refine .enter (hsame _ ▸ hdirectory) hname ?_ hnoLink (ih hne)
      rw [entry?_set hplace, if_neg, hnext]
      intro heq
      exact hnoLink target (Option.some.inj ((heq ▸ hnext).symm.trans hentry))
  | free hdirectory hname hnext =>
      refine .free (hsame _ ▸ hdirectory) hname ?_
      rw [entry?_set hplace, if_neg, hnext]
      intro heq
      cases (heq ▸ hnext).symm.trans hentry
  | @link _ _ _ _ rest _ hdirectory hname hnext htext onward ih =>
      refine .link (hsame _ ▸ hdirectory) hname ?_ htext (ih hne)
      rw [entry?_set hplace, if_neg, hnext]
      -- A way through the replaced link ends in the file, since no way leads on from there.
      intro heq
      obtain ⟨rfl, hpiece⟩ := List.append_inj' heq rfl
      cases (heq ▸ hnext).symm.trans hentry
      obtain ⟨_, _, middle, -, hfirst, hrest⟩ := onward.exists_of_append
      cases hfirst.unique hthrough
      have hend : rest = [] := by
        by_contra hmore
        cases hfile.symm.trans (hrest.isDirectory hmore)
      subst hend
      cases hrest
      exact hne rfl

/-- Replacing a file moves no path that leads to another one, also when the path names a link to
the file and the link is what is replaced. -/
theorem resolve_of_replaceFile {path other : PathName} {file : Place} {old contents : ByteArray}
    {mode : Nat} {d' : Disk} (hpath : d.resolve path = .ok file)
    (hfile : d.entry? file = some (.file old mode))
    (hreplace : d.replaceFile path contents = .ok d') {held : ByteArray} {mode' : Nat}
    (hother : d.resolve other = .ok there) (hheld : d.entry? there = some (.file held mode'))
    (hne : there ≠ file) :
    d'.resolve other = .ok there ∧ d'.entry? there = some (.file held mode') := by
  obtain ⟨place, hplace, hleads⟩ := exists_entryPlace hpath hfile
  obtain ⟨new, rfl⟩ : ∃ new, d' = d.set place (.file contents new) := by
    simp only [replaceFile, hplace, bind, Except.bind] at hreplace
    split at hreplace
    · cases hreplace
    · exact ⟨_, (Except.ok.inj hreplace).symm⟩
  rcases hleads with rfl | hlink
  · refine ⟨((sameTree_set hfile).resolve other).trans hother, ?_⟩
    rw [entry?_set (ne_nil_of_file hfile), if_neg hne, hheld]
  · have hkept : Disk.entry? (d.set place (.file contents new)) there =
        some (.file held mode') := by
      obtain ⟨_, _, target, _, rfl, hentry, -⟩ := hlink
      rw [entry?_set (by simp), if_neg, hheld]
      rintro rfl
      cases hheld.symm.trans hentry
    obtain ⟨htext, -, links, hlinks, hway⟩ := resolve_eq_ok_iff_leads.mp hother
    refine ⟨resolve_eq_ok_iff_leads.mpr ⟨htext, by rw [hkept]; rfl, links, hlinks, ?_⟩, hkept⟩
    exact hway.set_of_linksTo hlink (by simp [Disk.isDirectory, hfile]) hne

end CallMigration.Disk
