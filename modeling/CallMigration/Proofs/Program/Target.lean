import CallMigration.Proofs.Program.Route
import CallMigration.Proofs.Scope.Shared
import Mathlib.Data.List.Find

/-!
# Files of specifiers

A specifier that leads down to a name stands for the first file that the program has at that
place, with a source extension after the name, or as an index in the directory of the name. The
places are told by text, and that goes wrong at one place: for the directory from which all path
names start the text is empty, and an index file in it is looked for at the root.
-/

namespace CallMigration

namespace Text

theorem dropEnding?_eq_some_iff {ending text stem : String} :
    dropEnding? ending text = some stem ↔ text = stem ++ ending := by
  have hends : ending.toList.reverse.isPrefixOf text.toList.reverse = true ↔
      ending.toList <:+ text.toList := by
    rw [List.isPrefixOf_iff_prefix, List.reverse_prefix]
  unfold dropEnding?
  constructor
  · intro hstem
    split at hstem
    next hreversed =>
      obtain ⟨before, hbefore⟩ := hends.mp hreversed
      cases hstem
      rw [← String.toList_inj, String.toList_append, String.toList_ofList, ← String.length_toList,
        ← String.length_toList, ← hbefore, List.length_append, Nat.add_sub_cancel,
        List.take_left]
    · cases hstem
  · rintro rfl
    rw [if_pos (hends.mpr ⟨stem.toList, (String.toList_append).symm⟩)]
    simp [← String.length_toList]

/-- An ending without a slash is one of what stands after the last slash. -/
theorem dropEnding?_append {ending lead : String} (hending : '/' ∉ ending.toList)
    (hlead : lead = "" ∨ ∃ before, lead = before ++ "/") (last : String) :
    dropEnding? ending (lead ++ last) = (dropEnding? ending last).map (lead ++ ·) := by
  ext stem
  rw [dropEnding?_eq_some_iff, Option.map_eq_some_iff]
  constructor
  · intro htext
    rcases hlead with rfl | ⟨before, rfl⟩
    · exact ⟨stem, dropEnding?_eq_some_iff.mpr (by simpa using htext), by simp⟩
    · have hlists : before.toList ++ '/' :: last.toList = stem.toList ++ ending.toList := by
        simpa [← String.toList_inj] using htext
      rcases List.append_eq_append_iff.mp hlists with ⟨rest, hstem, hrest⟩ | ⟨rest, -, hrest⟩
      · cases rest with
        | nil =>
            rw [List.nil_append] at hrest
            exact absurd (hrest ▸ List.mem_cons_self) hending
        | cons c rest =>
            obtain ⟨rfl, hlast⟩ := List.cons.inj hrest
            refine ⟨String.ofList rest, dropEnding?_eq_some_iff.mpr ?_, ?_⟩
            · simp [← String.toList_inj, hlast]
            · simp [← String.toList_inj, hstem]
      · exact absurd (hrest ▸ List.mem_append_right _ List.mem_cons_self) hending
  · rintro ⟨inner, hinner, rfl⟩
    rw [dropEnding?_eq_some_iff.mp hinner, String.append_assoc]

/-- Joined names are the last ones after a beginning that ends with a slash. -/
theorem exists_lead_intercalate (dir : List String) :
    ∃ lead, (lead = "" ∨ ∃ before, lead = before ++ "/") ∧ ∀ names, names ≠ [] →
      "/".intercalate (dir ++ names) = lead ++ "/".intercalate names := by
  by_cases hdir : dir = []
  · exact ⟨"", .inl rfl, fun names _ => by simp [hdir]⟩
  · exact ⟨"/".intercalate dir ++ "/", .inr ⟨_, rfl⟩,
      fun names hnames => String.intercalate_append_of_ne_nil hdir hnames⟩

end Text

namespace PathName

theorem route_absolute (p : PathName) : p.route.absolute = p.isAbsolute := by
  obtain ⟨lead, solid, hcomponents, hlead, hsolid⟩ := p.exists_lead
  have hkept : ∀ (cs : List Component) (r : Route), (∀ c ∈ cs, c ∈ solid) →
      (cs.foldl Route.go r).absolute = r.absolute := by
    intro cs
    induction cs with
    | nil => exact fun _ _ => rfl
    | cons c cs ih =>
        intro r hcs
        obtain ⟨hc, hcs⟩ := List.forall_mem_cons.mp hcs
        rw [List.foldl_cons, ih _ hcs]
        rcases hsolid c hc with rfl | ⟨s, rfl, -⟩
        · rw [Route.go]
          split <;> rfl
        · rfl
  rw [route, isAbsolute, hcomponents, List.foldl_append, hkept solid _ fun _ => id]
  rcases hlead with rfl | rfl | rfl
  · cases solid with
    | nil => rfl
    | cons c cs =>
        rcases hsolid c List.mem_cons_self with rfl | ⟨s, rfl, -⟩ <;> rfl
  · rfl
  · rfl

/-- The names of a route are names of the path. -/
theorem isSolid_of_mem_route {p : PathName} {s : String} (hs : s ∈ p.route.names) :
    (Component.name s).IsSolid := by
  have hnames : ∀ (cs : List Component) (r : Route), s ∈ (cs.foldl Route.go r).names →
      s ∈ r.names ∨ .name s ∈ cs := by
    intro cs
    induction cs with
    | nil => exact fun _ => .inl
    | cons c cs ih =>
        intro r hs
        rcases ih (r.go c) hs with hgo | hrest
        · cases c with
          | root => exact .inl hgo
          | current => exact .inl hgo
          | parent =>
              rw [Route.go] at hgo
              split at hgo
              · exact .inl hgo
              · exact .inl (List.dropLast_subset _ hgo)
          | name t =>
              rcases List.mem_append.mp hgo with hold | hnew
              · exact .inl hold
              · rw [List.mem_singleton.mp hnew]
                exact .inr List.mem_cons_self
        · exact .inr (List.mem_cons_of_mem _ hrest)
  exact isSolid_of_mem_components ((hnames p.components .start hs).resolve_left List.not_mem_nil)

theorem text_ofNames (names : List String) :
    (ofComponents (names.map .name)).text = "/".intercalate names := by
  have htexts : (names.map Component.name).map Component.text = names := by
    simp [Function.comp_def, Component.text]
  cases names with
  | nil => rfl
  | cons s names => exact congrArg ("/".intercalate ·) htexts

theorem components_ofNames {names : List String}
    (hnames : ∀ s ∈ names, (Component.name s).IsSolid) :
    (⟨"/".intercalate names⟩ : PathName).components = names.map .name := by
  have hwritable : IsWritable (names.map .name) :=
    ⟨[], _, rfl, .inl rfl, List.forall_mem_map.mpr hnames⟩
  rw [← text_ofNames]
  exact components_ofComponents hwritable

end PathName

namespace Program

open PathName

/-- A name without the extension of compiled code. -/
def sourceStem (name : String) : String :=
  (Text.dropEnding? ".js" name).getD ((Text.dropEnding? ".jsx" name).getD name)

/-- The places that are tried for the name `last` in the directory `dir`, in order: the name
itself, a source file of its stem, and an index in the directory of its stem. -/
def sourcePlaces (dir : List String) (last : String) : List (List String) :=
  let stem := sourceStem last
  [dir ++ [last], dir ++ [stem ++ ".ts"], dir ++ [stem ++ ".tsx"], dir ++ [stem ++ ".d.ts"],
    dir ++ [stem, "index.ts"], dir ++ [stem, "index.tsx"], dir ++ [stem, "index.d.ts"]]

/-- The file at the first of some places at which the program has one. -/
def fileAmong? (p : Program) (places : List (List String)) : Option SourceFile :=
  places.findSome? fun names => p.files.find? fun file => file.path.route == ⟨false, 0, names⟩

/-- The path names of a program are relative and go up at most once. -/
def StaysNear (p : Program) : Prop :=
  ∀ file ∈ p.files, file.path.isAbsolute = false ∧ file.path.route.climbs ≤ 1

instance (p : Program) : Decidable p.StaysNear :=
  inferInstanceAs (Decidable (∀ file ∈ p.files, _))

variable {p : Program} {importer : SourceFile} {specifier : String}

/-- The candidate that is joined of names is looked for at their place. -/
theorem find?_of_names (hp : p.StaysNear) {names : List String}
    (hnames : ∀ s ∈ names, (Component.name s).IsSolid) :
    (p.files.find? fun file =>
        file.path.normalize == (⟨"/".intercalate names⟩ : PathName).components) =
      p.files.find? fun file => file.path.route == ⟨false, 0, names⟩ := by
  apply List.find?_congr
  intro file hfile
  have hroute : names.map Component.name = Route.components ⟨false, 0, names⟩ := rfl
  rw [components_ofNames hnames, normalize_eq_reduced,
    Route.reduced_of_climbs_le (hp file hfile).2, hroute, Bool.eq_iff_iff, beq_iff_eq, beq_iff_eq,
    components_injective.eq_iff]

/-- The candidates for the name `last` in the directory `dir` are its places. -/
theorem moduleCandidates_eq {dir : List String} (last : String) :
    moduleCandidates ("/".intercalate (dir ++ [last])) =
      (sourcePlaces dir last).map fun names => ⟨"/".intercalate names⟩ := by
  obtain ⟨lead, hlead, hjoined⟩ := Text.exists_lead_intercalate dir
  have hstem : ∀ text, text = lead ++ last → (Text.dropEnding? ".js" text).getD
      ((Text.dropEnding? ".jsx" text).getD text) = lead ++ sourceStem last := by
    rintro _ rfl
    rw [Text.dropEnding?_append (by decide) hlead, Text.dropEnding?_append (by decide) hlead,
      sourceStem]
    cases Text.dropEnding? ".js" last <;> cases Text.dropEnding? ".jsx" last <;> rfl
  have htarget : "/".intercalate (dir ++ [last]) = lead ++ last := by
    rw [hjoined [last] (by simp), String.intercalate_singleton]
  rw [moduleCandidates, hstem _ htarget]
  simp [sourcePlaces, hjoined, String.append_assoc]

theorem isSolid_of_text {s : String} (htext : s ∉ ["", ".", ".."]) (hslash : '/' ∉ s.toList) :
    (Component.name s).IsSolid := by
  simp only [List.mem_cons, List.not_mem_nil, or_false, not_or] at htext
  exact ⟨by simp [Component.text, pieceComponent?, htext], hslash⟩

/-- What stands before an extension is a part of the name. -/
theorem not_mem_sourceStem {name : String} (hslash : '/' ∉ name.toList) :
    '/' ∉ (sourceStem name).toList := by
  have hstem : ∀ ending stem, Text.dropEnding? ending name = some stem → '/' ∉ stem.toList := by
    intro ending stem hstem
    rw [Text.dropEnding?_eq_some_iff.mp hstem, String.toList_append] at hslash
    exact fun hmem => hslash (List.mem_append_left _ hmem)
  unfold sourceStem
  cases hjs : Text.dropEnding? ".js" name with
  | some stem => exact hstem _ stem hjs
  | none =>
      cases hjsx : Text.dropEnding? ".jsx" name with
      | some stem => exact hstem _ stem hjsx
      | none => exact hslash

theorem isSolid_append {stem extension : String} (hstem : '/' ∉ stem.toList)
    (hextension : '/' ∉ extension.toList) (hlength : 2 < extension.length) :
    (Component.name (stem ++ extension)).IsSolid := by
  apply isSolid_of_text
  · -- The names that are left out have two characters at most.
    have hlong : 2 < (stem ++ extension).length := by
      rw [String.length_append]
      omega
    intro hmem
    simp only [List.mem_cons, List.not_mem_nil, or_false] at hmem
    rcases hmem with heq | heq | heq <;> rw [heq] at hlong <;> exact absurd hlong (by decide)
  · rw [String.toList_append, List.mem_append, not_or]
    exact ⟨hstem, hextension⟩

/-- All places for a name are written with names. -/
theorem isSolid_of_mem_sourcePlaces {dir names : List String} {last s : String}
    (hnames : ∀ s ∈ dir ++ [last], (Component.name s).IsSolid)
    (hstem : sourceStem last ∉ ["", ".", ".."]) (hplace : names ∈ sourcePlaces dir last)
    (hs : s ∈ names) : (Component.name s).IsSolid := by
  have hslash := not_mem_sourceStem (hnames last (by simp)).noSlash
  have hdir : ∀ s ∈ dir, (Component.name s).IsSolid :=
    fun s hs => hnames s (List.mem_append_left _ hs)
  have hindex : ∀ s ∈ ["index.ts", "index.tsx", "index.d.ts"], (Component.name s).IsSolid := by
    intro s hs
    simp only [List.mem_cons, List.not_mem_nil, or_false] at hs
    rcases hs with rfl | rfl | rfl <;> exact isSolid_of_text (by decide) (by decide)
  simp only [sourcePlaces, List.mem_cons, List.not_mem_nil, or_false] at hplace
  rcases hplace with rfl | rfl | rfl | rfl | rfl | rfl | rfl
  · exact hnames s hs
  iterate 3
    · rcases List.mem_append.mp hs with hs | hs
      · exact hdir s hs
      · rw [List.mem_singleton.mp hs]
        exact isSolid_append hslash (by decide) (by decide)
  iterate 3
    · rcases List.mem_append.mp hs with hs | hs
      · exact hdir s hs
      · rcases List.mem_cons.mp hs with rfl | hs
        · exact isSolid_of_text hstem hslash
        · exact hindex s (by simp [List.mem_singleton.mp hs])

/-- A relative specifier that leads down to a name stands for the file at the first of the
places for the name. -/
theorem resolveModule_of_names (hp : p.StaysNear)
    (hrelative : Text.startsWith "./" specifier || Text.startsWith "../" specifier)
    {dir : List String} {last : String}
    (htarget : (specifiedPath importer specifier).route = ⟨false, 0, dir ++ [last]⟩)
    (hstem : sourceStem last ∉ ["", ".", ".."]) :
    p.resolveModule importer specifier = p.fileAmong? (sourcePlaces dir last) := by
  have hnames : ∀ s ∈ dir ++ [last], (Component.name s).IsSolid :=
    fun s hs => isSolid_of_mem_route (by rwa [htarget])
  have htext : moduleTarget importer.path specifier = "/".intercalate (dir ++ [last]) := by
    rw [moduleTarget_eq, htarget]
    exact text_ofNames _
  rw [resolveModule, if_pos hrelative, htext, moduleCandidates_eq, List.findSome?_map, fileAmong?]
  apply findSome?_congr
  intro names hplace
  exact find?_of_names hp fun s hs => isSolid_of_mem_sourcePlaces hnames hstem hplace hs

/-- A relative specifier that leads to the directory from which path names start stands for
no index file. -/
theorem resolveModule_of_start (hp : p.StaysNear)
    (hrelative : Text.startsWith "./" specifier || Text.startsWith "../" specifier)
    (htarget : (specifiedPath importer specifier).route = .start) :
    p.resolveModule importer specifier = p.fileAmong? [[], [".ts"], [".tsx"], [".d.ts"]] := by
  have htext : moduleTarget importer.path specifier = "" := by
    rw [moduleTarget_eq, htarget]
    rfl
  have hcandidates : moduleCandidates "" = ([[], [".ts"], [".tsx"], [".d.ts"]].map fun names =>
      (⟨"/".intercalate names⟩ : PathName)) ++
        [⟨"/index.ts"⟩, ⟨"/index.tsx"⟩, ⟨"/index.d.ts"⟩] := by decide +kernel
  -- The candidates for an index file are absolute path names.
  have habsolute : ∀ candidate ∈ [(⟨"/index.ts"⟩ : PathName), ⟨"/index.tsx"⟩, ⟨"/index.d.ts"⟩],
      candidate.route.absolute = true := by decide +kernel
  have hindex : ∀ candidate ∈ [(⟨"/index.ts"⟩ : PathName), ⟨"/index.tsx"⟩, ⟨"/index.d.ts"⟩],
      (p.files.find? fun file => file.path.normalize == candidate.components) = none := by
    intro candidate hcandidate
    rw [List.find?_eq_none]
    intro file hfile hequal
    have hroot := habsolute candidate hcandidate
    rw [← reduced_eq_of_normalize (beq_iff_eq.mp hequal), Route.reduced, route_absolute,
      (hp file hfile).1] at hroot
    cases hroot
  have hsolid : ∀ names ∈ [[], [".ts"], [".tsx"], [".d.ts"]], ∀ s ∈ names,
      (Component.name s).IsSolid := by
    intro names hnames s hs
    have hs : s ∉ ["", ".", ".."] ∧ '/' ∉ s.toList := by
      revert names s
      decide
    exact isSolid_of_text hs.1 hs.2
  rw [resolveModule, if_pos hrelative, htext, hcandidates, List.findSome?_append,
    List.findSome?_eq_none_iff.mpr hindex, Option.or_none, List.findSome?_map, fileAmong?]
  exact findSome?_congr fun names hnames => find?_of_names hp (hsolid names hnames)

/-- In a program with relative path names that go up at most once, a relative specifier that
leads down to a name stands for the file at the first of the places for the name, if there is
more to the name than dots and an extension of compiled code. One that leads to the directory
from which path names start stands for no index file. -/
theorem resolveModule_eq_fileAmong (p : Program) (hp : p.StaysNear) (importer : SourceFile)
    (specifier : String)
    (hrelative : Text.startsWith "./" specifier || Text.startsWith "../" specifier) :
    (∀ dir last, (specifiedPath importer specifier).route = ⟨false, 0, dir ++ [last]⟩ →
      sourceStem last ∉ ["", ".", ".."] →
      p.resolveModule importer specifier = p.fileAmong? (sourcePlaces dir last)) ∧
    ((specifiedPath importer specifier).route = .start →
      p.resolveModule importer specifier = p.fileAmong? [[], [".ts"], [".tsx"], [".d.ts"]]) :=
  ⟨fun _ _ htarget hstem => resolveModule_of_names hp hrelative htarget hstem,
    fun htarget => resolveModule_of_start hp hrelative htarget⟩

namespace Sample

open PathName.Sample (emptyFile)

/-- A program with index files in a directory and in the one from which path names start. -/
def indexed : Program :=
  ⟨[emptyFile "src/main.ts", emptyFile "src/lib/index.ts", emptyFile "index.ts"], .standard⟩

/-- The module that imports from the others. -/
def indexUser : SourceFile := emptyFile "src/main.ts"

end Sample

/-- The index file of a directory is found under the name of compiled code. -/
theorem resolveModule_eq_fileAmong_sample :
    Sample.indexed.StaysNear ∧
      (specifiedPath Sample.indexUser "./lib.js").route = ⟨false, 0, ["src"] ++ ["lib.js"]⟩ ∧
      sourceStem "lib.js" = "lib" ∧
      (Sample.indexed.resolveModule Sample.indexUser "./lib.js").map (·.path.text) =
        some "src/lib/index.ts" := by
  have hp : Sample.indexed.StaysNear := by decide +kernel
  have htarget : (specifiedPath Sample.indexUser "./lib.js").route =
      ⟨false, 0, ["src"] ++ ["lib.js"]⟩ := by decide +kernel
  have hstem : sourceStem "lib.js" = "lib" := by decide +kernel
  have hmodule := (resolveModule_eq_fileAmong _ hp Sample.indexUser "./lib.js"
    (by decide +kernel)).1 _ _ htarget (by decide +kernel)
  refine ⟨hp, htarget, hstem, ?_⟩
  rw [hmodule]
  decide +kernel

/-- The index file of the directory from which path names start is not found. -/
theorem resolveModule_start_index :
    Sample.indexed.StaysNear ∧ (specifiedPath Sample.indexUser "../").route = .start ∧
      (Sample.indexed.resolveModule Sample.indexUser "../").isNone ∧
      (Sample.indexed.fileAmong? [["index.ts"], ["index.tsx"], ["index.d.ts"]]).map (·.path.text) =
        some "index.ts" := by
  decide +kernel

end Program

end CallMigration
