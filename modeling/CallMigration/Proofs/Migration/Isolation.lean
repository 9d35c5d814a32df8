import CallMigration.Proofs.Migration.Valid

/-!
# A further module

A module shows its declarations only to those who import them, unless it declares globals.
Added to a program that does not import it, it changes no type in the files that were there
and no revision of them. That nobody imports it is said by the resolution of the specifiers
in these files, which has to stay the same.
-/

namespace CallMigration

open Scope Checker

/-- The module specifiers of the import statements in a file. -/
def SourceFile.importSpecifiers (file : SourceFile) : List String :=
  (file.root.subtree.filter (·.kind == "import_statement")).filterMap fun stmt =>
    (stmt.field? "source").bind stringValue?

namespace Program

variable {p : Program} {m : SourceFile}

/-- The program with one more file. -/
def withFile (p : Program) (m : SourceFile) : Program := ⟨p.files ++ [m], p.options⟩

/-- The module does not show in the files of the program: it declares no globals, and the
specifiers in these files stand for the same modules as before. -/
structure Unimported (p : Program) (m : SourceFile) : Prop where
  isModule : m.isModule = true
  noGlobals : ∀ stmt ∈ m.root.constructs, globalBlock? stmt = none
  resolve : ∀ file ∈ p.files, ∀ specifier ∈ file.importSpecifiers,
    (p.withFile m).resolveModule file specifier = p.resolveModule file specifier

/-- A module that no specifier can stand for, going by its path, is not imported. -/
theorem unimported_of_paths (hmodule : m.isModule = true)
    (hglobals : ∀ stmt ∈ m.root.constructs, globalBlock? stmt = none)
    (hpaths : ∀ file ∈ p.files, ∀ specifier ∈ file.importSpecifiers,
      ∀ candidate ∈ moduleCandidates (moduleTarget file.path specifier),
        m.path.normalize ≠ candidate.components) : p.Unimported m where
  isModule := hmodule
  noGlobals := hglobals
  resolve file hfile specifier hspecifier := by
    unfold resolveModule
    split
    · apply findSome?_congr
      intro candidate hcandidate
      have hother := hpaths file hfile specifier hspecifier candidate hcandidate
      simp [withFile, List.find?_append, hother]
    · rfl

/-- The realm of the nodes of all files. A shape in its types is in one of these files. -/
def inFiles (p : Program) : p.Realm where
  node n := ∃ file ∈ p.files, n ∈ file.root.subtree
  root {file} hfile := ⟨file, hfile, file.root.mem_subtree_self⟩
  child := by
    rintro n c ⟨file, hfile, hn⟩ hc
    exact ⟨file, hfile, Node.child_mem_subtree hn hc⟩
  parent := by
    rintro n parent ⟨file, hfile, hn⟩ hparent
    rcases Node.parent_mem_subtree hn with rfl | ⟨above, habove, hstep⟩
    · -- The top of a file has no parent.
      cases hparent
    · cases hstep.symm.trans hparent
      exact ⟨file, hfile, habove⟩
  type := StaticType.Shaped fun id => id.file < p.files.length
  closed := StaticType.closed_shaped _
  shape := by
    rintro n id label bindings - hid hbindings
    obtain ⟨i, hi, rfl⟩ := Option.map_eq_some_iff.mp hid
    exact .shape (List.findIdx?_eq_some_iff_findIdx_eq.mp hi).1 hbindings

namespace Unimported

theorem globalContainersOf (hm : p.Unimported m) : Scope.globalContainersOf m = [] := by
  rw [Scope.globalContainersOf, if_pos hm.isModule]
  exact List.filterMap_eq_nil_iff.mpr hm.noGlobals

theorem globalContainers (hm : p.Unimported m) (file : SourceFile) :
    Scope.globalContainers (p.withFile m) file = Scope.globalContainers p file := by
  have hrest : (([m].filter (!·.same file)).flatMap Scope.globalContainersOf) = [] := by
    rw [List.filter_cons]
    split
    · simp [hm.globalContainersOf]
    · rfl
  rw [Scope.globalContainers, otherFiles, withFile, List.filter_append, List.flatMap_append,
    hrest, List.append_nil]
  rfl

theorem specifiedModule? (hm : p.Unimported m) {file : SourceFile} (hfile : file ∈ p.files)
    {stmt source : Node} (hstmt : stmt ∈ file.root.subtree)
    (hkind : stmt.kind = "import_statement") (hsource : stmt.field? "source" = some source) :
    Scope.specifiedModule? (p.withFile m) source = Scope.specifiedModule? p source := by
  have hin : source ∈ file.root.subtree :=
    Node.child_mem_subtree hstmt (List.mem_of_find?_eq_some hsource)
  rw [Scope.specifiedModule?, Scope.specifiedModule?, Node.file_of_mem_subtree hin]
  apply Option.bind_congr
  intro specifier hspecifier
  apply hm.resolve file hfile
  refine List.mem_filterMap.mpr ⟨stmt, ?_, by rw [hsource]; exact hspecifier⟩
  exact List.mem_filter.mpr ⟨hstmt, beq_iff_eq.mpr hkind⟩

theorem shared (hm : p.Unimported m) : p.inFiles.Shared (p.withFile m) where
  imports := by
    rintro stmt source ⟨file, hfile, hstmt⟩ hkind hsource
    exact hm.specifiedModule? hfile hstmt hkind hsource
  globals _ := hm.globalContainers _

/-- The files that were there keep their positions. -/
theorem indexOf?_withFile {file : SourceFile} (hfile : file ∈ p.files) :
    (p.withFile m).indexOf? file = p.indexOf? file := by
  have hsome : (p.indexOf? file).isSome = true := by
    rw [indexOf?, List.findIdx?_isSome]
    exact contains_of_mem hfile
  obtain ⟨i, hi⟩ := Option.isSome_iff_exists.mp hsome
  rw [hi, indexOf?, withFile, List.findIdx?_append]
  rw [indexOf?] at hi
  rw [hi, Option.some_or]

theorem kept (hm : p.Unimported m) : p.inFiles.Kept (p.withFile m) (.refl Nat) where
  value := hm.shared.resolveValue
  type := hm.shared.resolveType
  position := by
    rintro n ⟨file, hfile, hn⟩
    have hown : n.file = file := Node.file_of_mem_subtree hn
    rw [hown, indexOf?_withFile hfile]
    exact Option.map_id'.symm
  declaration hshape := by
    rw [declaration?, declaration?, withFile]
    exact congrArg (Option.bind · _) (List.getElem?_append_left hshape.id)
  ambient h := h

theorem typeAt (hm : p.Unimported m) {n : Node} (hn : p.inFiles.node n) :
    (p.withFile m).typeAt n = p.typeAt n := by
  obtain ⟨file, hfile, hin⟩ := hn
  have hcontains : (p.withFile m).contains n.file = p.contains n.file := by
    rw [Node.file_of_mem_subtree hin]
    change (p.withFile m).contains file = p.contains file
    rw [contains_of_mem hfile, contains_of_mem (List.mem_append_left _ hfile)]
  rcases Realm.typeAt_cases hm.kept hcontains rfl ⟨file, hfile, hin⟩ with
    hsame | ⟨name, -, hmissing, hambient, -⟩
  · exact hsame.trans (StaticType.except_map_renumber_refl _)
  · -- Both programs have the same globals.
    cases hmissing.ambient.symm.trans hambient

end Unimported

end Program

namespace Migration

variable {p : Program} {m : SourceFile}

theorem transform_withFile (hm : p.Unimported m) (migrations : List Migration)
    (policy : NullabilityPolicy) {n : Node} (hn : p.inFiles.node n) :
    transform migrations policy (p.withFile m) n = transform migrations policy p n := by
  rcases transform_cases migrations n with hkept | ⟨_, subject, others, hsplit, hdecision⟩
  · rw [hkept, hkept]
  · obtain ⟨list, hlist, hsubject, -⟩ := mem_of_splitArguments? hsplit
    have hsubject := p.inFiles.construct (p.inFiles.field hn hlist) hsubject
    rw [hdecision, hdecision, Program.isNullableAt, Program.isNullableAt, hm.typeAt hsubject]

/-- A module without global declarations that the files of a program do not import leaves
every type in these files as it is, errors included, and every revision of them. -/
theorem typeAt_withFile (p : Program) (m : SourceFile) (hm : p.Unimported m) :
    ∀ file ∈ p.files,
      (∀ n ∈ file.root.subtree, (p.withFile m).typeAt n = p.typeAt n) ∧
      ∀ migrations policy,
        Revision.ofFile (transform migrations policy (p.withFile m)) file =
          Revision.ofFile (transform migrations policy p) file := by
  intro file hfile
  refine ⟨fun n hn => hm.typeAt ⟨file, hfile, hn⟩, ?_⟩
  intro migrations policy
  -- Inside the files nothing has to be excused.
  have hagrees : Revision.AgreesOn p.inFiles.node (fun _ => False)
      (transform migrations policy p) (transform migrations policy (p.withFile m)) :=
    ⟨p.inFiles.construct, fun hn => .inl (transform_withFile hm migrations policy hn)⟩
  rcases Revision.runFile_of_agrees hagrees file (p.inFiles.root hfile) with
    hrun | ⟨_, _, hfalse, -⟩
  · rw [Revision.ofFile, Revision.ofFile, hrun]
  · exact hfalse.elim

namespace Sample

/-- The deprecated call of `x`, from an offset on. -/
def deprecatedCall (start : Nat) : Tree :=
  branch "expression_statement" start (start + 21) []
    [branch "call_expression" start (start + 20) []
      [branch "member_expression" start (start + 17) ["function"]
        [leaf "identifier" true start (start + 1) ["object"],
          leaf "." false (start + 1) (start + 2) [],
          leaf "property_identifier" true (start + 2) (start + 17) ["property"]],
        branch "arguments" (start + 17) (start + 20) ["arguments"]
          [leaf "(" false (start + 17) (start + 18) [],
            leaf "identifier" true (start + 18) (start + 19) [],
            leaf ")" false (start + 19) (start + 20) []]],
      leaf ";" false (start + 20) (start + 21) []]

/-- An exported declaration of `x` with the given type. -/
def exported (ascription : Tree) : Tree :=
  let stop := ascription.span.stop
  branch "program" 0 (stop + 1) []
    [branch "export_statement" 0 (stop + 1) []
      [leaf "export" false 0 6 [],
        branch "lexical_declaration" 7 (stop + 1) ["declaration"]
          [leaf "let" false 7 10 ["kind"],
            branch "variable_declarator" 11 stop []
              [leaf "identifier" true 11 12 ["name"],
                branch "type_annotation" 12 stop ["type"] [leaf ":" false 12 13 [], ascription]],
            leaf ";" false stop (stop + 1) []]]]

def importer : SourceFile where
  load := 0
  path := ⟨"a.ts"⟩
  text := "import {x} from './b';\nu.deprecated_some(x);"
  dialect := .typeScript
  tree := branch "program" 0 44 []
    [branch "import_statement" 0 22 []
      [leaf "import" false 0 6 [],
        branch "import_clause" 7 10 []
          [branch "named_imports" 7 10 []
            [leaf "\x7b" false 7 8 [],
              branch "import_specifier" 8 9 [] [leaf "identifier" true 8 9 ["name"]],
              leaf "\x7d" false 9 10 []]],
        leaf "from" false 11 15 [],
        branch "string" 16 21 ["source"]
          [leaf "'" false 16 17 [], leaf "string_fragment" true 17 20 [],
            leaf "'" false 20 21 []],
        leaf ";" false 21 22 []],
      deprecatedCall 23]

def imported : SourceFile where
  load := 0
  path := ⟨"b.ts"⟩
  text := "export let x: A | null;"
  dialect := .typeScript
  tree := exported (branch "union_type" 14 22 []
    [leaf "type_identifier" true 14 15 [], leaf "|" false 16 17 [],
      branch "literal_type" 18 22 [] [leaf "null" true 18 22 []]])

/-- A module that exports the same name and is not imported. -/
def unimported : SourceFile where
  load := 0
  path := ⟨"c.ts"⟩
  text := "export let x: B;"
  dialect := .typeScript
  tree := exported (leaf "type_identifier" true 14 15 [])

def modules : Program := ⟨[importer, imported], .standard⟩

end Sample

/-- The call is rewritten for the type of the imported name, whatever the other module
exports. -/
theorem typeAt_withFile_sample :
    Sample.modules.Unimported Sample.unimported ∧ Sample.importer ∈ Sample.modules.files ∧
      ∃ r, Revision.ofFile (transform [standard] .nullOnly
          (Sample.modules.withFile Sample.unimported)) Sample.importer = .ok r ∧
        r.revised = "import {x} from './b';\nx?.some() ?? false;" := by
  have hm : Sample.modules.Unimported Sample.unimported := by
    apply Program.unimported_of_paths
    · decide +kernel
    · decide +kernel
    · decide +kernel
  have hfile : Sample.importer ∈ Sample.modules.files := List.mem_cons_self
  have hrevised : (Revision.ofFile (transform [standard] .nullOnly Sample.modules)
      Sample.importer).toOption.map (·.revised) =
      some "import {x} from './b';\nx?.some() ?? false;" := by decide +kernel
  refine ⟨hm, hfile, ?_⟩
  rw [(typeAt_withFile Sample.modules Sample.unimported hm Sample.importer hfile).2]
  exact Revision.exists_ok_of_revised hrevised

end Migration

end CallMigration
