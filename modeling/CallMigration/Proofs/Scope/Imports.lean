import CallMigration.Proofs.Scope.Shared
import Mathlib.Logic.Relation

/-!
# Names that come through modules

A named import and an export clause pass a name on from one module to the next, under other
names perhaps. In files where every name has one meaning, the lookup of values and the lookup
of types follow such a chain step by step: both end at the class declared at its end when the
chain goes through at most `maxImportHops` modules, and both give up on longer chains and on
chains that come back.
-/

namespace CallMigration

/-- A search with one possible hit gives the answer there. -/
theorem findSome?_eq_apply {α β : Type} {f : α → Option β} {l : List α} {a : α} (ha : a ∈ l)
    (honly : ∀ b ∈ l, (f b).isSome → b = a) : l.findSome? f = f a := by
  cases hfound : l.findSome? f with
  | none => exact (List.findSome?_eq_none_iff.mp hfound a ha).symm
  | some found =>
      obtain ⟨b, hb, hfb⟩ := List.exists_of_findSome?_eq_some hfound
      rw [← honly b hb (hfb ▸ rfl), hfb]

/-- Of a node and what encloses it, one node has no parent. -/
theorem Node.eq_of_mem_lineage {file : SourceFile} {tree : Tree} {above : List Step} {n m : Node}
    (hn : n ∈ lineage file tree above) (hm : m ∈ lineage file tree above)
    (hntop : n.parent? = none) (hmtop : m.parent? = none) : n = m := by
  induction above generalizing tree with
  | nil => rw [List.mem_singleton.mp hn, List.mem_singleton.mp hm]
  | cons step rest ih =>
      rcases List.mem_cons.mp hn with rfl | hn
      · cases hntop
      · rcases List.mem_cons.mp hm with rfl | hm
        · cases hmtop
        · exact ih hn hm

namespace Scope

/-! ## Statements -/

/-- A statement introduces a name, as a value or as a type. -/
def Introduces (stmt : Node) (name : String) : Prop :=
  (statementBinding? stmt name).isSome ∨ (typeStatement? stmt name).isSome

/-- The specifiers that an import statement lists in braces. -/
def importSpecifiers (stmt : Node) : List Node :=
  (((importClause? stmt).bind fun clause => clause.constructs.find? (·.kind == "named_imports")).map
    (·.constructs)).getD []

/-- The specifiers that an export statement lists in braces. -/
def exportSpecifiers (stmt : Node) : List Node :=
  ((stmt.constructs.find? (·.kind == "export_clause")).map (·.constructs)).getD []

/-- A specifier is written `listed as outer`, or `listed` alone with `outer` the same node. -/
def Specifies (specifier listed outer : Node) : Prop :=
  specifier.field? "name" = some listed ∧ (specifier.field? "alias").getD listed = outer

/-- The statement is `import { …, imported as name, … } from source`. -/
def ImportsAs (stmt : Node) (name : String) (source : Node) (imported : String) : Prop :=
  stmt.kind = "import_statement" ∧ stmt.field? "source" = some source ∧
    ∃ specifier ∈ importSpecifiers stmt, ∃ listed outer, Specifies specifier listed outer ∧
      listed.kind = "identifier" ∧ listed.text = imported ∧ outer.text = name

/-- The statement is `export { …, localName as exported, … }`, of names of its own file. -/
def ListsAs (stmt : Node) (exported localName : String) : Prop :=
  stmt.field? "source" = none ∧
    ∃ specifier ∈ exportSpecifiers stmt, ∃ listed outer, Specifies specifier listed outer ∧
      listed.text = localName ∧ outer.text = exported

/-- An export statement exports a name: in a clause, or with the declaration of the name. -/
def Exports (stmt : Node) (name : String) : Prop :=
  (∃ localName, ListsAs stmt name localName) ∨
    ∃ decl, stmt.field? "declaration" = some decl ∧ Introduces decl name

/-- A statement that is the declaration of a class, exported or ambient perhaps. -/
inductive DeclaresClass (name : String) (cls : Node) : Node → Prop
  | plain (hkind : cls.kind = "class_declaration" ∨ cls.kind = "abstract_class_declaration")
      (hname : fieldTextIs cls "name" name) : DeclaresClass name cls cls
  | exported {stmt decl : Node} (hkind : stmt.kind = "export_statement")
      (hdecl : stmt.field? "declaration" = some decl) (hclass : DeclaresClass name cls decl) :
      DeclaresClass name cls stmt
  | ambient {stmt decl : Node} (hkind : stmt.kind = "ambient_declaration")
      (hdecl : stmt.constructs = [decl]) (hclass : DeclaresClass name cls decl) :
      DeclaresClass name cls stmt

/-- In the file every name is introduced once and every name is exported once. -/
structure OneMeaning (file : SourceFile) : Prop where
  introduced {s t : Node} {name : String} : s ∈ file.root.constructs → t ∈ file.root.constructs →
    Introduces s name → Introduces t name → s = t
  imported {stmt source source' : Node} {name imported imported' : String} :
    stmt ∈ file.root.constructs → ImportsAs stmt name source imported →
    ImportsAs stmt name source' imported' → imported = imported'
  exported {s t : Node} {name : String} : s ∈ exportStatements file → t ∈ exportStatements file →
    Exports s name → Exports t name → s = t
  listed {stmt : Node} {name localName localName' : String} : stmt ∈ exportStatements file →
    ListsAs stmt name localName → ListsAs stmt name localName' → localName = localName'

variable {stmt decl cls source : Node} {name imported localName : String}

theorem statementBinding?_import (hkind : stmt.kind = "import_statement") :
    statementBinding? stmt name = importBinding? stmt name := by
  rw [statementBinding?, statementBindingIn, Node.fold_eq]
  simp only [hkind]

theorem typeStatement?_import (hkind : stmt.kind = "import_statement") :
    typeStatement? stmt name = none := by
  rw [typeStatement?, typeStatementIn, Node.fold_eq]
  simp only [hkind]
  rfl

theorem statementBindingIn_export (hkind : stmt.kind = "export_statement") (inAmbient : Bool) :
    statementBindingIn name stmt inAmbient =
      (stmt.field? "declaration").bind (statementBinding? · name) := by
  rw [statementBindingIn, Node.fold_eq]
  simp only [hkind, Node.field?_branches, Option.bind_map]
  rfl

theorem typeStatementIn_export (hkind : stmt.kind = "export_statement") (inAmbient : Bool) :
    typeStatementIn name stmt inAmbient =
      (stmt.field? "declaration").bind (typeStatement? · name) := by
  rw [typeStatementIn, Node.fold_eq]
  simp only [hkind, Node.field?_branches, Option.bind_map]
  rfl

/-- The declaration of a class binds its name to the class, as a value and as a type. -/
theorem DeclaresClass.bindings (hclass : DeclaresClass name cls stmt) (inAmbient : Bool) :
    statementBindingIn name stmt inAmbient = some (.classValue cls) ∧
      typeStatementIn name stmt inAmbient = some cls := by
  induction hclass generalizing inAmbient with
  | plain hkind hname =>
      rw [statementBindingIn, typeStatementIn, Node.fold_eq, Node.fold_eq]
      rcases hkind with hkind | hkind <;> simp only [hkind, hname, if_true, and_self]
  | exported hkind hdecl _ ih =>
      rw [statementBindingIn_export hkind, typeStatementIn_export hkind, hdecl]
      exact ih false
  | ambient hkind hdecl _ ih =>
      rw [statementBindingIn, typeStatementIn, Node.fold_eq, Node.fold_eq]
      simp only [hkind, Node.constructs_branches, List.findSome?_map, hdecl]
      have hbelow := ih true
      rw [statementBindingIn, typeStatementIn] at hbelow
      simp [Function.comp_def, hbelow.1, hbelow.2]

theorem DeclaresClass.introduces (hclass : DeclaresClass name cls stmt) : Introduces stmt name :=
  .inl (by rw [statementBinding?, (hclass.bindings false).1]; rfl)

/-! ## Clauses -/

theorem namedImport?_eq (stmt : Node) (name : String) :
    namedImport? stmt name = (stmt.field? "source").bind fun source =>
      (importSpecifiers stmt).findSome? fun specifier =>
        (specifier.field? "name").bind fun listed =>
          if ((specifier.field? "alias").getD listed).text == name && listed.kind == "identifier"
          then some (source, listed.text) else none := by
  unfold namedImport? importSpecifiers
  cases importClause? stmt with
  | none => rfl
  | some clause => cases hnamed : clause.constructs.find? (·.kind == "named_imports") <;>
      simp [hnamed]

theorem importsAs_of_namedImport? (hkind : stmt.kind = "import_statement")
    (himport : namedImport? stmt name = some (source, imported)) :
    ImportsAs stmt name source imported := by
  rw [namedImport?_eq] at himport
  obtain ⟨found, hsource, hrest⟩ := Option.bind_eq_some_iff.mp himport
  obtain ⟨specifier, hspecifier, hrest⟩ := List.exists_of_findSome?_eq_some hrest
  obtain ⟨listed, hlisted, hrest⟩ := Option.bind_eq_some_iff.mp hrest
  simp only [Option.ite_none_right_eq_some, Bool.and_eq_true, beq_iff_eq, Option.some.injEq,
    Prod.mk.injEq] at hrest
  obtain ⟨⟨hbound, hidentifier⟩, rfl, rfl⟩ := hrest
  exact ⟨hkind, hsource, specifier, hspecifier, listed, _, ⟨hlisted, rfl⟩, hidentifier, rfl, hbound⟩

theorem namedImport?_isSome (himports : ImportsAs stmt name source imported) :
    (namedImport? stmt name).isSome := by
  obtain ⟨-, hsource, specifier, hspecifier, listed, _, ⟨hlisted, rfl⟩, hidentifier, -, hbound⟩ :=
    himports
  rw [namedImport?_eq, hsource, Option.bind_some, List.findSome?_isSome_iff]
  exact ⟨specifier, hspecifier, by simp [hlisted, hbound, hidentifier]⟩

/-- The specifier of a name is found if it is the only one. -/
theorem namedImport?_eq_some (himports : ImportsAs stmt name source imported)
    (hone : ∀ source' imported', ImportsAs stmt name source' imported' → imported' = imported) :
    namedImport? stmt name = some (source, imported) := by
  obtain ⟨⟨found, listed⟩, hfound⟩ := Option.isSome_iff_exists.mp (namedImport?_isSome himports)
  have hfoundAs := importsAs_of_namedImport? himports.1 hfound
  have hsource : found = source := Option.some.inj (hfoundAs.2.1.symm.trans himports.2.1)
  rw [hfound, hsource, hone _ _ hfoundAs]

theorem exportedLocal?_eq (stmt : Node) (name : String) :
    exportedLocal? stmt name =
      if (stmt.field? "source").isSome then none
      else (exportSpecifiers stmt).findSome? fun specifier =>
        (specifier.field? "name").bind fun listed =>
          if ((specifier.field? "alias").getD listed).text == name then some listed.text
          else none := by
  unfold exportedLocal? exportSpecifiers
  cases stmt.constructs.find? (·.kind == "export_clause") <;> rfl

theorem listsAs_of_exportedLocal? (hlocal : exportedLocal? stmt name = some localName) :
    ListsAs stmt name localName := by
  rw [exportedLocal?_eq, Option.ite_none_left_eq_some] at hlocal
  obtain ⟨hsource, hrest⟩ := hlocal
  obtain ⟨specifier, hspecifier, hrest⟩ := List.exists_of_findSome?_eq_some hrest
  obtain ⟨listed, hlisted, hrest⟩ := Option.bind_eq_some_iff.mp hrest
  simp only [Option.ite_none_right_eq_some, beq_iff_eq, Option.some.injEq] at hrest
  obtain ⟨houter, rfl⟩ := hrest
  exact ⟨Option.not_isSome_iff_eq_none.mp hsource, specifier, hspecifier, listed, _,
    ⟨hlisted, rfl⟩, rfl, houter⟩

theorem exportedLocal?_isSome (hlists : ListsAs stmt name localName) :
    (exportedLocal? stmt name).isSome := by
  obtain ⟨hsource, specifier, hspecifier, listed, _, ⟨hlisted, rfl⟩, -, houter⟩ := hlists
  rw [exportedLocal?_eq, hsource, if_neg (by simp), List.findSome?_isSome_iff]
  exact ⟨specifier, hspecifier, by simp [hlisted, houter]⟩

/-- The local name of an exported one is found if it is the only one. -/
theorem exportedLocal?_eq_some (hlists : ListsAs stmt name localName)
    (hone : ∀ localName', ListsAs stmt name localName' → localName' = localName) :
    exportedLocal? stmt name = some localName := by
  obtain ⟨found, hfound⟩ := Option.isSome_iff_exists.mp (exportedLocal?_isSome hlists)
  rw [hfound, hone found (listsAs_of_exportedLocal? hfound)]

theorem exports_of_typeStatement? (hkind : stmt.kind = "export_statement")
    (htype : (typeStatement? stmt name).isSome) :
    ∃ decl, stmt.field? "declaration" = some decl ∧ Introduces decl name := by
  rw [typeStatement?, typeStatementIn_export hkind, Option.isSome_bind, Option.any_eq_true] at htype
  obtain ⟨decl, hdecl, htype⟩ := htype
  exact ⟨decl, hdecl, .inr htype⟩

/-! ## One module -/

/-- At the top of `file`, `name` is the name `imported` of `module`. -/
def Imports (p : Program) (file : SourceFile) (name : String) (module : SourceFile)
    (imported : String) : Prop :=
  ∃ stmt ∈ file.root.constructs, ∃ source, ImportsAs stmt name source imported ∧
    specifiedModule? p source = some module

/-- An export clause of `module` passes `localName` on as `exported`. -/
def ReExports (module : SourceFile) (exported localName : String) : Prop :=
  ∃ stmt ∈ exportStatements module, stmt.field? "declaration" = none ∧
    ListsAs stmt exported localName

/-- What the statements at the top of a file make of a value name, through at most `hops`
modules. -/
def topValue? (p : Program) (hops : Nat) (file : SourceFile) (name : String) : Option Binding :=
  (declarationsIn? file.root name).map (followImport p hops)

/-- What the statements at the top of a file make of a type name, through at most `hops`
modules. -/
def topType? (p : Program) (hops : Nat) (file : SourceFile) (name : String) : Option Node :=
  typeIn? p hops file.root name

variable {p : Program} {file module : SourceFile} {exported : String} {hops : Nat}

theorem kind_of_mem_exportStatements (hstmt : stmt ∈ exportStatements file) :
    stmt.kind = "export_statement" :=
  beq_iff_eq.mp (List.mem_filter.mp hstmt).2

theorem ImportsAs.binding (himports : ImportsAs stmt name source imported)
    (hone : ∀ source' imported', ImportsAs stmt name source' imported' → imported' = imported) :
    statementBinding? stmt name = some (.imported source imported) := by
  rw [statementBinding?_import himports.1, importBinding?, namedImport?_eq_some himports hone]

theorem introduces_of_namedImport? (hkind : stmt.kind = "import_statement")
    (himport : (namedImport? stmt name).isSome) : Introduces stmt name := by
  obtain ⟨found, hfound⟩ := Option.isSome_iff_exists.mp himport
  refine .inl ?_
  rw [statementBinding?_import hkind, importBinding?, hfound]
  rfl

/-- No type is found among statements that do not introduce the name. -/
theorem typeIn?_eq_none {container : Node}
    (hno : ∀ stmt ∈ container.constructs, ¬ Introduces stmt name) :
    typeIn? p hops container name = none := by
  have hhere : container.constructs.findSome? (typeStatement? · name) = none :=
    List.findSome?_eq_none_iff.mpr fun stmt hstmt =>
      Option.not_isSome_iff_eq_none.mp fun htype => hno stmt hstmt (.inr htype)
  cases hops with
  | zero => exact hhere
  | succ hops =>
      rw [typeIn?, hhere]
      refine List.findSome?_eq_none_iff.mpr fun stmt hstmt => ?_
      split
      · rfl
      next hkind =>
        have himport : namedImport? stmt name = none := Option.not_isSome_iff_eq_none.mp
          fun himport => hno stmt hstmt
            (introduces_of_namedImport? (Decidable.not_not.mp hkind) himport)
        rw [himport]
        rfl

/-- A class declared at the top of a file is what its name stands for there. -/
theorem top_of_declaresClass (hfile : OneMeaning file) (hstmt : stmt ∈ file.root.constructs)
    (hclass : DeclaresClass name cls stmt) :
    topValue? p hops file name = some (.classValue cls) ∧ topType? p hops file name = some cls := by
  have hvalue : declarationsIn? file.root name = some (.classValue cls) := by
    rw [declarationsIn?, findSome?_eq_apply hstmt fun t ht hbinding =>
      hfile.introduced ht hstmt (.inl hbinding) hclass.introduces]
    exact (hclass.bindings false).1
  have htype : file.root.constructs.findSome? (typeStatement? · name) = some cls := by
    rw [findSome?_eq_apply hstmt fun t ht hbinding =>
      hfile.introduced ht hstmt (.inr hbinding) hclass.introduces]
    exact (hclass.bindings false).2
  rw [topValue?, topType?, hvalue]
  cases hops with
  | zero => exact ⟨rfl, htype⟩
  | succ hops => exact ⟨rfl, by rw [typeIn?, htype]⟩

/-- An imported name is looked up where it is exported, with one module less to go. -/
theorem top_of_imports (hfile : OneMeaning file) (himports : Imports p file name module imported) :
    (topValue? p 0 file name = some .untyped ∧ topType? p 0 file name = none) ∧
    ∀ hops,
      topValue? p (hops + 1) file name =
        some (((exportedValue? module imported).map (followImport p hops)).getD .untyped) ∧
      topType? p (hops + 1) file name =
        exportedType? (fun inner name => typeIn? p hops inner name) module imported := by
  obtain ⟨stmt, hstmt, source, himports, hmodule⟩ := himports
  have hone : ∀ source' imported', ImportsAs stmt name source' imported' →
      imported' = imported := fun _ _ h => hfile.imported hstmt h himports
  have hnamed := namedImport?_eq_some himports hone
  have hintroduces : Introduces stmt name :=
    introduces_of_namedImport? himports.1 (hnamed ▸ rfl)
  have hvalue : declarationsIn? file.root name = some (.imported source imported) := by
    rw [declarationsIn?, findSome?_eq_apply hstmt fun t ht hbinding =>
      hfile.introduced ht hstmt (.inl hbinding) hintroduces]
    exact himports.binding hone
  -- The one statement that introduces the name declares no type.
  have htype : file.root.constructs.findSome? (typeStatement? · name) = none := by
    rw [findSome?_eq_apply hstmt fun t ht hbinding =>
      hfile.introduced ht hstmt (.inr hbinding) hintroduces]
    exact typeStatement?_import himports.1
  refine ⟨⟨by rw [topValue?, hvalue]; rfl, htype⟩, fun hops => ⟨?_, ?_⟩⟩
  · rw [topValue?, hvalue, Option.map_some, followImport, hmodule, Option.bind_some]
    cases exportedValue? module imported <;> rfl
  · rw [topType?, typeIn?, htype]
    dsimp only
    rw [findSome?_eq_apply hstmt]
    · simp only [himports.1, ne_eq, not_true_eq_false, if_false, hnamed, hmodule,
        Option.bind_eq_bind, Option.bind_some]
    · intro t ht hfound
      split at hfound
      · cases hfound
      next hkind =>
        refine hfile.introduced ht hstmt ?_ hintroduces
        refine introduces_of_namedImport? (Decidable.not_not.mp hkind) ?_
        exact Option.isSome_of_isSome_bind hfound

/-- The value of an exported name is read off the one statement that exports it. -/
theorem exportedValue?_eq_of_exports (hmodule : OneMeaning module)
    (hstmt : stmt ∈ exportStatements module) (hexports : Exports stmt exported) :
    exportedValue? module exported =
      match stmt.field? "declaration" with
      | some decl => statementBinding? decl exported
      | none => (exportedLocal? stmt exported).bind (declarationsIn? module.root) := by
  refine findSome?_eq_apply hstmt fun t ht hfound => hmodule.exported ht hstmt ?_ hexports
  split at hfound
  next decl hdecl => exact .inr ⟨decl, hdecl, .inl hfound⟩
  next =>
    obtain ⟨found, hfound⟩ := Option.isSome_iff_exists.mp (Option.isSome_of_isSome_bind hfound)
    exact .inl ⟨found, listsAs_of_exportedLocal? hfound⟩

/-- A name passed on by an export clause is what it stands for at the top of the module. -/
theorem exported_of_reExports (hmodule : OneMeaning module)
    (hexports : ReExports module exported localName) (lookup : Node → String → Option Node) :
    exportedValue? module exported = declarationsIn? module.root localName ∧
      exportedType? lookup module exported = lookup module.root localName := by
  obtain ⟨stmt, hstmt, hdecl, hlists⟩ := hexports
  have hlocal := exportedLocal?_eq_some hlists fun _ h => hmodule.listed hstmt h hlists
  have hthis : Exports stmt exported := .inl ⟨localName, hlists⟩
  constructor
  · rw [exportedValue?_eq_of_exports hmodule hstmt hthis, hdecl]
    dsimp only
    rw [hlocal, Option.bind_some]
  · -- No declaration is exported under the name, since this statement exports none.
    have htype : (exportStatements module).findSome? (typeStatement? · exported) = none := by
      refine List.findSome?_eq_none_iff.mpr fun t ht => Option.not_isSome_iff_eq_none.mp ?_
      intro htype
      obtain ⟨decl, htdecl, hintroduces⟩ :=
        exports_of_typeStatement? (kind_of_mem_exportStatements ht) htype
      have hsame : t = stmt := hmodule.exported ht hstmt (.inr ⟨decl, htdecl, hintroduces⟩) hthis
      rw [hsame, hdecl] at htdecl
      cases htdecl
    rw [exportedType?, htype]
    dsimp only
    rw [findSome?_eq_apply hstmt, hlocal, Option.bind_some]
    intro t ht hfound
    obtain ⟨found, hfound⟩ := Option.isSome_iff_exists.mp hfound
    exact hmodule.exported ht hstmt (.inl ⟨found, listsAs_of_exportedLocal? hfound⟩) hthis

/-- A class whose declaration is exported is what the module exports under its name. -/
theorem exported_of_declaration (hmodule : OneMeaning module)
    (hstmt : stmt ∈ exportStatements module) (hdecl : stmt.field? "declaration" = some decl)
    (hclass : DeclaresClass exported cls decl) (lookup : Node → String → Option Node) :
    exportedValue? module exported = some (.classValue cls) ∧
      exportedType? lookup module exported = some cls := by
  have hthis : Exports stmt exported := .inr ⟨decl, hdecl, hclass.introduces⟩
  have hkind := kind_of_mem_exportStatements hstmt
  constructor
  · rw [exportedValue?_eq_of_exports hmodule hstmt hthis, hdecl]
    exact (hclass.bindings false).1
  · have htype : (exportStatements module).findSome? (typeStatement? · exported) = some cls := by
      rw [findSome?_eq_apply hstmt]
      · exact ((DeclaresClass.exported hkind hdecl hclass).bindings false).2
      · intro t ht htype
        exact hmodule.exported ht hstmt
          (.inr (exports_of_typeStatement? (kind_of_mem_exportStatements ht) htype)) hthis
    rw [exportedType?, htype]

/-! ## Chains of modules -/

/-- A name at the top of a file comes from one at the top of another file, by a named import
and an export clause. -/
def Hop (p : Program) (here there : SourceFile × String) : Prop :=
  ∃ imported, Imports p here.1 here.2 there.1 imported ∧ ReExports there.1 imported there.2

/-- Following a name from the top of a file through `k` modules ends at the declaration of a
class. -/
inductive Leads (p : Program) (cls : Node) : Nat → SourceFile → String → Prop
  | here {file : SourceFile} {name : String} {stmt : Node} (hstmt : stmt ∈ file.root.constructs)
      (hclass : DeclaresClass name cls stmt) : Leads p cls 0 file name
  | exported {file module : SourceFile} {name imported : String} {stmt decl : Node}
      (himports : Imports p file name module imported) (hstmt : stmt ∈ exportStatements module)
      (hdecl : stmt.field? "declaration" = some decl)
      (hclass : DeclaresClass imported cls decl) : Leads p cls 1 file name
  | through {k : Nat} {file module : SourceFile} {name localName : String}
      (hhop : Hop p (file, name) (module, localName)) (hnext : Leads p cls k module localName) :
      Leads p cls (k + 1) file name

/-- Following a name from the top of a file comes back to a name it has met. -/
def Circular (p : Program) (start : SourceFile × String) : Prop :=
  ∃ met, Relation.ReflTransGen (Hop p) start met ∧ Relation.TransGen (Hop p) met met

/-- A name that comes back to itself hops to another such name. -/
theorem Circular.step {here : SourceFile × String} (hcircular : Circular p here) :
    ∃ there, Hop p here there ∧ Circular p there := by
  obtain ⟨met, hreach, hround⟩ := hcircular
  rcases hreach.cases_head with rfl | ⟨there, hhop, hreach⟩
  · obtain ⟨there, hhop, hback⟩ := Relation.TransGen.head'_iff.mp hround
    exact ⟨there, hhop, here, hback, hround⟩
  · exact ⟨there, hhop, met, hreach, hround⟩

theorem mem_of_imports (himports : Imports p file name module imported) : module ∈ p.files := by
  obtain ⟨_, _, _, _, hmodule⟩ := himports
  exact Program.Region.mem_of_specifiedModule? hmodule

section Chains

variable (hfiles : ∀ file ∈ p.files, OneMeaning file)
include hfiles

/-- One hop: the lookup goes on in the next file with one module less to go, and it gives up
when there is none left. -/
theorem top_of_hop (hfile : file ∈ p.files) (hhop : Hop p (file, name) (module, localName)) :
    module ∈ p.files ∧
    (topValue? p 0 file name = some .untyped ∧ topType? p 0 file name = none) ∧
    ∀ hops,
      topValue? p (hops + 1) file name =
        some ((topValue? p hops module localName).getD .untyped) ∧
      topType? p (hops + 1) file name = topType? p hops module localName := by
  obtain ⟨imported, himports, hexports⟩ := hhop
  have hmodule := mem_of_imports himports
  obtain ⟨hend, hstep⟩ := top_of_imports (hfiles file hfile) himports
  refine ⟨hmodule, hend, fun hops => ?_⟩
  obtain ⟨hvalue, htype⟩ := hstep hops
  have hexported := exported_of_reExports (hfiles module hmodule) hexports
  rw [hvalue, htype, (hexported fun _ _ => none).1, (hexported _).2]
  exact ⟨rfl, rfl⟩

/-- Both lookups end at the class at the end of a chain that is not too long. -/
theorem top_of_leads {k : Nat} (hleads : Leads p cls k file name) (hfile : file ∈ p.files)
    (hk : k ≤ hops) :
    topValue? p hops file name = some (.classValue cls) ∧ topType? p hops file name = some cls := by
  induction hleads generalizing hops with
  | here hstmt hclass => exact top_of_declaresClass (hfiles _ hfile) hstmt hclass
  | exported himports hstmt hdecl hclass =>
      obtain ⟨hops, rfl⟩ := Nat.exists_eq_add_of_le' hk
      obtain ⟨hvalue, htype⟩ := (top_of_imports (hfiles _ hfile) himports).2 hops
      have hexported := exported_of_declaration (hfiles _ (mem_of_imports himports)) hstmt hdecl
        hclass
      rw [hvalue, htype, (hexported fun _ _ => none).1, (hexported _).2]
      cases hops <;> exact ⟨rfl, rfl⟩
  | through hhop _ ih =>
      obtain ⟨hops, rfl⟩ := Nat.exists_eq_succ_of_ne_zero (Nat.ne_zero_of_lt hk)
      obtain ⟨hmodule, -, hstep⟩ := top_of_hop hfiles hfile hhop
      obtain ⟨hvalue, htype⟩ := ih hmodule (Nat.le_of_succ_le_succ hk)
      rw [(hstep hops).1, (hstep hops).2, hvalue, htype]
      exact ⟨rfl, rfl⟩

/-- Both lookups give up on a longer chain. -/
theorem top_of_leads_far {k : Nat} (hleads : Leads p cls k file name) (hfile : file ∈ p.files)
    (hk : hops < k) :
    topValue? p hops file name = some .untyped ∧ topType? p hops file name = none := by
  induction hleads generalizing hops with
  | here => cases hk
  | exported himports =>
      obtain rfl : hops = 0 := Nat.lt_one_iff.mp hk
      exact (top_of_imports (hfiles _ hfile) himports).1
  | through hhop _ ih =>
      obtain ⟨hmodule, hend, hstep⟩ := top_of_hop hfiles hfile hhop
      cases hops with
      | zero => exact hend
      | succ hops =>
          obtain ⟨hvalue, htype⟩ := ih hmodule (Nat.lt_of_succ_lt_succ hk)
          rw [(hstep hops).1, (hstep hops).2, hvalue, htype]
          exact ⟨rfl, rfl⟩

/-- Both lookups give up on a chain that comes back. -/
theorem top_of_circular (hcircular : Circular p (file, name)) (hfile : file ∈ p.files) :
    topValue? p hops file name = some .untyped ∧ topType? p hops file name = none := by
  induction hops generalizing file name with
  | zero =>
      obtain ⟨there, hhop, -⟩ := hcircular.step
      exact (top_of_hop hfiles hfile hhop).2.1
  | succ hops ih =>
      obtain ⟨there, hhop, hcircular⟩ := hcircular.step
      obtain ⟨hmodule, -, hstep⟩ := top_of_hop hfiles hfile hhop
      obtain ⟨hvalue, htype⟩ := ih hcircular hmodule
      rw [(hstep hops).1, (hstep hops).2, hvalue, htype]
      exact ⟨rfl, rfl⟩

end Chains

/-! ## From a use -/

/-- At a use below the top of its file, a name means what the statements at the top make of
it: no scope inside the file binds it, and no global declaration does. -/
structure AtTop (p : Program) (use : Node) (name : String) : Prop where
  below : use.file.root ∈ use.ancestors
  program : use.file.root.kind = "program"
  unbound {scope : Node} : scope ∈ use.ancestors → scope.parent?.isSome →
    valueInScope? scope name = none
  undeclared {scope stmt : Node} : scope ∈ use.selfAndAncestors → scope.parent?.isSome →
    isStatementContainer scope.kind → stmt ∈ scope.constructs → ¬ Introduces stmt name
  notGlobal {container stmt : Node} : container ∈ globalContainers p use.file →
    stmt ∈ container.constructs → ¬ Introduces stmt name

variable {use : Node}

/-- The topmost of the nodes around a use is the top of its file. -/
theorem AtTop.eq_root (htop : AtTop p use name) {scope : Node}
    (hscope : scope ∈ use.selfAndAncestors) (houter : ¬ scope.parent?.isSome) :
    scope = use.file.root :=
  Node.eq_of_mem_lineage hscope (List.mem_of_mem_drop htop.below)
    (Option.not_isSome_iff_eq_none.mp houter) rfl

theorem AtTop.resolveValue (htop : AtTop p use name) :
    resolveValue? p use name = topValue? p maxImportHops use.file name := by
  have hscopes : use.ancestors.findSome? (valueInScope? · name) =
      declarationsIn? use.file.root name := by
    rw [findSome?_eq_apply htop.below]
    · simp only [valueInScope?, htop.program]
    · intro scope hscope hbinds
      refine htop.eq_root (List.mem_of_mem_drop hscope) fun hinner => ?_
      rw [htop.unbound hscope hinner] at hbinds
      cases hbinds
  have hglobals : (globalContainers p use.file).findSome? (declarationsIn? · name) = none := by
    refine List.findSome?_eq_none_iff.mpr fun container hcontainer => ?_
    refine List.findSome?_eq_none_iff.mpr fun stmt hstmt => ?_
    exact Option.not_isSome_iff_eq_none.mp fun hbinds =>
      htop.notGlobal hcontainer hstmt (.inl hbinds)
  rw [resolveValue?, bindingOf?, hscopes, hglobals, topValue?]
  cases declarationsIn? use.file.root name <;> rfl

theorem AtTop.resolveType (htop : AtTop p use name) :
    resolveType? p use name = topType? p maxImportHops use.file name := by
  have hscopes : (use.selfAndAncestors.filter (isStatementContainer ·.kind)).findSome?
      (typeIn? p maxImportHops · name) = topType? p maxImportHops use.file name := by
    refine findSome?_eq_apply ?_ ?_
    · refine List.mem_filter.mpr ⟨List.mem_of_mem_drop htop.below, ?_⟩
      rw [htop.program]
      rfl
    · intro scope hscope hfound
      obtain ⟨hscope, hcontainer⟩ := List.mem_filter.mp hscope
      refine htop.eq_root hscope fun hinner => ?_
      rw [typeIn?_eq_none fun _ => htop.undeclared hscope hinner hcontainer] at hfound
      cases hfound
  have hglobals : (globalContainers p use.file).findSome? (typeIn? p maxImportHops · name) = none :=
    List.findSome?_eq_none_iff.mpr fun container hcontainer =>
      typeIn?_eq_none fun _ => htop.notGlobal hcontainer
  rw [resolveType?, hscopes, hglobals]
  cases topType? p maxImportHops use.file name <;> rfl

/-- Where every name has one meaning in its file, a name of the top of a file that leads through
modules to a class stands for the class, as a value and as a type, if the modules are at most
`maxImportHops`. With more modules, or if the name comes back to itself, the value is untyped
and there is no type. -/
theorem resolve_through_modules (p : Program) (hfiles : ∀ file ∈ p.files, OneMeaning file)
    (use : Node) (hfile : use.file ∈ p.files) (name : String) (htop : AtTop p use name) :
    (∀ k cls, Leads p cls k use.file name →
      (k ≤ maxImportHops →
        resolveValue? p use name = some (.classValue cls) ∧ resolveType? p use name = some cls) ∧
      (maxImportHops < k →
        resolveValue? p use name = some .untyped ∧ resolveType? p use name = none)) ∧
    (Circular p (use.file, name) →
      resolveValue? p use name = some .untyped ∧ resolveType? p use name = none) := by
  rw [htop.resolveValue, htop.resolveType]
  refine ⟨fun k cls hleads => ⟨fun hk => ?_, fun hk => ?_⟩, fun hcircular => ?_⟩
  · exact top_of_leads hfiles hleads hfile hk
  · exact top_of_leads_far hfiles hleads hfile hk
  · exact top_of_circular hfiles hcircular hfile

/-! ## A sample -/

instance (stmt : Node) (name : String) : Decidable (Introduces stmt name) :=
  inferInstanceAs (Decidable (_ ∨ _))

theorem eq_of_length_le_one {α : Type} {l : List α} (hl : l.length ≤ 1) {a b : α} (ha : a ∈ l)
    (hb : b ∈ l) : a = b := by
  obtain ⟨c, rfl⟩ := List.length_eq_one_iff.mp (Nat.le_antisymm hl (List.length_pos_of_mem ha))
  rw [List.mem_singleton.mp ha, List.mem_singleton.mp hb]

/-- Every name has one meaning in a file in which one statement at most can introduce names, one
at most exports, and statements list one name at most. -/
theorem OneMeaning.of_length_le_one
    (hintroducing : (file.root.constructs.filter fun stmt =>
      stmt.kind != "export_statement" || (stmt.field? "declaration").isSome).length ≤ 1)
    (hexporting : (exportStatements file).length ≤ 1)
    (hlisting : ∀ stmt ∈ file.root.constructs,
      (importSpecifiers stmt).length ≤ 1 ∧ (exportSpecifiers stmt).length ≤ 1) :
    OneMeaning file where
  introduced {s t name} hs ht hsname htname := by
    have hmem : ∀ stmt ∈ file.root.constructs, Introduces stmt name →
        stmt ∈ file.root.constructs.filter fun stmt =>
          stmt.kind != "export_statement" || (stmt.field? "declaration").isSome := by
      intro stmt hstmt hname
      refine List.mem_filter.mpr ⟨hstmt, ?_⟩
      by_contra hclause
      simp only [Bool.or_eq_true, bne_iff_ne, ne_eq, not_or, Decidable.not_not,
        Option.not_isSome_iff_eq_none] at hclause
      rcases hname with hname | hname
      · rw [statementBinding?, statementBindingIn_export hclause.1, hclause.2] at hname
        cases hname
      · rw [typeStatement?, typeStatementIn_export hclause.1, hclause.2] at hname
        cases hname
    exact eq_of_length_le_one hintroducing (hmem s hs hsname) (hmem t ht htname)
  imported {stmt source source' name imported imported'} hstmt himports himports' := by
    obtain ⟨-, -, s, hs, listed, _, ⟨hlisted, -⟩, -, rfl, -⟩ := himports
    obtain ⟨-, -, t, ht, listed', _, ⟨hlisted', -⟩, -, rfl, -⟩ := himports'
    rw [eq_of_length_le_one (hlisting stmt hstmt).1 hs ht] at hlisted
    rw [Option.some.inj (hlisted.symm.trans hlisted')]
  exported hs ht _ _ := eq_of_length_le_one hexporting hs ht
  listed {stmt name localName localName'} hstmt hlists hlists' := by
    obtain ⟨-, s, hs, listed, _, ⟨hlisted, -⟩, rfl, -⟩ := hlists
    obtain ⟨-, t, ht, listed', _, ⟨hlisted', -⟩, rfl, -⟩ := hlists'
    rw [eq_of_length_le_one (hlisting stmt (List.mem_of_mem_filter hstmt)).2 hs ht] at hlisted
    rw [Option.some.inj (hlisted.symm.trans hlisted')]

/-- No scope inside the file and no global declaration stands in the way where there are no
containers of statements but the top of the file. -/
theorem AtTop.of_containers (hbelow : use.file.root ∈ use.ancestors)
    (hprogram : use.file.root.kind = "program")
    (hunbound : ∀ scope ∈ use.ancestors, scope.parent?.isSome → valueInScope? scope name = none)
    (hinner : ∀ scope ∈ use.selfAndAncestors, scope.parent?.isSome →
      ¬ isStatementContainer scope.kind)
    (hglobal : globalContainers p use.file = []) : AtTop p use name where
  below := hbelow
  program := hprogram
  unbound := hunbound _
  undeclared hscope houter hcontainer := absurd hcontainer (hinner _ hscope houter)
  notGlobal hcontainer := by
    rw [hglobal] at hcontainer
    cases hcontainer

namespace Sample

def construct (kind : String) (start stop : Nat) (fields : List String) (children : List Tree) :
    Tree :=
  .node ⟨kind, true, false, ⟨start, stop⟩, fields⟩ children

/-- A module that passes a name of another module on; all names are one letter. -/
def relay (path imported bound source exported : String) : SourceFile where
  load := 0
  path := ⟨path⟩
  text := "import \x7b" ++ imported ++ " as " ++ bound ++ "\x7d from './" ++ source ++
    "'; export \x7b" ++ bound ++ " as " ++ exported ++ "\x7d;"
  dialect := .typeScript
  tree := construct "program" 0 44 []
    [construct "import_statement" 0 27 []
      [construct "import_clause" 7 15 []
        [construct "named_imports" 7 15 []
          [construct "import_specifier" 8 14 []
            [construct "identifier" 8 9 ["name"] [], construct "identifier" 13 14 ["alias"] []]]],
        construct "string" 21 26 ["source"] [construct "string_fragment" 22 25 [] []]],
      construct "export_statement" 28 44 []
        [construct "export_clause" 35 43 []
          [construct "export_specifier" 36 42 []
            [construct "identifier" 36 37 ["name"] [], construct "identifier" 41 42 ["alias"] []]]]]

def first : SourceFile := relay "a.ts" "Y" "X" "b" "Z"

def second : SourceFile := relay "b.ts" "C" "B" "c" "Y"

/-- The module at the end of the chain. -/
def last : SourceFile where
  load := 0
  path := ⟨"c.ts"⟩
  text := "export class C \x7b\x7d"
  dialect := .typeScript
  tree := construct "program" 0 17 []
    [construct "export_statement" 0 17 []
      [construct "class_declaration" 7 17 ["declaration"]
        [construct "type_identifier" 13 14 ["name"] [], construct "class_body" 15 17 ["body"] []]]]

/-- A module that imports a name from itself. -/
def round : SourceFile := relay "d.ts" "L" "M" "d" "L"

def program : Program := ⟨[first, second, last, round], .standard⟩

/-- The use of a bound name in the export clause of a module that passes it on. -/
def useIn (file : SourceFile) : Node :=
  (file.root.preorder.find? (·.span == ⟨36, 37⟩)).getD file.root

/-- The declaration of the class. -/
def lastClass : Node := (last.root.preorder.find? (·.span == ⟨7, 17⟩)).getD last.root

theorem oneMeaning {file : SourceFile} (hfile : file ∈ program.files) : OneMeaning file := by
  have hlengths : ∀ file ∈ program.files,
      (file.root.constructs.filter fun stmt =>
        stmt.kind != "export_statement" || (stmt.field? "declaration").isSome).length ≤ 1 ∧
      (exportStatements file).length ≤ 1 ∧
      ∀ stmt ∈ file.root.constructs,
        (importSpecifiers stmt).length ≤ 1 ∧ (exportSpecifiers stmt).length ≤ 1 := by
    decide +kernel
  obtain ⟨hintroducing, hexporting, hlisting⟩ := hlengths file hfile
  exact .of_length_le_one hintroducing hexporting hlisting

theorem first_hop : Hop program (first, "X") (second, "B") :=
  ⟨"Y", ⟨_, .head _, _, importsAs_of_namedImport? rfl rfl, rfl⟩,
    ⟨_, .head _, rfl, listsAs_of_exportedLocal? rfl⟩⟩

theorem round_hop : Hop program (round, "M") (round, "M") :=
  ⟨"L", ⟨_, .head _, _, importsAs_of_namedImport? rfl rfl, rfl⟩,
    ⟨_, .head _, rfl, listsAs_of_exportedLocal? rfl⟩⟩

theorem leads_first : Leads program lastClass 2 first "X" :=
  .through first_hop (.exported ⟨_, .head _, _, importsAs_of_namedImport? rfl rfl, rfl⟩
    (.head _) rfl (.plain (.inl rfl) rfl))

end Sample

/-- A name renamed in two modules, and a name that a module imports from itself. -/
theorem resolve_through_modules_sample :
    (∀ file ∈ Sample.program.files, OneMeaning file) ∧
      (AtTop Sample.program (Sample.useIn Sample.first) "X" ∧
        Leads Sample.program Sample.lastClass 2 Sample.first "X" ∧
        resolveValue? Sample.program (Sample.useIn Sample.first) "X" =
          some (.classValue Sample.lastClass) ∧
        resolveType? Sample.program (Sample.useIn Sample.first) "X" = some Sample.lastClass) ∧
      AtTop Sample.program (Sample.useIn Sample.round) "M" ∧
        Circular Sample.program (Sample.round, "M") ∧
        resolveValue? Sample.program (Sample.useIn Sample.round) "M" = some .untyped ∧
        resolveType? Sample.program (Sample.useIn Sample.round) "M" = none := by
  have hfiles : ∀ file ∈ Sample.program.files, OneMeaning file := fun _ => Sample.oneMeaning
  have hfirst : AtTop Sample.program (Sample.useIn Sample.first) "X" :=
    .of_containers (.tail _ (.tail _ (.tail _ (.head _)))) rfl (by decide +kernel)
      (by decide +kernel) rfl
  have hround : AtTop Sample.program (Sample.useIn Sample.round) "M" :=
    .of_containers (.tail _ (.tail _ (.tail _ (.head _)))) rfl (by decide +kernel)
      (by decide +kernel) rfl
  have hcircular : Circular Sample.program (Sample.round, "M") :=
    ⟨_, .refl, .single Sample.round_hop⟩
  have hchain := resolve_through_modules Sample.program hfiles (Sample.useIn Sample.first)
    (.head _) "X" hfirst
  have hcycle := resolve_through_modules Sample.program hfiles (Sample.useIn Sample.round)
    (.tail _ (.tail _ (.tail _ (.head _)))) "M" hround
  exact ⟨hfiles, ⟨hfirst, Sample.leads_first, (hchain.1 2 _ Sample.leads_first).1 (by decide)⟩,
    hround, hcircular, hcycle.2 hcircular⟩

end Scope

end CallMigration
