import CallMigration.Proofs.Syntax.Chain
import CallMigration.Scope.Resolve
import CallMigration.Types.StaticType

/-!
# Regions of a program

A region is a set of nodes that holds the top of every file, and with a node its children
and its parent. Looking a name up goes up and down trees and from one file of the program
to another, so what is found from a node of a region is in the region again.
-/

namespace CallMigration

/-- A set of nodes that lookups in a program do not leave. -/
structure Program.Region (p : Program) where
  node : Node → Prop
  root {file : SourceFile} : file ∈ p.files → node file.root
  child {n c : Node} : node n → c ∈ n.children → node c
  parent {n m : Node} : node n → n.parent? = some m → node m

/-- The declaration that a shape names. -/
def Program.declaration? (p : Program) (id : ShapeId) : Option Node :=
  p.files[id.file]?.bind fun file => file.nodeAt? id.span id.kind

/-- The nodes of a binding are in a set. An imported binding is one of an import statement
in the set. -/
def Binding.Inside (K : Node → Prop) : Binding → Prop
  | .declarator node => K node
  | .parameter node _ => K node
  | .destructured owner pattern => K owner ∧ K pattern
  | .loopVariable statement => K statement
  | .function node => K node
  | .classValue node => K node
  | .imported source _ =>
      ∃ stmt, K stmt ∧ stmt.kind = "import_statement" ∧ stmt.field? "source" = some source
  | .untyped => True

namespace Program.Region

variable {p : Program} (r : p.Region) {n c : Node}

/-! ## Up and down the tree -/

theorem field (hn : r.node n) {name : String} (hc : n.field? name = some c) : r.node c :=
  r.child hn (List.mem_of_find?_eq_some hc)

theorem construct (hn : r.node n) (hc : c ∈ n.constructs) : r.node c :=
  r.child hn (List.mem_of_mem_filter hc)

theorem firstConstruct (hn : r.node n) (hc : n.firstConstruct? = some c) : r.node c :=
  r.construct hn (List.mem_of_head? hc)

theorem lineage {file : SourceFile} {tree : Tree} {above : List Step}
    (hn : r.node ⟨file, tree, above⟩) (hc : c ∈ Node.lineage file tree above) : r.node c := by
  induction above generalizing tree with
  | nil =>
      rw [List.mem_singleton.mp hc]
      exact hn
  | cons step rest ih =>
      rcases List.mem_cons.mp hc with rfl | houter
      · exact hn
      · exact ih (r.parent hn rfl) houter

theorem selfAndAncestors (hn : r.node n) (hc : c ∈ n.selfAndAncestors) : r.node c :=
  r.lineage hn hc

theorem ancestors (hn : r.node n) (hc : c ∈ n.ancestors) : r.node c :=
  r.selfAndAncestors hn (List.mem_of_mem_drop hc)

theorem smallestCovering (target : Span) (hn : r.node n) :
    r.node (n.smallestCovering target) := by
  induction n using Node.induction_children with
  | node n ih =>
      rw [Node.smallestCovering, Node.fold_eq]
      split
      next b hb =>
        obtain ⟨c, hc, rfl⟩ := List.mem_map.mp (List.mem_of_find?_eq_some hb)
        split
        · exact ih c hc (r.child hn hc)
        · exact hn
      next => exact hn

theorem declaration {id : ShapeId} (hc : p.declaration? id = some c) : r.node c := by
  obtain ⟨file, hfile, hc⟩ := Option.bind_eq_some_iff.mp hc
  have hroot := r.root (List.mem_of_getElem? hfile)
  exact r.selfAndAncestors (r.smallestCovering _ hroot) (List.mem_of_find?_eq_some hc)

/-! ## Bindings of a node -/

open Scope

variable {name : String} {b : Binding}

theorem field?_of_namedImport? {source : Node} {imported : String}
    (himport : namedImport? n name = some (source, imported)) :
    n.field? "source" = some source := by
  obtain ⟨found, hfound, hrest⟩ := Option.bind_eq_some_iff.mp himport
  obtain ⟨clause, -, hrest⟩ := Option.bind_eq_some_iff.mp hrest
  obtain ⟨named, -, hrest⟩ := Option.bind_eq_some_iff.mp hrest
  obtain ⟨specifier, -, hrest⟩ := List.exists_of_findSome?_eq_some hrest
  obtain ⟨listed, -, hrest⟩ := Option.bind_eq_some_iff.mp hrest
  dsimp only at hrest
  split at hrest
  · cases hrest
    exact hfound
  · cases hrest

theorem importBinding (hn : r.node n) (hkind : n.kind = "import_statement")
    (hb : importBinding? n name = some b) : b.Inside r.node := by
  unfold importBinding? at hb
  split at hb
  next source imported himport =>
    cases hb
    exact ⟨n, hn, hkind, field?_of_namedImport? himport⟩
  next =>
    obtain ⟨clause, -, hrest⟩ := Option.bind_eq_some_iff.mp hb
    dsimp only at hrest
    split at hrest
    · cases hrest
      trivial
    · cases hrest

theorem declarationBinding (hn : r.node n) (hb : declarationBinding? n name = some b) :
    b.Inside r.node := by
  obtain ⟨item, hitem, hb⟩ := List.exists_of_findSome?_eq_some hb
  have hitem := r.construct hn hitem
  split at hb
  · cases hb
  · obtain ⟨pattern, hpattern, hb⟩ := Option.bind_eq_some_iff.mp hb
    split at hb
    · split at hb
      · cases hb
        exact hitem
      · cases hb
    · split at hb
      · cases hb
        exact ⟨hitem, r.field hitem hpattern⟩
      · cases hb

theorem statementBindingIn (hn : r.node n) (inAmbient : Bool)
    (hb : Scope.statementBindingIn name n inAmbient = some b) : b.Inside r.node := by
  induction n using Node.induction_children generalizing inAmbient with
  | node n ih =>
      have hnamed : ∀ {found : Binding},
          (if fieldTextIs n "name" name then some found else none) = some b →
          found.Inside r.node → b.Inside r.node := by
        intro found hb hfound
        split at hb
        · cases hb
          exact hfound
        · cases hb
      have hbelow : ∀ inAmbient, (n.constructs.findSome? fun c =>
          Scope.statementBindingIn name c inAmbient) = some b → b.Inside r.node := by
        intro inAmbient hb
        obtain ⟨c, hc, hb⟩ := List.exists_of_findSome?_eq_some hb
        exact ih c (List.mem_of_mem_filter hc) (r.construct hn hc) inAmbient hb
      rw [Scope.statementBindingIn, Node.fold_eq] at hb
      simp only [Node.constructs_branches, Node.field?_branches, List.findSome?_map] at hb
      split at hb
      · split at hb
        · exact hbelow false hb
        · cases hb
      · exact r.declarationBinding hn hb
      · exact r.declarationBinding hn hb
      · obtain ⟨b', hb', hb⟩ := Option.bind_eq_some_iff.mp hb
        obtain ⟨c, hc, rfl⟩ := Option.map_eq_some_iff.mp hb'
        exact ih c (List.mem_of_find?_eq_some hc) (r.field hn hc) false hb
      · exact hbelow true hb
      · exact hnamed hb hn
      · exact hnamed hb hn
      · exact hnamed hb hn
      · exact hnamed hb hn
      · exact hnamed hb hn
      · exact hnamed hb trivial
      next hkind => exact r.importBinding hn hkind hb
      · cases hb

theorem declarationsIn (hn : r.node n) (hb : declarationsIn? n name = some b) :
    b.Inside r.node := by
  obtain ⟨stmt, hstmt, hb⟩ := List.exists_of_findSome?_eq_some hb
  exact r.statementBindingIn (r.construct hn hstmt) false hb

theorem parameterBinding (hn : r.node n) (hb : parameterBinding? n name = some b) :
    b.Inside r.node := by
  unfold parameterBinding? at hb
  split at hb
  · cases hb
  · obtain ⟨pattern, hpattern, hb⟩ := Option.bind_eq_some_iff.mp hb
    split at hb
    · cases hb
      exact hn
    · split at hb
      · cases hb
        exact ⟨hn, r.field hn hpattern⟩
      · cases hb

theorem functionScope (hn : r.node n) (hb : functionScope? n name = some b) :
    b.Inside r.node := by
  simp only [functionScope?, Option.orElse_eq_orElse, Option.orElse_eq_or,
    Option.or_eq_some_iff] at hb
  rcases hb with hbare | ⟨-, hlisted | ⟨-, hown⟩⟩
  · obtain ⟨parameter, hparameter, hbare⟩ := Option.bind_eq_some_iff.mp hbare
    split at hbare
    · cases hbare
      exact r.field hn hparameter
    · cases hbare
  · obtain ⟨parameters, hparameters, hlisted⟩ := Option.bind_eq_some_iff.mp hlisted
    obtain ⟨parameter, hparameter, hlisted⟩ := List.exists_of_findSome?_eq_some hlisted
    exact r.parameterBinding (r.construct (r.field hn hparameters) hparameter) hlisted
  · -- Every kind of function expression binds its own name alike.
    split at hown
    iterate 3
      · split at hown
        · cases hown
          exact hn
        · cases hown
    · cases hown

theorem loopScope (hn : r.node n) (hb : loopScope? n name = some b) : b.Inside r.node := by
  obtain ⟨-, -, hb⟩ := Option.bind_eq_some_iff.mp hb
  obtain ⟨left, hleft, hb⟩ := Option.bind_eq_some_iff.mp hb
  split at hb
  · cases hb
  · split at hb
    · split at hb
      · cases hb
        exact hn
      · cases hb
        exact ⟨hn, r.field hn hleft⟩
      · cases hb
        exact ⟨hn, r.field hn hleft⟩
      · cases hb
        trivial
    · cases hb
      trivial

theorem valueInScope (hn : r.node n) (hb : valueInScope? n name = some b) : b.Inside r.node := by
  unfold valueInScope? at hb
  split at hb
  iterate 5
    · exact r.declarationsIn hn hb
  iterate 7
    · exact r.functionScope hn hb
  · obtain ⟨initializer, hinitializer, hb⟩ := Option.bind_eq_some_iff.mp hb
    exact r.declarationBinding (r.field hn hinitializer) hb
  · exact r.loopScope hn hb
  · obtain ⟨parameter, -, hb⟩ := Option.bind_eq_some_iff.mp hb
    split at hb
    · cases hb
      trivial
    · cases hb
  iterate 2
    · split at hb
      · cases hb
        exact hn
      · cases hb
  · cases hb

theorem typeStatementIn (hn : r.node n) (inAmbient : Bool)
    (hc : Scope.typeStatementIn name n inAmbient = some c) : r.node c := by
  induction n using Node.induction_children generalizing inAmbient with
  | node n ih =>
      have hnamed : (if fieldTextIs n "name" name then some n else none) = some c → r.node c := by
        intro hc
        split at hc
        · cases hc
          exact hn
        · cases hc
      have hbelow : ∀ inAmbient, (n.constructs.findSome? fun c =>
          Scope.typeStatementIn name c inAmbient) = some c → r.node c := by
        intro inAmbient hc
        obtain ⟨stmt, hstmt, hc⟩ := List.exists_of_findSome?_eq_some hc
        exact ih stmt (List.mem_of_mem_filter hstmt) (r.construct hn hstmt) inAmbient hc
      rw [Scope.typeStatementIn, Node.fold_eq] at hc
      simp only [Node.constructs_branches, Node.field?_branches, List.findSome?_map] at hc
      split at hc
      · split at hc
        · exact hbelow false hc
        · cases hc
      iterate 4
        · exact hnamed hc
      · obtain ⟨branch, hbranch, hc⟩ := Option.bind_eq_some_iff.mp hc
        obtain ⟨decl, hdecl, rfl⟩ := Option.map_eq_some_iff.mp hbranch
        exact ih decl (List.mem_of_find?_eq_some hdecl) (r.field hn hdecl) false hc
      · exact hbelow true hc
      · cases hc

theorem typeStatements {stmts : List Node} (hstmts : ∀ s ∈ stmts, r.node s)
    (hc : stmts.findSome? (typeStatement? · name) = some c) : r.node c := by
  obtain ⟨stmt, hstmt, hc⟩ := List.exists_of_findSome?_eq_some hc
  exact r.typeStatementIn (hstmts stmt hstmt) false hc

/-! ## Files of the program -/

theorem mem_of_specifiedModule? {source : Node} {file : SourceFile}
    (hfile : specifiedModule? p source = some file) : file ∈ p.files := by
  obtain ⟨specifier, -, hfile⟩ := Option.bind_eq_some_iff.mp hfile
  unfold Program.resolveModule at hfile
  split at hfile
  · obtain ⟨candidate, -, hfile⟩ := List.exists_of_findSome?_eq_some hfile
    exact List.mem_of_find?_eq_some hfile
  · cases hfile

theorem exportStatement {file : SourceFile} (hfile : file ∈ p.files)
    (hn : n ∈ exportStatements file) : r.node n :=
  r.construct (r.root hfile) (List.mem_of_mem_filter hn)

theorem exportedValue {file : SourceFile} (hfile : file ∈ p.files)
    (hb : exportedValue? file name = some b) : b.Inside r.node := by
  obtain ⟨stmt, hstmt, hb⟩ := List.exists_of_findSome?_eq_some hb
  split at hb
  next decl hdecl =>
    exact r.statementBindingIn (r.field (r.exportStatement hfile hstmt) hdecl) false hb
  next =>
    obtain ⟨listed, -, hb⟩ := Option.bind_eq_some_iff.mp hb
    exact r.declarationsIn (r.root hfile) hb

theorem followImport (hops : Nat) (hb : b.Inside r.node) :
    (Scope.followImport p hops b).Inside r.node := by
  induction hops generalizing b with
  | zero => cases b <;> trivial
  | succ hops ih =>
      cases b with
      | imported source name =>
          rw [Scope.followImport]
          split
          next next' hnext =>
            obtain ⟨file, hfile, hnext⟩ := Option.bind_eq_some_iff.mp hnext
            exact ih (r.exportedValue (mem_of_specifiedModule? hfile) hnext)
          next => trivial
      | _ => exact hb

theorem globalContainer {file : SourceFile} (hn : n ∈ globalContainers p file) : r.node n := by
  obtain ⟨other, hother, hn⟩ := List.mem_flatMap.mp hn
  have hroot := r.root (List.mem_of_mem_filter hother)
  unfold globalContainersOf at hn
  split at hn
  · obtain ⟨stmt, hstmt, hn⟩ := List.mem_filterMap.mp hn
    unfold globalBlock? at hn
    split at hn
    · exact r.construct (r.construct hroot hstmt) (List.mem_of_find?_eq_some hn)
    · cases hn
  · rw [List.mem_singleton.mp hn]
    exact hroot

theorem bindingOf (hn : r.node n) (hb : bindingOf? p n name = some b) : b.Inside r.node := by
  unfold bindingOf? at hb
  split at hb
  next binding hbinding =>
    cases hb
    obtain ⟨scope, hscope, hb⟩ := List.exists_of_findSome?_eq_some hbinding
    exact r.valueInScope (r.ancestors hn hscope) hb
  next =>
    obtain ⟨container, hcontainer, hb⟩ := List.exists_of_findSome?_eq_some hb
    exact r.declarationsIn (r.globalContainer hcontainer) hb

/-- What a value name stands for at a node of a region is in the region. -/
theorem resolveValue (hn : r.node n) (hb : resolveValue? p n name = some b) :
    b.Inside r.node := by
  obtain ⟨binding, hbinding, rfl⟩ := Option.map_eq_some_iff.mp hb
  exact r.followImport maxImportHops (r.bindingOf hn hbinding)

theorem typeIn (hops : Nat) (hn : r.node n) (hc : typeIn? p hops n name = some c) :
    r.node c := by
  induction hops generalizing n name with
  | zero => exact r.typeStatements (fun _ => r.construct hn) hc
  | succ hops ih =>
      rw [typeIn?] at hc
      split at hc
      next found hfound =>
        cases hc
        exact r.typeStatements (fun _ => r.construct hn) hfound
      next =>
        obtain ⟨stmt, -, hc⟩ := List.exists_of_findSome?_eq_some hc
        split at hc
        · cases hc
        · obtain ⟨⟨source, imported⟩, -, hc⟩ := Option.bind_eq_some_iff.mp hc
          obtain ⟨file, hfile, hc⟩ := Option.bind_eq_some_iff.mp hc
          have hfile := mem_of_specifiedModule? hfile
          unfold exportedType? at hc
          split at hc
          next found hfound =>
            cases hc
            exact r.typeStatements (fun _ => r.exportStatement hfile) hfound
          next =>
            obtain ⟨listed, -, hc⟩ := Option.bind_eq_some_iff.mp hc
            exact ih (r.root hfile) hc

/-- The declaration of a type name at a node of a region is in the region. -/
theorem resolveType (hn : r.node n) (hc : resolveType? p n name = some c) : r.node c := by
  unfold resolveType? at hc
  dsimp only at hc
  split at hc
  next found hfound =>
    cases hc
    obtain ⟨scope, hscope, hc⟩ := List.exists_of_findSome?_eq_some hfound
    exact r.typeIn _ (r.selfAndAncestors hn (List.mem_of_mem_filter hscope)) hc
  next =>
    obtain ⟨container, hcontainer, hc⟩ := List.exists_of_findSome?_eq_some hc
    exact r.typeIn _ (r.globalContainer hcontainer) hc

end Program.Region

end CallMigration
