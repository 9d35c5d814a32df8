import CallMigration.Proofs.Checker.Unions
import CallMigration.Proofs.Migration.Isolation
import CallMigration.Proofs.Program.Loaded

/-!
# The order of files

The files of a program are searched in order: for the module that a specifier stands for, and
for the global declaration of a name. Where at most one file answers each of these searches,
the order does not matter. A shape names the file of its declaration by the position, so with
the files in another order the types are the same when the positions in them are renumbered.
Nothing else is made of a position, and every file has the same revision.
-/

namespace CallMigration

open Scope Checker

/-! ## Searching in another order -/

/-- Where at most one element answers, the first answer is the same in every order. -/
theorem findSome?_perm {α β : Type} {f : α → Option β} {l l' : List α} (hperm : l.Perm l')
    (hone : l.Pairwise fun a b => f a = none ∨ f b = none) :
    l.findSome? f = l'.findSome? f := by
  induction hperm with
  | nil => rfl
  | cons a _ ih => rw [List.findSome?_cons, List.findSome?_cons, ih (List.pairwise_cons.mp hone).2]
  | swap a b l =>
      rcases (List.pairwise_cons.mp hone).1 a List.mem_cons_self with hnone | hnone
      · simp only [List.findSome?_cons, hnone]
      · simp only [List.findSome?_cons, hnone]
  | trans hfirst _ ih ih' => rw [ih hone, ih' ((hfirst.pairwise_iff Or.symm).mp hone)]

theorem find?_perm {α : Type} {f : α → Bool} {l l' : List α} (hperm : l.Perm l')
    (hone : l.Pairwise fun a b => ¬(f a = true ∧ f b = true)) : l.find? f = l'.find? f := by
  rw [List.find?_eq_findSome?_guard, List.find?_eq_findSome?_guard]
  apply findSome?_perm hperm
  apply hone.imp
  intro a b hboth
  simp only [Option.guard_eq_none_iff]
  grind

theorem findSome?_flatMap {α β γ : Type} {f : β → Option γ} {g : α → List β} (l : List α) :
    (l.flatMap g).findSome? f = l.findSome? fun a => (g a).findSome? f := by
  induction l with
  | nil => rfl
  | cons a l ih =>
      rw [List.flatMap_cons, List.findSome?_append, ih, List.findSome?_cons]
      cases (g a).findSome? f <;> rfl

/-! ## Names and paths of one file only -/

namespace SourceFile

/-- A value of this name is declared or imported among the global declarations of the file. -/
def IntroducesValue (file : SourceFile) (name : String) : Prop :=
  ∃ container ∈ globalContainersOf file, (declarationsIn? container name).isSome

/-- A type of this name is declared or imported among the global declarations of the file. -/
def IntroducesType (file : SourceFile) (name : String) : Prop :=
  ∃ container ∈ globalContainersOf file, ∃ stmt ∈ container.constructs,
    (typeStatement? stmt name).isSome ∨
      stmt.kind = "import_statement" ∧ (namedImport? stmt name).isSome

/-- Only a file that introduces a value answers a search for it. -/
theorem introducesValue_of_findSome? {file : SourceFile} {name : String}
    (hfound : (globalContainersOf file).findSome? (declarationsIn? · name) ≠ none) :
    file.IntroducesValue name := by
  obtain ⟨b, hb⟩ := Option.ne_none_iff_exists'.mp hfound
  obtain ⟨container, hcontainer, hb⟩ := List.exists_of_findSome?_eq_some hb
  exact ⟨container, hcontainer, by simp [hb]⟩

/-- Only a file that introduces a type answers a search for it, whatever its imports lead
to. -/
theorem introducesType_of_findSome? {p : Program} {hops : Nat} {file : SourceFile} {name : String}
    (hfound : (globalContainersOf file).findSome? (typeIn? p hops · name) ≠ none) :
    file.IntroducesType name := by
  obtain ⟨decl, hdecl⟩ := Option.ne_none_iff_exists'.mp hfound
  obtain ⟨container, hcontainer, hdecl⟩ := List.exists_of_findSome?_eq_some hdecl
  refine ⟨container, hcontainer, ?_⟩
  have hdeclared : ∀ c, container.constructs.findSome? (typeStatement? · name) = some c →
      ∃ stmt ∈ container.constructs, (typeStatement? stmt name).isSome ∨
        stmt.kind = "import_statement" ∧ (namedImport? stmt name).isSome := by
    intro c hc
    obtain ⟨stmt, hstmt, hc⟩ := List.exists_of_findSome?_eq_some hc
    exact ⟨stmt, hstmt, .inl (by simp [hc])⟩
  cases hops with
  | zero => exact hdeclared _ hdecl
  | succ hops =>
      rw [typeIn?] at hdecl
      split at hdecl
      next c hc => exact hdeclared c hc
      next =>
        obtain ⟨stmt, hstmt, hdecl⟩ := List.exists_of_findSome?_eq_some hdecl
        split at hdecl
        · cases hdecl
        next hkind =>
          obtain ⟨source, hsource, -⟩ := Option.bind_eq_some_iff.mp hdecl
          exact ⟨stmt, hstmt, .inr ⟨Decidable.not_not.mp hkind, by simp [hsource]⟩⟩

end SourceFile

namespace Program

/-- No two files have the same normal path, and no name is introduced among the global
declarations of two files. -/
structure NamesApart (p : Program) : Prop where
  paths : p.files.Pairwise fun f g => f.path.normalize ≠ g.path.normalize
  values : p.files.Pairwise fun f g => ∀ name, ¬(f.IntroducesValue name ∧ g.IntroducesValue name)
  types : p.files.Pairwise fun f g => ∀ name, ¬(f.IntroducesType name ∧ g.IntroducesType name)

/-- The same files in another order. -/
structure Reordered (q p : Program) : Prop where
  files : q.files.Perm p.files
  options : q.options = p.options

variable {p q : Program}

theorem normalize_of_same {path other : PathName} (hsame : path.same other = true) :
    path.normalize = other.normalize := by
  rw [PathName.normalize, PathName.normalize, beq_iff_eq.mp hsame]

/-! ## The same answers -/

namespace Reordered

theorem contains (hq : q.Reordered p) (file : SourceFile) : q.contains file = p.contains file :=
  hq.files.any_eq

theorem isAmbientGlobal (hq : q.Reordered p) : isAmbientGlobal q = isAmbientGlobal p := by
  funext name
  rw [Checker.isAmbientGlobal, Checker.isAmbientGlobal, hq.options]

theorem resolveModule (hq : q.Reordered p) (hp : p.NamesApart) :
    q.resolveModule = p.resolveModule := by
  funext importer specifier
  unfold Program.resolveModule
  split
  · apply findSome?_congr
    intro candidate _
    refine (find?_perm hq.files.symm (hp.paths.imp ?_)).symm
    rintro f g hpaths ⟨hf, hg⟩
    exact hpaths ((beq_iff_eq.mp hf).trans (beq_iff_eq.mp hg).symm)
  · rfl

/-- At most one of the other files answers a search among global declarations. -/
theorem findSome?_globalContainers (hq : q.Reordered p) {α : Type} (answer : Node → Option α)
    (hone : p.files.Pairwise fun f g => (globalContainersOf f).findSome? answer = none ∨
      (globalContainersOf g).findSome? answer = none) (file : SourceFile) :
    (globalContainers q file).findSome? answer = (globalContainers p file).findSome? answer := by
  rw [globalContainers, globalContainers, findSome?_flatMap, findSome?_flatMap]
  exact (findSome?_perm (hq.files.symm.filter _) (hone.filter _)).symm

/-! ## The same declarations -/

theorem specifiedModule? (hq : q.Reordered p) (hp : p.NamesApart) :
    specifiedModule? q = specifiedModule? p := by
  funext source
  rw [Scope.specifiedModule?, Scope.specifiedModule?, hq.resolveModule hp]

theorem followImport (hq : q.Reordered p) (hp : p.NamesApart) (hops : Nat) (b : Binding) :
    followImport q hops b = followImport p hops b := by
  induction hops generalizing b with
  | zero => cases b <;> rfl
  | succ hops ih =>
      cases b with
      | imported source name =>
          rw [Scope.followImport, Scope.followImport, hq.specifiedModule? hp]
          split
          · exact ih _
          · rfl
      | _ => rfl

theorem typeIn? (hq : q.Reordered p) (hp : p.NamesApart) (hops : Nat) :
    typeIn? q hops = typeIn? p hops := by
  induction hops with
  | zero => rfl
  | succ hops ih =>
      funext container name
      rw [Scope.typeIn?, Scope.typeIn?, hq.specifiedModule? hp, ih]

theorem resolveValue? (hq : q.Reordered p) (hp : p.NamesApart) (n : Node) (name : String) :
    resolveValue? q n name = resolveValue? p n name := by
  have hglobals := hq.findSome?_globalContainers (declarationsIn? · name)
    (hp.values.imp fun {f g} hboth => by
      by_contra hfound
      obtain ⟨hf, hg⟩ := not_or.mp hfound
      exact hboth name ⟨f.introducesValue_of_findSome? hf, g.introducesValue_of_findSome? hg⟩)
    n.file
  rw [Scope.resolveValue?, Scope.resolveValue?, bindingOf?, bindingOf?, hglobals]
  exact Option.map_congr fun b _ => hq.followImport hp _ b

theorem resolveType? (hq : q.Reordered p) (hp : p.NamesApart) (n : Node) (name : String) :
    resolveType? q n name = resolveType? p n name := by
  have hglobals := hq.findSome?_globalContainers (Scope.typeIn? p maxImportHops · name)
    (hp.types.imp fun {f g} hboth => by
      by_contra hfound
      obtain ⟨hf, hg⟩ := not_or.mp hfound
      exact hboth name ⟨f.introducesType_of_findSome? hf, g.introducesType_of_findSome? hg⟩)
    n.file
  rw [Scope.resolveType?, Scope.resolveType?, hq.typeIn? hp, hglobals]

end Reordered

/-! ## The positions of files -/

theorem NamesApart.pathsApart (hp : p.NamesApart) : p.PathsApart := by
  refine hp.paths.imp fun {f g} hpaths => ?_
  exact Bool.eq_false_iff.mpr fun hsame => hpaths (normalize_of_same hsame)

/-- The position in `q` of the file at a position in `p`. -/
def positionIn (p q : Program) (i : Nat) : Nat :=
  (p.files[i]?.bind q.indexOf?).getD i

namespace Reordered

theorem pathsApart (hq : q.Reordered p) (hp : p.PathsApart) : q.PathsApart := by
  refine (hq.files.pairwise_iff fun {f g} hapart => ?_).mpr hp
  rwa [PathName.same, Bool.beq_comm]

theorem getElem?_positionIn (hq : q.Reordered p) (hp : p.PathsApart) (i : Nat) :
    q.files[p.positionIn q i]? = p.files[i]? := by
  unfold positionIn
  cases hfile : p.files[i]? with
  | some file =>
      have hmem : file ∈ q.files := hq.files.mem_iff.mpr (List.mem_of_getElem? hfile)
      obtain ⟨j, hindex, hj⟩ := (hq.pathsApart hp).exists_indexOf? hmem
      rw [Option.bind_some, hindex]
      exact hj
  | none =>
      rw [List.getElem?_eq_none_iff] at hfile ⊢
      rwa [hq.files.length_eq]

/-- Two positions of one program are not the same in the other one. -/
theorem positionIn_injective (hq : q.Reordered p) (hp : p.PathsApart) :
    Function.Injective (p.positionIn q) := by
  intro i j hsame
  have hfiles : p.files[i]? = p.files[j]? := by
    rw [← hq.getElem?_positionIn hp i, hsame, hq.getElem?_positionIn hp j]
  cases hfile : p.files[i]? with
  | some file =>
      have hi := hp.indexOf?_eq_some hfile
      have hj := hp.indexOf?_eq_some (hfiles.symm.trans hfile)
      exact Option.some_inj.mp (hi.symm.trans hj)
  | none =>
      -- Beyond the files a position stays.
      rwa [positionIn, positionIn, ← hfiles, hfile] at hsame

/-- The positions in `q` of the files at the positions in `p`. -/
def renumbering (hq : q.Reordered p) (hp : p.PathsApart) : Nat ↪ Nat :=
  ⟨p.positionIn q, hq.positionIn_injective hp⟩

theorem indexOf? (hq : q.Reordered p) (hp : p.PathsApart) (file : SourceFile) :
    q.indexOf? file = (p.indexOf? file).map (hq.renumbering hp) := by
  cases hindex : p.indexOf? file with
  | some i =>
      obtain ⟨f, hf, hsame⟩ := hp.indexOf?_eq_some_iff.mp hindex
      refine (hq.pathsApart hp).indexOf?_eq_some_iff.mpr ⟨f, ?_, hsame⟩
      exact (hq.getElem?_positionIn hp i).trans hf
  | none =>
      have hnone := List.findIdx?_eq_none_iff.mp hindex
      exact List.findIdx?_eq_none_iff.mpr fun f hf => hnone f (hq.files.mem_iff.mp hf)

/-! ## The same types -/

/-- All nodes see what they saw before, and a position leads to the same file. -/
theorem kept (hq : q.Reordered p) (hp : p.NamesApart) :
    (Realm.whole p).Kept q (hq.renumbering hp.pathsApart) where
  value _ := hq.resolveValue? hp _ _
  type _ := hq.resolveType? hp _ _
  position _ := hq.indexOf? hp.pathsApart _
  declaration {id _ _} _ :=
    congrArg (Option.bind · _) (hq.getElem?_positionIn hp.pathsApart id.file)
  ambient h := by rwa [hq.isAmbientGlobal]

theorem typeAt (hq : q.Reordered p) (hp : p.NamesApart) (n : Node) :
    q.typeAt n = (p.typeAt n).map (StaticType.renumber (hq.renumbering hp.pathsApart)) := by
  rcases Realm.typeAt_cases (hq.kept hp) (hq.contains n.file) (by rw [hq.options]) trivial with
    hsame | ⟨m, -, hmissing, hambient, -⟩
  · exact hsame
  · rw [hq.isAmbientGlobal] at hambient
    cases hmissing.ambient.symm.trans hambient

/-- Positions do not tell whether a value may be absent. -/
theorem isNullableAt (hq : q.Reordered p) (hp : p.NamesApart) (policy : NullabilityPolicy) :
    q.isNullableAt policy = p.isNullableAt policy := by
  funext n
  rw [Program.isNullableAt, Program.isNullableAt, hq.typeAt hp]
  cases p.typeAt n with
  | ok t => exact congrArg Except.ok (policy.isNullable_renumber _ t)
  | error e => rfl

end Reordered

end Program

namespace Migration

theorem transform_reordered {p q : Program} (hq : q.Reordered p) (hp : p.NamesApart)
    (migrations : List Migration) (policy : NullabilityPolicy) :
    transform migrations policy q = transform migrations policy p := by
  funext n
  rw [transform, transform, hq.isNullableAt hp]

/-- Where no two files have the same normal path and no name is introduced among the global
declarations of two files, the order of the files does not matter. The checker's run in the one
order is its run in the other with all positions renumbered: every node has the same type up to
the renumbering, or the same error, and every file has the same revision, or the same error. -/
theorem typeAt_reordered (p q : Program) (hq : q.Reordered p) (hp : p.NamesApart) :
    ∃ σ : Nat ↪ Nat, (∀ i, q.files[σ i]? = p.files[i]?) ∧ ∀ file ∈ p.files,
      (∀ n ∈ file.root.subtree, q.typeAt n = (p.typeAt n).map (StaticType.renumber σ)) ∧
      ∀ migrations policy,
        Revision.ofFile (transform migrations policy q) file =
          Revision.ofFile (transform migrations policy p) file := by
  have hapart := hp.pathsApart
  refine ⟨hq.renumbering hapart, hq.getElem?_positionIn hapart, fun file _ => ⟨?_, ?_⟩⟩
  · intro n _
    exact hq.typeAt hp n
  · intro migrations policy
    rw [transform_reordered hq hp]

namespace Sample

/-- A script that declares the type of the imported value. -/
def typeScript : SourceFile where
  load := 0
  path := ⟨"c.ts"⟩
  text := "interface A \x7b\x7d"
  dialect := .typeScript
  tree := branch "program" 0 14 []
    [branch "interface_declaration" 0 14 []
      [leaf "interface" false 0 9 [], leaf "type_identifier" true 10 11 ["name"],
        branch "object_type" 12 14 ["body"]
          [leaf "\x7b" false 12 13 [], leaf "\x7d" false 13 14 []]]]

/-- A script that declares the receiver of the deprecated call. -/
def valueScript : SourceFile where
  load := 0
  path := ⟨"d.ts"⟩
  text := "let u: A;"
  dialect := .typeScript
  tree := branch "program" 0 9 []
    [branch "lexical_declaration" 0 9 []
      [leaf "let" false 0 3 ["kind"],
        branch "variable_declarator" 4 8 []
          [leaf "identifier" true 4 5 ["name"],
            branch "type_annotation" 5 8 ["type"]
              [leaf ":" false 5 6 [], leaf "type_identifier" true 7 8 []]],
        leaf ";" false 8 9 []]]

def ordered : Program := ⟨[importer, imported, valueScript, typeScript], .standard⟩

def reversed : Program := ⟨ordered.files.reverse, .standard⟩

/-- The subject of the deprecated call. -/
def importedUse : Node :=
  (importer.root.subtree.find? (·.span == ⟨41, 42⟩)).getD importer.root

theorem importedUse_mem_subtree : importedUse ∈ importer.root.subtree := by
  unfold importedUse
  cases huse : importer.root.subtree.find? (·.span == ⟨41, 42⟩) with
  | none => exact importer.root.mem_subtree_self
  | some n => exact List.mem_of_find?_eq_some huse

/-- Modules introduce nothing, one script a type and the other one a value. -/
theorem namesApart_ordered : ordered.NamesApart where
  paths := by decide +kernel
  values := by
    have hmodules : globalContainersOf importer = [] ∧ globalContainersOf imported = [] :=
      ⟨rfl, rfl⟩
    have hscript : ∀ name, declarationsIn? typeScript.root name = none := fun _ => rfl
    have hcontainers : globalContainersOf typeScript = [typeScript.root] := rfl
    simp [ordered, SourceFile.IntroducesValue, hmodules, hcontainers, hscript]
  types := by
    have hmodules : globalContainersOf importer = [] ∧ globalContainersOf imported = [] :=
      ⟨rfl, rfl⟩
    have hcontainers : globalContainersOf valueScript = [valueScript.root] := rfl
    have hkinds : ∀ stmt ∈ valueScript.root.constructs, stmt.kind ≠ "import_statement" := by
      decide +kernel
    have htypes : ∀ name, ∀ stmt ∈ valueScript.root.constructs, typeStatement? stmt name = none :=
      fun _ => List.forall_mem_singleton.mpr rfl
    simp +contextual [ordered, SourceFile.IntroducesType, hmodules, hcontainers, hkinds, htypes]

end Sample

/-- The call is rewritten for the type of the imported name, whose declaration is in the last
file of the one order and in the first file of the other. -/
theorem typeAt_reordered_sample :
    Sample.reversed.Reordered Sample.ordered ∧ Sample.ordered.NamesApart ∧
      Sample.ordered.typeAt Sample.importedUse =
        .ok (.union [.shape ⟨3, ⟨0, 14⟩, "interface_declaration"⟩ "A" [], .null]) ∧
      Sample.reversed.typeAt Sample.importedUse =
        .ok (.union [.shape ⟨0, ⟨0, 14⟩, "interface_declaration"⟩ "A" [], .null]) ∧
      (∃ σ : Nat ↪ Nat, (∀ i, Sample.reversed.files[σ i]? = Sample.ordered.files[i]?) ∧ σ 3 = 0) ∧
      ∃ r, Revision.ofFile (transform [standard] .nullOnly Sample.reversed) Sample.importer =
          .ok r ∧ r.revised = "import {x} from './b';\nx?.some() ?? false;" := by
  have hq : Sample.reversed.Reordered Sample.ordered := ⟨List.reverse_perm _, rfl⟩
  have hp := Sample.namesApart_ordered
  obtain ⟨σ, hpositions, hfiles⟩ := typeAt_reordered Sample.ordered Sample.reversed hq hp
  obtain ⟨htypes, hrevision⟩ := hfiles Sample.importer List.mem_cons_self
  have hrenumbered := htypes Sample.importedUse Sample.importedUse_mem_subtree
  have hordered : Sample.ordered.typeAt Sample.importedUse =
      .ok (.union [.shape ⟨3, ⟨0, 14⟩, "interface_declaration"⟩ "A" [], .null]) := by
    decide +kernel
  have hreversed : Sample.reversed.typeAt Sample.importedUse =
      .ok (.union [.shape ⟨0, ⟨0, 14⟩, "interface_declaration"⟩ "A" [], .null]) := by
    decide +kernel
  have hposition : σ 3 = 0 := by
    rw [hordered, hreversed] at hrenumbered
    have hfile : 0 = σ 3 := by
      simpa [Except.map, ShapeId.renumber, StaticType.renumberBindings] using hrenumbered
    exact hfile.symm
  have hrevised : (Revision.ofFile (transform [standard] .nullOnly Sample.ordered)
      Sample.importer).toOption.map (·.revised) =
      some "import {x} from './b';\nx?.some() ?? false;" := by decide +kernel
  refine ⟨hq, hp, hordered, hreversed, ⟨σ, hpositions, hposition⟩, ?_⟩
  rw [hrevision]
  exact Revision.exists_ok_of_revised hrevised

end Migration

end CallMigration
