import CallMigration.Proofs.Scope.Region

/-!
# Names in two programs

Which declaration a name has depends on the program in two ways only: the modules that its
statements import from, and the containers of global declarations. Where two programs agree
on these for the nodes of a region, every name in the region has the same declaration in
both.
-/

namespace CallMigration

open Scope

/-- A list is searched alike for two answers that agree on its elements. -/
theorem findSome?_congr {α β : Type} {f g : α → Option β} {l : List α}
    (hagree : ∀ a ∈ l, f a = g a) : l.findSome? f = l.findSome? g := by
  induction l with
  | nil => rfl
  | cons a l ih =>
      obtain ⟨ha, hl⟩ := List.forall_mem_cons.mp hagree
      rw [List.findSome?_cons, List.findSome?_cons, ha, ih hl]

namespace Program

/-- What `p` says about imports and global declarations around the nodes of a region, `q`
says too. -/
structure Region.Shared {p : Program} (r : p.Region) (q : Program) : Prop where
  imports {stmt source : Node} : r.node stmt → stmt.kind = "import_statement" →
    stmt.field? "source" = some source → specifiedModule? q source = specifiedModule? p source
  globals {n : Node} : r.node n → globalContainers q n.file = globalContainers p n.file

variable {p q : Program} {r : p.Region} {n : Node} {name : String}

namespace Region.Shared

theorem followImport (hshared : r.Shared q) (hops : Nat) {b : Binding} (hb : b.Inside r.node) :
    Scope.followImport q hops b = Scope.followImport p hops b := by
  induction hops generalizing b with
  | zero => cases b <;> rfl
  | succ hops ih =>
      cases b with
      | imported source name =>
          obtain ⟨stmt, hstmt, hkind, hsource⟩ := hb
          rw [Scope.followImport, Scope.followImport, hshared.imports hstmt hkind hsource]
          split
          next binding hbinding =>
            obtain ⟨file, hfile, hbinding⟩ := Option.bind_eq_some_iff.mp hbinding
            exact ih (r.exportedValue (mem_of_specifiedModule? hfile) hbinding)
          next => rfl
      | _ => rfl

theorem bindingOf (hshared : r.Shared q) (hn : r.node n) :
    bindingOf? q n name = bindingOf? p n name := by
  rw [bindingOf?, bindingOf?, hshared.globals hn]

theorem resolveValue (hshared : r.Shared q) (hn : r.node n) :
    resolveValue? q n name = resolveValue? p n name := by
  rw [resolveValue?, resolveValue?, hshared.bindingOf hn]
  apply Option.map_congr
  intro b hb
  exact hshared.followImport maxImportHops (r.bindingOf hn hb)

theorem typeIn (hshared : r.Shared q) (hops : Nat) (hn : r.node n) :
    typeIn? q hops n name = typeIn? p hops n name := by
  induction hops generalizing n name with
  | zero => rfl
  | succ hops ih =>
      rw [typeIn?, typeIn?]
      split
      · rfl
      · apply findSome?_congr
        intro stmt hstmt
        split
        · rfl
        next hkind =>
          apply Option.bind_congr
          rintro ⟨source, imported⟩ himport
          dsimp only
          rw [hshared.imports (r.construct hn hstmt) (Decidable.not_not.mp hkind)
            (field?_of_namedImport? himport)]
          apply Option.bind_congr
          intro file hfile
          rw [exportedType?, exportedType?]
          split
          · rfl
          · apply Option.bind_congr
            intro listed _
            exact ih (r.root (mem_of_specifiedModule? hfile))

theorem resolveType (hshared : r.Shared q) (hn : r.node n) :
    resolveType? q n name = resolveType? p n name := by
  have hscopes : (n.selfAndAncestors.filter (isStatementContainer ·.kind)).findSome?
      (typeIn? q maxImportHops · name) =
      (n.selfAndAncestors.filter (isStatementContainer ·.kind)).findSome?
        (typeIn? p maxImportHops · name) := by
    apply findSome?_congr
    intro scope hscope
    exact hshared.typeIn _ (r.selfAndAncestors hn (List.mem_of_mem_filter hscope))
  have hglobals : (globalContainers p n.file).findSome? (typeIn? q maxImportHops · name) =
      (globalContainers p n.file).findSome? (typeIn? p maxImportHops · name) := by
    apply findSome?_congr
    intro container hcontainer
    exact hshared.typeIn _ (r.globalContainer hcontainer)
  rw [resolveType?, resolveType?, hscopes, hshared.globals hn, hglobals]

end Region.Shared

end Program

end CallMigration
