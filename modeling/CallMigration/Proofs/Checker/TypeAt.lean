import CallMigration.Proofs.Checker.Persistence

/-!
# Types at nodes of two programs

The type of a node is the answer to a question of depth zero. It is normal, and without it
there is a name that has no declaration: no question is given up. Where a second program
keeps a realm, the types of its nodes are the same, and of the names that are missed only
those are found that have become globals. Two programs with the same files keep every
realm of each other as far as their globals go.
-/

namespace CallMigration

open Scope Checker Outcome

@[simp] theorem PathName.same_self (path : PathName) : path.same path = true := by simp [same]

@[simp] theorem SourceFile.same_self (file : SourceFile) : file.same file = true := by simp [same]

namespace Program

variable {p q : Program} {r : p.Realm} {σ : Nat ↪ Nat} {n : Node} {t : StaticType}

namespace Realm

theorem persists_expression (hq : r.Kept q σ) (hn : r.node n) :
    PersistsType r q σ ((Answers.within p allowance).expression n 0)
      ((Answers.within q allowance).expression n 0) := by
  change PersistsType r q σ (expressionRule p (Answers.within p (maxDepth + 1)) n 0)
    (expressionRule q (Answers.within q (maxDepth + 1)) n 0)
  refine persists_expressionRule hq (fun _ => ?_) hn
  apply Answers.persist_within hq <;> omega

/-- A node of the realm has the same type in both programs, but for the positions of files, or
a name is missed. -/
theorem trackedTypeAt_cases (hq : r.Kept q σ) (hn : r.node n) :
    (∃ t, r.type t ∧ p.trackedTypeAt n = .ok t ∧ q.trackedTypeAt n = .ok (t.renumber σ)) ∨
      ∃ m, r.node m ∧ Undeclared p m ∧ p.trackedTypeAt n = .error m.unresolved ∧
        (isAmbientGlobal q m.text = false → q.trackedTypeAt n = .error m.unresolved) := by
  have hpersists := persists_expression hq hn
  unfold trackedTypeAt
  generalize (Answers.within p allowance).expression n 0 = o,
    (Answers.within q allowance).expression n 0 = o' at hpersists
  cases hpersists with
  | ok ht => exact .inl ⟨_, ht, rfl, rfl⟩
  | error hm hmissing ho =>
      refine .inr ⟨_, hm, hmissing, rfl, fun hambient => ?_⟩
      rw [ho hambient]

/-- A node of the realm has the same type in both programs, but for the positions of files, or
a name that the first misses is a global of the second. -/
theorem typeAt_cases (hq : r.Kept q σ) (hcontains : q.contains n.file = p.contains n.file)
    (hstrict : q.options.strict = p.options.strict) (hn : r.node n) :
    q.typeAt n = (p.typeAt n).map (StaticType.renumber σ) ∨ ∃ m, r.node m ∧ Undeclared p m ∧
      isAmbientGlobal q m.text = true ∧ p.typeAt n = .error m.unresolved := by
  unfold typeAt
  rw [hcontains, hstrict]
  split
  · exact .inl rfl
  · rcases trackedTypeAt_cases hq hn with ⟨t, -, hp, hok⟩ | ⟨m, hm, hmissing, hp, hq⟩
    · refine .inl ?_
      rw [hp, hok]
      cases p.options.strict <;> simp [Except.map]
    · cases hambient : isAmbientGlobal q m.text with
      | false => exact .inl (by rw [hp, hq hambient]; rfl)
      | true => exact .inr ⟨m, hm, hmissing, hambient, by rw [hp]⟩

/-- The realm of all nodes, with the normal types. -/
def whole (p : Program) : p.Realm where
  node _ := True
  root _ := trivial
  child _ _ := trivial
  parent _ _ := trivial
  type := StaticType.Normal
  closed := StaticType.closed_normal
  shape _ _ := .shape

/-- Programs with the same files see the same, apart from globals. -/
theorem kept_of_files (r : p.Realm) (hfiles : q.files = p.files)
    (hambient : ∀ name, isAmbientGlobal p name = true → isAmbientGlobal q name = true) :
    r.Kept q (.refl Nat) := by
  have hmodule : q.resolveModule = p.resolveModule := by
    funext importer specifier
    simp only [resolveModule, hfiles]
  have hshared : r.Shared q :=
    { imports := fun _ _ _ => by simp only [specifiedModule?, hmodule]
      globals := fun _ => by simp only [globalContainers, otherFiles, hfiles] }
  exact
    { value := hshared.resolveValue
      type := hshared.resolveType
      position := fun _ => by
        simp only [indexOf?, hfiles]
        exact Option.map_id'.symm
      declaration := fun _ => by
        simp only [declaration?, hfiles]
        rfl
      ambient := hambient _ }

end Realm

/-- Types under full tracking of absent values are normal. -/
theorem normal_trackedTypeAt (ht : p.trackedTypeAt n = .ok t) : t.Normal := by
  rcases Realm.trackedTypeAt_cases (n := n) (Realm.whole p).kept_self trivial with
    ⟨u, hu, hok, -⟩ | ⟨m, -, -, herror, -⟩
  · cases hok.symm.trans ht
    exact hu
  · cases herror.symm.trans ht

theorem trackedTypeAt_congr (hfiles : q.files = p.files)
    (hglobals : q.options.ambientGlobals = p.options.ambientGlobals) (n : Node) :
    q.trackedTypeAt n = p.trackedTypeAt n := by
  have hambient : isAmbientGlobal q = isAmbientGlobal p := by
    funext name
    rw [isAmbientGlobal, isAmbientGlobal, hglobals]
  have hkept : (Realm.whole p).Kept q (.refl Nat) := by
    apply Realm.kept_of_files _ hfiles
    intro name hp
    rwa [hambient]
  rcases Realm.trackedTypeAt_cases (n := n) hkept trivial with
    ⟨t, -, hp, hq⟩ | ⟨m, -, hmissing, hp, hq⟩
  · rw [hp, hq, StaticType.renumber_refl]
  · rw [hp, hq (by rw [hambient]; exact hmissing.ambient)]

/-! ## Nodes of the program -/

theorem contains_of_mem {file : SourceFile} (hfile : file ∈ p.files) : p.contains file = true :=
  List.any_eq_true.mpr ⟨file, hfile, file.same_self⟩

/-- The realm of the nodes that types are told for. -/
def known (p : Program) : p.Realm where
  node n := p.contains n.file = true
  root hfile := contains_of_mem hfile
  child hn hc := by
    obtain ⟨t, -, i, rfl⟩ := Node.exists_of_mem_children hc
    exact hn
  parent := by
    rintro ⟨file, tree, _ | ⟨step, rest⟩⟩ m hn hm
    · cases hm
    · cases hm
      exact hn
  type := StaticType.Normal
  closed := StaticType.closed_normal
  shape _ _ := .shape

/-- The type of a node of the program is known, or a name of the program has no
declaration. -/
theorem typeAt_cases (hn : p.contains n.file = true) :
    (∃ t, p.typeAt n = .ok t) ∨ ∃ m : Node, p.contains m.file = true ∧ Undeclared p m ∧
      p.typeAt n = .error m.unresolved := by
  unfold typeAt
  rw [hn]
  rcases Realm.trackedTypeAt_cases p.known.kept_self hn with
    ⟨t, -, hok, -⟩ | ⟨m, hm, hmissing, herror, -⟩
  · exact .inl ⟨_, by rw [hok]; rfl⟩
  · exact .inr ⟨m, hm, hmissing, by rw [herror]; rfl⟩

/-- A name with no declaration has the error that says so, or no known type when it is a
global. -/
theorem typeAt_of_name (hn : p.contains n.file = true)
    (hkind : n.kind = "identifier" ∨ n.kind = "shorthand_property_identifier")
    (htext : n.text ≠ "undefined") (hvalue : resolveValue? p n n.text = none) :
    p.typeAt n = if isAmbientGlobal p n.text then .ok .unseen else .error n.unresolved := by
  have hanswer : (Answers.within p allowance).expression n 0 =
      if isAmbientGlobal p n.text then .ok .unseen else .error n.unresolved := by
    change expressionRule p (Answers.within p (maxDepth + 1)) n 0 = _
    have hname : identifierType p (Answers.within p (maxDepth + 1)) n 0 =
        if isAmbientGlobal p n.text then .ok .unseen else .error n.unresolved := by
      rw [identifierType, hvalue]
      rfl
    unfold expressionRule
    rcases hkind with hkind | hkind <;> simp [hkind, htext, hname]
  unfold typeAt trackedTypeAt
  rw [hn, hanswer]
  -- A value without a known type has nothing to erase.
  cases isAmbientGlobal p n.text <;> cases p.options.strict <;> rfl

end Program

theorem Undeclared.typeAt {p : Program} {n : Node} (hmissing : Undeclared p n)
    (hn : p.contains n.file = true) : p.typeAt n = .error n.unresolved := by
  rw [Program.typeAt_of_name hn hmissing.kind hmissing.text hmissing.value, hmissing.ambient]
  rfl

end CallMigration
