import CallMigration.Proofs.Migration.Valid

/-!
# Further globals

A global answers for a name that has no declaration, and only when nothing else does. With
further globals every known type stays as it is and every revision too. Where a type becomes
known, it was missed because of an added name. A missing name behind the added one comes to
light only then, but it was missing before.
-/

namespace CallMigration

open Checker

namespace Program

variable {p q : Program} {n : Node}

theorem isAmbientGlobal_eq_true_iff {name : String} : isAmbientGlobal p name = true ↔
    name ∈ standardGlobals ∨ name ∈ p.options.ambientGlobals := by
  simp [isAmbientGlobal]

theorem isAmbientGlobal_eq_false_iff {name : String} : isAmbientGlobal p name = false ↔
    name ∉ standardGlobals ∧ name ∉ p.options.ambientGlobals := by
  simp [isAmbientGlobal]

/-- Files and options are the same, except that `q` may have further globals. -/
structure Extends (q p : Program) : Prop where
  files : q.files = p.files
  strict : q.options.strict = p.options.strict
  globals : p.options.ambientGlobals ⊆ q.options.ambientGlobals

namespace Extends

theorem ambient (hext : q.Extends p) {name : String} (hp : isAmbientGlobal p name = true) :
    isAmbientGlobal q name = true :=
  isAmbientGlobal_eq_true_iff.mpr
    ((isAmbientGlobal_eq_true_iff.mp hp).imp_right fun hlisted => hext.globals hlisted)

theorem kept (hext : q.Extends p) : p.known.Kept q (.refl Nat) :=
  p.known.kept_of_files hext.files fun _ => hext.ambient

theorem contains (hext : q.Extends p) (file : SourceFile) : q.contains file = p.contains file := by
  rw [Program.contains, Program.contains, hext.files]

/-- A type is the same, or it is missed without the further globals because of one of
them. -/
theorem typeAt_cases (hext : q.Extends p) (n : Node) :
    q.typeAt n = p.typeAt n ∨ ∃ m : Node, p.contains m.file = true ∧ Undeclared p m ∧
      isAmbientGlobal q m.text = true ∧ p.typeAt n = .error m.unresolved := by
  cases hn : p.contains n.file with
  | true =>
      refine (Realm.typeAt_cases hext.kept (hext.contains n.file) hext.strict hn).imp_left ?_
      exact fun hsame => hsame.trans (StaticType.except_map_renumber_refl _)
  | false =>
      refine .inl ?_
      rw [typeAt, typeAt, hext.contains, hn]
      rfl

theorem typeAt_mono (hext : q.Extends p) {t : StaticType} (ht : p.typeAt n = .ok t) :
    q.typeAt n = .ok t := by
  rcases hext.typeAt_cases n with hsame | ⟨m, -, -, -, herror⟩
  · exact hsame.trans ht
  · cases ht.symm.trans herror

/-- A name that is missed with the further globals is missed without them. -/
theorem undeclared (hext : q.Extends p) {m : Node} (hm : p.contains m.file = true)
    (hmissing : Undeclared q m) : Undeclared p m where
  kind := hmissing.kind
  text := hmissing.text
  value := (hext.kept.value hm).symm.trans hmissing.value
  ambient := by
    cases hambient : isAmbientGlobal p m.text with
    | false => rfl
    | true => cases hmissing.ambient.symm.trans (hext.ambient hambient)

/-- A missing name that has become a global has no known type, but no error either. -/
theorem typeAt_added (hext : q.Extends p) {m : Node} (hm : p.contains m.file = true)
    (hmissing : Undeclared p m) (hambient : isAmbientGlobal q m.text = true) :
    q.typeAt m = .ok .unseen := by
  have hvalue := (hext.kept.value hm).trans hmissing.value
  rw [typeAt_of_name ((hext.contains m.file).trans hm) hmissing.kind hmissing.text hvalue,
    hambient]
  rfl

/-- Behind a missing name there may be another one that no program declares. -/
theorem typeAt_behind (hext : q.Extends p) {m : Node} (herror : p.typeAt n = .error m.unresolved) :
    (∃ t, q.typeAt n = .ok t) ∨ ∃ k : Node, k.text ∉ q.options.ambientGlobals ∧
      q.typeAt n = .error k.unresolved ∧ q.typeAt k = .error k.unresolved ∧
      p.typeAt k = .error k.unresolved := by
  -- Outside the program the error would be another one.
  have hn : q.contains n.file = true := by
    rw [hext.contains]
    by_contra hforeign
    unfold typeAt at herror
    rw [Bool.eq_false_of_not_eq_true hforeign] at herror
    cases herror
  rcases Program.typeAt_cases hn with hok | ⟨k, hk, hmissing, hmissed⟩
  · exact .inl hok
  · have hold := (hext.contains k.file).symm.trans hk
    exact .inr ⟨k, (isAmbientGlobal_eq_false_iff.mp hmissing.ambient).2, hmissed,
      hmissing.typeAt hk, (hext.undeclared hold hmissing).typeAt hold⟩

end Extends

end Program

namespace Migration

theorem transform_of_extends {p q : Program} (hext : q.Extends p) (migrations : List Migration)
    (policy : NullabilityPolicy) (n : Node) :
    transform migrations policy q n = transform migrations policy p n ∨
      ∃ m : Node, Undeclared p m ∧ isAmbientGlobal q m.text = true ∧
        transform migrations policy p n = .error m.unresolved := by
  rcases transform_cases migrations n with hkept | ⟨m, subject, others, -, hdecision⟩
  · exact .inl ((hkept policy q).trans (hkept policy p).symm)
  · rw [hdecision, hdecision]
    unfold Program.isNullableAt
    rcases hext.typeAt_cases subject with hsame | ⟨name, -, hmissing, hambient, herror⟩
    · exact .inl (by rw [hsame])
    · exact .inr ⟨name, hmissing, hambient, by rw [herror]⟩

/-- A revision is the same, or it fails without the further globals because of one of
them. -/
theorem ofFile_of_extends {p q : Program} (hext : q.Extends p) (migrations : List Migration)
    (policy : NullabilityPolicy) (file : SourceFile) :
    Revision.ofFile (transform migrations policy q) file =
        Revision.ofFile (transform migrations policy p) file ∨
      ∃ n m : Node, Undeclared p m ∧ isAmbientGlobal q m.text = true ∧
        Revision.ofFile (transform migrations policy p) file =
          .error (.typeQuery n.file.path n.location m.unresolved) := by
  have hagrees : Revision.AgreesOn (fun _ => True)
      (fun e => ∃ m : Node, Undeclared p m ∧ isAmbientGlobal q m.text = true ∧ e = m.unresolved)
      (transform migrations policy p) (transform migrations policy q) := by
    refine ⟨fun _ _ => trivial, fun {n} _ => ?_⟩
    rcases transform_of_extends hext migrations policy n with
      hsame | ⟨m, hmissing, hambient, herror⟩
    · exact .inl hsame
    · exact .inr ⟨_, herror, m, hmissing, hambient, rfl⟩
  rcases Revision.runFile_of_agrees hagrees file trivial with
    hrun | ⟨n, e, ⟨m, hmissing, hambient, rfl⟩, herror⟩
  · exact .inl (congrArg Revision.Run.result hrun)
  · exact .inr ⟨n, m, hmissing, hambient, herror⟩

/-- Further globals leave every known type and every revision as it is. A type that is not
the same was missed because of an added name, which itself has no longer an error. What is
missed now, behind that name, is another name that is missed in both programs. A file whose
revision is not the same could not be revised because of an added name. -/
theorem typeAt_of_extends (p q : Program) (hext : q.Extends p) :
    (∀ n t, p.typeAt n = .ok t → q.typeAt n = .ok t) ∧
      (∀ migrations policy file r,
        Revision.ofFile (transform migrations policy p) file = .ok r →
        Revision.ofFile (transform migrations policy q) file = .ok r) ∧
      (∀ n, q.typeAt n = p.typeAt n ∨
        ∃ m : Node, m.text ∉ p.options.ambientGlobals ∧ m.text ∈ q.options.ambientGlobals ∧
          p.typeAt n = .error m.unresolved ∧ p.typeAt m = .error m.unresolved ∧
          q.typeAt m = .ok .unseen ∧
          ((∃ t, q.typeAt n = .ok t) ∨ ∃ k : Node, k.text ∉ q.options.ambientGlobals ∧
            q.typeAt n = .error k.unresolved ∧ q.typeAt k = .error k.unresolved ∧
            p.typeAt k = .error k.unresolved)) ∧
      ∀ migrations policy file,
        Revision.ofFile (transform migrations policy q) file =
            Revision.ofFile (transform migrations policy p) file ∨
          ∃ n m : Node, m.text ∉ p.options.ambientGlobals ∧ m.text ∈ q.options.ambientGlobals ∧
            Revision.ofFile (transform migrations policy p) file =
              .error (.typeQuery n.file.path n.location m.unresolved) := by
  have hadded : ∀ {m : Node}, Undeclared p m → isAmbientGlobal q m.text = true →
      m.text ∉ p.options.ambientGlobals ∧ m.text ∈ q.options.ambientGlobals := by
    intro m hmissing hambient
    obtain ⟨hstandard, hold⟩ := Program.isAmbientGlobal_eq_false_iff.mp hmissing.ambient
    exact ⟨hold, (Program.isAmbientGlobal_eq_true_iff.mp hambient).resolve_left hstandard⟩
  refine ⟨fun n t => hext.typeAt_mono, ?_, ?_, ?_⟩
  · intro migrations policy file r hr
    rcases ofFile_of_extends hext migrations policy file with hsame | ⟨n, m, -, -, herror⟩
    · exact hsame.trans hr
    · cases hr.symm.trans herror
  · intro n
    rcases hext.typeAt_cases n with hsame | ⟨m, hm, hmissing, hambient, herror⟩
    · exact .inl hsame
    · obtain ⟨hold, hnew⟩ := hadded hmissing hambient
      exact .inr ⟨m, hold, hnew, herror, hmissing.typeAt hm, hext.typeAt_added hm hmissing hambient,
        hext.typeAt_behind herror⟩
  · intro migrations policy file
    rcases ofFile_of_extends hext migrations policy file with
      hsame | ⟨n, m, hmissing, hambient, herror⟩
    · exact .inl hsame
    · obtain ⟨hold, hnew⟩ := hadded hmissing hambient
      exact .inr ⟨n, m, hold, hnew, herror⟩

namespace Sample

/-- A list of two names that are not declared. -/
def listFile : SourceFile where
  load := 0
  path := ⟨"a.ts"⟩
  text := "use([x, y]);"
  dialect := .typeScript
  tree := branch "program" 0 12 []
    [branch "expression_statement" 0 12 []
      [branch "call_expression" 0 11 []
        [leaf "identifier" true 0 3 ["function"],
          branch "arguments" 3 11 ["arguments"]
            [leaf "(" false 3 4 [],
              branch "array" 4 10 []
                [leaf "[" false 4 5 [], leaf "identifier" true 5 6 [], leaf "," false 6 7 [],
                  leaf "identifier" true 8 9 [], leaf "]" false 9 10 []],
              leaf ")" false 10 11 []]],
        leaf ";" false 11 12 []]]

def listProgram (globals : List String) : Program := ⟨[listFile], ⟨true, globals⟩⟩

def list : Node := listFile.root.preorder.getD 5 listFile.root

def firstItem : Node := listFile.root.preorder.getD 6 listFile.root

end Sample

/-- The first name stays known, and the list gets a type with the second one. -/
theorem typeAt_list :
    (Sample.listProgram ["x", "y"]).Extends (Sample.listProgram ["x"]) ∧
      (Sample.listProgram ["x"]).typeAt Sample.firstItem = .ok .unseen ∧
      (Sample.listProgram ["x", "y"]).typeAt Sample.firstItem = .ok .unseen ∧
      ∃ m : Node, (Sample.listProgram ["x"]).typeAt Sample.list = .error m.unresolved ∧
        (Sample.listProgram ["x", "y"]).typeAt m = .ok .unseen := by
  have hext : (Sample.listProgram ["x", "y"]).Extends (Sample.listProgram ["x"]) :=
    ⟨rfl, rfl, by decide⟩
  have hfirst : (Sample.listProgram ["x"]).typeAt Sample.firstItem = .ok .unseen := by
    decide +kernel
  obtain ⟨hkept, -, hchanged, -⟩ := typeAt_of_extends _ _ hext
  refine ⟨hext, hfirst, hkept _ _ hfirst, ?_⟩
  rcases hchanged Sample.list with hsame | ⟨m, -, -, herror, -, hfound, -⟩
  · have hother : (Sample.listProgram ["x", "y"]).typeAt Sample.list ≠
        (Sample.listProgram ["x"]).typeAt Sample.list := by decide +kernel
    exact absurd hsame hother
  · exact ⟨m, herror, hfound⟩

/-- With one of the two names added it is the other one that is missed: the error of the
list is neither the same nor gone. -/
theorem typeAt_list_next :
    (Sample.listProgram ["x"]).Extends (Sample.listProgram []) ∧
      (Sample.listProgram []).typeAt Sample.list =
        .error (.unresolvedSymbol "x" ⟨"a.ts"⟩ ⟨1, 6⟩) ∧
      (Sample.listProgram ["x"]).typeAt Sample.list =
        .error (.unresolvedSymbol "y" ⟨"a.ts"⟩ ⟨1, 9⟩) ∧
      ¬((Sample.listProgram ["x"]).typeAt Sample.list = (Sample.listProgram []).typeAt Sample.list ∨
        ∃ t, (Sample.listProgram ["x"]).typeAt Sample.list = .ok t) := by
  have hold : (Sample.listProgram []).typeAt Sample.list =
      .error (.unresolvedSymbol "x" ⟨"a.ts"⟩ ⟨1, 6⟩) := by decide +kernel
  have hnew : (Sample.listProgram ["x"]).typeAt Sample.list =
      .error (.unresolvedSymbol "y" ⟨"a.ts"⟩ ⟨1, 9⟩) := by decide +kernel
  refine ⟨⟨rfl, rfl, by decide⟩, hold, hnew, ?_⟩
  rw [hold, hnew]
  simp

end Migration

end CallMigration
