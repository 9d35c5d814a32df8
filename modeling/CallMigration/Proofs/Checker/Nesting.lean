import CallMigration.Proofs.Checker.Calls
import CallMigration.Proofs.Checker.TypeAt

/-!
# Nesting of calls

From one question to the next there are only a few calls of other rules, and the next
question is deeper than the one before. Beyond the depth limit a question makes no call. So
the calls that are open at the same time number at most a constant that the depth limit
gives, whatever the program is: that much fuel is enough for the type of every node, and
more fuel gives the same type.
-/

namespace CallMigration

open StaticType Outcome Checker

namespace Outcome

variable {p : Program} {r : p.Realm} {α : Type} {act : α → α} {P : α → Prop} {o o' : Outcome α}

/-- In one and the same program an outcome persists as it is, when nothing is renumbered. -/
theorem Persists.eq (h : Persists r p act P o o') (hact : ∀ a, act a = a) : o' = o := by
  cases h with
  | ok _ => rw [hact]
  | error _ hmissing ho => exact ho hmissing.ambient

/-- What persists is not given up. -/
theorem Persists.ne_exhausted (h : Persists r p act P o o') : o ≠ .exhausted := by
  cases h <;> nofun

/-- An outcome that is known not to be given up. -/
def ofExcept : Except TypeQueryError α → Outcome α
  | .ok a => .ok a
  | .error e => .error e

theorem ofExcept_ne_exhausted (result : Except TypeQueryError α) :
    ofExcept result ≠ .exhausted := by
  cases result <;> simp [ofExcept]

end Outcome

namespace Program

variable {p : Program}

/-- The realm of all nodes and all types. -/
def Realm.univ (p : Program) : p.Realm where
  node _ := True
  root _ := trivial
  child _ _ := trivial
  parent _ _ := trivial
  type _ := True
  closed := by constructor <;> simp
  shape _ _ _ := trivial

/-- The answers to all questions. -/
def answers (p : Program) : Answers := .within p allowance

/-- An allowance beyond the depth limit gives the same answers. -/
theorem persist_answers (p : Program) (floor : Nat) {allowance : Nat}
    (henough : maxDepth < allowance) :
    p.answers.Persist (Realm.univ p) p (.refl Nat) floor (.within p allowance) := by
  have hallowance : maxDepth < Program.allowance := by
    unfold Program.allowance
    omega
  apply Answers.persist_within (Realm.kept_self _) <;> omega

/-- Questions about normal types have normal types for answers. -/
theorem persist_answers_whole (p : Program) (floor : Nat) :
    p.answers.Persist (Realm.whole p) p (.refl Nat) floor p.answers := by
  have hallowance : maxDepth < allowance := by
    unfold allowance
    omega
  apply Answers.persist_within (Realm.whole p).kept_self <;> omega

/-! ## Each answer is that of its rule -/

theorem answers_expression (n : Node) (depth : Nat) :
    p.answers.expression n depth = expressionRule p p.answers n depth :=
  (persists_expressionRule (Realm.univ p).kept_self
    (fun _ => p.persist_answers depth (Nat.lt_succ_self maxDepth)) trivial).eq renumber_refl

theorem answers_denoted (n : Node) (env : TypeEnv) (depth : Nat) :
    p.answers.denoted n env depth = denotedRule p p.answers n env depth := by
  have hrule : p.answers.denoted n (env.renumber (.refl Nat)) depth =
      denotedRule p p.answers n env depth :=
    (persists_denotedRule (Realm.univ p).kept_self
      (fun _ => p.persist_answers depth (Nat.lt_succ_self maxDepth)) trivial
      fun _ _ => trivial).eq renumber_refl
  rwa [TypeEnv.renumber_refl] at hrule

theorem answers_member (t : StaticType) (name : String) (depth : Nat) :
    p.answers.member t name depth = memberRule p p.answers t name depth := by
  have hrule : p.answers.member (t.renumber (.refl Nat)) name depth =
      memberRule p p.answers t name depth :=
    (persists_memberRule (Realm.univ p).kept_self
      (fun _ => p.persist_answers depth (Nat.lt_succ_self maxDepth)) trivial).eq (by simp)
  rwa [renumber_refl] at hrule

theorem answers_pattern (n : Node) (source : StaticType) (name : String) (depth : Nat) :
    p.answers.pattern n source name depth = patternRule p.answers n source name depth := by
  have hrule : p.answers.pattern n (source.renumber (.refl Nat)) name depth =
      patternRule p.answers n source name depth :=
    (persists_patternRule (r := Realm.univ p)
      (fun _ => p.persist_answers depth (Nat.lt_succ_self maxDepth)) trivial trivial).eq (by simp)
  rwa [renumber_refl] at hrule

end Program

namespace Checker.Call

/-! ## Heights -/

/-- How many calls are open at most from a call on that is `rank` calls away from a question
and leads to no question of a depth less than `asked`. A question and the calls before the
next one are eight at most. -/
def level (rank asked : Nat) : Nat := rank + 1 + 8 * (maxDepth + 1 - asked)

/-- How many calls are open at most while a call is run, itself included. Every call that a
rule makes is less high: it is of a lesser rank, or it is a question and deeper. -/
def height : {α : Type} → Call α → Nat
  | _, .expression _ depth | _, .denoted _ _ depth | _, .member _ _ depth
  | _, .pattern _ _ _ depth => level 0 depth
  -- These three ask at their own depth, the others deeper.
  | _, .ascribedType _ _ depth | _, .propertyType _ _ depth | _, .utilityMember _ _ _ depth =>
      level 1 depth
  | _, .inferredReturnType _ depth | _, .declaredType _ _ _ depth | _, .withDefault _ _ depth
  | _, .fieldType _ _ depth | _, .contextualType _ depth | _, .arrayLiteralType _ depth =>
      level 1 (depth + 1)
  | _, .returnType _ _ depth | _, .referenceType _ _ _ _ depth | _, .instanceType _ _ depth
  | _, .parameterProperty _ _ _ depth | _, .fieldMember _ _ depth | _, .parameterType _ _ depth
  | _, .thisType depth _ | _, .fallbackType _ depth | _, .subscriptType _ depth
  | _, .objectEntry _ _ depth _ => level 2 (depth + 1)
  | _, .methodMember _ _ depth | _, .signatureMember _ _ _ depth | _, .ownerType _ depth =>
      level 3 (depth + 1)
  | _, .interfaceMember _ _ _ depth | _, .entryMember _ depth _ | _, .classItem _ _ depth _
  | _, .bindingType _ _ depth => level 4 (depth + 1)
  | _, .objectMember _ _ depth | _, .classMember _ _ _ depth | _, .identifierType _ depth =>
      level 5 (depth + 1)
  | _, .shapeMember _ _ _ depth => level 6 (depth + 1)
  | _, .memberOf _ depth _ => level 7 (depth + 1)

theorem height_pos {α : Type} (c : Call α) : 0 < c.height := by
  cases c <;> simp only [height, level] <;> omega

/-- Calls below a height come to what the rules say. -/
def AgreesBelow (p : Program) (call : ⦃β : Type⦄ → Call β → Outcome β) (bound : Nat) : Prop :=
  ∀ {β : Type} (c : Call β), c.height < bound → call c = c.outcome p p.answers

variable {p : Program} {call : ⦃β : Type⦄ → Call β → Outcome β} {bound depth : Nat}

theorem AgreesBelow.persist (hcall : AgreesBelow p call bound) (floor : Nat)
    (hfloor : level 0 (floor + 1) < bound) :
    p.answers.Persist (Program.Realm.univ p) p (.refl Nat) floor (answers call) := by
  have hanswers : p.answers.Persist (Program.Realm.univ p) p (.refl Nat) floor p.answers := by
    apply p.persist_answers
    unfold Program.allowance
    omega
  have hlevel : ∀ {depth}, floor < depth → level 0 depth < bound := by
    intro depth hdepth
    unfold level at hfloor ⊢
    omega
  constructor
  · intro n depth hdepth hn
    have hanswer : (answers call).expression n depth = p.answers.expression n depth :=
      hcall _ (hlevel hdepth)
    rw [hanswer]
    exact hanswers.expression hdepth hn
  · intro n env depth hdepth hn henv
    have hanswer : (answers call).denoted n (env.renumber (.refl Nat)) depth =
        p.answers.denoted n (env.renumber (.refl Nat)) depth := hcall _ (hlevel hdepth)
    rw [hanswer]
    exact hanswers.denoted hdepth hn henv
  · intro t name depth hdepth ht
    have hanswer : (answers call).member (t.renumber (.refl Nat)) name depth =
        p.answers.member (t.renumber (.refl Nat)) name depth := hcall _ (hlevel hdepth)
    rw [hanswer]
    exact hanswers.member hdepth ht
  · intro n t name depth hdepth hn ht
    have hanswer : (answers call).pattern n (t.renumber (.refl Nat)) name depth =
        p.answers.pattern n (t.renumber (.refl Nat)) name depth := hcall _ (hlevel hdepth)
    rw [hanswer]
    exact hanswers.pattern hdepth hn ht

/-! ## One rule -/

theorem body_expression {n : Node} (hcall : AgreesBelow p call (expression n depth).height) :
    (expression n depth).body p call = p.answers.expression n depth := by
  rw [Program.answers_expression]
  by_cases hlimit : depth > maxDepth
  · simp only [body, expressionRule, if_pos hlimit]
  · have hask := hcall.persist depth (by simp only [height, level]; omega)
    have hrule : expressionRule p (answers call) n depth = expressionRule p p.answers n depth :=
      (persists_expressionRule (Program.Realm.univ p).kept_self (fun _ => hask)
        trivial).eq renumber_refl
    unfold AgreesBelow at hcall
    simp (disch := (simp only [height, level]; omega)) only
      [body, if_neg hlimit, hrule, hcall, outcome]
    split
    -- In the last case the rule only asks questions.
    case h_13 => rfl
    all_goals
      next hkind =>
        refine (Eq.trans (b := ?_) ?_ ?_ : expressionRule p p.answers n depth = _).symm
        rotate_left
        · simp only [expressionRule, if_neg hlimit, hkind]
          exact rfl
        · exact rfl

theorem body_denoted {n : Node} {env : TypeEnv}
    (hcall : AgreesBelow p call (denoted n env depth).height) :
    (denoted n env depth).body p call = p.answers.denoted n env depth := by
  rw [Program.answers_denoted]
  by_cases hlimit : depth > maxDepth
  · simp only [body, denotedRule, if_pos hlimit]
  · have hask := hcall.persist depth (by simp only [height, level]; omega)
    have hrule : denotedRule p (answers call) n (env.renumber (.refl Nat)) depth =
        denotedRule p p.answers n env depth :=
      (persists_denotedRule (Program.Realm.univ p).kept_self (fun _ => hask) trivial
        fun _ _ => trivial).eq renumber_refl
    have harguments : ∀ arguments,
        argumentTypes (answers call) arguments (env.renumber (.refl Nat)) depth =
          argumentTypes p.answers arguments env depth := fun _ =>
      (persists_argumentTypes hask (Nat.le_refl depth) (fun _ _ => trivial)
        fun _ _ => trivial).eq map_renumber_refl
    rw [TypeEnv.renumber_refl] at hrule harguments
    unfold AgreesBelow at hcall
    simp (disch := (simp only [height, level]; omega)) only
      [body, if_neg hlimit, hrule, harguments, hcall, outcome]
    split
    case h_4 => rfl
    all_goals
      next hkind =>
        refine (Eq.trans (b := ?_) ?_ ?_ : denotedRule p p.answers n env depth = _).symm
        rotate_left
        · simp only [denotedRule, if_neg hlimit, hkind]
          exact rfl
        · exact rfl

theorem body_member {t : StaticType} {name : String}
    (hcall : AgreesBelow p call (member t name depth).height) :
    (member t name depth).body p call = p.answers.member t name depth := by
  rw [Program.answers_member]
  by_cases hlimit : depth > maxDepth
  · simp only [body, memberRule, if_pos hlimit]
  · have hmembers : everyMember (fun m => call (memberOf name depth m)) t.members =
        memberTypes p p.answers name depth t.members := by
      rw [memberTypes_eq]
      congr 1
      funext m
      exact hcall _ (by simp only [height, level]; omega)
    simp only [body, memberRule, if_neg hlimit]
    exact congrArg (· >>= _) hmembers

theorem body_pattern {n : Node} {source : StaticType} {name : String}
    (hcall : AgreesBelow p call (pattern n source name depth).height) :
    (pattern n source name depth).body p call = p.answers.pattern n source name depth := by
  rw [Program.answers_pattern]
  by_cases hlimit : depth > maxDepth
  · simp only [body, patternRule, if_pos hlimit]
  · have hask := hcall.persist depth (by simp only [height, level]; omega)
    have hrule : patternRule (answers call) n (source.renumber (.refl Nat)) name depth =
        patternRule p.answers n source name depth :=
      (persists_patternRule (fun _ => hask) trivial trivial).eq (by simp)
    rw [renumber_refl] at hrule
    unfold AgreesBelow at hcall
    simp (disch := (simp only [height, level]; omega)) only
      [body, if_neg hlimit, hrule, hcall, outcome]
    split
    case h_3 => rfl
    all_goals
      next hkind => simp only [patternRule, if_neg hlimit, hkind]

theorem body_returnType {n : Node} {env : TypeEnv}
    (hcall : AgreesBelow p call (returnType n env depth).height) :
    (returnType n env depth).body p call = Checker.returnType p.answers n env depth := by
  have hask := hcall.persist depth (by simp only [height, level]; omega)
  have hrule : Checker.returnType (answers call) n (env.renumber (.refl Nat)) depth =
      Checker.returnType p.answers n env depth :=
    (persists_returnType hask (Nat.le_refl depth) trivial fun _ _ => trivial).eq renumber_refl
  rw [TypeEnv.renumber_refl] at hrule
  unfold AgreesBelow at hcall
  simp (disch := (simp only [height, level]; omega)) only [body, hrule, hcall, outcome]
  split
  next hnone => simp only [Checker.returnType, hnone]
  next ascription hascription =>
    split
    next hkind => simp only [Checker.returnType, hascription, hkind]
    next => rfl

theorem body_entryMember {name : String} {item : Node}
    (hcall : AgreesBelow p call (entryMember name depth item).height) :
    (entryMember name depth item).body p call =
      Checker.entryMember p.answers name depth item := by
  have hask := hcall.persist depth (by simp only [height, level]; omega)
  have hrule : Checker.entryMember (answers call) name depth item =
      Checker.entryMember p.answers name depth item :=
    (persists_entryMember hask (Nat.le_refl depth) trivial).eq (by simp)
  unfold AgreesBelow at hcall
  simp (disch := (simp only [height, level]; omega)) only [body, hrule, hcall, outcome]
  split
  next hkind => simp only [Checker.entryMember, hkind]
  next => rfl

/-- A rule comes to what it says if the calls that are less high do. -/
theorem body_eq {α : Type} (c : Call α) (hcall : AgreesBelow p call c.height) :
    c.body p call = c.outcome p p.answers := by
  cases c with
  | expression n depth => exact body_expression hcall
  | denoted n env depth => exact body_denoted hcall
  | member t name depth => exact body_member hcall
  | pattern n source name depth => exact body_pattern hcall
  | returnType n env depth => exact body_returnType hcall
  | entryMember name depth item => exact body_entryMember hcall
  | inferredReturnType n depth =>
      have hask := hcall.persist depth (by simp only [height, level]; omega)
      exact (persists_inferredReturnType hask (Nat.le_refl depth) trivial).eq renumber_refl
  | declaredType n arguments env depth =>
      have hask := hcall.persist depth (by simp only [height, level]; omega)
      have hrule : Checker.declaredType p (answers call) n
          (arguments.map (renumber (.refl Nat))) (env.renumber (.refl Nat)) depth =
          Checker.declaredType p p.answers n arguments env depth :=
        (persists_declaredType (Program.Realm.univ p).kept_self hask (Nat.le_refl depth) trivial
          fun _ _ => trivial).eq renumber_refl
      rwa [map_renumber_refl, TypeEnv.renumber_refl] at hrule
  | _ =>
      -- The other rules put together what their calls give, at any depth.
      unfold AgreesBelow at hcall
      simp (disch := (simp only [height, level]; omega)) only [body, answers, hcall, outcome,
        Checker.ascribedType, Checker.referenceType, argumentTypes, Checker.instanceType,
        Checker.methodMember, Checker.signatureMember, Checker.interfaceMember,
        Checker.objectMember, Checker.parameterProperty, Checker.fieldMember, Checker.classItem,
        Checker.classMember, Checker.shapeMember, Checker.utilityMember, Checker.memberOf,
        Checker.propertyType, Checker.withDefault, Checker.objectEntry, Checker.fieldType,
        Checker.contextualType, Checker.parameterType, Checker.ownerType, Checker.bindingType,
        Checker.identifierType, thisType_eq, Checker.arrayLiteralType, Checker.fallbackType,
        Checker.subscriptType] <;> rfl

/-! ## All calls -/

/-- As much fuel as a call is high is enough. -/
theorem run_eq {α : Type} {fuel : Nat} (c : Call α) (hfuel : c.height ≤ fuel) :
    c.run p fuel = c.outcome p p.answers := by
  induction fuel generalizing α with
  | zero => exact absurd hfuel (Nat.not_le_of_lt c.height_pos)
  | succ fuel ih =>
      apply body_eq
      intro β inner hinner
      exact ih inner (by omega)

/-- The most calls that are open at the same time under a depth limit. -/
def frames (limit : Nat) : Nat := 8 * (limit + 1) + 1

end Checker.Call

namespace Program

/-- The type of the expression at a node, with at most `fuel` calls open at the same time. -/
def typeWithin (p : Program) (fuel : Nat) (n : Node) : Outcome StaticType :=
  if !p.contains n.file then .error (.foreignNode n.file.path n.location)
  else do
    let t ← (Call.expression n 0).run p fuel
    pure (if p.options.strict then t else t.eraseNullish)

theorem typeWithin_eq (p : Program) {fuel : Nat} (hfuel : Call.frames maxDepth ≤ fuel) (n : Node) :
    p.typeWithin fuel n = .ofExcept (p.typeAt n) := by
  have hrun : (Call.expression n 0).run p fuel = p.answers.expression n 0 := by
    apply Call.run_eq
    simp only [Call.height, Call.level]
    unfold Call.frames at hfuel
    omega
  have hanswer := (Realm.persists_expression (n := n) (Realm.univ p).kept_self trivial).ne_exhausted
  unfold typeWithin typeAt trackedTypeAt
  rw [hrun, answers]
  generalize (Answers.within p allowance).expression n 0 = o at hanswer
  split
  · rfl
  · cases o with
    | ok _ => rfl
    | error _ => rfl
    | exhausted => exact absurd rfl hanswer

/-- The calls that the type of a node leads to are nested no deeper than the depth limit
alone tells, in every program: with that much fuel the type, or the error in its place, is
found, and more fuel does not change it. -/
theorem typeWithin_frames (p : Program) (n : Node) (more : Nat) :
    p.typeWithin (Call.frames maxDepth) n = .ofExcept (p.typeAt n) ∧
      p.typeWithin (Call.frames maxDepth) n ≠ .exhausted ∧
      p.typeWithin (Call.frames maxDepth + more) n = p.typeWithin (Call.frames maxDepth) n := by
  have henough := p.typeWithin_eq (Nat.le_refl _) n
  have hmore := p.typeWithin_eq (Nat.le_add_right _ more) n
  refine ⟨henough, ?_, hmore.trans henough.symm⟩
  rw [henough]
  exact ofExcept_ne_exhausted _

end Program

end CallMigration
