import CallMigration.Proofs.Checker.Nesting
import CallMigration.Proofs.Checker.Unions

/-!
# Expansion of type names

A type name stands for its declaration, with the arguments, or else the defaults, in place of
the parameters. A declaration that is being expanded is not expanded again, which is told by its
name. What a declaration comes to does not depend on which others are being expanded, as long as
none of the references that its expansion meets bears the name of one of them. Where two
declarations share a name this can go wrong: the inner one of two aliases is taken for the outer
one and stays a name.
-/

namespace CallMigration

namespace Outcome

deriving instance DecidableEq for Outcome

variable {α β : Type}

theorem mapAll_congr {f g : α → Outcome β} {as : List α} (hfg : ∀ a ∈ as, f a = g a) :
    mapAll f as = mapAll g as := by
  induction as with
  | nil => rfl
  | cons a as ih =>
      obtain ⟨ha, has⟩ := List.forall_mem_cons.mp hfg
      rw [mapAll, mapAll, ha, ih has]

theorem onSome_congr {f g : α → Outcome β} {o : Option α} {other : β}
    (hfg : ∀ a ∈ o, f a = g a) : onSome o other f = onSome o other g := by
  cases o with
  | none => rfl
  | some a => exact hfg a rfl

end Outcome

namespace TypeEnv

/-- The names that bindings give a type. -/
def boundNames (bindings : List (String × StaticType)) : List String := bindings.map Prod.fst

theorem mem_boundNames_insertBinding {name other : String} {t : StaticType}
    {bindings : List (String × StaticType)} :
    other ∈ boundNames (insertBinding name t bindings) ↔
      other = name ∨ other ∈ boundNames bindings := by
  unfold boundNames
  induction bindings with
  | nil => simp [insertBinding]
  | cons head rest ih =>
      obtain ⟨key, u⟩ := head
      unfold insertBinding
      split
      next hkey => simp [hkey]
      next =>
        split
        · simp
        · rw [List.map_cons, List.mem_cons, ih, List.map_cons, List.mem_cons, or_left_comm]

theorem lookup?_eq_none_iff {env : TypeEnv} {name : String} :
    env.lookup? name = none ↔ name ∉ boundNames env.bindings := by
  rw [lookup?, List.lookup_eq_none_iff, boundNames, List.mem_map, not_exists]
  simp only [bne_iff_ne, ne_eq, not_and]
  exact forall₂_congr fun _ _ => not_congr eq_comm

end TypeEnv

namespace Checker

open TypeEnv

/-! ## What an expansion reads -/

/-- The type expression of an element of a tuple type. -/
def elementParts (element : Node) : List Node :=
  match element.kind with
  | "optional_type" => element.firstConstruct?.toList
  | "rest_type" => []
  | _ => [element]

/-- The type expression of the ascription of a function's return. -/
def returnParts (ascription : Node) : List Node :=
  match ascription.kind with
  | "type_annotation" => ascription.firstConstruct?.toList
  | "type_predicate_annotation" | "type_predicate" | "asserts_annotation" | "asserts" => []
  | _ => [ascription]

/-- The type expressions that are read for a type expression, in its own environment. -/
def typeParts (n : Node) : List Node :=
  match n.kind with
  | "union_type" => n.constructs
  | "parenthesized_type" | "readonly_type" | "array_type" => n.firstConstruct?.toList
  | "tuple_type" => n.constructs.flatMap elementParts
  | "function_type" => ((n.field? "return_type").map returnParts).getD []
  | "generic_type" => ((n.field? "type_arguments").map Node.constructs).getD []
  | _ => []

/-- The names that stand for types of the language. -/
def builtInNames : List String := ["Array", "ReadonlyArray", "NonNullable"]

/-- The name by which a type expression refers to a declaration, where some names are bound. -/
def referredName? (bound : List String) (n : Node) : Option String :=
  match n.kind with
  | "generic_type" =>
      (n.field? "name").bind fun name => if name.text ∈ builtInNames then none else some name.text
  | "type_identifier" =>
      if n.text ∈ "undefined" :: "null" :: builtInNames ∨ n.text ∈ bound then none else some n.text
  | _ => none

/-- The parameters of a declaration. -/
def typeParameters (decl : Node) : List Node :=
  ((decl.field? "type_parameters").map Node.constructs).getD []

/-- The name that a parameter binds. -/
def parameterName? (param : Node) : Option String :=
  if param.kind == "type_parameter" then (param.field? "name").map Node.text else none

/-- The default of a parameter. -/
def parameterDefault? (param : Node) : Option Node :=
  (param.field? "value").bind Node.firstConstruct?

/-- The defaults of parameters, each with the names that are bound where it is read: some to
begin with, and those of the parameters before it. -/
def parameterDefaults : (bound : List String) → (params : List Node) → List (List String × Node)
  | _, [] => []
  | bound, param :: rest =>
      match parameterName? param with
      | none => parameterDefaults bound rest
      | some name =>
          (parameterDefault? param).toList.map (bound, ·) ++
            parameterDefaults (bound ++ [name]) rest

/-- The type expressions of a declaration that are read when it is expanded, each with the names
that are bound there: the defaults of the parameters, and the type for which an alias stands. -/
def bodies (decl : Node) : List (List String × Node) :=
  let params := typeParameters decl
  let value := if decl.kind == "type_alias_declaration" then decl.field? "value" else none
  parameterDefaults [] params ++ value.toList.map (params.filterMap parameterName?, ·)

/-- To read a type expression is to meet a reference of a name to a declaration, in the
expression itself or in a declaration that is expanded on the way. -/
inductive Meets (p : Program) : List String → Node → String → Node → Prop where
  | part {bound : List String} {n m decl : Node} {name : String} (part : m ∈ typeParts n)
      (met : Meets p bound m name decl) : Meets p bound n name decl
  | here {bound : List String} {n decl : Node} {name : String}
      (refers : referredName? bound n = some name)
      (resolved : Scope.resolveType? p n name = some decl) : Meets p bound n name decl
  | inside {bound bound' : List String} {n m outer decl : Node} {outerName name : String}
      (refers : referredName? bound n = some outerName)
      (resolved : Scope.resolveType? p n outerName = some outer)
      (body : (bound', m) ∈ bodies outer) (met : Meets p bound' m name decl) :
      Meets p bound n name decl

theorem referredName?_congr {bound bound' : List String} (hsame : ∀ x, x ∈ bound ↔ x ∈ bound')
    (n : Node) : referredName? bound n = referredName? bound' n := by
  unfold referredName?
  simp only [hsame]

theorem Meets.congr {p : Program} {bound bound' : List String} {n decl : Node} {name : String}
    (hmet : Meets p bound n name decl) (hsame : ∀ x, x ∈ bound ↔ x ∈ bound') :
    Meets p bound' n name decl := by
  induction hmet with
  | part part _ ih => exact .part part (ih hsame)
  | here refers resolved => exact .here (referredName?_congr hsame _ ▸ refers) resolved
  | inside refers resolved body met _ =>
      exact .inside (referredName?_congr hsame _ ▸ refers) resolved body met

/-- Whether all references that are met are of an allowed name and declaration. Too little fuel
to tell counts as no. -/
def meetsOnly (p : Program) (allowed : String → Node → Bool) :
    (fuel : Nat) → (bound : List String) → Node → Bool
  | 0, _, _ => false
  | fuel + 1, bound, n =>
      (typeParts n).all (meetsOnly p allowed fuel bound) &&
        match (referredName? bound n).bind fun name =>
            (Scope.resolveType? p n name).map (name, ·) with
        | none => true
        | some (name, decl) =>
            allowed name decl &&
              (bodies decl).all fun body => meetsOnly p allowed fuel body.1 body.2

theorem Meets.allowed {p : Program} {bound : List String} {n decl : Node} {name : String}
    (hmet : Meets p bound n name decl) {allowed : String → Node → Bool} {fuel : Nat}
    (honly : meetsOnly p allowed fuel bound n = true) : allowed name decl = true := by
  induction hmet generalizing fuel with
  | part part _ ih =>
      cases fuel with
      | zero => cases honly
      | succ fuel =>
          rw [meetsOnly, Bool.and_eq_true, List.all_eq_true] at honly
          exact ih (honly.1 _ part)
  | here refers resolved =>
      cases fuel with
      | zero => cases honly
      | succ fuel =>
          simp only [meetsOnly, refers, resolved, Option.bind_some, Option.map_some,
            Bool.and_eq_true] at honly
          exact honly.2.1
  | inside refers resolved body _ ih =>
      cases fuel with
      | zero => cases honly
      | succ fuel =>
          simp only [meetsOnly, refers, resolved, Option.bind_some, Option.map_some,
            Bool.and_eq_true] at honly
          exact ih (List.all_eq_true.mp honly.2.2 _ body)

/-- No reference that is met bears one of the names. -/
def Avoids (p : Program) (names bound : List String) (n : Node) : Prop :=
  ∀ name decl, Meets p bound n name decl → name ∉ names

/-! ## Independence of what is being expanded -/

variable {p : Program} {ask : Answers} {names : List String} {n : Node}
  {bindings : List (String × StaticType)} {expanding : List String} {depth : Nat}

/-- Names that a type expression avoids make no difference to its type when they are taken for
those of declarations that are being expanded. -/
def Forgets (p : Program) (ask : Answers) (names : List String) : Prop :=
  ∀ n bindings expanding depth, Avoids p names (boundNames bindings) n →
    ask.denoted n ⟨bindings, names ++ expanding⟩ depth = ask.denoted n ⟨bindings, expanding⟩ depth

theorem Avoids.part {bound : List String} (havoids : Avoids p names bound n) {m : Node}
    (hm : m ∈ typeParts n) : Avoids p names bound m :=
  fun name decl hmet => havoids name decl (.part hm hmet)

theorem Avoids.body {bound bound' : List String} (havoids : Avoids p names bound n)
    {name : String} {decl m : Node} (hrefers : referredName? bound n = some name)
    (hdecl : Scope.resolveType? p n name = some decl) (hbody : (bound', m) ∈ bodies decl) :
    Avoids p names bound' m :=
  fun name decl hmet => havoids name decl (.inside hrefers hdecl hbody hmet)

theorem Avoids.congr {bound bound' : List String} (havoids : Avoids p names bound n)
    (hsame : ∀ x, x ∈ bound' ↔ x ∈ bound) : Avoids p names bound' n :=
  fun name decl hmet => havoids name decl (hmet.congr hsame)

/-- The type that a declaration gives with arguments, while others are being expanded. -/
def instantiated (p : Program) (ask : Answers) (decl : Node) (arguments : List StaticType)
    (expanding : List String) (depth : Nat) : Outcome StaticType := do
  let inner ← bindParameters ask depth (typeParameters decl) arguments ⟨[], expanding⟩
  if decl.kind == "type_alias_declaration" then
    Outcome.onSome (decl.field? "value") .unseen fun value => ask.denoted value inner (depth + 1)
  else
    let name := declaredName decl
    pure (shapeOf p decl (if name == "" then "class" else name) inner)

theorem declaredType_eq_instantiated (decl : Node) (arguments : List StaticType) (env : TypeEnv) :
    declaredType p ask decl arguments env depth =
      instantiated p ask decl arguments (env.expanding ++ [declaredName decl]) depth := rfl

/-! ### Parameters -/

/-- The type of a parameter: the first of the arguments that are left, or its default. -/
def suppliedType (ask : Answers) (depth : Nat) (env : TypeEnv) (param : Node) :
    List StaticType → Outcome StaticType
  | argument :: _ => .ok argument
  | [] => Outcome.onSome (parameterDefault? param) .unseen fun default =>
      ask.denoted default env (depth + 1)

theorem bindParameters_cons {param : Node} {name : String}
    (hname : parameterName? param = some name) (rest : List Node) (supplied : List StaticType)
    (env : TypeEnv) : bindParameters ask depth (param :: rest) supplied env =
      suppliedType ask depth env param supplied >>= fun t =>
        bindParameters ask depth rest supplied.tail (env.bind name t) := by
  unfold parameterName? at hname
  split at hname
  next hkind =>
    obtain ⟨node, hnode, rfl⟩ := Option.map_eq_some_iff.mp hname
    cases supplied <;> simp only [bindParameters, hkind, hnode] <;> rfl
  next => cases hname

theorem bindParameters_cons_none {param : Node} (hname : parameterName? param = none)
    (rest : List Node) (supplied : List StaticType) (env : TypeEnv) :
    bindParameters ask depth (param :: rest) supplied env =
      bindParameters ask depth rest supplied env := by
  unfold parameterName? at hname
  conv_lhs => unfold bindParameters
  split
  next hkind hnode => simp [hkind, hnode] at hname
  next hkind hnode => simp [hkind, hnode] at hname
  next => rfl

theorem mem_boundNames_bind {bound : List String} {name : String} {t : StaticType}
    (hbound : ∀ x, x ∈ boundNames bindings ↔ x ∈ bound) (x : String) :
    x ∈ boundNames (insertBinding name t bindings) ↔ x ∈ bound ++ [name] := by
  rw [mem_boundNames_insertBinding, hbound, List.mem_append, List.mem_singleton, or_comm]

/-- Parameters that are bound are bound by their names. -/
theorem mem_boundNames_of_bindParameters {bound : List String} {params : List Node}
    {supplied : List StaticType} {env inner : TypeEnv}
    (hok : bindParameters ask depth params supplied env = .ok inner)
    (hbound : ∀ x, x ∈ boundNames env.bindings ↔ x ∈ bound) (x : String) :
    x ∈ boundNames inner.bindings ↔ x ∈ bound ++ params.filterMap parameterName? := by
  induction params generalizing bound supplied env with
  | nil =>
      cases hok
      rw [List.filterMap_nil, List.append_nil, hbound]
  | cons param rest ih =>
      cases hname : parameterName? param with
      | none =>
          rw [bindParameters_cons_none hname] at hok
          rw [List.filterMap_cons_none hname]
          exact ih hok hbound
      | some name =>
          rw [bindParameters_cons hname] at hok
          rw [List.filterMap_cons_some hname, List.append_cons]
          cases htype : suppliedType ask depth env param supplied with
          | ok t =>
              rw [htype] at hok
              exact ih hok (mem_boundNames_bind hbound)
          | error e =>
              rw [htype] at hok
              cases hok
          | exhausted =>
              rw [htype] at hok
              cases hok

theorem bindParameters_forget (hask : Forgets p ask names) {bound : List String}
    {params : List Node}
    (hdefaults : ∀ b m, (b, m) ∈ parameterDefaults bound params → Avoids p names b m)
    (hbound : ∀ x, x ∈ boundNames bindings ↔ x ∈ bound) (supplied : List StaticType) :
    bindParameters ask depth params supplied ⟨bindings, names ++ expanding⟩ =
      bindParameters ask depth params supplied ⟨bindings, expanding⟩ >>= fun inner =>
        .ok ⟨inner.bindings, names ++ inner.expanding⟩ := by
  induction params generalizing bound bindings supplied with
  | nil => rfl
  | cons param rest ih =>
      rw [parameterDefaults] at hdefaults
      cases hname : parameterName? param with
      | none =>
          rw [bindParameters_cons_none hname, bindParameters_cons_none hname]
          exact ih (by simpa only [hname] using hdefaults) hbound supplied
      | some name =>
          simp only [hname, List.mem_append, List.mem_map, Option.mem_toList] at hdefaults
          have htype : suppliedType ask depth ⟨bindings, names ++ expanding⟩ param supplied =
              suppliedType ask depth ⟨bindings, expanding⟩ param supplied := by
            cases supplied with
            | cons => rfl
            | nil =>
                apply Outcome.onSome_congr
                intro default hdefault
                have havoids := hdefaults bound default (.inl ⟨default, hdefault, rfl⟩)
                exact hask _ _ _ _ (havoids.congr hbound)
          rw [bindParameters_cons hname, bindParameters_cons hname, htype]
          cases suppliedType ask depth ⟨bindings, expanding⟩ param supplied with
          | ok t =>
              have hnext : ∀ x, x ∈ boundNames (insertBinding name t bindings) ↔
                  x ∈ bound ++ [name] := mem_boundNames_bind hbound
              exact ih (fun b m hm => hdefaults b m (.inr hm)) hnext supplied.tail
          | error e => rfl
          | exhausted => rfl

/-! ### Declarations -/

/-- What a declaration gives does not depend on the names of others, if all that is read for it
avoids them. -/
theorem instantiated_forget (hask : Forgets p ask names) {decl : Node}
    (hbodies : ∀ bound m, (bound, m) ∈ bodies decl → Avoids p names bound m)
    (arguments : List StaticType) (expanding : List String) :
    instantiated p ask decl arguments (names ++ expanding) depth =
      instantiated p ask decl arguments expanding depth := by
  have hnone : ∀ x, x ∈ boundNames [] ↔ x ∈ ([] : List String) := fun _ => Iff.rfl
  have hbind : bindParameters ask depth (typeParameters decl) arguments ⟨[], names ++ expanding⟩ =
      bindParameters ask depth (typeParameters decl) arguments ⟨[], expanding⟩ >>= fun inner =>
        .ok ⟨inner.bindings, names ++ inner.expanding⟩ := by
    refine bindParameters_forget hask (fun b m hm => ?_) hnone arguments
    exact hbodies b m (List.mem_append_left _ hm)
  unfold instantiated
  rw [hbind]
  cases hinner : bindParameters ask depth (typeParameters decl) arguments ⟨[], expanding⟩ with
  | error e => rfl
  | exhausted => rfl
  | ok inner =>
      change ite _ _ _ = ite _ _ _
      by_cases halias : decl.kind == "type_alias_declaration"
      · rw [if_pos halias, if_pos halias]
        apply Outcome.onSome_congr
        intro value hvalue
        have havoids := hbodies ((typeParameters decl).filterMap parameterName?) value
          (List.mem_append_right _ (by simp [halias, Option.mem_def.mp hvalue]))
        exact hask _ _ _ _ (havoids.congr (mem_boundNames_of_bindParameters hinner hnone))
      · rw [if_neg halias, if_neg halias]
        rfl

/-- A reference to a name that is avoided does not depend on it either: it resolves to nothing. -/
theorem referenceType_forget (hask : Forgets p ask names) {name : String}
    (havoids : Avoids p names (boundNames bindings) n)
    (hrefers : name ∉ builtInNames → referredName? (boundNames bindings) n = some name)
    (arguments : List StaticType) :
    referenceType p ask n name arguments ⟨bindings, names ++ expanding⟩ depth =
      referenceType p ask n name arguments ⟨bindings, expanding⟩ depth := by
  unfold referenceType
  split
  · rfl
  · rfl
  · rfl
  next hlist hreadonly hnonnull =>
    have hrefers := hrefers (by simpa [builtInNames] using ⟨hlist, hreadonly, hnonnull⟩)
    cases hdecl : Scope.resolveType? p n name with
    | none => simp
    | some decl =>
        have hname : name ∉ names := havoids name decl (.here hrefers hdecl)
        have hcontains : (names ++ expanding).contains name = expanding.contains name := by
          simp [hname]
        have hdeclared : declaredType p ask decl arguments ⟨bindings, names ++ expanding⟩ depth =
            declaredType p ask decl arguments ⟨bindings, expanding⟩ depth := by
          rw [declaredType_eq_instantiated, declaredType_eq_instantiated]
          dsimp only
          rw [List.append_assoc]
          exact instantiated_forget hask (fun _ _ hbody => havoids.body hrefers hdecl hbody) _ _
        simp only [hcontains, hdeclared]

/-! ### Type expressions -/

theorem tupleElement_forget (hask : Forgets p ask names) {element : Node}
    (havoids : ∀ m ∈ elementParts element, Avoids p names (boundNames bindings) m) :
    tupleElement ask ⟨bindings, names ++ expanding⟩ depth element =
      tupleElement ask ⟨bindings, expanding⟩ depth element := by
  unfold tupleElement
  split
  next hkind =>
    have hinner : ∀ t ∈ element.firstConstruct?,
        ask.denoted t ⟨bindings, names ++ expanding⟩ (depth + 1) =
          ask.denoted t ⟨bindings, expanding⟩ (depth + 1) := by
      intro t ht
      exact hask _ _ _ _ (havoids t (by simpa [elementParts, hkind] using ht))
    rw [Outcome.onSome_congr hinner]
  next => rfl
  next hoptional hrest =>
    refine hask _ _ _ _ (havoids element ?_)
    unfold elementParts
    split
    · contradiction
    · contradiction
    · exact List.mem_singleton_self element

theorem returnType_forget (hask : Forgets p ask names) {function : Node}
    (havoids : ∀ m ∈ ((function.field? "return_type").map returnParts).getD [],
      Avoids p names (boundNames bindings) m) :
    returnType ask function ⟨bindings, names ++ expanding⟩ depth =
      returnType ask function ⟨bindings, expanding⟩ depth := by
  unfold returnType
  cases hfield : function.field? "return_type" with
  | none => rfl
  | some ascription =>
      replace havoids : ∀ m ∈ returnParts ascription, Avoids p names (boundNames bindings) m := by
        simpa [hfield] using havoids
      dsimp only
      split
      next hkind =>
        apply Outcome.onSome_congr
        intro t ht
        exact hask _ _ _ _ (havoids t (by simpa [returnParts, hkind] using ht))
      next => rfl
      next => rfl
      next => rfl
      next => rfl
      next =>
        refine hask _ _ _ _ (havoids ascription ?_)
        unfold returnParts
        split
        case h_6 => exact List.mem_singleton_self ascription
        all_goals contradiction

theorem denotedRule_forget (hask : Forgets p ask names)
    (havoids : Avoids p names (boundNames bindings) n) :
    denotedRule p ask n ⟨bindings, names ++ expanding⟩ depth =
      denotedRule p ask n ⟨bindings, expanding⟩ depth := by
  have hparts : ∀ m ∈ typeParts n, ∀ depth,
      ask.denoted m ⟨bindings, names ++ expanding⟩ depth =
        ask.denoted m ⟨bindings, expanding⟩ depth :=
    fun m hm depth => hask _ _ _ _ (havoids.part hm)
  unfold denotedRule
  split
  · rfl
  · split
    next hkind =>
      rw [Outcome.mapAll_congr fun m hm => hparts m (by simpa [typeParts, hkind] using hm) _]
    next hkind =>
      exact Outcome.onSome_congr fun t ht => hparts t (by simpa [typeParts, hkind] using ht) _
    next hkind =>
      exact Outcome.onSome_congr fun t ht => hparts t (by simpa [typeParts, hkind] using ht) _
    next => rfl
    next => rfl
    next => rfl
    next => rfl
    next hkind =>
      rw [Outcome.onSome_congr fun t ht => hparts t (by simpa [typeParts, hkind] using ht) _]
    next hkind =>
      have helements : ∀ element ∈ n.constructs,
          tupleElement ask ⟨bindings, names ++ expanding⟩ depth element =
            tupleElement ask ⟨bindings, expanding⟩ depth element := by
        intro element helement
        refine tupleElement_forget hask fun m hm => havoids.part ?_
        simp only [typeParts, hkind]
        exact List.mem_flatMap.mpr ⟨element, helement, hm⟩
      rw [Outcome.mapAll_congr helements]
    next => rfl
    next hkind =>
      rw [returnType_forget hask fun m hm => havoids.part (by simpa [typeParts, hkind] using hm)]
    next => rfl
    next hkind =>
      apply Outcome.onSome_congr
      intro name hname
      have harguments : argumentTypes ask (n.field? "type_arguments")
          ⟨bindings, names ++ expanding⟩ depth =
            argumentTypes ask (n.field? "type_arguments") ⟨bindings, expanding⟩ depth :=
        Outcome.mapAll_congr fun m hm => hparts m (by simpa [typeParts, hkind] using hm) _
      rw [harguments]
      refine bind_congr fun arguments => referenceType_forget hask havoids ?_ arguments
      intro hdeclared
      simp [referredName?, hkind, Option.mem_def.mp hname, hdeclared]
    next hkind =>
      split
      · rfl
      · rfl
      next hundefined hnull =>
        have hlookup : TypeEnv.lookup? ⟨bindings, names ++ expanding⟩ n.text =
            TypeEnv.lookup? ⟨bindings, expanding⟩ n.text := rfl
        rw [hlookup]
        split
        · rfl
        next hfree =>
          have hunbound := TypeEnv.lookup?_eq_none_iff.mp hfree
          refine referenceType_forget hask havoids ?_ []
          intro hdeclared
          simpa [referredName?, hkind, hunbound, hdeclared] using ⟨hundefined, hnull⟩
    next => rfl
    next => rfl

theorem forgets_within (p : Program) (names : List String) (allowance : Nat) :
    Forgets p (Answers.within p allowance) names := by
  induction allowance with
  | zero => exact fun _ _ _ _ _ => rfl
  | succ allowance ih => exact fun _ _ _ _ havoids => denotedRule_forget ih havoids

/-! ## References -/

/-- The arguments of a reference. -/
def typeArguments? (site : Node) : Option Node :=
  if site.kind == "generic_type" then site.field? "type_arguments" else none

theorem denoted_of_refers {env : TypeEnv} {name : String} (hdepth : depth ≤ maxDepth)
    (hrefers : referredName? (boundNames env.bindings) n = some name) :
    name ∉ builtInNames ∧ p.answers.denoted n env depth =
      argumentTypes p.answers (typeArguments? n) env depth >>= fun arguments =>
        referenceType p p.answers n name arguments env depth := by
  rw [Program.answers_denoted, denotedRule, if_neg (Nat.not_lt.mpr hdepth)]
  unfold referredName? at hrefers
  split at hrefers
  next hkind =>
    obtain ⟨node, hnode, hname⟩ := Option.bind_eq_some_iff.mp hrefers
    split at hname
    · cases hname
    next hdeclared =>
      cases hname
      refine ⟨hdeclared, ?_⟩
      simp only [hkind, hnode, typeArguments?, beq_self_eq_true, if_true]
      rfl
  next hkind =>
    split at hrefers
    · cases hrefers
    next hfree =>
      cases hrefers
      simp only [List.mem_cons, not_or] at hfree
      obtain ⟨⟨hundefined, hnull, hdeclared⟩, hunbound⟩ := hfree
      have harguments : typeArguments? n = none := by simp [typeArguments?, hkind]
      refine ⟨hdeclared, ?_⟩
      simp only [hkind, harguments, TypeEnv.lookup?_eq_none_iff.mpr hunbound]
      rfl
  next => cases hrefers

theorem referenceType_of_resolved {env : TypeEnv} {name : String} {decl : Node}
    (hbuiltIn : name ∉ builtInNames) (hnew : name ∉ env.expanding)
    (hdecl : Scope.resolveType? p n name = some decl) (arguments : List StaticType) :
    referenceType p ask n name arguments env depth =
      declaredType p ask decl arguments env depth := by
  unfold referenceType
  split
  · simp [builtInNames] at hbuiltIn
  · simp [builtInNames] at hbuiltIn
  · simp [builtInNames] at hbuiltIn
  · simp [hnew, hdecl]

/-- The expansion of a declaration meets a reference of a name to another one. -/
def MeetsInside (p : Program) (decl : Node) (name : String) (other : Node) : Prop :=
  ∃ bound m, (bound, m) ∈ bodies decl ∧ Meets p bound m name other

/-- While the declarations of a path are being expanded, the expansion of one more meets none
of them again, nor itself. -/
def Acyclic (p : Program) (path : List Node) (decl : Node) : Prop :=
  ∀ name other, MeetsInside p decl name other → other ∉ path ++ [decl]

/-- A name that the expansion meets is that of no declaration that is being expanded, unless it
refers to that one. -/
def ToldByName (p : Program) (path : List Node) (decl : Node) : Prop :=
  ∀ name other, MeetsInside p decl name other →
    ∀ above ∈ path ++ [decl], declaredName above = name → above = other

theorem Acyclic.avoids {path : List Node} {decl : Node} (hacyclic : Acyclic p path decl)
    (htold : ToldByName p path decl) {bound : List String} {m : Node}
    (hbody : (bound, m) ∈ bodies decl) :
    Avoids p (path.map declaredName ++ [declaredName decl]) bound m := by
  intro name other hmet hmem
  have hinside : MeetsInside p decl name other := ⟨bound, m, hbody, hmet⟩
  rw [← List.map_singleton, ← List.map_append] at hmem
  obtain ⟨above, habove, hname⟩ := List.mem_map.mp hmem
  have hsame := htold name other hinside above habove hname
  exact hacyclic name other hinside (hsame ▸ habove)

/-- A reference to a declaration that is not being expanded, where no other one that is being
expanded bears the name. It is not left a name: its type is what the declaration gives, for an
alias the type of its body, with the arguments, or else the defaults, for the parameters. If the
expansion is acyclic and names tell apart what it meets, then the type is the same as when
nothing is being expanded. -/
theorem denoted_reference {site decl : Node} {name : String} {env : TypeEnv} {path : List Node}
    (hdepth : depth ≤ maxDepth) (hpath : env.expanding = path.map declaredName)
    (hrefers : referredName? (boundNames env.bindings) site = some name)
    (hdecl : Scope.resolveType? p site name = some decl) (hnew : decl ∉ path)
    (hname : ∀ above ∈ path, declaredName above = name → above = decl) :
    (p.answers.denoted site env depth =
      argumentTypes p.answers (typeArguments? site) env depth >>= fun arguments =>
        instantiated p p.answers decl arguments (env.expanding ++ [declaredName decl]) depth) ∧
    (Acyclic p path decl → ToldByName p path decl →
      p.answers.denoted site env depth =
        argumentTypes p.answers (typeArguments? site) env depth >>= fun arguments =>
          instantiated p p.answers decl arguments [] depth) := by
  have hfresh : name ∉ env.expanding := by
    rw [hpath]
    intro hmem
    obtain ⟨above, habove, hsame⟩ := List.mem_map.mp hmem
    exact hnew (hname above habove hsame ▸ habove)
  obtain ⟨hbuiltIn, hdenoted⟩ := denoted_of_refers (p := p) hdepth hrefers
  have hexpanded : p.answers.denoted site env depth =
      argumentTypes p.answers (typeArguments? site) env depth >>= fun arguments =>
        instantiated p p.answers decl arguments (env.expanding ++ [declaredName decl]) depth := by
    rw [hdenoted]
    refine bind_congr fun arguments => ?_
    rw [referenceType_of_resolved hbuiltIn hfresh hdecl, declaredType_eq_instantiated]
  refine ⟨hexpanded, fun hacyclic htold => hexpanded.trans (bind_congr fun arguments => ?_)⟩
  rw [← List.append_nil (env.expanding ++ [declaredName decl]), hpath]
  exact instantiated_forget (forgets_within p _ _) (fun _ _ => hacyclic.avoids htold) arguments []

/-! ## Expansions on their own

Whether an expansion is acyclic, and whether names tell what it meets, can be found by going
through all that it reads. -/

theorem MeetsInside.allowed {decl other : Node} {name : String}
    (hmet : MeetsInside p decl name other) {allowed : String → Node → Bool} {fuel : Nat}
    (honly : (bodies decl).all (fun body => meetsOnly p allowed fuel body.1 body.2) = true) :
    allowed name other = true := by
  obtain ⟨bound, m, hbody, hmet⟩ := hmet
  exact hmet.allowed (List.all_eq_true.mp honly _ hbody)

theorem Acyclic.of_meetsOnly {decl : Node} {allowed : String → Node → Bool} {fuel : Nat}
    (honly : (bodies decl).all (fun body => meetsOnly p allowed fuel body.1 body.2) = true)
    (hself : ∀ name, allowed name decl = false) : Acyclic p [] decl := by
  intro name other hmet hmem
  have hallowed := hmet.allowed honly
  rw [List.mem_singleton.mp hmem, hself] at hallowed
  cases hallowed

theorem ToldByName.of_meetsOnly {decl : Node} {allowed : String → Node → Bool} {fuel : Nat}
    (honly : (bodies decl).all (fun body => meetsOnly p allowed fuel body.1 body.2) = true)
    (hself : ∀ other, allowed (declaredName decl) other = false) : ToldByName p [] decl := by
  intro name other hmet above habove hname
  have hallowed := hmet.allowed honly
  rw [← hname, List.mem_singleton.mp habove, hself] at hallowed
  cases hallowed

namespace Sample

open Program.Sample (construct)

/-- An alias with two parameters, one of which has a default, and an alias of what it gives for
one argument. -/
def globals : SourceFile where
  load := 0
  path := ⟨"a.ts"⟩
  text := "type M<T, N = null> = T | N; type S = M<A>;"
  dialect := .typeScript
  tree := construct "program" 0 43 []
    [construct "type_alias_declaration" 0 28 []
      [construct "type_identifier" 5 6 ["name"] [],
        construct "type_parameters" 6 19 ["type_parameters"]
          [construct "type_parameter" 7 8 [] [construct "type_identifier" 7 8 ["name"] []],
            construct "type_parameter" 10 18 []
              [construct "type_identifier" 10 11 ["name"] [],
                construct "default_type" 12 18 ["value"]
                  [construct "literal_type" 14 18 [] [construct "null" 14 18 [] []]]]],
        construct "union_type" 22 27 ["value"]
          [construct "type_identifier" 22 23 [] [], construct "type_identifier" 26 27 [] []]],
      construct "type_alias_declaration" 29 43 []
        [construct "type_identifier" 34 35 ["name"] [],
          construct "generic_type" 38 42 ["value"]
            [construct "type_identifier" 38 39 ["name"] [],
              construct "type_arguments" 39 42 ["type_arguments"]
                [construct "type_identifier" 40 41 [] []]]]]

/-- A module with an alias of the same name as the first of the globals, which stands for the
second one, and a variable of its type. -/
def shadowing : SourceFile where
  load := 0
  path := ⟨"b.ts"⟩
  text := "export type M = S; let x: M;"
  dialect := .typeScript
  tree := construct "program" 0 28 []
    [construct "export_statement" 0 18 []
      [construct "type_alias_declaration" 7 18 ["declaration"]
        [construct "type_identifier" 12 13 ["name"] [],
          construct "type_identifier" 16 17 ["value"] []]],
      construct "lexical_declaration" 19 28 []
        [construct "variable_declarator" 23 27 []
          [construct "identifier" 23 24 ["name"] [],
            construct "type_annotation" 24 27 ["type"] [construct "type_identifier" 26 27 [] []]]]]

def program : Program := ⟨[globals, shadowing], .standard⟩

/-- The node of the module that starts and stops at the given places. -/
def covering (start stop : Nat) : Node :=
  (shadowing.root.preorder.find? (·.span == ⟨start, stop⟩)).getD shadowing.root

/-- The reference to the second of the globals. -/
def globalSite : Node := covering 16 17

/-- The reference to the alias of the module. -/
def shadowingSite : Node := covering 26 27

/-- The declaration to which a site refers by a name. -/
def declared (site : Node) (name : String) : Node :=
  (Scope.resolveType? program site name).getD site

theorem resolveType?_eq_declared {site : Node} {name : String}
    (hsome : (Scope.resolveType? program site name).isSome = true) :
    Scope.resolveType? program site name = some (declared site name) := by
  rw [declared, Option.getD_of_ne_none (Option.isSome_iff_ne_none.mp hsome)]

end Sample

/-- The second of the globals stands for what the first one gives for its argument and its
default, since that is the only declaration of its name on the way. -/
theorem denoted_reference_sample :
    let decl := Sample.declared Sample.globalSite "S"
    Scope.resolveType? Sample.program Sample.globalSite "S" = some decl ∧
      Acyclic Sample.program [] decl ∧ ToldByName Sample.program [] decl ∧
      Sample.program.answers.denoted Sample.globalSite .empty 0 =
        .ok (.union [.reference "A" [], .null]) := by
  intro decl
  have hdecl : Scope.resolveType? Sample.program Sample.globalSite "S" = some decl :=
    Sample.resolveType?_eq_declared (by decide +kernel)
  have honly : (bodies decl).all (fun body => meetsOnly Sample.program
      (fun name other => other.span != decl.span && name != declaredName decl) 4 body.1 body.2) =
      true := by decide +kernel
  have hacyclic : Acyclic Sample.program [] decl := .of_meetsOnly honly (by simp)
  have htold : ToldByName Sample.program [] decl := .of_meetsOnly honly (by simp)
  have hrefers : referredName? (boundNames TypeEnv.empty.bindings) Sample.globalSite =
      some "S" := by decide +kernel
  have hpath : TypeEnv.empty.expanding = [].map declaredName := rfl
  have hexpanded := (denoted_reference (Nat.zero_le maxDepth) hpath hrefers hdecl
    List.not_mem_nil (by simp)).2 hacyclic htold
  exact ⟨hdecl, hacyclic, htold, hexpanded.trans (by decide +kernel)⟩

/-- The alias of the module stands for the second of the globals, and its expansion is acyclic.
But the first of the globals bears its name and is taken for it on the way, so it is left a name:
the variable does not seem to be `null`. -/
theorem denoted_reference_shadowed :
    let decl := Sample.declared Sample.shadowingSite "M"
    Scope.resolveType? Sample.program Sample.shadowingSite "M" = some decl ∧
      Acyclic Sample.program [] decl ∧
      instantiated Sample.program Sample.program.answers decl [] [] 0 =
        .ok (.union [.reference "A" [], .null]) ∧
      Sample.program.answers.denoted Sample.shadowingSite .empty 0 =
        .ok (.reference "M" [.reference "A" []]) := by
  intro decl
  have honly : (bodies decl).all (fun body => meetsOnly Sample.program
      (fun _ other => other.span != decl.span) 4 body.1 body.2) = true := by decide +kernel
  exact ⟨Sample.resolveType?_eq_declared (by decide +kernel), .of_meetsOnly honly (by simp),
    by decide +kernel, by decide +kernel⟩

end Checker

end CallMigration
