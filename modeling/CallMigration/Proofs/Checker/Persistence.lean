import CallMigration.Proofs.Checker.Realm

/-!
# Answers in two programs

Each rule makes its answer from the answers to deeper questions, so it is enough that the
answers of every rule persist when those do. Beyond the depth limit nothing is asked, and
from there back every question is answered within the allowance: no question is ever given
up, and where a second program keeps a realm the answers about the realm persist.
-/

namespace CallMigration

open StaticType Outcome Scope

namespace Checker

variable {p q : Program} {r : p.Realm} {σ : Nat ↪ Nat} {ask ask' : Answers}
  {floor depth : Nat} {env : TypeEnv} {n : Node} {t : StaticType} {name : String}

/-! ## Denoted types -/

theorem persists_ascribedType (hask : ask.Persist r q σ floor ask') (hdepth : floor < depth)
    (hn : r.node n) (henv : env.All r.type) :
    PersistsType r q σ (ascribedType ask n env depth)
      (ascribedType ask' n (env.renumber σ) depth) := by
  apply persists_onSome r.closed.unseen
  intro t ht
  exact hask.denoted hdepth (r.firstConstruct hn ht) henv

theorem persists_inferredReturnType (hask : ask.Persist r q σ floor ask') (hdepth : floor ≤ depth)
    (hn : r.node n) :
    PersistsType r q σ (inferredReturnType ask n depth) (inferredReturnType ask' n depth) := by
  have hdeeper : floor < depth + inferenceCost := by
    unfold inferenceCost
    omega
  apply persists_onSome r.closed.unseen
  intro body hbody
  have hbody := r.field hn hbody
  split
  · exact hask.expression hdeeper hbody
  · split
    · exact .ok r.closed.unseen
    · refine persists_bind (persists_mapTypes (σ := σ) ?_) ?_
      · intro stmt hstmt
        apply persists_onSome r.closed.undefined
        intro value hvalue
        exact hask.expression hdeeper (r.firstConstruct (r.returnStatement hbody hstmt) hvalue)
      · intro returned hreturned
        have ht : r.type (if returned.isEmpty then primitive "void" else join returned) := by
          split
          · exact r.closed.primitive "void"
          · exact r.closed.join hreturned
        have hsame : (if (returned.map (renumber σ)).isEmpty then primitive "void"
            else join (returned.map (renumber σ))) =
            renumber σ (if returned.isEmpty then primitive "void" else join returned) := by
          rw [List.isEmpty_map]
          split <;> simp
        dsimp only
        rw [hsame]
        split
        · exact persists_ok (r.closed.reference_iff.mpr (by simpa using ht)) (by simp)
        · exact .ok ht

theorem persists_returnType (hask : ask.Persist r q σ floor ask') (hdepth : floor ≤ depth)
    (hn : r.node n) (henv : env.All r.type) :
    PersistsType r q σ (returnType ask n env depth) (returnType ask' n (env.renumber σ) depth) := by
  unfold returnType
  split
  · exact persists_inferredReturnType hask hdepth hn
  next ascription hascription =>
    have hascription := r.field hn hascription
    split
    · exact persists_ascribedType hask (by omega) hascription henv
    · exact .ok (r.closed.primitive "boolean")
    · exact .ok (r.closed.primitive "boolean")
    · exact .ok (r.closed.primitive "void")
    · exact .ok (r.closed.primitive "void")
    · exact hask.denoted (by omega) hascription henv

/-- The type of a function. -/
theorem persists_function (hask : ask.Persist r q σ floor ask') (hdepth : floor ≤ depth)
    (hn : r.node n) (henv : env.All r.type) :
    PersistsType r q σ (do let returns ← returnType ask n env depth; pure (.function returns))
      (do let returns ← returnType ask' n (env.renumber σ) depth; pure (.function returns)) := by
  apply persists_bind (persists_returnType hask hdepth hn henv)
  intro returns hreturns
  exact .ok (r.closed.function_iff.mpr hreturns)

theorem persists_bindParameters (hask : ask.Persist r q σ floor ask') (hdepth : floor ≤ depth)
    {parameters : List Node} {supplied : List StaticType}
    (hparameters : ∀ m ∈ parameters, r.node m) (hsupplied : ∀ t ∈ supplied, r.type t)
    (henv : env.All r.type) :
    Persists r q (TypeEnv.renumber σ) (TypeEnv.All r.type)
      (bindParameters ask depth parameters supplied env)
      (bindParameters ask' depth parameters (supplied.map (renumber σ)) (env.renumber σ)) := by
  induction parameters generalizing supplied env with
  | nil => exact .ok henv
  | cons param rest ih =>
      obtain ⟨hparam, hrest⟩ := List.forall_mem_cons.mp hparameters
      unfold bindParameters
      cases param.kind == "type_parameter" with
      | false => exact ih hrest hsupplied henv
      | true =>
          cases param.field? "name" with
          | none => exact ih hrest hsupplied henv
          | some label =>
              cases supplied with
              | cons argument more =>
                  obtain ⟨hargument, hmore⟩ := List.forall_mem_cons.mp hsupplied
                  simpa using ih hrest hmore (henv.bind label.text hargument)
              | nil =>
                  refine persists_bindType (σ := σ) ?_ ?_
                  · apply persists_onSome r.closed.unseen
                    intro default hdefault
                    obtain ⟨value, hvalue, hdefault⟩ := Option.bind_eq_some_iff.mp hdefault
                    exact hask.denoted (by omega)
                      (r.firstConstruct (r.field hparam hvalue) hdefault) henv
                  · intro bound hbound
                    simpa using ih hrest hsupplied (henv.bind label.text hbound)

theorem persists_declaredType (hq : r.Kept q σ) (hask : ask.Persist r q σ floor ask')
    (hdepth : floor ≤ depth)
    (hn : r.node n) {arguments : List StaticType} (harguments : ∀ t ∈ arguments, r.type t) :
    PersistsType r q σ (declaredType p ask n arguments env depth)
      (declaredType q ask' n (arguments.map (renumber σ)) (env.renumber σ) depth) := by
  refine persists_bind (persists_bindParameters hask hdepth ?_ harguments (env.all_enter _)) ?_
  · intro m hm
    exact r.constructsOf (fun _ => r.field hn) hm
  · intro inner hinner
    split
    · apply persists_onSome r.closed.unseen
      intro value hvalue
      exact hask.denoted (by omega) (r.field hn hvalue) hinner
    · exact persists_ok (r.shapeOf hn _ hinner) (hq.shapeOf hn _ _)

theorem persists_referenceType (hq : r.Kept q σ) (hask : ask.Persist r q σ floor ask')
    (hdepth : floor ≤ depth) (hn : r.node n) {arguments : List StaticType}
    (harguments : ∀ t ∈ arguments, r.type t) :
    PersistsType r q σ (referenceType p ask n name arguments env depth)
      (referenceType q ask' n name (arguments.map (renumber σ)) (env.renumber σ) depth) := by
  have hhead : (arguments.map (renumber σ)).headD .unseen =
      renumber σ (arguments.headD .unseen) := by
    cases arguments <;> rfl
  unfold referenceType
  rw [hhead, hq.type hn, TypeEnv.expanding_renumber]
  split
  · exact .ok (r.closed.array_iff.mpr (r.closed.headD harguments))
  · exact .ok (r.closed.array_iff.mpr (r.closed.headD harguments))
  · exact persists_ok (r.closed.withoutNullish (r.closed.headD harguments)) (by simp)
  · split
    · exact persists_ok (r.closed.reference_iff.mpr harguments) (by simp)
    · split
      next decl hdecl =>
        exact persists_declaredType hq hask hdepth (r.resolveType hn hdecl) harguments
      next => exact persists_ok (r.closed.reference_iff.mpr harguments) (by simp)

theorem persists_argumentTypes (hask : ask.Persist r q σ floor ask') (hdepth : floor ≤ depth)
    {arguments : Option Node} (harguments : ∀ m ∈ arguments, r.node m)
    (henv : env.All r.type) :
    PersistsTypes r q σ (argumentTypes ask arguments env depth)
      (argumentTypes ask' arguments (env.renumber σ) depth) := by
  apply persists_mapAll
  intro argument hargument
  exact hask.denoted (by omega) (r.constructsOf harguments hargument) henv

theorem persists_instanceType (hq : r.Kept q σ) (hask : ask.Persist r q σ floor ask')
    (hdepth : floor ≤ depth) (hn : r.node n) {typeArguments : Option Node}
    (htypeArguments : ∀ m ∈ typeArguments, r.node m) :
    PersistsType r q σ (instanceType p ask n typeArguments depth)
      (instanceType q ask' n typeArguments depth) := by
  unfold instanceType
  rw [hq.value hn]
  apply persists_onSome r.closed.unseen
  intro node hnode
  have hnode : r.node node := by
    split at hnode
    · split at hnode
      next classNode hclass =>
        cases hnode
        exact r.resolveValue hn hclass
      next => cases hnode
    · cases hnode
      exact hn
    · cases hnode
  apply persists_bind (persists_argumentTypes hask hdepth htypeArguments TypeEnv.all_empty)
  intro arguments harguments
  exact persists_declaredType hq hask hdepth hnode harguments

theorem persists_tupleElement (hask : ask.Persist r q σ floor ask') (hdepth : floor ≤ depth)
    (hn : r.node n) (henv : env.All r.type) :
    PersistsType r q σ (tupleElement ask env depth n)
      (tupleElement ask' (env.renumber σ) depth n) := by
  unfold tupleElement
  split
  · refine persists_bindType (σ := σ) ?_ ?_
    · apply persists_onSome r.closed.unseen
      intro t ht
      exact hask.denoted (by omega) (r.firstConstruct hn ht) henv
    · intro inner hinner
      exact persists_ok (r.closed.orUndefined hinner) (by simp)
  · exact .ok r.closed.unseen
  · exact hask.denoted (by omega) hn henv

theorem persists_denotedRule (hq : r.Kept q σ)
    (hask : depth ≤ maxDepth → ask.Persist r q σ depth ask') (hn : r.node n)
    (henv : env.All r.type) :
    PersistsType r q σ (denotedRule p ask n env depth)
      (denotedRule q ask' n (env.renumber σ) depth) := by
  unfold denotedRule
  split
  · exact .ok r.closed.unseen
  next hlimit =>
    have hask := hask (by omega)
    have hdenoted : ∀ m, r.node m → PersistsType r q σ (ask.denoted m env (depth + 1))
        (ask'.denoted m (env.renumber σ) (depth + 1)) :=
      fun m hm => hask.denoted (by omega) hm henv
    have hfirst : PersistsType r q σ
        (Outcome.onSome n.firstConstruct? .unseen fun t => ask.denoted t env (depth + 1))
        (Outcome.onSome n.firstConstruct? .unseen fun t =>
          ask'.denoted t (env.renumber σ) (depth + 1)) :=
      persists_onSome r.closed.unseen fun t ht => hdenoted t (r.firstConstruct hn ht)
    split
    · apply persists_bind (persists_mapAll fun m hm => hdenoted m (r.construct hn hm))
      intro ms hms
      exact persists_ok (r.closed.join hms) (by simp)
    · exact hfirst
    · exact hfirst
    · exact .ok r.closed.null
    · exact .ok r.closed.undefined
    · split
      · exact .ok r.closed.null
      · exact .ok r.closed.undefined
      · exact .ok (r.closed.literal _)
    · exact .ok (r.closed.primitive _)
    · apply persists_bind hfirst
      intro element helement
      exact .ok (r.closed.array_iff.mpr helement)
    · refine persists_bind (persists_mapTypes (σ := σ) ?_) ?_
      · intro element helement
        exact persists_tupleElement hask (by omega) (r.construct hn helement) henv
      · intro elements helements
        exact persists_ok (r.closed.tuple_iff.mpr helements) (by simp)
    · exact persists_ok (r.shapeOf hn _ henv) (hq.shapeOf hn _ _)
    · exact persists_function hask (by omega) hn henv
    · apply persists_onSome r.closed.unseen
      intro e he
      exact hask.expression (by omega) (r.firstConstruct hn he)
    · apply persists_onSome r.closed.unseen
      intro name hname
      apply persists_bind (persists_argumentTypes hask (by omega) (fun _ => r.field hn) henv)
      intro arguments harguments
      exact persists_referenceType hq hask (by omega) hn harguments
    · split
      · exact .ok r.closed.undefined
      · exact .ok r.closed.null
      · rw [TypeEnv.lookup?_renumber]
        cases hlookup : env.lookup? n.text with
        | some bound => exact .ok (henv.lookup? hlookup)
        | none => exact persists_referenceType hq hask (by omega) hn (by simp)
    · exact .ok (r.closed.reference_iff.mpr (by simp))
    · exact .ok r.closed.unseen

/-! ## Members -/

theorem persists_methodMember (hask : ask.Persist r q σ floor ask') (hdepth : floor ≤ depth)
    (hn : r.node n) (henv : env.All r.type) :
    PersistsType r q σ (methodMember ask n env depth)
      (methodMember ask' n (env.renumber σ) depth) := by
  apply persists_bind (persists_returnType hask (by omega) hn henv)
  intro returns hreturns
  split
  · exact .ok hreturns
  · exact persists_ok (r.closed.optionalMember n (r.closed.function_iff.mpr hreturns)) (by simp)

theorem persists_signatureOf? (hask : ask.Persist r q σ floor ask') (hdepth : floor ≤ depth)
    (hn : r.node n) (henv : env.All r.type) :
    Option.Rel (PersistsType r q σ) (signatureOf? ask name env depth n)
      (signatureOf? ask' name (env.renumber σ) depth n) := by
  unfold signatureOf?
  split
  · split
    · refine .some (persists_bindType (σ := σ) ?_ ?_)
      · apply persists_onSome (r.closed.primitive "any")
        intro ascription hascription
        exact persists_ascribedType hask (by omega) (r.field hn hascription) henv
      · intro t ht
        exact persists_ok (r.closed.optionalMember n ht) (by simp)
    · exact .none
  · split
    · refine .some (persists_bind (persists_returnType hask (by omega) hn henv) ?_)
      intro returns hreturns
      exact persists_ok (r.closed.optionalMember n (r.closed.function_iff.mpr hreturns)) (by simp)
    · exact .none
  · exact .none

theorem persists_signatureMember (hask : ask.Persist r q σ floor ask') (hdepth : floor ≤ depth)
    (hn : r.node n) (henv : env.All r.type) :
    PersistsFound r q σ (signatureMember ask n name env depth)
      (signatureMember ask' n name (env.renumber σ) depth) := by
  have hdeclared : Option.Rel (PersistsType r q σ)
      (n.constructs.findSome? (signatureOf? ask name env depth))
      (n.constructs.findSome? (signatureOf? ask' name (env.renumber σ) depth)) :=
    persists_findSome? fun item hitem =>
      persists_signatureOf? hask hdepth (r.construct hn hitem) henv
  unfold signatureMember
  generalize n.constructs.findSome? (signatureOf? ask name env depth) = question,
    n.constructs.findSome? (signatureOf? ask' name (env.renumber σ) depth) = question' at hdeclared
  cases hdeclared with
  | some h => exact persists_some h
  | none =>
      apply persists_onSome r.found_none
      intro ascription hascription
      apply persists_some
      exact persists_ascribedType hask (by omega) (r.indexAscription hn hascription) henv

theorem persists_interfaceMember (hask : ask.Persist r q σ floor ask') (hdepth : floor ≤ depth)
    (hn : r.node n) (henv : env.All r.type) :
    PersistsFound r q σ (interfaceMember ask n name env depth)
      (interfaceMember ask' n name (env.renumber σ) depth) := by
  refine persists_bindFound (σ := σ) ?_ ?_
  · apply persists_onSome r.found_none
    intro body hbody
    exact persists_signatureMember hask hdepth (r.field hn hbody) henv
  · intro own hown
    cases own with
    | some t => exact .ok hown
    | none =>
        apply persists_firstSome
        intro base hbase
        obtain ⟨clause, hclause, hbase⟩ := List.mem_flatMap.mp hbase
        have hclause := r.construct hn (List.mem_of_mem_filter hclause)
        apply persists_bind (hask.denoted (by omega) (r.construct hclause hbase) henv)
        intro t ht
        exact hask.member (by omega) ht

theorem persists_entryMember (hask : ask.Persist r q σ floor ask') (hdepth : floor ≤ depth)
    (hn : r.node n) :
    PersistsFound r q σ (entryMember ask name depth n) (entryMember ask' name depth n) := by
  unfold entryMember
  split
  · split
    · apply persists_some
      apply persists_onSome r.closed.unseen
      intro value hvalue
      exact hask.expression (by omega) (r.field hn hvalue)
    · exact .ok r.found_none
  · split
    · exact persists_some (hask.expression (by omega) hn)
    · exact .ok r.found_none
  · split
    · exact persists_some (persists_methodMember hask hdepth hn TypeEnv.all_empty)
    · exact .ok r.found_none
  · apply persists_onSome r.found_none
    intro spread hspread
    apply persists_bind (hask.expression (by omega) (r.firstConstruct hn hspread))
    intro t ht
    exact hask.member (by omega) ht
  · exact .ok r.found_none

theorem persists_objectMember (hask : ask.Persist r q σ floor ask') (hdepth : floor ≤ depth)
    (hn : r.node n) :
    PersistsFound r q σ (objectMember ask n name depth) (objectMember ask' n name depth) := by
  apply persists_firstSome
  intro item hitem
  exact persists_entryMember hask hdepth (r.construct hn (List.mem_reverse.mp hitem))

theorem persists_parameterProperty (hask : ask.Persist r q σ floor ask') (hdepth : floor ≤ depth)
    (hn : r.node n) (henv : env.All r.type) :
    PersistsFound r q σ (parameterProperty ask n name env depth)
      (parameterProperty ask' n name (env.renumber σ) depth) := by
  apply persists_onSome r.found_none
  intro parameter hparameter
  have hparameter := r.constructsOf (fun _ => r.field hn) (List.mem_of_find?_eq_some hparameter)
  refine persists_bindType (σ := σ) ?_ ?_
  · apply persists_onSome r.closed.unseen
    intro ascription hascription
    exact persists_ascribedType hask (by omega) (r.field hparameter hascription) henv
  · intro declared hdeclared
    split
    · exact persists_ok (Program.Realm.found_some.mpr (r.closed.orUndefined hdeclared)) (by simp)
    · exact persists_ok (Program.Realm.found_some.mpr hdeclared) (by simp)

theorem persists_fieldMember (hask : ask.Persist r q σ floor ask') (hdepth : floor ≤ depth)
    (hn : r.node n) (henv : env.All r.type) :
    PersistsType r q σ (fieldMember ask n env depth)
      (fieldMember ask' n (env.renumber σ) depth) := by
  have hoptional : ∀ t, r.type t → PersistsType r q σ (pure (optionalMember n t))
      (pure (optionalMember n (t.renumber σ))) :=
    fun t ht => persists_ok (r.closed.optionalMember n ht) (by simp)
  unfold fieldMember
  dsimp only
  split
  next hascription =>
    exact persists_bind
      (persists_ascribedType hask (by omega) (r.field hn hascription) henv) hoptional
  next hvalue => exact persists_bind (hask.expression (by omega) (r.field hn hvalue)) hoptional
  next => exact hoptional _ r.closed.unseen

theorem persists_classItem (hask : ask.Persist r q σ floor ask') (hdepth : floor ≤ depth)
    (hn : r.node n) (henv : env.All r.type) :
    PersistsFound r q σ (classItem ask name env depth n)
      (classItem ask' name (env.renumber σ) depth n) := by
  have hmethod : PersistsFound r q σ
      (if memberName? n = some name ∧ ¬ n.hasToken "set" then do
        let t ← methodMember ask n env depth
        pure (some t)
      else pure none)
      (if memberName? n = some name ∧ ¬ n.hasToken "set" then do
        let t ← methodMember ask' n (env.renumber σ) depth
        pure (some t)
      else pure none) := by
    split
    · exact persists_some (persists_methodMember hask hdepth hn henv)
    · exact .ok r.found_none
  unfold classItem
  dsimp only
  split
  · exact .ok r.found_none
  · split
    · split
      · exact persists_some (persists_fieldMember hask hdepth hn henv)
      · exact .ok r.found_none
    · split
      · exact persists_parameterProperty hask hdepth hn henv
      · exact hmethod
    · exact hmethod
    · exact hmethod
    · exact .ok r.found_none

theorem persists_classMember (hq : r.Kept q σ) (hask : ask.Persist r q σ floor ask')
    (hdepth : floor ≤ depth) (hn : r.node n) (henv : env.All r.type) :
    PersistsFound r q σ (classMember p ask n name env depth)
      (classMember q ask' n name (env.renumber σ) depth) := by
  apply persists_onSome r.found_none
  intro body hbody
  refine persists_bindFound (σ := σ) (persists_firstSome ?_) ?_
  · intro item hitem
    exact persists_classItem hask hdepth (r.construct (r.field hn hbody) hitem) henv
  · intro own hown
    cases own with
    | some t => exact .ok hown
    | none =>
        apply persists_onSome r.found_none
        intro clause hclause
        have hclause := r.extendsClause hn hclause
        apply persists_onSome r.found_none
        intro value hvalue
        apply persists_bind (persists_instanceType hq hask (by omega) (r.field hclause hvalue)
          fun _ => r.field hclause)
        intro base hbase
        exact hask.member (by omega) hbase

theorem persists_shapeMember (hq : r.Kept q σ) (hask : ask.Persist r q σ floor ask')
    (hdepth : floor ≤ depth) {id : ShapeId} {label : String}
    {bindings : List (String × StaticType)} (hshape : r.type (.shape id label bindings)) :
    PersistsFound r q σ (shapeMember p ask id bindings name depth)
      (shapeMember q ask' (id.renumber σ) (renumberBindings σ bindings) name depth) := by
  have hdeclaration := hq.declaration hshape
  unfold Program.declaration? at hdeclaration
  unfold shapeMember
  rw [hdeclaration]
  apply persists_onSome r.found_none
  intro node hnode
  have hnode := r.declaration hnode
  have henv : TypeEnv.All r.type ⟨bindings, []⟩ := r.closed.bindings hshape
  dsimp only
  split
  · exact persists_signatureMember hask hdepth hnode henv
  · exact persists_interfaceMember hask hdepth hnode henv
  · exact persists_objectMember hask hdepth hnode
  · exact persists_classMember hq hask hdepth hnode henv

theorem persists_utilityMember (hask : ask.Persist r q σ floor ask') (hdepth : floor < depth)
    {utility : String} {arguments : List StaticType} (harguments : ∀ t ∈ arguments, r.type t) :
    PersistsFound r q σ (utilityMember ask utility arguments name depth)
      (utilityMember ask' utility (arguments.map (renumber σ)) name depth) := by
  have hmapped : ∀ (inner : StaticType) (f : StaticType → StaticType), r.type inner →
      (∀ t, r.type t → r.type (f t)) → (∀ t, renumber σ (f t) = f (renumber σ t)) →
      PersistsFound r q σ (do let t ← ask.member inner name depth; pure (t.map f))
        (do let t ← ask'.member (inner.renumber σ) name depth; pure (t.map f)) := by
    intro inner f hinner hf hsame
    apply persists_bind (hask.member hdepth hinner)
    intro found hfound
    cases found with
    | none => exact .ok r.found_none
    | some t =>
        have hmember := Program.Realm.found_some.mpr (hf t (hfound t rfl))
        exact persists_ok hmember (by simp [hsame])
  unfold utilityMember
  split
  · exact .ok (Program.Realm.found_some.mpr (harguments _ (by simp)))
  · exact hmapped _ _ (harguments _ (by simp)) (fun t => r.closed.orUndefined) renumber_orUndefined
  · exact hmapped _ _ (harguments _ (by simp)) (fun t => r.closed.withoutUndefined)
      renumber_withoutUndefined
  · exact hask.member hdepth (harguments _ (by simp))
  next hrecord hpartial hrequired hreadonly =>
    -- The renumbered arguments are as many, so no other case applies to them either.
    clear hmapped hask
    split
    next heq =>
      obtain ⟨key, rest, rfl, -, hrest⟩ := List.map_eq_cons_iff.mp heq
      obtain ⟨value, rfl, -⟩ := List.map_eq_singleton_iff.mp hrest
      exact (hrecord key value rfl rfl).elim
    next heq =>
      obtain ⟨inner, rfl, -⟩ := List.map_eq_singleton_iff.mp heq
      exact (hpartial inner rfl rfl).elim
    next heq =>
      obtain ⟨inner, rfl, -⟩ := List.map_eq_singleton_iff.mp heq
      exact (hrequired inner rfl rfl).elim
    next heq =>
      obtain ⟨inner, rfl, -⟩ := List.map_eq_singleton_iff.mp heq
      exact (hreadonly inner rfl rfl).elim
    next => exact .ok r.found_none

theorem persists_memberOf (hq : r.Kept q σ) (hask : ask.Persist r q σ floor ask')
    (hdepth : floor ≤ depth) (ht : r.type t) :
    PersistsFound r q σ (memberOf p ask name depth t)
      (memberOf q ask' name depth (t.renumber σ)) := by
  cases t with
  | primitive name =>
      rw [renumber_primitive]
      unfold memberOf
      split
      · exact .ok (Program.Realm.found_some.mpr (r.closed.primitive "any"))
      next hshape => cases hshape
      next hreference => cases hreference
      · exact .ok r.found_none
  | shape id label bindings => exact persists_shapeMember hq hask (by omega) ht
  | reference utility arguments =>
      rw [renumber_reference]
      exact persists_utilityMember hask (by omega) (r.closed.reference_iff.mp ht)
  | _ => exact .ok r.found_none

theorem persists_memberTypes (hq : r.Kept q σ) (hask : ask.Persist r q σ floor ask')
    (hdepth : floor ≤ depth) {ms : List StaticType} (hms : ∀ m ∈ ms, r.type m) :
    Persists r q (Option.map (List.map (renumber σ)))
      (fun found => ∀ ts ∈ found, ∀ t ∈ ts, r.type t)
      (memberTypes p ask name depth ms) (memberTypes q ask' name depth (ms.map (renumber σ))) := by
  induction ms with
  | nil => exact .ok (by simp)
  | cons m ms ih =>
      obtain ⟨hm, hms⟩ := List.forall_mem_cons.mp hms
      rw [List.map_cons, memberTypes, memberTypes, isNullish_renumber]
      split
      · exact ih hms
      · apply persists_bind (persists_memberOf hq hask hdepth hm)
        intro found hfound
        cases found with
        | none => exact .ok (by simp)
        | some t =>
            apply persists_bind (ih hms)
            intro rest hrest
            cases rest with
            | none => exact .ok (by simp)
            | some ts =>
                have hall := List.forall_mem_cons.mpr ⟨hfound t rfl, hrest ts rfl⟩
                exact .ok (by simpa using hall)

theorem persists_memberRule (hq : r.Kept q σ)
    (hask : depth ≤ maxDepth → ask.Persist r q σ depth ask') (ht : r.type t) :
    PersistsFound r q σ (memberRule p ask t name depth)
      (memberRule q ask' (t.renumber σ) name depth) := by
  unfold memberRule
  split
  · exact .ok (Program.Realm.found_some.mpr r.closed.unseen)
  next hlimit =>
    rw [members_renumber]
    apply persists_bind (persists_memberTypes hq (hask (by omega)) (Nat.le_refl depth)
      fun m hm => r.closed.member ht hm)
    intro found hfound
    match found with
    | none => exact .ok r.found_none
    | some [] => exact .ok r.found_none
    | some (u :: us) =>
        exact persists_ok (Program.Realm.found_some.mpr (r.closed.join (hfound _ rfl))) (by simp)

theorem persists_propertyType (hask : ask.Persist r q σ floor ask') (hdepth : floor < depth)
    (ht : r.type t) :
    PersistsType r q σ (propertyType ask t name depth)
      (propertyType ask' (t.renumber σ) name depth) := by
  apply persists_bind (hask.member hdepth ht)
  intro found hfound
  exact persists_ok (Program.Realm.found_getD hfound) (by simp)

/-! ## Patterns -/

theorem persists_withDefault (hask : ask.Persist r q σ floor ask') (hdepth : floor ≤ depth)
    (ht : r.type t) {default : Option Node} (hdefault : ∀ m ∈ default, r.node m) :
    PersistsType r q σ (withDefault ask t default depth)
      (withDefault ask' (t.renumber σ) default depth) := by
  apply persists_onSome ht
  intro value hvalue
  apply persists_bind (hask.expression (by omega) (hdefault value hvalue))
  intro u hu
  exact persists_ok (r.closed.join_pair (r.closed.withoutUndefined ht) hu) (by simp)

theorem persists_objectEntry (hask : ask.Persist r q σ floor ask') (hdepth : floor ≤ depth)
    (hn : r.node n) (ht : r.type t) :
    PersistsFound r q σ (objectEntry ask t name depth n)
      (objectEntry ask' (t.renumber σ) name depth n) := by
  unfold objectEntry
  split
  · exact persists_some (persists_propertyType hask (by omega) ht)
  · refine persists_bindType (σ := σ) ?_ ?_
    · apply persists_onSome r.closed.unseen
      intro key _
      exact persists_propertyType hask (by omega) ht
    · intro u hu
      apply persists_onSome r.found_none
      intro value hvalue
      exact hask.pattern (by omega) (r.field hn hvalue) hu
  · apply persists_onSome r.found_none
    intro left hleft
    have hleft := r.field hn hleft
    dsimp only
    split
    · apply persists_bind (persists_propertyType hask (by omega) ht)
      intro declared hdeclared
      exact persists_some (persists_withDefault hask hdepth hdeclared fun _ => r.field hn)
    · refine persists_bindType (σ := σ) (.ok r.closed.unseen) ?_
      intro declared hdeclared
      apply persists_bind (persists_withDefault hask hdepth hdeclared fun _ => r.field hn)
      intro u hu
      exact hask.pattern (by omega) hleft hu
  · exact .ok (Program.Realm.found_some.mpr r.closed.unseen)

theorem persists_patternRule (hask : depth ≤ maxDepth → ask.Persist r q σ depth ask')
    (hn : r.node n) (ht : r.type t) :
    PersistsFound r q σ (patternRule ask n t name depth)
      (patternRule ask' n (t.renumber σ) name depth) := by
  unfold patternRule
  split
  · exact .ok (Program.Realm.found_some.mpr r.closed.unseen)
  next hlimit =>
    have hask := hask (by omega)
    split
    · split
      · exact .ok (Program.Realm.found_some.mpr ht)
      · exact .ok r.found_none
    · apply persists_onSome r.found_none
      intro item hitem
      exact persists_objectEntry hask (by omega) (r.construct hn (List.mem_of_find?_eq_some hitem))
        ht
    · apply persists_onSome r.found_none
      rintro ⟨position, item⟩ hslot
      have hitem : r.node item :=
        r.arraySlot (fun _ => r.child hn) (List.mem_of_find?_eq_some hslot)
      dsimp only
      split
      · exact .ok (Program.Realm.found_some.mpr r.closed.unseen)
      · rw [← renumber_elementType]
        exact hask.pattern (by omega) hitem (r.closed.elementType _ ht)
    · apply persists_onSome r.found_none
      intro left hleft
      apply persists_bind (persists_withDefault hask (by omega) ht fun _ => r.field hn)
      intro u hu
      exact hask.pattern (by omega) (r.field hn hleft) hu
    · exact .ok r.found_none

/-! ## Expressions -/

theorem persists_fieldType (hask : ask.Persist r q σ floor ask') (hdepth : floor ≤ depth)
    (hn : r.node n) (field : String) :
    PersistsType r q σ (fieldType ask n field depth) (fieldType ask' n field depth) := by
  apply persists_onSome r.closed.unseen
  intro child hchild
  exact hask.expression (by omega) (r.field hn hchild)

theorem persists_contextualType (hask : ask.Persist r q σ floor ask') (hdepth : floor ≤ depth)
    (hn : r.node n) :
    PersistsType r q σ (contextualType ask n depth) (contextualType ask' n depth) := by
  unfold contextualType
  split
  next receiver hreceiver =>
    apply persists_bind (hask.expression (by omega) (r.callbackReceiver hn hreceiver))
    intro iterated hiterated
    exact persists_ok (r.closed.elementType none hiterated) (by simp)
  next => exact .ok (r.closed.primitive "number")
  next => exact .ok r.closed.unseen

theorem persists_parameterType (hask : ask.Persist r q σ floor ask') (hdepth : floor ≤ depth)
    (hn : r.node n) (optional : Bool) :
    PersistsType r q σ (parameterType ask n optional depth)
      (parameterType ask' n optional depth) := by
  unfold parameterType
  split
  · exact persists_contextualType hask hdepth hn
  · have hoptional : ∀ t, r.type t → PersistsType r q σ
        (pure (if optional && (n.field? "value").isNone then t.orUndefined else t))
        (pure (if optional && (n.field? "value").isNone then (t.renumber σ).orUndefined
          else t.renumber σ)) := by
      intro t ht
      split
      · exact persists_ok (r.closed.orUndefined ht) (by simp)
      · exact .ok ht
    dsimp only
    split
    next hascription =>
      exact persists_bind
        (persists_ascribedType hask (by omega) (r.field hn hascription) TypeEnv.all_empty) hoptional
    next hvalue => exact persists_bind (hask.expression (by omega) (r.field hn hvalue)) hoptional
    next => exact persists_bind (persists_contextualType hask hdepth hn) hoptional

theorem persists_ownerType (hask : ask.Persist r q σ floor ask') (hdepth : floor ≤ depth)
    (hn : r.node n) :
    PersistsType r q σ (ownerType ask n depth) (ownerType ask' n depth) := by
  unfold ownerType
  split
  · split
    next hascription =>
      exact persists_ascribedType hask (by omega) (r.field hn hascription) TypeEnv.all_empty
    next hvalue => exact hask.expression (by omega) (r.field hn hvalue)
    next => exact .ok r.closed.unseen
  · exact persists_parameterType hask hdepth hn false
  · exact persists_parameterType hask hdepth hn true
  · apply persists_bind (persists_fieldType hask hdepth hn "right")
    intro iterated hiterated
    exact persists_ok (r.closed.elementType none hiterated) (by simp)
  · exact .ok r.closed.unseen

theorem persists_bindingType (hask : ask.Persist r q σ floor ask') (hdepth : floor ≤ depth)
    {b : Binding} (hb : b.Inside r.node) :
    PersistsType r q σ (bindingType ask b name depth) (bindingType ask' b name depth) := by
  cases b with
  | declarator node => exact persists_ownerType hask hdepth hb
  | parameter node optional => exact persists_parameterType hask hdepth hb optional
  | destructured owner pattern =>
      apply persists_bind (persists_ownerType hask hdepth hb.1)
      intro source hsource
      apply persists_bind (hask.pattern (by omega) hb.2 hsource)
      intro found hfound
      exact persists_ok (Program.Realm.found_getD hfound) (by simp)
  | loopVariable statement => exact persists_ownerType hask hdepth hb
  | function node => exact persists_function hask hdepth hb TypeEnv.all_empty
  | classValue node => exact .ok r.closed.unseen
  | imported source name => exact .ok r.closed.unseen
  | untyped => exact .ok r.closed.unseen

/-- The one rule that misses names, and the one that asks for globals. -/
theorem persists_identifierType (hq : r.Kept q σ) (hask : ask.Persist r q σ floor ask')
    (hdepth : floor ≤ depth) (hn : r.node n)
    (hkind : n.kind = "identifier" ∨ n.kind = "shorthand_property_identifier")
    (htext : n.text ≠ "undefined") :
    PersistsType r q σ (identifierType p ask n depth) (identifierType q ask' n depth) := by
  unfold identifierType
  rw [hq.value hn]
  split
  next binding hbinding =>
    exact persists_bindingType hask (by omega) (r.resolveValue hn hbinding)
  next hnone =>
    split
    next hambient =>
      rw [if_pos (hq.ambient hambient)]
      exact .ok r.closed.unseen
    next hambient =>
      refine .error hn ⟨hkind, htext, hnone, by simpa using hambient⟩ ?_
      intro hmissing
      rw [hmissing]
      rfl

theorem persists_thisType (hq : r.Kept q σ) (hask : ask.Persist r q σ floor ask')
    (hdepth : floor ≤ depth) {scopes : List Node} (hscopes : ∀ m ∈ scopes, r.node m) :
    PersistsType r q σ (thisType p ask depth scopes) (thisType q ask' depth scopes) := by
  induction scopes with
  | nil => exact .ok r.closed.unseen
  | cons scope outer ih =>
      obtain ⟨hscope, houter⟩ := List.forall_mem_cons.mp hscopes
      have hmember : PersistsType r q σ
          (if scope.hasToken "static" then .ok .unseen else thisType p ask depth outer)
          (if scope.hasToken "static" then .ok .unseen else thisType q ask' depth outer) := by
        split
        · exact .ok r.closed.unseen
        · exact ih houter
      unfold thisType
      split
      · exact hmember
      · exact hmember
      · apply persists_onSome r.closed.unseen
        intro node hnode
        exact persists_declaredType hq hask hdepth (r.parent hscope hnode) (by simp)
      iterate 7
        · exact .ok r.closed.unseen
      · exact ih houter

theorem persists_arrayLiteralType (hask : ask.Persist r q σ floor ask') (hdepth : floor ≤ depth)
    (hn : r.node n) :
    PersistsType r q σ (arrayLiteralType ask n depth) (arrayLiteralType ask' n depth) := by
  unfold arrayLiteralType
  dsimp only
  split
  · exact .ok (r.closed.array_iff.mpr r.closed.unseen)
  · apply persists_bind (persists_mapAll fun e he => hask.expression (by omega) (r.construct hn he))
    intro ts hts
    exact persists_ok (r.closed.array_iff.mpr (r.closed.join hts)) (by simp)

theorem persists_fallbackType (hask : ask.Persist r q σ floor ask') (hdepth : floor ≤ depth)
    (hn : r.node n) :
    PersistsType r q σ (fallbackType ask n depth) (fallbackType ask' n depth) := by
  refine persists_bindType (σ := σ) ?_ ?_
  · apply persists_onSome r.closed.unseen
    intro left hleft
    apply persists_bind (hask.expression (by omega) (r.field hn hleft))
    intro t ht
    exact persists_ok (r.closed.withoutNullish ht) (by simp)
  · intro left hleft
    apply persists_bind (persists_fieldType hask hdepth hn "right")
    intro right hright
    exact persists_ok (r.closed.join_pair hleft hright) (by simp)

theorem persists_subscriptType (hask : ask.Persist r q σ floor ask') (hdepth : floor ≤ depth)
    (hn : r.node n) :
    PersistsType r q σ (subscriptType ask n depth) (subscriptType ask' n depth) := by
  apply persists_bind (persists_fieldType hask hdepth hn "object")
  intro object hobject
  have hchain : ∀ t, r.type t → PersistsType r q σ (pure (continueChain n t))
      (pure (continueChain n (t.renumber σ))) :=
    fun t ht => persists_ok (r.closed.continueChain n ht) (by simp)
  dsimp only
  split
  · exact persists_bind (persists_propertyType hask (by omega) hobject) hchain
  · exact persists_bindType (persists_ok (r.closed.elementType _ hobject) (by simp)) hchain

theorem persists_expressionRule (hq : r.Kept q σ)
    (hask : depth ≤ maxDepth → ask.Persist r q σ depth ask') (hn : r.node n) :
    PersistsType r q σ (expressionRule p ask n depth) (expressionRule q ask' n depth) := by
  unfold expressionRule
  dsimp only
  split
  · exact .ok r.closed.unseen
  next hlimit =>
    have hask := hask (by omega)
    have hinner : ∀ inner, n.firstConstruct? = some inner →
        PersistsType r q σ (ask.expression inner (depth + 1))
          (ask'.expression inner (depth + 1)) :=
      fun inner h => hask.expression (by omega) (r.firstConstruct hn h)
    have hname : (n.kind = "identifier" ∨ n.kind = "shorthand_property_identifier") →
        PersistsType r q σ
          (if n.text == "undefined" then .ok .undefined else identifierType p ask n depth)
          (if n.text == "undefined" then .ok .undefined else identifierType q ask' n depth) := by
      intro hkind
      split
      · exact .ok r.closed.undefined
      next htext => exact persists_identifierType hq hask (by omega) hn hkind (by simpa using htext)
    have hfunction := persists_function hask (Nat.le_refl depth) hn TypeEnv.all_empty
    have hprimitive : ∀ name, PersistsType r q σ (.ok (.primitive name)) (.ok (.primitive name)) :=
      fun name => .ok (r.closed.primitive name)
    split
    · exact .ok r.closed.null
    · exact .ok r.closed.undefined
    next hkind => exact hname (.inl hkind)
    next hkind => exact hname (.inr hkind)
    · exact persists_thisType hq hask (by omega) fun _ => r.ancestors hn
    · exact hprimitive "string"
    · exact hprimitive "string"
    · exact hprimitive "number"
    · exact hprimitive "boolean"
    · exact hprimitive "boolean"
    · exact .ok (r.closed.reference_iff.mpr (by simp))
    · exact persists_arrayLiteralType hask (by omega) hn
    · exact persists_ok (r.shapeOf hn _ TypeEnv.all_empty) (hq.shapeOf hn _ .empty)
    · exact hfunction
    · exact hfunction
    · exact hfunction
    · exact persists_onSome r.closed.unseen hinner
    · exact persists_onSome r.closed.unseen hinner
    · apply persists_onSome r.closed.unseen
      intro inner h
      apply persists_bind (hinner inner h)
      intro t ht
      exact persists_ok (r.closed.withoutNullish ht) (by simp)
    · apply persists_onSome r.closed.unseen
      intro inner h
      apply persists_bind (hinner inner h)
      intro t ht
      exact persists_ok (r.closed.awaited ht) (by simp)
    · split
      next hconstructs =>
        exact hask.denoted (by omega) (r.construct hn (by simp [hconstructs])) TypeEnv.all_empty
      next hconstructs =>
        exact hask.expression (by omega) (r.construct hn (by simp [hconstructs]))
      next => exact .ok r.closed.unseen
    · exact persists_fieldType hask (by omega) hn "right"
    · refine persists_bind (persists_mapTypes (σ := σ) ?_) ?_
      · intro branch hbranch
        rcases List.mem_append.mp hbranch with h | h
        · exact hask.expression (by omega) (r.field hn (Option.mem_toList.mp h))
        · exact hask.expression (by omega) (r.field hn (Option.mem_toList.mp h))
      · intro ts hts
        exact persists_ok (r.closed.join hts) (by simp)
    · split
      · exact persists_fallbackType hask (by omega) hn
      · exact persists_fallbackType hask (by omega) hn
      · exact .ok r.closed.unseen
    · split
      · exact hprimitive "string"
      · exact hprimitive "boolean"
      · exact hprimitive "boolean"
      · exact .ok r.closed.undefined
      · exact hprimitive "number"
      · exact hprimitive "number"
      · exact hprimitive "number"
      · exact .ok r.closed.unseen
    · apply persists_bind (persists_fieldType hask (by omega) hn "object")
      intro object hobject
      refine persists_bindType (σ := σ) ?_ ?_
      · apply persists_onSome r.closed.unseen
        intro property _
        exact persists_propertyType hask (by omega) hobject
      · intro t ht
        exact persists_ok (r.closed.continueChain n ht) (by simp)
    · exact persists_subscriptType hask (by omega) hn
    · refine persists_bindType (σ := σ) ?_ ?_
      · apply persists_onSome r.closed.unseen
        intro callee hcallee
        have hcallee := r.field hn (Option.filter_eq_some_iff.mp hcallee).1
        apply persists_bind (hask.expression (by omega) hcallee)
        intro t ht
        exact persists_ok (r.closed.callResult ht) (by simp)
      · intro t ht
        exact persists_ok (r.closed.continueChain n ht) (by simp)
    · apply persists_onSome r.closed.unseen
      intro constructor hconstructor
      exact persists_instanceType hq hask (by omega) (r.field hn hconstructor) fun _ => r.field hn
    · exact .ok r.closed.unseen

end Checker

/-! ## All answers -/

/-- Questions about a realm that a second program keeps are answered, and the answers
persist, as soon as both allowances reach the depth limit. -/
theorem Answers.persist_within {p q : Program} {r : p.Realm} {σ : Nat ↪ Nat} (hq : r.Kept q σ)
    {allowance allowance' floor : Nat} (henough : Checker.maxDepth + 1 ≤ floor + allowance)
    (henough' : Checker.maxDepth + 1 ≤ floor + allowance') (hpos : 0 < allowance)
    (hpos' : 0 < allowance') :
    (within p allowance).Persist r q σ floor (within q allowance') := by
  induction allowance generalizing allowance' floor with
  | zero => omega
  | succ allowance ih =>
      cases allowance' with
      | zero => omega
      | succ allowance' =>
          have hdeeper : ∀ depth, floor < depth → depth ≤ Checker.maxDepth →
              (within p allowance).Persist r q σ depth (within q allowance') := by
            intro depth hfloor hlimit
            apply ih <;> omega
          exact
            { expression := fun hdepth hn =>
                Checker.persists_expressionRule hq (hdeeper _ hdepth) hn
              denoted := fun hdepth hn henv =>
                Checker.persists_denotedRule hq (hdeeper _ hdepth) hn henv
              member := fun hdepth ht => Checker.persists_memberRule hq (hdeeper _ hdepth) ht
              pattern := fun hdepth hn ht =>
                Checker.persists_patternRule (hdeeper _ hdepth) hn ht }

end CallMigration
