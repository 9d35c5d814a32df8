import CallMigration.Proofs.Checker.Indexed

/-!
# What functions return

A function without an ascription returns what its body does. An expression as the body and a
block that does nothing but return the same expression come to the same type, unless the
function is asynchronous: a promise is made of what a block returns, and of an expression body
none is.
-/

namespace CallMigration

open StaticType Outcome Checker

namespace Checker

variable {p q : Program} {ask : Answers} {function body block value : Node} {env env' : TypeEnv}
  {depth : Nat} {t : StaticType}

/-! ## Blocks -/

/-- A block that holds a `return` of a value and no other statement. -/
structure ReturnBlock (block value : Node) : Prop where
  kind : block.kind = "statement_block"
  only : ∃ stmt, block.constructs = [stmt] ∧ stmt.kind = "return_statement" ∧
    stmt.firstConstruct? = some value

/-- All that such a block returns is the value. -/
theorem ReturnBlock.returnedTypes (hblock : ReturnBlock block value) (ask : Answers)
    (depth : Nat) :
    mapAll (returnedType ask depth) (returnStatements block) =
      (do let t ← ask.expression value depth; pure [t]) := by
  obtain ⟨stmt, hconstructs, hkind, hvalue⟩ := hblock.only
  have hstatements : returnStatements block = [stmt] := by
    rw [returnStatements_eq, hconstructs]
    simp [hkind]
  rw [hstatements, mapAll, returnedType, hvalue, onSome]
  rfl

/-! ## Bodies -/

/-- A function that does not say what it returns. -/
structure Unascribed (function body : Node) : Prop where
  body : function.field? "body" = some body
  ascription : function.field? "return_type" = none

/-- What is made of the type that the body of a function returns. -/
def promised (function : Node) (t : StaticType) : StaticType :=
  if function.hasToken "async" then .reference "Promise" [t] else t

/-- A type is not a promise of itself. -/
theorem promised_eq_self_iff : promised function t = t ↔ function.hasToken "async" = false := by
  unfold promised
  split
  next hasync =>
    refine iff_of_false ?_ (by simp [hasync])
    intro heq
    have hsize := congrArg sizeOf heq
    simp at hsize
    omega
  next hplain => simpa using hplain

theorem returnType_of_unascribed (hfunction : Unascribed function body) :
    returnType ask function env depth = inferredReturnType ask function depth := by
  rw [returnType, hfunction.ascription]

/-- A body that is an expression is asked for its type, and nothing is made of it. -/
theorem returnType_of_expression (hfunction : Unascribed function body)
    (hbody : body.kind ≠ "statement_block") :
    returnType ask function env depth = ask.expression body (depth + inferenceCost) := by
  rw [returnType_of_unascribed hfunction, inferredReturnType, hfunction.body]
  simp only [onSome, if_pos hbody]

/-- Of what a block returns the promise is made, if there is to be one. -/
theorem inferredReturnType_of_block (hfunction : function.field? "body" = some body)
    (hbody : body.kind = "statement_block") (hplain : function.hasToken "*" = false) :
    inferredReturnType ask function depth = (do
      let returned ← mapAll (returnedType ask (depth + inferenceCost)) (returnStatements body)
      pure (promised function
        (if returned.isEmpty then .primitive "void" else join returned))) := by
  rw [inferredReturnType, hfunction]
  simp only [onSome, hbody, ne_eq, not_true_eq_false, if_false, hplain, Bool.false_eq_true]
  rfl

theorem returnType_of_block (hfunction : Unascribed function body)
    (hbody : body.kind = "statement_block") (hplain : function.hasToken "*" = false) :
    returnType ask function env depth = (do
      let returned ← mapAll (returnedType ask (depth + inferenceCost)) (returnStatements body)
      pure (promised function
        (if returned.isEmpty then .primitive "void" else join returned))) := by
  rw [returnType_of_unascribed hfunction, inferredReturnType_of_block hfunction.body hbody hplain]

/-- The types of expressions are normal. -/
theorem normal_of_expression {n : Node} (hanswer : p.answers.expression n (depth + 1) = .ok t) :
    t.Normal := by
  have hn : (Program.Realm.whole p).node n := trivial
  have houtcome := (p.persist_answers_whole depth).expression (Nat.lt_succ_self depth) hn
  rw [hanswer] at houtcome
  exact houtcome.of_ok

theorem returnType_of_returnBlock (hfunction : Unascribed function block)
    (hblock : ReturnBlock block value) (hplain : function.hasToken "*" = false) :
    returnType p.answers function env depth =
      promised function <$> p.answers.expression value (depth + inferenceCost) := by
  rw [returnType_of_block hfunction hblock.kind hplain, hblock.returnedTypes]
  cases hanswer : p.answers.expression value (depth + inferenceCost) with
  | ok t =>
      -- The union of one type is the type, for the types of expressions are normal.
      change Outcome.ok (promised function (join [t])) = .ok (promised function t)
      rw [join_singleton (normal_of_expression hanswer)]
  | error e => rfl
  | exhausted => rfl

/-! ## The two forms of an arrow function -/

/-- Two arrow functions that differ in the form of their bodies: the first has `value` for its
body, the second a block that returns `returned`. -/
structure BodyForms (concise value blocked returned : Node) : Prop where
  arrow : concise.kind = "arrow_function" ∧ blocked.kind = "arrow_function"
  sameAsync : blocked.hasToken "async" = concise.hasToken "async"
  /-- No arrow function is a generator. -/
  plain : blocked.hasToken "*" = false
  expression : Unascribed concise value ∧ value.kind ≠ "statement_block"
  block : ∃ block, Unascribed blocked block ∧ ReturnBlock block returned

/-- When an expression has one type as the body of an arrow function and in the block of the
other form, then the first returns that type and the second returns it too, or a promise of it
when the functions are asynchronous. So the two agree exactly when they are not asynchronous or
the expression has no type. With a block, asynchronous functions of every kind return promises. -/
theorem returnType_concise_block {concise value blocked returned : Node}
    (hforms : BodyForms concise value blocked returned) (env env' : TypeEnv) (depth : Nat)
    (hsame : q.answers.expression returned (depth + inferenceCost) =
      p.answers.expression value (depth + inferenceCost)) :
    let outcome := p.answers.expression value (depth + inferenceCost)
    returnType p.answers concise env depth = outcome ∧
      returnType q.answers blocked env' depth = promised concise <$> outcome ∧
      (returnType q.answers blocked env' depth = returnType p.answers concise env depth ↔
        concise.hasToken "async" = false ∨ ∀ t, outcome ≠ .ok t) ∧
      ∀ {function body t}, Unascribed function body → body.kind = "statement_block" →
        function.hasToken "*" = false → function.hasToken "async" = true →
        returnType q.answers function env' depth = .ok t → ∃ u, t = .reference "Promise" [u] := by
  intro outcome
  obtain ⟨block, hblocked, hblock⟩ := hforms.block
  have hconcise : returnType p.answers concise env depth = outcome :=
    returnType_of_expression hforms.expression.1 hforms.expression.2
  have hpromised : returnType q.answers blocked env' depth = promised concise <$> outcome := by
    have hfunctions : promised concise = promised blocked := by
      funext t
      rw [promised, promised, hforms.sameAsync]
    rw [returnType_of_returnBlock hblocked hblock hforms.plain, hsame, hfunctions]
  refine ⟨hconcise, hpromised, ?_, ?_⟩
  · rw [hpromised, hconcise]
    cases outcome with
    | ok t =>
        change Outcome.ok (promised concise t) = .ok t ↔ _
        simp [promised_eq_self_iff]
    | error e => exact iff_of_true rfl (Or.inr nofun)
    | exhausted => exact iff_of_true rfl (Or.inr nofun)
  · intro function body t hfunction hbody hplain hasync hreturns
    rw [returnType_of_block hfunction hbody hplain] at hreturns
    cases hreturned : mapAll (returnedType q.answers (depth + inferenceCost))
        (returnStatements body) with
    | ok returned =>
        rw [hreturned] at hreturns
        cases hreturns
        exact ⟨_, if_pos hasync⟩
    | error e =>
        rw [hreturned] at hreturns
        cases hreturns
    | exhausted =>
        rw [hreturned] at hreturns
        cases hreturns

namespace Sample

open Program.Sample (construct)

/-- The arrow function that starts at an offset, with its words before the body and the body,
which is `null` or a block of 16 bytes that returns `null`. -/
def arrow (start : Nat) (isAsync isBlock : Bool) : Tree :=
  let word : Tree := .node ⟨"async", false, false, ⟨start, start + 5⟩, []⟩ []
  let parameters := if isAsync then start + 6 else start
  let body := parameters + 6
  let stop := body + if isBlock then 16 else 4
  construct "arrow_function" start stop ["value"]
    ((if isAsync then [word] else []) ++
      [construct "formal_parameters" parameters (parameters + 2) ["parameters"] [],
        if isBlock then
          construct "statement_block" body stop ["body"]
            [construct "return_statement" (body + 2) (body + 14) []
              [construct "null" (body + 9) (body + 13) [] []]]
        else construct "null" body stop ["body"] []])

/-- A program that names an arrow function and calls it. -/
def calling (text : String) (isAsync isBlock : Bool) : Program :=
  let function := arrow 8 isAsync isBlock
  let call := function.span.stop + 2
  let tree := construct "program" 0 (call + 4) []
    [construct "variable_declaration" 0 (call - 1) []
      [construct "variable_declarator" 4 function.span.stop []
        [construct "identifier" 4 5 ["name"] [], function]],
      construct "expression_statement" call (call + 4) []
        [construct "call_expression" call (call + 3) []
          [construct "identifier" call (call + 1) ["function"] [],
            construct "arguments" (call + 1) (call + 3) ["arguments"] []]]]
  ⟨[⟨0, ⟨"a.ts"⟩, text, .typeScript, tree⟩], .standard⟩

def plainConcise : Program := calling "var f = () => null;\nf();" false false

def plainBlocked : Program := calling "var f = () => \x7b return null; \x7d;\nf();" false true

def asyncConcise : Program := calling "var f = async () => null;\nf();" true false

def asyncBlocked : Program := calling "var f = async () => \x7b return null; \x7d;\nf();" true true

/-- The node of the file of a program to which the given positions lead. -/
def nodeOf (p : Program) (positions : List Nat) : Node :=
  nodeIn (p.files.headD default) positions

theorem bodyForms_plain : BodyForms (nodeOf plainConcise [0, 0, 1])
    (nodeOf plainConcise [0, 0, 1, 1]) (nodeOf plainBlocked [0, 0, 1])
    (nodeOf plainBlocked [0, 0, 1, 1, 0, 0]) where
  arrow := ⟨rfl, rfl⟩
  sameAsync := rfl
  plain := rfl
  expression := ⟨⟨rfl, rfl⟩, by decide +kernel⟩
  block := ⟨nodeOf plainBlocked [0, 0, 1, 1], ⟨rfl, rfl⟩, rfl, _, rfl, rfl, rfl⟩

theorem bodyForms_async : BodyForms (nodeOf asyncConcise [0, 0, 1])
    (nodeOf asyncConcise [0, 0, 1, 2]) (nodeOf asyncBlocked [0, 0, 1])
    (nodeOf asyncBlocked [0, 0, 1, 2, 0, 0]) where
  arrow := ⟨rfl, rfl⟩
  sameAsync := rfl
  plain := rfl
  expression := ⟨⟨rfl, rfl⟩, by decide +kernel⟩
  block := ⟨nodeOf asyncBlocked [0, 0, 1, 2], ⟨rfl, rfl⟩, rfl, _, rfl, rfl, rfl⟩

/-- Asked for inside either body, the value is `null`. -/
theorem expression_value :
    plainConcise.answers.expression (nodeOf plainConcise [0, 0, 1, 1]) 4 = .ok .null ∧
      plainBlocked.answers.expression (nodeOf plainBlocked [0, 0, 1, 1, 0, 0]) 4 = .ok .null ∧
      asyncConcise.answers.expression (nodeOf asyncConcise [0, 0, 1, 2]) 4 = .ok .null ∧
      asyncBlocked.answers.expression (nodeOf asyncBlocked [0, 0, 1, 2, 0, 0]) 4 = .ok .null := by
  decide +kernel

end Sample

/-- Without `async` both forms return the value. -/
theorem returnType_concise_block_sample :
    let concise := Sample.nodeOf Sample.plainConcise [0, 0, 1]
    let value := Sample.nodeOf Sample.plainConcise [0, 0, 1, 1]
    let blocked := Sample.nodeOf Sample.plainBlocked [0, 0, 1]
    let returned := Sample.nodeOf Sample.plainBlocked [0, 0, 1, 1, 0, 0]
    BodyForms concise value blocked returned ∧
      Sample.plainBlocked.answers.expression returned 4 =
        Sample.plainConcise.answers.expression value 4 ∧
      returnType Sample.plainConcise.answers concise .empty 0 = .ok .null ∧
      returnType Sample.plainBlocked.answers blocked .empty 0 = .ok .null := by
  intro concise value blocked returned
  obtain ⟨hvalue, hreturned, -, -⟩ := Sample.expression_value
  have hsame : Sample.plainBlocked.answers.expression returned (0 + inferenceCost) =
      Sample.plainConcise.answers.expression value (0 + inferenceCost) :=
    hreturned.trans hvalue.symm
  obtain ⟨hconcise, -, hequal, -⟩ :=
    returnType_concise_block Sample.bodyForms_plain .empty .empty 0 hsame
  have hplain : concise.hasToken "async" = false := rfl
  exact ⟨Sample.bodyForms_plain, hsame, hconcise.trans hvalue,
    (hequal.mpr (.inl hplain)).trans (hconcise.trans hvalue)⟩

/-- An asynchronous arrow function with an expression as its body is taken to return the value
itself, though with a block it returns a promise of it. So a call of the first seems to give
`null` where it gives a promise. -/
theorem returnType_concise_async :
    let concise := Sample.nodeOf Sample.asyncConcise [0, 0, 1]
    let value := Sample.nodeOf Sample.asyncConcise [0, 0, 1, 2]
    let blocked := Sample.nodeOf Sample.asyncBlocked [0, 0, 1]
    let returned := Sample.nodeOf Sample.asyncBlocked [0, 0, 1, 2, 0, 0]
    BodyForms concise value blocked returned ∧ concise.hasToken "async" = true ∧
      Sample.asyncBlocked.answers.expression returned 4 =
        Sample.asyncConcise.answers.expression value 4 ∧
      returnType Sample.asyncConcise.answers concise .empty 0 = .ok .null ∧
      returnType Sample.asyncBlocked.answers blocked .empty 0 =
        .ok (.reference "Promise" [.null]) ∧
      Sample.asyncConcise.typeAt (Sample.nodeOf Sample.asyncConcise [1, 0]) = .ok .null ∧
      Sample.asyncBlocked.typeAt (Sample.nodeOf Sample.asyncBlocked [1, 0]) =
        .ok (.reference "Promise" [.null]) := by
  intro concise value blocked returned
  obtain ⟨-, -, hvalue, hreturned⟩ := Sample.expression_value
  have hconcise : returnType Sample.asyncConcise.answers concise .empty 0 = .ok .null := by
    decide +kernel
  have hblocked : returnType Sample.asyncBlocked.answers blocked .empty 0 =
      .ok (.reference "Promise" [.null]) := by
    decide +kernel
  exact ⟨Sample.bodyForms_async, rfl, hreturned.trans hvalue.symm, hconcise, hblocked,
    by decide +kernel, by decide +kernel⟩

end Checker

end CallMigration
