import CallMigration.Proofs.Checker.Expansion
import CallMigration.Proofs.Scope.Ways

/-!
# Types of destructured names

A pattern gives a name the type that is found by following the first way to it from the type
of the whole value. Every turn but a step into an inner pattern is a question, asked one
deeper than the pattern in which it is met.
-/

namespace CallMigration.Checker

open StaticType Scope

/-! ## Following a way -/

/-- The type after a turn that is met at a depth. -/
def turnType (ask : Answers) (t : StaticType) (depth : Nat) : Turn → Outcome StaticType
  | .property (some key) => propertyType ask t key (depth + 1)
  | .property none => pure .unseen
  | .element position => pure (elementType (some position) t)
  | .default value => do
      let u ← ask.expression value (depth + 1)
      pure (join [t.withoutUndefined, u])
  | .enter => pure t

/-- How much deeper the next turn is met. -/
def turnDepth : Turn → Nat
  | .enter => 1
  | _ => 0

/-- The type at the end of a way. -/
def followWay (ask : Answers) : List Turn → StaticType → (depth : Nat) → Outcome StaticType
  | [], t, _ => pure t
  | turn :: way, t, depth => do
      let u ← turnType ask t depth turn
      followWay ask way u (depth + turnDepth turn)

variable {ask : Answers} {name : String} {n e : Node} {source : StaticType} {depth : Nat}

/-- What a pattern gives a name that it has a way to. -/
def alongWay (ask : Answers) (way : List Turn) (source : StaticType) (depth : Nat) :
    Outcome (Option StaticType) := do
  let t ← followWay ask way source depth
  pure (some t)

theorem alongWay_cons (turn : Turn) (way : List Turn) (t : StaticType) (depth : Nat) :
    alongWay ask (turn :: way) t depth =
      turnType ask t depth turn >>= fun u => alongWay ask way u (depth + turnDepth turn) := by
  change ((turnType ask t depth turn >>= fun u =>
    followWay ask way u (depth + turnDepth turn)) >>= fun u => pure (some u)) = _
  cases turnType ask t depth turn <;> rfl

/-- A default on the way is met before the turns after it. -/
theorem alongWay_defaults (n : Node) (way : List Turn) (t : StaticType) (depth : Nat) :
    alongWay ask (defaults n ++ way) t depth =
      withDefault ask t (n.field? "right") depth >>= fun u => alongWay ask way u depth := by
  unfold withDefault defaults
  cases n.field? "right" with
  | none => rfl
  | some value => exact alongWay_cons (.default value) way t depth

/-! ## Entries and patterns -/

/-- An entry of an object pattern is followed from the type of the whole value. -/
theorem objectEntry_eq {IsInner : Node → Prop} (hentry : IsEntry IsInner e)
    (hinner : ∀ {m way} t, IsInner m → wayTo? name m = some way →
      ask.pattern m t name (depth + 1) = alongWay ask way t (depth + 1))
    {way : List Turn} (hway : wayTo? name e = some way) :
    objectEntry ask source name depth e = alongWay ask way source depth := by
  rw [wayTo?_eq] at hway
  cases hentry with
  | shorthand hkind =>
      simp only [hkind] at hway
      split at hway
      next htext =>
        cases hway
        rw [alongWay_cons, eq_of_beq htext]
        simp only [objectEntry, hkind]
        rfl
      next => cases hway
  | @defaulted left hkind hleft hname =>
      simp only [hkind, hleft, Option.bind_some] at hway
      rw [wayTo?_eq] at hway
      simp only [hname] at hway
      split at hway
      next htext =>
        cases hway
        change _ = alongWay ask (.property (some left.text) :: defaults e) source depth
        rw [← List.append_nil (defaults e), alongWay_cons]
        simp only [alongWay_defaults, objectEntry, hkind, hleft, hname, Outcome.onSome,
          beq_self_eq_true, if_true]
        rfl
      next => cases hway
  | pair hkind hvalue hm =>
      simp only [hkind, hvalue, Option.bind_some] at hway
      obtain ⟨rest, hrest, rfl⟩ := Option.map_eq_some_iff.mp hway
      rw [List.cons_append, List.singleton_append, alongWay_cons]
      simp only [objectEntry, hkind, hvalue, Outcome.onSome, hinner _ hm hrest, alongWay_cons]
      cases (e.field? "key").bind propertyName? <;> rfl

/-- The first construct that introduces a name has the first way to it. -/
theorem exists_find?_of_findSome? {P : Node → Prop} {answer : Node → Option (List Turn)}
    {way : List Turn} (hparts : ∀ c ∈ n.constructs, c.kind ≠ "html_comment" → P c)
    (hbinds : ∀ c ∈ n.constructs, patternBinds name c = (answer c).isSome)
    (hway : n.constructs.findSome? answer = some way) :
    ∃ c, P c ∧ n.constructs.find? (patternBinds name) = some c ∧ answer c = some way := by
  rw [findSome?_eq_bind_find? hbinds] at hway
  obtain ⟨c, hfound, hway⟩ := Option.bind_eq_some_iff.mp hway
  have hpass := kind_ne_of_patternBinds (List.find?_some hfound)
  exact ⟨c, hparts c (List.mem_of_find?_eq_some hfound) hpass, hfound, hway⟩

/-- A pattern gives a name the type at the end of the first way to it. -/
theorem answers_pattern_eq (p : Program) {levels : Nat} (hn : IsPattern levels n)
    (hdepth : depth + levels ≤ maxDepth + 1) {way : List Turn} (hway : wayTo? name n = some way) :
    p.answers.pattern n source name depth = alongWay p.answers way source depth := by
  induction levels generalizing n source depth way with
  | zero => cases hn
  | succ levels ih =>
      have hinner : ∀ {m way} t, IsPattern levels m → wayTo? name m = some way →
          p.answers.pattern m t name (depth + 1) = alongWay p.answers way t (depth + 1) :=
        fun t hm hway => ih hm (by omega) hway
      rw [Program.answers_pattern, patternRule, if_neg (by omega)]
      rw [wayTo?_eq] at hway
      cases hn with
      | identifier hkind =>
          simp only [hkind] at hway ⊢
          split at hway
          next htext =>
            cases hway
            rw [if_pos htext]
            rfl
          next => cases hway
      | object hkind hentries =>
          simp only [hkind] at hway ⊢
          have hbinds : ∀ e ∈ n.constructs, patternBinds name e = (wayTo? name e).isSome :=
            patternBinds_construct hentries fun _ hentry =>
              hentry.patternBinds_eq_isSome fun _ => IsPattern.patternBinds_eq_isSome
          obtain ⟨e, he, hfound, hway⟩ := exists_find?_of_findSome? hentries hbinds hway
          rw [hfound]
          exact objectEntry_eq he hinner hway
      | array hkind hslots =>
          simp only [hkind] at hway ⊢
          have hbinds : ∀ slot ∈ n.constructs, patternBinds name slot =
              ((wayTo? name slot).map ([.element (slotPosition slot), .enter] ++ ·)).isSome := by
            intro slot hslot
            rw [Option.isSome_map]
            exact patternBinds_construct hslots (fun _ => IsPattern.patternBinds_eq_isSome) slot hslot
          obtain ⟨slot, hm, hfound, hway⟩ := exists_find?_of_findSome? hslots hbinds hway
          obtain ⟨rest, hrest, rfl⟩ := Option.map_eq_some_iff.mp hway
          rw [arraySlots_eq, List.find?_map]
          simp only [Function.comp_def, hfound, Option.map_some, Outcome.onSome]
          rw [if_neg (by simpa using hm.kind_ne_rest), hinner _ hm hrest]
          simp only [List.cons_append, List.nil_append, alongWay_cons]
          rfl
      | assignment hkind hleft hm =>
          simp only [hkind, hleft, Option.bind_some, Outcome.onSome] at hway ⊢
          obtain ⟨rest, hrest, rfl⟩ := Option.map_eq_some_iff.mp hway
          simp only [hinner _ hm hrest]
          rw [List.append_assoc, alongWay_defaults]
          rfl

/-- A pattern gives no type to a name that it does not introduce. -/
theorem answers_pattern_ne (p : Program) {levels : Nat} (hn : IsPattern levels n)
    (hdepth : depth + levels ≤ maxDepth + 1) (hunbound : patternBinds name n = false)
    (t : StaticType) : p.answers.pattern n source name depth ≠ .ok (some t) := by
  induction levels generalizing n source depth with
  | zero => cases hn
  | succ levels ih =>
      rw [Program.answers_pattern, patternRule, if_neg (by omega)]
      rw [patternBinds_eq] at hunbound
      cases hn with
      | identifier hkind =>
          simp only [hkind] at hunbound ⊢
          rw [hunbound]
          intro hsome
          cases hsome
      | object hkind hentries =>
          simp only [hkind, List.any_eq_false] at hunbound ⊢
          rw [List.find?_eq_none.mpr hunbound]
          intro hsome
          cases hsome
      | array hkind hslots =>
          simp only [hkind, List.any_eq_false] at hunbound ⊢
          rw [arraySlots_eq, List.find?_map]
          simp only [Function.comp_def, List.find?_eq_none.mpr hunbound]
          intro hsome
          cases hsome
      | @assignment left hkind hleft hm =>
          -- Here the default is asked about before the name is looked for.
          simp only [hkind, hleft, Option.map_some, Option.getD_some, Outcome.onSome] at hunbound ⊢
          cases withDefault p.answers source (n.field? "right") depth with
          | ok u => exact ih hm (by omega) hunbound
          | error e => intro hsome; cases hsome
          | exhausted => intro hsome; cases hsome

/-- Only a name without a declaration stands in the way of an answer. -/
theorem answers_pattern_cases (p : Program) (n : Node) (source : StaticType) (name : String)
    (depth : Nat) :
    (∃ found, p.answers.pattern n source name depth = .ok found) ∨
      ∃ m, Undeclared p m ∧ p.answers.pattern n source name depth = .error m.unresolved := by
  have hpersists : Outcome.PersistsFound (Program.Realm.univ p) p (.refl Nat)
      (patternRule p.answers n source name depth)
      (patternRule (.within p (maxDepth + 1)) n (source.renumber (.refl Nat)) name depth) :=
    persists_patternRule (fun _ => p.persist_answers depth (Nat.lt_succ_self maxDepth))
      trivial trivial
  rw [Program.answers_pattern]
  generalize patternRule p.answers n source name depth = o,
    patternRule (.within p (maxDepth + 1)) n _ name depth = o' at hpersists ⊢
  cases hpersists with
  | ok _ => exact .inl ⟨_, rfl⟩
  | error _ hmissing _ => exact .inr ⟨_, hmissing, rfl⟩

/-- A destructuring pattern gives a type to just those names that it introduces. The type is
that of the whole value, followed along the first way to the name: through the property of each
key and the element at the position of each slot, with nothing seen behind a computed key, and
with the type of a default in the place of `undefined`. Only where a question on the way needs
a name without a declaration, the error stands in the place of the type. -/
theorem pattern_follows_way (p : Program) {levels : Nat} {n : Node} (hn : IsPattern levels n)
    {depth : Nat} (hdepth : depth + levels ≤ maxDepth + 1) (name : String) (source : StaticType) :
    (patternBinds name n = true → ∃ way, wayTo? name n = some way ∧
      ((∃ t, followWay p.answers way source depth = .ok t ∧
          p.answers.pattern n source name depth = .ok (some t)) ∨
        ∃ m, Undeclared p m ∧ followWay p.answers way source depth = .error m.unresolved ∧
          p.answers.pattern n source name depth = .error m.unresolved)) ∧
    (patternBinds name n = false → ∀ t, p.answers.pattern n source name depth ≠ .ok (some t)) := by
  refine ⟨fun hbinds => ?_, fun hunbound t => answers_pattern_ne p hn hdepth hunbound t⟩
  rw [hn.patternBinds_eq_isSome] at hbinds
  obtain ⟨way, hway⟩ := Option.isSome_iff_exists.mp hbinds
  refine ⟨way, hway, ?_⟩
  have hcases := answers_pattern_cases p n source name depth
  rw [answers_pattern_eq p hn hdepth hway, alongWay] at hcases ⊢
  cases hfollow : followWay p.answers way source depth with
  | ok t => exact .inl ⟨t, rfl, rfl⟩
  | error e =>
      rw [hfollow] at hcases
      obtain ⟨_, hfound⟩ | ⟨m, hmissing, herror⟩ := hcases
      · cases hfound
      · cases herror
        exact .inr ⟨m, hmissing, rfl, rfl⟩
  | exhausted =>
      rw [hfollow] at hcases
      obtain ⟨_, hfound⟩ | ⟨_, _, herror⟩ := hcases
      · cases hfound
      · cases herror

namespace Sample

open Program.Sample (construct)

def token (text : String) (start : Nat) : Tree :=
  .node ⟨text, false, false, ⟨start, start + text.utf8ByteSize⟩, []⟩ []

/-- A declaration that takes the second element of a property, or `null`. -/
def taken : SourceFile where
  load := 0
  path := ⟨"a.ts"⟩
  text := "let { a: [, b = null] } = r;"
  dialect := .typeScript
  tree := construct "program" 0 28 []
    [construct "lexical_declaration" 0 28 []
      [construct "variable_declarator" 4 27 []
        [construct "object_pattern" 4 23 ["name"]
          [construct "pair_pattern" 6 21 []
            [construct "property_identifier" 6 7 ["key"] [], token ":" 7,
              construct "array_pattern" 9 21 ["value"]
                [token "[" 9, token "," 10,
                  construct "assignment_pattern" 12 20 []
                    [construct "identifier" 12 13 ["left"] [], token "=" 14,
                      construct "null" 16 20 ["right"] []],
                  token "]" 20]]],
          construct "identifier" 26 27 ["value"] []]]]

def takenProgram : Program := ⟨[taken], .standard⟩

def takenPattern : Node := taken.root.preorder.getD 3 taken.root

/-- A record of pairs whose second element may be `undefined`. -/
def pairs : StaticType :=
  .reference "Record" [.primitive "string",
    .tuple [.reference "A" [], .union [.reference "B" [], .undefined]]]

theorem isPattern_taken : IsPattern 4 takenPattern := by
  refine .object rfl fun e he _ => ?_
  obtain rfl := List.mem_singleton.mp he
  refine .pair rfl rfl (.array rfl fun slot hslot _ => ?_)
  obtain rfl := List.mem_singleton.mp hslot
  exact .assignment rfl rfl (.identifier rfl)

end Sample

/-- The default replaces `undefined`, and the key of the pattern is no name in it. -/
theorem pattern_follows_way_sample :
    IsPattern 4 Sample.takenPattern ∧ 1 + 4 ≤ maxDepth + 1 ∧
      (patternBinds "b" Sample.takenPattern = true ∧
        ∃ way, wayTo? "b" Sample.takenPattern = some way ∧
          followWay Sample.takenProgram.answers way Sample.pairs 1 =
            .ok (.union [.reference "B" [], .null])) ∧
      patternBinds "a" Sample.takenPattern = false ∧
      ∀ t, Sample.takenProgram.answers.pattern Sample.takenPattern Sample.pairs "a" 1 ≠
        .ok (some t) := by
  have hpattern := pattern_follows_way Sample.takenProgram Sample.isPattern_taken
    (show 1 + 4 ≤ maxDepth + 1 by decide)
  have hbinds : patternBinds "b" Sample.takenPattern = true := by decide +kernel
  have hunbound : patternBinds "a" Sample.takenPattern = false := by decide +kernel
  have hanswer : Sample.takenProgram.answers.pattern Sample.takenPattern Sample.pairs "b" 1 =
      .ok (some (.union [.reference "B" [], .null])) := by decide +kernel
  obtain ⟨way, hway, ⟨t, ht, htyped⟩ | ⟨m, -, -, herror⟩⟩ := (hpattern "b" Sample.pairs).1 hbinds
  · refine ⟨Sample.isPattern_taken, by decide, ⟨hbinds, way, hway, ?_⟩, hunbound,
      (hpattern "a" Sample.pairs).2 hunbound⟩
    cases hanswer.symm.trans htyped
    exact ht
  · cases hanswer.symm.trans herror

end CallMigration.Checker
