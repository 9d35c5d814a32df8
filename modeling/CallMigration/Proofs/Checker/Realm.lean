import CallMigration.Checker.TypeAt
import CallMigration.Proofs.Scope.Shared
import CallMigration.Proofs.Types.Closed
import CallMigration.Proofs.Types.Renumber
import Mathlib.Data.Option.Basic

/-!
# Realms of the checker

A realm is a region of a program together with a closed set of types that holds the shapes
of the region's nodes. Questions about a realm are answered from inside it. A second
program keeps the realm when its nodes see there what they saw before; its files may have
other positions, and further names may be known as globals. An outcome then persists: an
answer is given again, renumbered, and a name without a declaration is missed again unless
it has become a global.
-/

namespace CallMigration

open Scope Checker

/-- The `return` statements directly below a node come first, then those that belong to the
other nodes there. -/
theorem Checker.returnStatements_eq (n : Node) :
    returnStatements n = n.constructs.filter (·.kind == "return_statement") ++
      (n.constructs.filter fun c => c.kind != "return_statement" &&
        !isFunctionLike c.kind).reverse.flatMap returnStatements := by
  rw [returnStatements, Node.fold_eq]
  simp only [Node.constructs_branches, List.filter_map, List.map_map, ← List.map_reverse,
    List.flatMap_map]
  simp only [Function.comp_def, List.map_id']
  rfl

/-- The nodes and the types that questions are about. -/
structure Program.Realm (p : Program) extends p.Region where
  type : StaticType → Prop
  closed : StaticType.Closed type
  shape {n : Node} {id : ShapeId} {label : String} {bindings : List (String × StaticType)} :
    node n → shapeId? p n = some id → (∀ b ∈ bindings, type b.2) →
    type (.shape id label bindings)

namespace Program.Realm

variable {p : Program}

/-- The type, if there is one, belongs to the realm. -/
def found (r : p.Realm) (o : Option StaticType) : Prop := ∀ t ∈ o, r.type t

@[simp] theorem found_none (r : p.Realm) : r.found none := by simp [found]

@[simp] theorem found_some {r : p.Realm} {t : StaticType} : r.found (some t) ↔ r.type t := by
  simp [found]

theorem found_getD {r : p.Realm} {o : Option StaticType} (ho : r.found o) :
    r.type (o.getD .unseen) := by
  cases o with
  | none => exact r.closed.unseen
  | some t => exact ho t rfl

/-- What the nodes of the realm see in `p` they see in `q`, where `σ` says which positions in
`q` the files of `p` have. More names may be globals. -/
structure Kept (r : p.Realm) (q : Program) (σ : Nat ↪ Nat) : Prop where
  value {n : Node} {name : String} : r.node n → resolveValue? q n name = resolveValue? p n name
  type {n : Node} {name : String} : r.node n → resolveType? q n name = resolveType? p n name
  position {n : Node} : r.node n → q.indexOf? n.file = (p.indexOf? n.file).map σ
  declaration {id : ShapeId} {label : String} {bindings : List (String × StaticType)} :
    r.type (.shape id label bindings) → q.declaration? (id.renumber σ) = p.declaration? id
  ambient {name : String} : isAmbientGlobal p name = true → isAmbientGlobal q name = true

theorem kept_self (r : p.Realm) : r.Kept p (.refl Nat) where
  value _ := rfl
  type _ := rfl
  position _ := Option.map_id'.symm
  declaration _ := rfl
  ambient h := h

/-- A shape in the second program names its declaration by the other position. -/
theorem Kept.shapeOf {r : p.Realm} {q : Program} {σ : Nat ↪ Nat} (hq : r.Kept q σ) {n : Node}
    (hn : r.node n) (label : String) (env : TypeEnv) :
    shapeOf q n label (env.renumber σ) = (shapeOf p n label env).renumber σ := by
  unfold Checker.shapeOf shapeId?
  rw [hq.position hn]
  cases p.indexOf? n.file <;> rfl

/-! ## Nodes that rules read -/

variable (r : p.Realm) {n c : Node}

theorem constructsOf {o : Option Node} (ho : ∀ m ∈ o, r.node m)
    (hc : c ∈ (o.map Node.constructs).getD []) : r.node c := by
  cases o with
  | none => simp at hc
  | some m => exact r.construct (ho m rfl) hc

theorem returnStatement (hn : r.node n) (hc : c ∈ returnStatements n) : r.node c := by
  induction n using Node.induction_children with
  | node n ih =>
      rw [returnStatements_eq] at hc
      simp only [List.mem_append, List.mem_filter, List.mem_flatMap, List.mem_reverse] at hc
      rcases hc with ⟨hstmt, -⟩ | ⟨inner, ⟨hinner, -⟩, hc⟩
      · exact r.construct hn hstmt
      · exact ih inner (List.mem_of_mem_filter hinner) (r.construct hn hinner) hc

theorem arraySlot {position : Nat} {ns : List Node} (hns : ∀ m ∈ ns, r.node m)
    {slot : Nat × Node} (hslot : slot ∈ arraySlots position ns) : r.node slot.2 := by
  induction ns generalizing position with
  | nil => simp [arraySlots] at hslot
  | cons m ns ih =>
      obtain ⟨hm, hns⟩ := List.forall_mem_cons.mp hns
      unfold arraySlots at hslot
      split at hslot
      · exact ih hns hslot
      · split at hslot
        · exact ih hns hslot
        · rcases List.mem_cons.mp hslot with rfl | hslot
          · exact hm
          · exact ih hns hslot

theorem parameterPlace {place : Node × Nat} (hn : r.node n)
    (hplace : parameterPlace? n = some place) : r.node place.1 := by
  obtain ⟨parent, hparent, hplace⟩ := Option.bind_eq_some_iff.mp hplace
  have hparent := r.parent hn hparent
  split at hplace
  · cases hplace
    exact hparent
  · obtain ⟨position, -, hplace⟩ := Option.bind_eq_some_iff.mp hplace
    obtain ⟨callback, hcallback, hplace⟩ := Option.bind_eq_some_iff.mp hplace
    cases hplace
    exact r.parent hparent hcallback

theorem callbackReceiver {place : Node × Nat} (hn : r.node n)
    (hplace : callbackReceiver? n = some place) : r.node place.1 := by
  obtain ⟨⟨callback, position⟩, hcallback, hplace⟩ := Option.bind_eq_some_iff.mp hplace
  have hcallback : r.node callback := r.parameterPlace hn hcallback
  dsimp only at hplace
  split at hplace
  case h_4 => simp at hplace
  all_goals
    obtain ⟨-, -, hplace⟩ := Option.bind_eq_some_iff.mp hplace
    obtain ⟨arguments, harguments, hplace⟩ := Option.bind_eq_some_iff.mp hplace
    obtain ⟨first, -, hplace⟩ := Option.bind_eq_some_iff.mp hplace
    split at hplace
    · cases hplace
    · obtain ⟨call, hcall, hplace⟩ := Option.bind_eq_some_iff.mp hplace
      obtain ⟨callee, hcallee, hplace⟩ := Option.bind_eq_some_iff.mp hplace
      have hcallee := r.field (r.parent (r.parent hcallback harguments) hcall) hcallee
      split at hplace
      · cases hplace
      · obtain ⟨method, -, hplace⟩ := Option.bind_eq_some_iff.mp hplace
        split at hplace
        · obtain ⟨object, hobject, hplace⟩ := Option.bind_eq_some_iff.mp hplace
          cases hplace
          exact r.field hcallee hobject
        · cases hplace

theorem indexAscription (hn : r.node n) (hc : indexAscription? n = some c) : r.node c := by
  obtain ⟨item, hitem, hc⟩ := List.exists_of_findSome?_eq_some hc
  split at hc
  · exact r.field (r.construct hn hitem) hc
  · cases hc

theorem extendsClause (hn : r.node n) (hc : extendsClause? n = some c) : r.node c := by
  obtain ⟨heritage, hheritage, hc⟩ := Option.bind_eq_some_iff.mp hc
  have hheritage := r.construct hn (List.mem_of_find?_eq_some hheritage)
  exact r.construct hheritage (List.mem_of_find?_eq_some hc)

theorem shapeOf (hn : r.node n) (label : String) {env : TypeEnv} (henv : env.All r.type) :
    r.type (shapeOf p n label env) := by
  unfold Checker.shapeOf
  split
  next id hid => exact r.shape hn hid henv
  next => exact r.closed.unseen

end Program.Realm

/-! ## Outcomes in two programs -/

/-- A name that has no declaration and is no global either. -/
structure Undeclared (p : Program) (n : Node) : Prop where
  kind : n.kind = "identifier" ∨ n.kind = "shorthand_property_identifier"
  text : n.text ≠ "undefined"
  value : resolveValue? p n n.text = none
  ambient : isAmbientGlobal p n.text = false

/-- The error of a name without a declaration. -/
def Node.unresolved (n : Node) : TypeQueryError :=
  .unresolvedSymbol n.text n.file.path n.location

namespace Outcome

/-- The second outcome gives the answer of the first, changed by `act`, and the answer has the
property `P`. A name that the first one misses is missed by the second too, unless `q` has it
as a global. -/
inductive Persists {p : Program} (r : p.Realm) (q : Program) {α : Type} (act : α → α)
    (P : α → Prop) : Outcome α → Outcome α → Prop
  | ok {a : α} (ha : P a) : Persists r q act P (.ok a) (.ok (act a))
  | error {n : Node} {o : Outcome α} (hn : r.node n) (hmissing : Undeclared p n)
      (ho : isAmbientGlobal q n.text = false → o = .error n.unresolved) :
      Persists r q act P (.error n.unresolved) o

/-- A type persists. -/
abbrev PersistsType {p : Program} (r : p.Realm) (q : Program) (σ : Nat ↪ Nat) :
    Outcome StaticType → Outcome StaticType → Prop :=
  Persists r q (StaticType.renumber σ) r.type

/-- A type persists, or that there is none. -/
abbrev PersistsFound {p : Program} (r : p.Realm) (q : Program) (σ : Nat ↪ Nat) :
    Outcome (Option StaticType) → Outcome (Option StaticType) → Prop :=
  Persists r q (Option.map (StaticType.renumber σ)) r.found

/-- Types persist, each of them. -/
abbrev PersistsTypes {p : Program} (r : p.Realm) (q : Program) (σ : Nat ↪ Nat) :
    Outcome (List StaticType) → Outcome (List StaticType) → Prop :=
  Persists r q (List.map (StaticType.renumber σ)) fun ts => ∀ t ∈ ts, r.type t

section

variable {p q : Program} {r : p.Realm} {σ : Nat ↪ Nat} {α β : Type} {act : α → α} {act' : β → β}
  {P : α → Prop} {Q : β → Prop}

/-- The second answer is often put together from renumbered parts. -/
theorem persists_ok {a a' : α} (ha : P a) (hsame : a' = act a) :
    Persists r q act P (.ok a) (.ok a') := by
  rw [hsame]
  exact .ok ha

/-- An answer that persists has its property. -/
theorem Persists.of_ok {a : α} {o' : Outcome α} (h : Persists r q act P (.ok a) o') : P a := by
  cases h with
  | ok ha => exact ha

theorem persists_bind {o o' : Outcome α} {f f' : α → Outcome β} (ho : Persists r q act P o o')
    (hf : ∀ a, P a → Persists r q act' Q (f a) (f' (act a))) :
    Persists r q act' Q (o >>= f) (o' >>= f') := by
  cases ho with
  | ok ha => exact hf _ ha
  | error hn hmissing ho =>
      refine .error hn hmissing fun hambient => ?_
      rw [ho hambient]
      rfl

theorem persists_bindType {o o' : Outcome StaticType} {f f' : StaticType → Outcome β}
    (ho : PersistsType r q σ o o')
    (hf : ∀ t, r.type t → Persists r q act' Q (f t) (f' (t.renumber σ))) :
    Persists r q act' Q (o >>= f) (o' >>= f') :=
  persists_bind ho hf

theorem persists_bindFound {o o' : Outcome (Option StaticType)}
    {f f' : Option StaticType → Outcome β} (ho : PersistsFound r q σ o o')
    (hf : ∀ found, r.found found →
      Persists r q act' Q (f found) (f' (found.map (StaticType.renumber σ)))) :
    Persists r q act' Q (o >>= f) (o' >>= f') :=
  persists_bind ho hf

theorem persists_onSome {o : Option α} {other : β} {f f' : α → Outcome β} (hother : Q other)
    (hf : ∀ a ∈ o, Persists r q act' Q (f a) (f' a)) :
    Persists r q act' Q (onSome o other f) (onSome o (act' other) f') := by
  cases o with
  | some a => exact hf a rfl
  | none => exact .ok hother

theorem persists_mapAll {f f' : α → Outcome β} {as : List α}
    (hf : ∀ a ∈ as, Persists r q act' Q (f a) (f' a)) :
    Persists r q (List.map act') (fun bs => ∀ b ∈ bs, Q b) (mapAll f as) (mapAll f' as) := by
  induction as with
  | nil => exact .ok (by simp)
  | cons a as ih =>
      obtain ⟨ha, has⟩ := List.forall_mem_cons.mp hf
      apply persists_bind ha
      intro b hb
      apply persists_bind (ih has)
      intro bs hbs
      exact .ok (List.forall_mem_cons.mpr ⟨hb, hbs⟩)

theorem persists_mapTypes {f f' : α → Outcome StaticType} {as : List α}
    (hf : ∀ a ∈ as, PersistsType r q σ (f a) (f' a)) :
    PersistsTypes r q σ (mapAll f as) (mapAll f' as) :=
  persists_mapAll hf

theorem persists_firstSome {f f' : α → Outcome (Option StaticType)} {as : List α}
    (hf : ∀ a ∈ as, PersistsFound r q σ (f a) (f' a)) :
    PersistsFound r q σ (firstSome f as) (firstSome f' as) := by
  induction as with
  | nil => exact .ok r.found_none
  | cons a as ih =>
      obtain ⟨ha, has⟩ := List.forall_mem_cons.mp hf
      apply persists_bind ha
      intro o ho
      cases o with
      | some t => exact .ok ho
      | none => exact ih has

theorem persists_some {o o' : Outcome StaticType} (ho : PersistsType r q σ o o') :
    PersistsFound r q σ (do let t ← o; pure (some t)) (do let t ← o'; pure (some t)) := by
  apply persists_bind ho
  intro t ht
  exact .ok (Program.Realm.found_some.mpr ht)

/-- The first questions in a list that are asked at all are the same. -/
theorem persists_findSome? {f f' : α → Option (Outcome β)} {as : List α}
    (hf : ∀ a ∈ as, Option.Rel (Persists r q act' Q) (f a) (f' a)) :
    Option.Rel (Persists r q act' Q) (as.findSome? f) (as.findSome? f') := by
  induction as with
  | nil => exact .none
  | cons a as ih =>
      obtain ⟨ha, has⟩ := List.forall_mem_cons.mp hf
      rw [List.findSome?_cons, List.findSome?_cons]
      generalize f a = question, f' a = question' at ha
      cases ha with
      | some h => exact .some h
      | none => exact ih has

end

end Outcome

/-- Answers to questions deeper than `floor` about the realm persist, with all positions
renumbered. -/
structure Answers.Persist {p : Program} (r : p.Realm) (q : Program) (σ : Nat ↪ Nat) (floor : Nat)
    (ask ask' : Answers) : Prop where
  expression {n : Node} {depth : Nat} : floor < depth → r.node n →
    Outcome.PersistsType r q σ (ask.expression n depth) (ask'.expression n depth)
  denoted {n : Node} {env : TypeEnv} {depth : Nat} : floor < depth → r.node n →
    env.All r.type →
    Outcome.PersistsType r q σ (ask.denoted n env depth) (ask'.denoted n (env.renumber σ) depth)
  member {t : StaticType} {name : String} {depth : Nat} : floor < depth → r.type t →
    Outcome.PersistsFound r q σ (ask.member t name depth)
      (ask'.member (t.renumber σ) name depth)
  pattern {n : Node} {t : StaticType} {name : String} {depth : Nat} : floor < depth →
    r.node n → r.type t →
    Outcome.PersistsFound r q σ (ask.pattern n t name depth)
      (ask'.pattern n (t.renumber σ) name depth)

end CallMigration
