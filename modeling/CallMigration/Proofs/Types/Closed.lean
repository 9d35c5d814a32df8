import CallMigration.Checker.Access
import CallMigration.Checker.Environment
import CallMigration.Proofs.Types.Normal

/-!
# Closed sets of types

A set of types is closed when it holds the parts of its types and whatever is made of
them, shapes apart: which shapes belong to it is its own affair. The operations by which
the checker takes types apart and puts them together stay inside. The normal types are
such a set, and so are the types whose shapes all name declarations of a given kind.
-/

namespace CallMigration

namespace StaticType

/-- A set of types that is kept by taking apart and putting together. -/
structure Closed (P : StaticType → Prop) : Prop where
  null : P null
  undefined : P undefined
  primitive (name : String) : P (primitive name)
  literal (text : String) : P (literal text)
  unseen : P unseen
  array_iff {t : StaticType} : P (array t) ↔ P t
  function_iff {t : StaticType} : P (function t) ↔ P t
  tuple_iff {ts : List StaticType} : P (tuple ts) ↔ ∀ t ∈ ts, P t
  reference_iff {name : String} {ts : List StaticType} : P (reference name ts) ↔ ∀ t ∈ ts, P t
  bindings {id : ShapeId} {label : String} {bs : List (String × StaticType)} :
    P (shape id label bs) → ∀ b ∈ bs, P b.2
  member {t m : StaticType} : P t → m ∈ t.members → P m
  join {ts : List StaticType} : (∀ t ∈ ts, P t) → P (join ts)

namespace Closed

variable {P : StaticType → Prop} {t : StaticType}

theorem join_pair (hP : Closed P) {u : StaticType} (ht : P t) (hu : P u) :
    P (StaticType.join [t, u]) := by
  apply hP.join
  simp [ht, hu]

theorem orUndefined (hP : Closed P) (ht : P t) : P t.orUndefined := hP.join_pair ht hP.undefined

theorem withoutNullish (hP : Closed P) (ht : P t) : P t.withoutNullish := by
  cases t with
  | null => exact hP.primitive "never"
  | undefined => exact hP.primitive "never"
  | union ms => exact hP.join fun m hm => hP.member ht (List.mem_of_mem_filter hm)
  | _ => exact ht

theorem withoutUndefined (hP : Closed P) (ht : P t) : P t.withoutUndefined := by
  cases t with
  | undefined => exact hP.primitive "never"
  | union ms => exact hP.join fun m hm => hP.member ht (List.mem_of_mem_filter hm)
  | _ => exact ht

theorem headD (hP : Closed P) {ts : List StaticType} (hts : ∀ t ∈ ts, P t) :
    P (ts.headD .unseen) := by
  cases ts with
  | nil => exact hP.unseen
  | cons t rest => exact hts t List.mem_cons_self

end Closed

/-! ## Taking types apart -/

open Checker

variable {P : StaticType → Prop} {t : StaticType}

theorem mem_of_collectMembers {part : StaticType → Option StaticType} {ms ts : List StaticType}
    (hcollect : collectMembers part ms = some ts) {u : StaticType} (hu : u ∈ ts) :
    ∃ m ∈ ms, part m = some u := by
  induction ms generalizing ts with
  | nil =>
      cases hcollect
      simp at hu
  | cons m ms ih =>
      unfold collectMembers at hcollect
      split at hcollect
      · obtain ⟨m', hm', hpart⟩ := ih hcollect hu
        exact ⟨m', List.mem_cons_of_mem _ hm', hpart⟩
      · split at hcollect
        next v vs hv hvs =>
          cases hcollect
          rcases List.mem_cons.mp hu with rfl | hrest
          · exact ⟨m, List.mem_cons_self, hv⟩
          · obtain ⟨m', hm', hpart⟩ := ih hvs hrest
            exact ⟨m', List.mem_cons_of_mem _ hm', hpart⟩
        next => cases hcollect

namespace Closed

theorem throughMembers (hP : Closed P) {part : StaticType → Option StaticType}
    (hpart : ∀ m u, P m → part m = some u → P u) (ht : P t) : P (throughMembers part t) := by
  unfold Checker.throughMembers
  split
  · exact hP.unseen
  · exact hP.unseen
  next ts _ hts =>
    apply hP.join
    intro u hu
    obtain ⟨m, hm, hmu⟩ := mem_of_collectMembers hts hu
    exact hpart m u (hP.member ht hm) hmu

theorem callResult (hP : Closed P) (ht : P t) : P (callResult t) := by
  refine hP.throughMembers ?_ ht
  intro m u hm hu
  split at hu
  · cases hu
    exact hP.function_iff.mp hm
  · cases hu
    exact hP.primitive "any"
  · cases hu

theorem elementType (hP : Closed P) (position : Option Nat) (ht : P t) :
    P (elementType position t) := by
  refine hP.throughMembers ?_ ht
  intro m u hm hu
  unfold elementOf at hu
  split at hu
  · cases hu
    exact hP.array_iff.mp hm
  next items =>
    have hitems := hP.tuple_iff.mp hm
    split at hu
    next i =>
      cases hu
      rw [List.getD_eq_getElem?_getD]
      cases hitem : items[i]? with
      | none => exact hP.undefined
      | some item => exact hitems item (List.mem_of_getElem? hitem)
    next =>
      cases hu
      exact hP.join hitems
  · cases hu
    exact hP.reference_iff.mp hm _ (by simp)
  · cases hu
    exact hP.primitive "any"
  · cases hu

theorem awaited (hP : Closed P) (ht : P t) : P (awaited t) := by
  apply hP.join
  intro u hu
  obtain ⟨m, hm, rfl⟩ := List.mem_map.mp hu
  have hmember := hP.member ht hm
  unfold awaitedMember
  split
  · exact hP.reference_iff.mp hmember _ (by simp)
  · exact hmember

theorem continueChain (hP : Closed P) (n : Node) (ht : P t) : P (continueChain n t) := by
  unfold Checker.continueChain
  split
  · exact hP.orUndefined ht
  · exact ht

theorem optionalMember (hP : Closed P) (item : Node) (ht : P t) : P (optionalMember item t) := by
  unfold Checker.optionalMember
  split
  · exact hP.orUndefined ht
  · exact ht

end Closed

/-! ## Normal types -/

theorem closed_normal : Closed Normal where
  null := .null
  undefined := .undefined
  primitive := .primitive
  literal := .literal
  unseen := .unseen
  array_iff := ⟨Normal.element, .array⟩
  function_iff := ⟨Normal.returns, .function⟩
  tuple_iff := ⟨Normal.elements, .tuple⟩
  reference_iff := ⟨Normal.arguments, .reference⟩
  bindings := Normal.bindings
  member ht hm := (ht.member hm).1
  join := normal_join

/-! ## Types by their shapes -/

/-- Every shape in the type names a declaration in `S`. -/
inductive Shaped (S : ShapeId → Prop) : StaticType → Prop
  | null : Shaped S null
  | undefined : Shaped S undefined
  | primitive (name : String) : Shaped S (primitive name)
  | literal (text : String) : Shaped S (literal text)
  | array {element : StaticType} (helement : Shaped S element) : Shaped S (array element)
  | tuple {elements : List StaticType} (helements : ∀ t ∈ elements, Shaped S t) :
      Shaped S (tuple elements)
  | shape {id : ShapeId} {label : String} {bindings : List (String × StaticType)} (hid : S id)
      (hbindings : ∀ b ∈ bindings, Shaped S b.2) : Shaped S (shape id label bindings)
  | function {returns : StaticType} (hreturns : Shaped S returns) : Shaped S (function returns)
  | reference {name : String} {arguments : List StaticType}
      (harguments : ∀ t ∈ arguments, Shaped S t) : Shaped S (reference name arguments)
  | union {ms : List StaticType} (hmembers : ∀ t ∈ ms, Shaped S t) : Shaped S (union ms)
  | unseen : Shaped S unseen

namespace Shaped

variable {S : ShapeId → Prop}

theorem id {id : ShapeId} {label : String} {bs : List (String × StaticType)}
    (hshape : Shaped S (.shape id label bs)) : S id := by
  cases hshape with
  | shape hid _ => exact hid

theorem member {t m : StaticType} (ht : Shaped S t) (hm : m ∈ t.members) : Shaped S m := by
  cases t with
  | union ms =>
      cases ht with
      | union hmembers => exact hmembers m hm
  | _ => rwa [List.mem_singleton.mp hm]

theorem ofMembers {ms : List StaticType} (hms : ∀ m ∈ ms, Shaped S m) :
    Shaped S (StaticType.ofMembers ms) := by
  match ms with
  | [] => exact .primitive "never"
  | [t] => exact hms t List.mem_cons_self
  | a :: b :: rest => exact .union hms

theorem join {ts : List StaticType} (hts : ∀ t ∈ ts, Shaped S t) :
    Shaped S (StaticType.join ts) := by
  unfold StaticType.join
  dsimp only
  split
  · exact .primitive "any"
  · split
    · exact .primitive "unknown"
    · apply ofMembers
      intro m hm
      obtain ⟨t, ht, hmember⟩ := mem_flatten.mp (List.mem_of_mem_filter hm)
      exact (hts t ht).member hmember

end Shaped

theorem closed_shaped (S : ShapeId → Prop) : Closed (Shaped S) where
  null := .null
  undefined := .undefined
  primitive := .primitive
  literal := .literal
  unseen := .unseen
  array_iff := ⟨fun h => by cases h; assumption, .array⟩
  function_iff := ⟨fun h => by cases h; assumption, .function⟩
  tuple_iff := ⟨fun h => by cases h; assumption, .tuple⟩
  reference_iff := ⟨fun h => by cases h; assumption, .reference⟩
  bindings h := by cases h; assumption
  member := Shaped.member
  join := Shaped.join

end StaticType

/-! ## Environments -/

namespace TypeEnv

variable {P : StaticType → Prop} {env : TypeEnv}

/-- All bound parameters stand for types of a set. -/
def All (P : StaticType → Prop) (env : TypeEnv) : Prop := ∀ b ∈ env.bindings, P b.2

theorem all_empty : empty.All P := by simp [All, empty]

theorem all_enter (env : TypeEnv) (name : String) : (env.enter name).All P := by simp [All, enter]

theorem mem_insertBinding {name : String} {t : StaticType} {bs : List (String × StaticType)}
    {b : String × StaticType} (hb : b ∈ insertBinding name t bs) : b = (name, t) ∨ b ∈ bs := by
  induction bs with
  | nil => exact .inl (List.mem_singleton.mp hb)
  | cons head rest ih =>
      unfold insertBinding at hb
      split at hb
      · rcases List.mem_cons.mp hb with heq | hrest
        · exact .inl heq
        · exact .inr (List.mem_cons_of_mem _ hrest)
      · split at hb
        · exact List.mem_cons.mp hb
        · rcases List.mem_cons.mp hb with heq | hrest
          · exact .inr (heq ▸ List.mem_cons_self)
          · exact (ih hrest).imp_right (List.mem_cons_of_mem _)

theorem All.bind (henv : env.All P) (name : String) {t : StaticType} (ht : P t) :
    (env.bind name t).All P := by
  intro b hb
  rcases mem_insertBinding hb with rfl | hold
  · exact ht
  · exact henv b hold

theorem All.lookup? (henv : env.All P) {name : String} {t : StaticType}
    (hlookup : env.lookup? name = some t) : P t := by
  have hmem : (name, t) ∈ env.bindings := by
    unfold TypeEnv.lookup? at hlookup
    obtain ⟨first, rest, hbindings, -⟩ := List.lookup_eq_some_iff.mp hlookup
    simp [hbindings]
  exact henv _ hmem

end TypeEnv

end CallMigration
