import CallMigration.Checker.Access
import CallMigration.Checker.Environment
import Mathlib.Data.List.Basic
import Mathlib.Logic.Embedding.Basic

/-!
# Renumbered types

A shape names the file of its declaration by a position, so a type is renumbered when the files
of a program change their positions. Unions compare their members: as long as different
positions stay different, equal types are those that are equal after renumbering, and whatever
the checker makes of renumbered types is the renumbered result.
-/

namespace CallMigration

/-- The place of a declaration whose file has changed its position. -/
def ShapeId.renumber (σ : Nat ↪ Nat) (id : ShapeId) : ShapeId := { id with file := σ id.file }

theorem ShapeId.renumber_injective (σ : Nat ↪ Nat) : Function.Injective (ShapeId.renumber σ) := by
  rintro ⟨file, span, kind⟩ ⟨file', span', kind'⟩ h
  simpa [ShapeId.renumber] using h

namespace StaticType

mutual

/-- The type with all files of its shapes renumbered. -/
def renumber (σ : Nat ↪ Nat) : StaticType → StaticType
  | null => null
  | undefined => undefined
  | primitive name => primitive name
  | literal text => literal text
  | array element => array (renumber σ element)
  | tuple elements => tuple (renumberAll σ elements)
  | shape id label bindings => shape (id.renumber σ) label (renumberBindings σ bindings)
  | function returns => function (renumber σ returns)
  | reference name arguments => reference name (renumberAll σ arguments)
  | union ms => union (renumberAll σ ms)
  | unseen => unseen

/-- Renumbered types. -/
def renumberAll (σ : Nat ↪ Nat) : List StaticType → List StaticType
  | [] => []
  | t :: ts => renumber σ t :: renumberAll σ ts

/-- Bindings of renumbered types. -/
def renumberBindings (σ : Nat ↪ Nat) : List (String × StaticType) → List (String × StaticType)
  | [] => []
  | (name, t) :: bs => (name, renumber σ t) :: renumberBindings σ bs

end

variable {σ : Nat ↪ Nat} {t u : StaticType} {ts us : List StaticType}

@[simp] theorem renumberAll_eq_map (σ : Nat ↪ Nat) (ts : List StaticType) :
    renumberAll σ ts = ts.map (renumber σ) := by
  induction ts with
  | nil => rfl
  | cons t ts ih => rw [renumberAll, ih, List.map_cons]

/-! ## Constructors -/

section Constructors

@[simp] theorem renumber_null : renumber σ null = null := rfl

@[simp] theorem renumber_undefined : renumber σ undefined = undefined := rfl

@[simp] theorem renumber_primitive (name : String) :
    renumber σ (primitive name) = primitive name := rfl

@[simp] theorem renumber_literal (text : String) : renumber σ (literal text) = literal text := rfl

@[simp] theorem renumber_unseen : renumber σ unseen = unseen := rfl

@[simp] theorem renumber_array : renumber σ (array t) = array (renumber σ t) := rfl

@[simp] theorem renumber_function : renumber σ (function t) = function (renumber σ t) := rfl

@[simp] theorem renumber_tuple : renumber σ (tuple ts) = tuple (ts.map (renumber σ)) := by
  rw [renumber, renumberAll_eq_map]

@[simp] theorem renumber_reference {name : String} :
    renumber σ (reference name ts) = reference name (ts.map (renumber σ)) := by
  rw [renumber, renumberAll_eq_map]

@[simp] theorem renumber_union : renumber σ (union ts) = union (ts.map (renumber σ)) := by
  rw [renumber, renumberAll_eq_map]

@[simp] theorem renumber_shape {id : ShapeId} {label : String}
    {bs : List (String × StaticType)} : renumber σ (shape id label bs) =
      shape (id.renumber σ) label (renumberBindings σ bs) := rfl

@[simp] theorem getD_map_renumber (found : Option StaticType) :
    (found.map (renumber σ)).getD unseen = renumber σ (found.getD unseen) := by
  cases found <;> rfl

end Constructors

/-! ## Different types stay different -/

mutual

theorem renumber_inj : ∀ t u : StaticType, renumber σ t = renumber σ u → t = u
  | null, u => by cases u <;> simp
  | undefined, u => by cases u <;> simp
  | primitive _, u => by cases u <;> simp
  | literal _, u => by cases u <;> simp
  | array t, u => by cases u <;> simp; exact renumber_inj t _
  | tuple ts, u => by cases u <;> simp; exact map_renumber_inj ts _
  | shape i l bs, u => by
      cases u <;> simp
      intro hid hlabel hbs
      exact ⟨ShapeId.renumber_injective σ hid, hlabel, renumberBindings_inj bs _ hbs⟩
  | function t, u => by cases u <;> simp; exact renumber_inj t _
  | reference _ ts, u => by
      cases u <;> simp
      intro hname hts
      exact ⟨hname, map_renumber_inj ts _ hts⟩
  | union ts, u => by cases u <;> simp; exact map_renumber_inj ts _
  | unseen, u => by cases u <;> simp

theorem map_renumber_inj : ∀ ts us : List StaticType,
    ts.map (renumber σ) = us.map (renumber σ) → ts = us
  | [], us => by cases us <;> simp
  | t :: ts, us => by
      cases us <;> simp
      intro ht hts
      exact ⟨renumber_inj t _ ht, map_renumber_inj ts _ hts⟩

theorem renumberBindings_inj : ∀ as bs : List (String × StaticType),
    renumberBindings σ as = renumberBindings σ bs → as = bs
  | [], bs => by cases bs <;> simp [renumberBindings]
  | (x, t) :: as, bs => by
      cases bs <;> simp [renumberBindings]
      intro hname ht has
      exact ⟨Prod.ext hname (renumber_inj t _ ht), renumberBindings_inj as _ has⟩

end

theorem renumber_injective (σ : Nat ↪ Nat) : Function.Injective (renumber σ) :=
  fun t u => renumber_inj t u

theorem mem_map_renumber : renumber σ t ∈ ts.map (renumber σ) ↔ t ∈ ts :=
  List.mem_map_of_injective (renumber_injective σ)

/-! ## Positions that stay -/

mutual

@[simp] theorem renumber_refl : ∀ t : StaticType, renumber (.refl Nat) t = t
  | null => rfl
  | undefined => rfl
  | primitive _ => rfl
  | literal _ => rfl
  | array t => by rw [renumber, renumber_refl t]
  | tuple ts => by rw [renumber, renumberAll_refl ts]
  | shape _ _ bs => by rw [renumber, renumberBindings_refl bs]; rfl
  | function t => by rw [renumber, renumber_refl t]
  | reference _ ts => by rw [renumber, renumberAll_refl ts]
  | union ts => by rw [renumber, renumberAll_refl ts]
  | unseen => rfl

theorem renumberAll_refl : ∀ ts : List StaticType, renumberAll (.refl Nat) ts = ts
  | [] => rfl
  | t :: ts => by rw [renumberAll, renumber_refl t, renumberAll_refl ts]

@[simp] theorem renumberBindings_refl : ∀ bs : List (String × StaticType),
    renumberBindings (.refl Nat) bs = bs
  | [] => rfl
  | (_, t) :: bs => by rw [renumberBindings, renumber_refl t, renumberBindings_refl bs]

end

@[simp] theorem map_renumber_refl (ts : List StaticType) : ts.map (renumber (.refl Nat)) = ts := by
  rw [← renumberAll_eq_map, renumberAll_refl]

@[simp] theorem option_map_renumber_refl (found : Option StaticType) :
    found.map (renumber (.refl Nat)) = found := by
  cases found <;> simp

@[simp] theorem except_map_renumber_refl {ε : Type} (result : Except ε StaticType) :
    result.map (renumber (.refl Nat)) = result := by
  cases result <;> simp [Except.map]

/-! ## Unions -/

@[simp] theorem members_renumber (t : StaticType) :
    (renumber σ t).members = t.members.map (renumber σ) := by
  cases t <;> simp [members]

@[simp] theorem isUnion_renumber (t : StaticType) : (renumber σ t).isUnion = t.isUnion := by
  cases t <;> rfl

@[simp] theorem isNullish_renumber (t : StaticType) : (renumber σ t).isNullish = t.isNullish := by
  cases t <;> rfl

@[simp] theorem renumber_eq_undefined : renumber σ t = undefined ↔ t = undefined :=
  (renumber_injective σ).eq_iff' rfl

@[simp] theorem renumber_eq_null : renumber σ t = null ↔ t = null :=
  (renumber_injective σ).eq_iff' rfl

theorem renumber_eq_primitive {name : String} :
    renumber σ t = primitive name ↔ t = primitive name :=
  (renumber_injective σ).eq_iff' rfl

theorem primitive_mem_map_renumber {name : String} :
    primitive name ∈ ts.map (renumber σ) ↔ primitive name ∈ ts :=
  mem_map_renumber (t := primitive name)

theorem distinct_map_renumber (ts : List StaticType) :
    distinct (ts.map (renumber σ)) = (distinct ts).map (renumber σ) := by
  induction ts with
  | nil => rfl
  | cons t ts ih =>
      rw [List.map_cons, distinct, distinct, ih, List.map_cons, List.filter_map]
      simp [Function.comp_def, (renumber_injective σ).eq_iff]

theorem flatten_map_renumber (ts : List StaticType) :
    flatten (ts.map (renumber σ)) = (flatten ts).map (renumber σ) := by
  rw [flatten, flatten, List.flatMap_map, ← distinct_map_renumber, List.map_flatMap]
  simp only [members_renumber]

theorem renumber_ofMembers (ts : List StaticType) :
    renumber σ (ofMembers ts) = ofMembers (ts.map (renumber σ)) := by
  match ts with
  | [] => rfl
  | [t] => rfl
  | a :: b :: rest => simp [ofMembers]

@[simp] theorem renumber_join (ts : List StaticType) :
    renumber σ (join ts) = join (ts.map (renumber σ)) := by
  unfold join
  simp only [flatten_map_renumber, primitive_mem_map_renumber]
  split
  · rfl
  · split
    · rfl
    · rw [renumber_ofMembers, List.filter_map]
      simp [Function.comp_def, renumber_eq_primitive]

@[simp] theorem renumber_orUndefined (t : StaticType) :
    renumber σ t.orUndefined = (renumber σ t).orUndefined := by
  simp [orUndefined]

@[simp] theorem renumber_withoutNullish (t : StaticType) :
    renumber σ t.withoutNullish = (renumber σ t).withoutNullish := by
  cases t with
  | union ms => simp [withoutNullish, List.filter_map, Function.comp_def]
  | _ => rfl

@[simp] theorem renumber_withoutUndefined (t : StaticType) :
    renumber σ t.withoutUndefined = (renumber σ t).withoutUndefined := by
  cases t with
  | union ms => simp [withoutUndefined, List.filter_map, Function.comp_def]
  | _ => rfl

@[simp] theorem renumber_eraseNullish (t : StaticType) :
    renumber σ t.eraseNullish = (renumber σ t).eraseNullish := by
  cases t with
  | union ms =>
      rw [eraseNullish, renumber_withoutNullish, renumber_union]
      rfl
  | _ => rfl

/-! ## Taking types apart -/

open Checker

theorem collectMembers_map_renumber {part : StaticType → Option StaticType}
    (hpart : ∀ t, part (renumber σ t) = (part t).map (renumber σ)) (ts : List StaticType) :
    collectMembers part (ts.map (renumber σ)) =
      (collectMembers part ts).map (List.map (renumber σ)) := by
  induction ts with
  | nil => rfl
  | cons t ts ih =>
      rw [List.map_cons, collectMembers, collectMembers, isNullish_renumber, ih, hpart]
      split
      · rfl
      · cases part t <;> cases collectMembers part ts <;> rfl

theorem renumber_throughMembers {part : StaticType → Option StaticType}
    (hpart : ∀ t, part (renumber σ t) = (part t).map (renumber σ)) (t : StaticType) :
    renumber σ (throughMembers part t) = throughMembers part (renumber σ t) := by
  rw [throughMembers, throughMembers, members_renumber, collectMembers_map_renumber hpart]
  match collectMembers part t.members with
  | none => rfl
  | some [] => rfl
  | some (u :: us) => exact renumber_join (u :: us)

@[simp] theorem renumber_callResult (t : StaticType) :
    renumber σ (callResult t) = callResult (renumber σ t) := by
  refine renumber_throughMembers (fun t => ?_) t
  cases t with
  | primitive name =>
      rw [renumber_primitive]
      split <;> simp_all
  | _ => rfl

theorem elementOf_renumber (position : Option Nat) (t : StaticType) :
    elementOf position (renumber σ t) = (elementOf position t).map (renumber σ) := by
  cases t with
  | primitive name =>
      rw [renumber_primitive]
      unfold elementOf
      split <;> simp_all
  | tuple items =>
      cases position with
      | none => simp [elementOf]
      | some i => cases hitem : items[i]? <;> simp [elementOf, List.getD_eq_getElem?_getD, hitem]
  | reference name arguments =>
      rw [renumber_reference]
      match arguments with
      | [key, value] =>
          unfold elementOf
          split <;> simp_all
      | [] => simp [elementOf]
      | [_] => simp [elementOf]
      | _ :: _ :: _ :: _ => simp [elementOf]
  | _ => rfl

@[simp] theorem renumber_elementType (position : Option Nat) (t : StaticType) :
    renumber σ (elementType position t) = elementType position (renumber σ t) :=
  renumber_throughMembers (elementOf_renumber position) t

theorem renumber_awaitedMember (t : StaticType) :
    renumber σ (awaitedMember t) = awaitedMember (renumber σ t) := by
  cases t with
  | reference name arguments =>
      rw [renumber_reference]
      match arguments with
      | [inner] =>
          unfold awaitedMember
          split <;> simp_all
      | [] => simp [awaitedMember]
      | _ :: _ :: _ => simp [awaitedMember]
  | _ => simp [awaitedMember]

@[simp] theorem renumber_awaited (t : StaticType) :
    renumber σ (awaited t) = awaited (renumber σ t) := by
  simp [awaited, renumber_awaitedMember, Function.comp_def]

@[simp] theorem renumber_continueChain (n : Node) (t : StaticType) :
    renumber σ (continueChain n t) = continueChain n (renumber σ t) := by
  unfold continueChain
  split <;> simp

@[simp] theorem renumber_optionalMember (item : Node) (t : StaticType) :
    renumber σ (optionalMember item t) = optionalMember item (renumber σ t) := by
  unfold optionalMember
  split <;> simp

end StaticType

/-! ## Nullability -/

@[simp] theorem NullabilityPolicy.isNullable_renumber (policy : NullabilityPolicy) (σ : Nat ↪ Nat)
    (t : StaticType) : policy.isNullable (t.renumber σ) = policy.isNullable t := by
  have habsent : ∀ t, policy.isAbsent (StaticType.renumber σ t) = policy.isAbsent t := by
    intro t
    cases policy <;> cases t <;> rfl
  simp [isNullable, Function.comp_def, habsent]

/-! ## Environments -/

namespace TypeEnv

/-- The environment with renumbered types. -/
def renumber (σ : Nat ↪ Nat) (env : TypeEnv) : TypeEnv :=
  ⟨StaticType.renumberBindings σ env.bindings, env.expanding⟩

variable {σ : Nat ↪ Nat}

@[simp] theorem renumber_refl (env : TypeEnv) : env.renumber (.refl Nat) = env := by
  simp [renumber]

@[simp] theorem renumber_empty : empty.renumber σ = empty := rfl

@[simp] theorem renumber_enter (env : TypeEnv) (name : String) :
    (env.enter name).renumber σ = (env.renumber σ).enter name := rfl

theorem renumberBindings_insertBinding (name : String) (t : StaticType)
    (bs : List (String × StaticType)) :
    StaticType.renumberBindings σ (insertBinding name t bs) =
      insertBinding name (t.renumber σ) (StaticType.renumberBindings σ bs) := by
  induction bs with
  | nil => rfl
  | cons b bs ih =>
      simp only [insertBinding, StaticType.renumberBindings]
      split
      · rfl
      · split
        · rfl
        · rw [StaticType.renumberBindings, ih]

@[simp] theorem renumber_bind (env : TypeEnv) (name : String) (t : StaticType) :
    (env.bind name t).renumber σ = (env.renumber σ).bind name (t.renumber σ) := by
  rw [bind, renumber, renumberBindings_insertBinding]
  rfl

theorem lookup_renumberBindings (name : String) (bs : List (String × StaticType)) :
    (StaticType.renumberBindings σ bs).lookup name =
      (bs.lookup name).map (StaticType.renumber σ) := by
  induction bs with
  | nil => rfl
  | cons b bs ih =>
      rw [StaticType.renumberBindings, List.lookup_cons, List.lookup_cons, ih]
      split <;> rfl

@[simp] theorem lookup?_renumber (env : TypeEnv) (name : String) :
    (env.renumber σ).lookup? name = (env.lookup? name).map (StaticType.renumber σ) :=
  lookup_renumberBindings name env.bindings

@[simp] theorem expanding_renumber (env : TypeEnv) :
    (env.renumber σ).expanding = env.expanding := rfl

end TypeEnv

end CallMigration
