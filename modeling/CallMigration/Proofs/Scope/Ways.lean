import CallMigration.Checker.Access
import CallMigration.Proofs.Syntax.Chain

/-!
# Ways through a pattern

A destructuring pattern takes a value apart. On the way to a name in it keys and positions
are followed, and defaults are met. The first way to a name, in source order, is found by
looking for the name itself; a pattern introduces the names that it has a way to.
-/

namespace CallMigration.Scope

/-- A turn on the way from the value of a pattern to that of a name in it. -/
inductive Turn where
  /-- On to a property. A computed key has no name. -/
  | property (key : Option String)
  /-- On to the element at a position. -/
  | element (position : Nat)
  /-- A default takes the place of `undefined`. -/
  | default (value : Node)
  /-- Into the pattern that stands inside. -/
  | enter
deriving Repr

/-- Whether the node is the token between two slots of an array pattern. -/
def isComma (n : Node) : Bool := !n.tree.label.named && n.kind == ","

/-- How many slots there are before one in its pattern, holes included: as many as commas. -/
def slotPosition (slot : Node) : Nat :=
  match slot.parent?, slot.address with
  | some pattern, index :: _ => (pattern.children.take index).countP isComma
  | _, _ => 0

/-- The default of an assignment in a pattern. -/
def defaults (n : Node) : List Turn := ((n.field? "right").map Turn.default).toList

/-- The way to the first place where a name occurs in a pattern, in source order. -/
def wayTo? (name : String) (pattern : Node) : Option (List Turn) :=
  pattern.fold fun n below =>
    let here (turns : List Turn) : Option (List Turn) := if n.text == name then some turns else none
    let through (turns : List Turn) (b : Node.Branch (Option (List Turn))) : Option (List Turn) :=
      (b.answer ()).map (turns ++ ·)
    match n.kind with
    | "identifier" => here []
    | "shorthand_property_identifier_pattern" => here [.property (some n.text)]
    | "object_pattern" => (Node.Branch.constructs below).findSome? fun b => b.answer ()
    | "object_assignment_pattern" =>
        (Node.Branch.field? below "left").bind fun b => (b.answer ()).map (· ++ defaults n)
    | "pair_pattern" =>
        (Node.Branch.field? below "value").bind
          (through [.property ((n.field? "key").bind Checker.propertyName?), .enter])
    | "array_pattern" =>
        (Node.Branch.constructs below).findSome? fun b =>
          through [.element (slotPosition b.node), .enter] b
    | "assignment_pattern" =>
        (Node.Branch.field? below "left").bind (through (defaults n ++ [.enter]))
    | _ => none

/-! ## Patterns without rest elements -/

/-- An entry of an object pattern: a name, a name with a default, or a key with a pattern. -/
inductive IsEntry (IsInner : Node → Prop) (e : Node) : Prop
  | shorthand (hkind : e.kind = "shorthand_property_identifier_pattern")
  | defaulted {left : Node} (hkind : e.kind = "object_assignment_pattern")
      (hleft : e.field? "left" = some left)
      (hname : left.kind = "shorthand_property_identifier_pattern")
  | pair {value : Node} (hkind : e.kind = "pair_pattern") (hvalue : e.field? "value" = some value)
      (hinner : IsInner value)

/-- A pattern that is made of inner patterns. Comments in the style of markup, which the
grammar keeps apart from the others, may stand anywhere. -/
inductive IsPatternOver (IsInner : Node → Prop) (n : Node) : Prop
  | identifier (hkind : n.kind = "identifier")
  | object (hkind : n.kind = "object_pattern")
      (hentries : ∀ e ∈ n.constructs, e.kind ≠ "html_comment" → IsEntry IsInner e)
  | array (hkind : n.kind = "array_pattern")
      (hslots : ∀ slot ∈ n.constructs, slot.kind ≠ "html_comment" → IsInner slot)
  | assignment {left : Node} (hkind : n.kind = "assignment_pattern")
      (hleft : n.field? "left" = some left) (hinner : IsInner left)

/-- A destructuring pattern without rest elements, of at most so many patterns one inside the
other. -/
def IsPattern : (levels : Nat) → Node → Prop
  | 0, _ => False
  | levels + 1, n => IsPatternOver (IsPattern levels) n

theorem IsPattern.kind_ne_rest {levels : Nat} {n : Node} (hn : IsPattern levels n) :
    n.kind ≠ "rest_pattern" := by
  cases levels with
  | zero => cases hn
  | succ levels => cases hn <;> simp_all

/-! ## One step into a pattern -/

section Steps

variable {name : String} {n : Node}

theorem slotPosition_child (n : Node) (t : Tree) (i : Nat) :
    slotPosition (n.child t i) = (n.children.take i).countP isComma := rfl

theorem arraySlots_cons (position : Nat) (c : Node) (rest : List Node) :
    Checker.arraySlots position (c :: rest) =
      (if c.tree.isConstruct then [(position, c)] else []) ++
        Checker.arraySlots (position + if isComma c then 1 else 0) rest := by
  have hconstruct : c.tree.isConstruct = (c.tree.label.named && c.kind != "comment") := rfl
  rw [Checker.arraySlots, hconstruct, isComma]
  cases c.tree.label.named with
  | false =>
      -- A token counts when it is a comma, and is no slot in any case.
      cases c.kind == "," <;> rfl
  | true =>
      have hkind : (c.kind != "comment") = !(c.kind == "comment") := rfl
      rw [hkind]
      cases c.kind == "comment" <;> rfl

theorem arraySlots_childrenFrom {before : List Node} {ts : List Tree}
    (hchildren : n.children = before ++ n.childrenFrom ts before.length) :
    Checker.arraySlots (before.countP isComma) (n.childrenFrom ts before.length) =
      ((n.childrenFrom ts before.length).filter (·.tree.isConstruct)).map
        fun slot => (slotPosition slot, slot) := by
  induction ts generalizing before with
  | nil => rfl
  | cons t rest ih =>
      have hposition : slotPosition (n.child t before.length) = before.countP isComma := by
        rw [slotPosition_child, hchildren, List.take_left]
      have hlength : (before ++ [n.child t before.length]).length = before.length + 1 := by simp
      have hchildren' : n.children = (before ++ [n.child t before.length]) ++
          n.childrenFrom rest (before ++ [n.child t before.length]).length := by
        rw [hlength, List.append_assoc]
        exact hchildren
      have hrest := ih hchildren'
      rw [hlength, List.countP_append, List.countP_singleton] at hrest
      rw [Node.childrenFrom, arraySlots_cons, hrest, List.filter_cons, ← hposition]
      split <;> rfl

/-- The slots of an array pattern are its constructs, each at its position. -/
theorem arraySlots_eq (n : Node) :
    Checker.arraySlots 0 n.children = n.constructs.map fun slot => (slotPosition slot, slot) :=
  @arraySlots_childrenFrom n [] n.tree.children rfl

theorem wayTo?_eq (name : String) (n : Node) :
    wayTo? name n =
      match n.kind with
      | "identifier" => if n.text == name then some [] else none
      | "shorthand_property_identifier_pattern" =>
          if n.text == name then some [.property (some n.text)] else none
      | "object_pattern" => n.constructs.findSome? (wayTo? name)
      | "object_assignment_pattern" =>
          (n.field? "left").bind fun left => (wayTo? name left).map (· ++ defaults n)
      | "pair_pattern" =>
          (n.field? "value").bind fun value => (wayTo? name value).map
            ([.property ((n.field? "key").bind Checker.propertyName?), .enter] ++ ·)
      | "array_pattern" =>
          n.constructs.findSome? fun slot =>
            (wayTo? name slot).map ([.element (slotPosition slot), .enter] ++ ·)
      | "assignment_pattern" =>
          (n.field? "left").bind fun left => (wayTo? name left).map (defaults n ++ [.enter] ++ ·)
      | _ => none := by
  -- The branches of the fold are the children with their own ways.
  rw [wayTo?, Node.fold_eq]
  simp only [Node.field?_branches, Node.constructs_branches, List.findSome?_map, Option.bind_map]
  rfl

theorem patternBinds_eq (name : String) (n : Node) :
    patternBinds name n =
      match n.kind with
      | "identifier" | "shorthand_property_identifier_pattern" => n.text == name
      | "object_pattern" | "array_pattern" | "rest_pattern" => n.constructs.any (patternBinds name)
      | "assignment_pattern" | "object_assignment_pattern" =>
          ((n.field? "left").map (patternBinds name)).getD false
      | "pair_pattern" => ((n.field? "value").map (patternBinds name)).getD false
      | _ => false := by
  rw [patternBinds, Node.fold_eq]
  simp only [Node.field?_branches, Node.constructs_branches, List.any_map, Option.map_map]
  rfl

end Steps

/-! ## Names with a way -/

variable {name : String} {n e : Node} {levels : Nat} {IsInner : Node → Prop}

/-- When a test tells which elements have an answer, the first answer is that of the first
element that passes. -/
theorem findSome?_eq_bind_find? {α β : Type} {test : α → Bool} {answer : α → Option β}
    {l : List α} (htest : ∀ a ∈ l, test a = (answer a).isSome) :
    l.findSome? answer = (l.find? test).bind answer := by
  induction l with
  | nil => rfl
  | cons a l ih =>
      obtain ⟨ha, hl⟩ := List.forall_mem_cons.mp htest
      rw [List.findSome?_cons, List.find?_cons, ha, ih hl]
      cases hanswer : answer a with
      | none => rfl
      | some b => exact hanswer.symm

theorem any_eq_isSome_findSome? {α β : Type} {test : α → Bool} {answer : α → Option β}
    {l : List α} (htest : ∀ a ∈ l, test a = (answer a).isSome) :
    l.any test = (l.findSome? answer).isSome := by
  rw [Bool.eq_iff_iff, List.any_eq_true, List.isSome_findSome?, List.any_eq_true]
  constructor
  · rintro ⟨a, ha, hpass⟩
    exact ⟨a, ha, htest a ha ▸ hpass⟩
  · rintro ⟨a, ha, hsome⟩
    exact ⟨a, ha, (htest a ha).trans hsome⟩

/-- A comment introduces nothing. -/
theorem kind_ne_of_patternBinds (hbinds : patternBinds name n = true) :
    n.kind ≠ "html_comment" := by
  intro hkind
  rw [patternBinds_eq] at hbinds
  simp [hkind] at hbinds

/-- What holds of the entries or slots holds of all constructs: comments introduce nothing. -/
theorem patternBinds_construct {P : Node → Prop}
    (hparts : ∀ c ∈ n.constructs, c.kind ≠ "html_comment" → P c)
    (hP : ∀ c, P c → patternBinds name c = (wayTo? name c).isSome) :
    ∀ c ∈ n.constructs, patternBinds name c = (wayTo? name c).isSome := by
  intro c hc
  by_cases hkind : c.kind = "html_comment"
  · rw [patternBinds_eq, wayTo?_eq]
    simp only [hkind]
    rfl
  · exact hP c (hparts c hc hkind)

theorem IsEntry.patternBinds_eq_isSome (hentry : IsEntry IsInner e)
    (hinner : ∀ m, IsInner m → patternBinds name m = (wayTo? name m).isSome) :
    patternBinds name e = (wayTo? name e).isSome := by
  cases hentry with
  | shorthand hkind =>
      rw [patternBinds_eq, wayTo?_eq]
      simp only [hkind]
      cases e.text == name <;> rfl
  | defaulted hkind hleft hname =>
      rw [patternBinds_eq, wayTo?_eq]
      simp only [hkind]
      rw [hleft, Option.map_some, Option.getD_some, Option.bind_some, Option.isSome_map,
        patternBinds_eq, wayTo?_eq]
      simp only [hname]
      cases _ == name <;> rfl
  | pair hkind hvalue hm =>
      rw [patternBinds_eq, wayTo?_eq]
      simp only [hkind]
      rw [hvalue, Option.map_some, Option.getD_some, Option.bind_some, Option.isSome_map,
        hinner _ hm]

/-- A pattern introduces the names that it has a way to. -/
theorem IsPattern.patternBinds_eq_isSome (hn : IsPattern levels n) :
    patternBinds name n = (wayTo? name n).isSome := by
  induction levels generalizing n with
  | zero => cases hn
  | succ levels ih =>
      cases hn with
      | identifier hkind =>
          rw [patternBinds_eq, wayTo?_eq]
          simp only [hkind]
          cases n.text == name <;> rfl
      | object hkind hentries =>
          rw [patternBinds_eq, wayTo?_eq]
          simp only [hkind]
          exact any_eq_isSome_findSome? (patternBinds_construct hentries fun _ hentry =>
            hentry.patternBinds_eq_isSome fun _ => ih)
      | array hkind hslots =>
          rw [patternBinds_eq, wayTo?_eq]
          simp only [hkind]
          apply any_eq_isSome_findSome?
          intro slot hslot
          rw [Option.isSome_map]
          exact patternBinds_construct hslots (fun _ => ih) slot hslot
      | assignment hkind hleft hinner =>
          rw [patternBinds_eq, wayTo?_eq]
          simp only [hkind]
          rw [hleft, Option.map_some, Option.getD_some, Option.bind_some, Option.isSome_map,
            ih hinner]

end CallMigration.Scope
