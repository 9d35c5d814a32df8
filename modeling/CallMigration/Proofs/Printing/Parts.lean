import CallMigration.Proofs.Printing.Context
import CallMigration.Proofs.Printing.Layout

/-!
# The parts of a written fragment

A fragment is written with one slot for each kind of part: an object, a callee, an argument and
the operands on the two sides of an operator. What stands inside a written fragment is another
fragment, as its slot asks for it, or an integer in the parentheses that an access by name puts
around it.
-/

namespace CallMigration

namespace Expr

/-- No parentheses stand around the whole expression. -/
def Unenclosed (e : Expr) : Prop := ∀ inner, e ≠ build .paren [inner]

theorem eq_of_enclose_eq_paren {e : Expr} (he : e.Unenclosed) {needed : Bool} {inner : Expr}
    (henclose : e.enclose needed = build .paren [inner]) : needed = true ∧ inner = e := by
  cases needed with
  | false => exact absurd henclose (he inner)
  | true =>
      cases henclose
      exact ⟨rfl, rfl⟩

theorem tokens_paren (e : Expr) :
    (build .paren [e]).tokens = .sign "(" :: (e.tokens ++ [.sign ")"]) := by
  simp [tokens_build, Shape.separators, interleave]

/-- Somewhere in an expression a frame stands around a part. -/
inductive HasPart (frame : Frame) (part : Expr) : Expr → Prop
  | here {e : Expr} (he : e = frame.plug part) : HasPart frame part e
  | inside {shape : Shape} {parts : List Expr} {e : Expr} (he : e ∈ parts)
      (hpart : HasPart frame part e) : HasPart frame part (build shape parts)

namespace HasPart

variable {frame : Frame} {part : Expr}

theorem plug (outer : Context) : HasPart frame part (Context.plug (frame :: outer) part) := by
  have houter : ∀ {e : Expr} (context : Context), HasPart frame part e →
      HasPart frame part (Context.plug context e) := by
    intro e context hpart
    induction context generalizing e with
    | nil => exact hpart
    | cons first rest ih => exact ih (.inside (by simp) hpart)
  exact houter outer (.here rfl)

theorem cases_build {shape : Shape} {parts : List Expr}
    (hpart : HasPart frame part (build shape parts)) :
    (frame.shape = shape ∧ parts[frame.before.length]? = some part) ∨
      ∃ e ∈ parts, HasPart frame part e := by
  cases hpart with
  | here he =>
      cases he
      exact .inl ⟨rfl, by simp⟩
  | inside he hpart => exact .inr ⟨_, he, hpart⟩

/-- In parentheses there is the whole, and what it has inside. -/
theorem cases_enclose {e : Expr} {needed : Bool} (hpart : HasPart frame part (e.enclose needed)) :
    (frame.shape = .paren ∧ part = e) ∨ HasPart frame part e := by
  cases needed with
  | false => exact .inr hpart
  | true =>
      rcases hpart.cases_build with ⟨hshape, hwhole⟩ | ⟨e', he', hpart⟩
      · exact .inl ⟨hshape, List.mem_singleton.mp (List.mem_of_getElem? hwhole)⟩
      · rw [List.mem_singleton.mp he'] at hpart
        exact .inr hpart

end HasPart

end Expr

/-- The slot that a part of a fragment is written for, by the shape around it and its position
there. -/
inductive Slot.OfPart : Shape → Nat → Slot → Prop
  | object (optional : Bool) (name : String) :
      OfPart (.property optional (.identifier name)) 0 (.atLeast .member)
  | callee (count : Nat) : OfPart (Fragment.callShape count) 0 (.atLeast .member)
  | argument (count i : Nat) : OfPart (Fragment.callShape count) (i + 1) .any
  | left (op : LogicalOperator) :
      OfPart (.binary op.token) 0 (.operand op.precedence (some op.token))
  | right (op : LogicalOperator) :
      OfPart (.binary op.token) 1 (.operand op.precedence.next (some op.token))

namespace Fragment

theorem unenclosed_body (f : Fragment) : f.body.Unenclosed := by
  intro inner
  cases f <;> nofun

/-- Where only a level is asked for, what is weaker is put in parentheses. -/
theorem needsParens_atLeast (least : Precedence) (f : Fragment) :
    (Slot.atLeast least).needsParens f = decide (f.precedence < least) := by
  rw [needsParens_of_operator_none rfl]
  exact Bool.or_false _

theorem needsParens_any_of_isInteger {object : Fragment} (hinteger : object.isInteger = true) :
    Slot.any.needsParens object = false := by
  refine (needsParens_atLeast .assignment object).trans ?_
  cases object with
  | node n =>
      simp only [isInteger, Bool.and_eq_true, beq_iff_eq] at hinteger
      simp only [precedence, Precedence.ofNode, hinteger.1]
      rfl
  | literal value =>
      rw [precedence]
      split <;> rfl
  | _ => cases hinteger

/-- An accessed object is in one pair of parentheses at most. -/
theorem body_property (object : Fragment) (optional : Bool) (name : String) :
    (property object optional name).body =
      .build (.property optional (.identifier name))
        [object.body.enclose (object.isInteger || (Slot.atLeast .member).needsParens object)] := by
  rw [body]
  cases hinteger : object.isInteger with
  | false => rfl
  | true => simp [needsParens_any_of_isInteger hinteger, Expr.enclose]

/-- What stands in a frame inside a written fragment. -/
inductive Stands (frame : Frame) : Expr → Prop
  /-- The frame is a pair of parentheses. -/
  | enclosed (f : Fragment) (hshape : frame.shape = .paren) : Stands frame f.body
  | slotted (f : Fragment) {slot : Slot}
      (hslot : Slot.OfPart frame.shape frame.before.length slot) : Stands frame (f.layout slot)
  | integer (f : Fragment) (hinteger : f.isInteger = true) {optional : Bool} {name : String}
      (hshape : frame.shape = .property optional (.identifier name)) :
      Stands frame (.build .paren [f.body])

theorem stands_of_hasPart {f : Fragment} {frame : Frame} {part : Expr}
    (hpart : Expr.HasPart frame part f.body) : Stands frame part := by
  -- Parentheses around a part add a frame of their own.
  have henclose : ∀ {f : Fragment} {needed : Bool},
      (Expr.HasPart frame part f.body → Stands frame part) →
      Expr.HasPart frame part (f.body.enclose needed) → Stands frame part := by
    intro f needed hinside hpart
    rcases hpart.cases_enclose with ⟨hshape, rfl⟩ | hpart
    · exact .enclosed f hshape
    · exact hinside hpart
  have hslotted : ∀ {shape : Shape} {i : Nat} {slot : Slot} (f : Fragment),
      frame.shape = shape → frame.before.length = i → Slot.OfPart shape i slot →
      Stands frame (f.layout slot) := by
    rintro shape i slot f rfl rfl hslot
    exact .slotted f hslot
  induction f using Fragment.induction with
  | node n => cases hpart with | here he => cases he
  | identifier name => cases hpart with | here he => cases he
  | literal value => cases hpart with | here he => cases he
  | property object optional name ih =>
      rw [body_property] at hpart
      rcases hpart.cases_build with ⟨hshape, hobject⟩ | ⟨e, he, hpart⟩
      · cases hposition : frame.before.length with
        | zero =>
            rw [hposition] at hobject
            obtain rfl := Option.some.inj hobject
            cases hinteger : object.isInteger with
            | true => exact .integer object hinteger hshape
            | false => exact hslotted object hshape hposition (.object optional name)
        | succ i => simp [hposition] at hobject
      · rw [List.mem_singleton.mp he] at hpart
        exact henclose ih hpart
  | call callee arguments ihcallee iharguments =>
      rw [body, bodyAll_eq_map] at hpart
      rcases hpart.cases_build with ⟨hshape, hitem⟩ | ⟨e, he, hpart⟩
      · cases hposition : frame.before.length with
        | zero =>
            rw [hposition] at hitem
            obtain rfl := Option.some.inj hitem
            exact hslotted callee hshape hposition (.callee _)
        | succ i =>
            rw [hposition] at hitem
            obtain ⟨g, -, rfl⟩ := List.mem_map.mp (List.mem_of_getElem? hitem)
            exact hslotted g hshape hposition (.argument _ i)
      · rcases List.mem_cons.mp he with rfl | he
        · exact henclose ihcallee hpart
        · obtain ⟨g, hg, rfl⟩ := List.mem_map.mp he
          exact henclose (iharguments g hg) hpart
  | binary left op right ihleft ihright =>
      rcases hpart.cases_build with ⟨hshape, hside⟩ | ⟨e, he, hpart⟩
      · rcases hposition : frame.before.length with _ | _ | i
        · rw [hposition] at hside
          obtain rfl := Option.some.inj hside
          exact hslotted left hshape hposition (.left op)
        · rw [hposition] at hside
          obtain rfl := Option.some.inj hside
          exact hslotted right hshape hposition (.right op)
        · simp [hposition] at hside
      · simp only [List.mem_cons, List.not_mem_nil, or_false] at he
        obtain rfl | rfl := he
        · exact henclose ihleft hpart
        · exact henclose ihright hpart

/-- Every frame inside a written fragment stands around one of its parts. -/
theorem stands_of_layout {f : Fragment} {slot : Slot} {frame : Frame} {outer : Context}
    {part : Expr} (hlayout : f.layout slot = Context.plug (frame :: outer) part) :
    Stands frame part := by
  have hwhole : Expr.HasPart frame part (f.layout slot) := by
    rw [hlayout]
    exact .plug outer
  rcases hwhole.cases_enclose with ⟨hshape, rfl⟩ | hpart
  · exact .enclosed f hshape
  · exact stands_of_hasPart hpart

end Fragment

end CallMigration
