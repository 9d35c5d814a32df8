import CallMigration.Proofs.Printing.Unambiguous

/-!
# Expressions in context

A frame is a shape with all its parts but one, and a context is the list of frames around
an expression, the innermost first. The tokens of a context stand around those of the
expression, and what may replace the expression is decided by the innermost frame, but
for what `new` creates from.
-/

namespace CallMigration

/-- A shape with one part missing. -/
structure Frame where
  shape : Shape
  before : List Expr
  after : List Expr

/-- The frames around an expression, innermost first. -/
abbrev Context := List Frame

namespace Frame

/-- Put an expression into a frame. -/
def plug (frame : Frame) (e : Expr) : Expr :=
  .build frame.shape (frame.before ++ e :: frame.after)

/-- The tokens before the missing part. -/
def opening (frame : Frame) : List Token :=
  interleave frame.shape.separators (frame.before.map Expr.tokens)

/-- The tokens after the missing part. -/
def closing (frame : Frame) : List Token :=
  interleave (frame.shape.separators.drop (frame.before.length + 1))
    (frame.after.map Expr.tokens)

end Frame

namespace Context

/-- Put an expression into a context. -/
def plug : Context → Expr → Expr
  | [], e => e
  | frame :: outer, e => plug outer (frame.plug e)

/-- The tokens before the place of a context. -/
def opening : Context → List Token
  | [] => []
  | frame :: outer => opening outer ++ frame.opening

/-- The tokens after the place of a context. -/
def closing : Context → List Token
  | [] => []
  | frame :: outer => frame.closing ++ closing outer

/-- Whether `new` creates from what is put into the context, or from a member of it. -/
def asksTarget : Context → Bool
  | [] => false
  | ⟨.creation _ _, [], _⟩ :: _ => true
  | ⟨.property false _, [], _⟩ :: outer | ⟨.index false, [], _⟩ :: outer
  | ⟨.assertion, [], _⟩ :: outer => asksTarget outer
  | _ => false

end Context

theorem Context.plug_append (inner : Context) (frame : Frame) (e : Expr) :
    plug (inner ++ [frame]) e = frame.plug (plug inner e) := by
  induction inner generalizing e with
  | nil => rfl
  | cons first rest ih => exact ih (first.plug e)

/-! ## Tokens -/

theorem interleave_append_cons {separators : List (List Token)} {before : List (List Token)}
    (hlength : before.length < separators.length) (part : List Token)
    (after : List (List Token)) :
    interleave separators (before ++ part :: after) =
      interleave separators before ++
        (part ++ interleave (separators.drop (before.length + 1)) after) := by
  induction before generalizing separators with
  | nil =>
      cases separators with
      | nil => simp at hlength
      | cons s ss => simp [interleave]
  | cons b bs ih =>
      cases separators with
      | nil => simp at hlength
      | cons s ss =>
          have hlength' : bs.length < ss.length := by simpa using hlength
          simp [interleave, ih hlength']

theorem Expr.Grammatical.fits {shape : Shape} {parts : List Expr}
    (h : (Expr.build shape parts).Grammatical) : shape.Fits parts := by
  cases h
  assumption

theorem Expr.Grammatical.part {shape : Shape} {parts : List Expr}
    (h : (Expr.build shape parts).Grammatical) {e : Expr} (he : e ∈ parts) : e.Grammatical := by
  cases h with
  | build hfits hparts => exact hparts e he

namespace Frame

theorem tokens_plug {frame : Frame} {e : Expr} (he : (frame.plug e).Grammatical) (e' : Expr) :
    (frame.plug e').tokens = frame.opening ++ (e'.tokens ++ frame.closing) := by
  have hlength : (frame.before.map Expr.tokens).length < frame.shape.separators.length := by
    have hlength := he.fits.length
    simp only [List.length_append, List.length_cons, List.length_map] at hlength ⊢
    omega
  rw [plug, Expr.tokens_build, List.map_append, List.map_cons, interleave_append_cons hlength,
    List.length_map, opening, closing]

theorem bare_plug_congr (frame : Frame) {e e' : Expr} (hbare : e.bare = e'.bare) :
    (frame.plug e).bare = (frame.plug e').bare := by
  obtain ⟨shape, before, after⟩ := frame
  by_cases hparen : shape = .paren ∧ before = [] ∧ after = []
  · obtain ⟨rfl, rfl, rfl⟩ := hparen
    simpa [plug] using hbare
  · have hplain : ∀ e : Expr, shape ≠ .paren ∨ (before ++ e :: after).length ≠ 1 := by
      intro e
      by_contra hnot
      simp only [not_or, not_not, List.length_append, List.length_cons] at hnot
      exact hparen ⟨hnot.1, List.length_eq_zero_iff.mp (by omega),
        List.length_eq_zero_iff.mp (by omega)⟩
    rw [plug, plug, Expr.bare_build (hplain e), Expr.bare_build (hplain e')]
    simp [hbare]

/-- A part can be replaced by whatever the shape takes in its place. -/
theorem fits_plug {frame : Frame} {e e' : Expr} (he : (frame.plug e).Grammatical)
    (htakes : frame.shape.Takes frame.before.length e') :
    frame.shape.Fits (frame.before ++ e' :: frame.after) := by
  have hfits : frame.shape.Fits (frame.before ++ e :: frame.after) := he.fits
  refine .of_getElem hfits.known (by simpa using hfits.length) ?_
  intro i part hpart
  -- All parts but the replaced one stay where they were.
  rcases Nat.lt_trichotomy i frame.before.length with hlt | rfl | hgt
  · apply hfits.takes_getElem
    rw [List.getElem?_append_left hlt] at hpart ⊢
    exact hpart
  · rw [List.getElem?_append_right (Nat.le_refl _), Nat.sub_self] at hpart
    cases hpart
    exact htakes
  · apply hfits.takes_getElem
    rw [List.getElem?_append_right (Nat.le_of_lt hgt)] at hpart ⊢
    obtain ⟨k, hk⟩ : ∃ k, i - frame.before.length = k + 1 := ⟨_, (Nat.succ_pred (by omega)).symm⟩
    rw [hk] at hpart ⊢
    exact hpart

theorem grammatical_plug {frame : Frame} {e e' : Expr} (he : (frame.plug e).Grammatical)
    (he' : e'.Grammatical) (htakes : frame.shape.Takes frame.before.length e') :
    (frame.plug e').Grammatical := by
  refine .build (fits_plug he htakes) ?_
  intro part hpart
  rcases List.mem_append.mp hpart with hbefore | hrest
  · exact he.part (List.mem_append_left _ hbefore)
  · rcases List.mem_cons.mp hrest with rfl | hafter
    · exact he'
    · exact he.part (List.mem_append_right _ (List.mem_cons_of_mem _ hafter))

theorem takes_of_grammatical {frame : Frame} {e : Expr} (he : (frame.plug e).Grammatical) :
    frame.shape.Takes frame.before.length e :=
  he.fits.takes_getElem (by simp)

theorem isTarget_build_cons (shape : Shape) (e : Expr) (rest rest' : List Expr) :
    (Expr.build shape (e :: rest)).isTarget = (Expr.build shape (e :: rest')).isTarget := by
  cases shape with
  | property optional name => cases optional <;> rfl
  | index optional => cases optional <;> rfl
  | creation types gaps => cases gaps <;> rfl
  | _ => rfl

/-- Where `new` creates from the frame, a target stays one when what is accessed in it
does. -/
theorem isTarget_plug {frame : Frame} {outer : Context} (houter : Context.asksTarget outer = true)
    {e e' : Expr} (htarget : (frame.plug e).isTarget = true)
    (he' : Context.asksTarget (frame :: outer) = true → e.isTarget = true → e'.isTarget = true) :
    (frame.plug e').isTarget = true := by
  obtain ⟨shape, before, after⟩ := frame
  cases before with
  | cons b bs =>
      rw [← htarget]
      exact isTarget_build_cons shape b _ _
  | nil =>
      cases shape with
      | paren => rfl
      | list gaps => rfl
      | property optional name =>
          cases optional with
          | false => exact he' houter htarget
          | true => cases htarget
      | index optional =>
          cases optional with
          | false => exact he' houter htarget
          | true => cases htarget
      | assertion => exact he' houter htarget
      | creation types gaps =>
          cases gaps with
          | none => cases htarget
          | some gaps => rfl
      | _ => cases htarget

/-- Only `new` asks for a target. -/
theorem asksTarget_of_floor {frame : Frame}
    (hfloor : frame.shape.floor frame.before.length = .target) (outer : Context) :
    Context.asksTarget (frame :: outer) = true := by
  obtain ⟨shape, before, after⟩ := frame
  cases shape with
  | creation types gaps =>
      cases before with
      | nil => rfl
      | cons b bs => cases hfloor
  | binary op => cases before <;> cases hfloor
  | index optional => cases before <;> cases hfloor
  | call optional types gaps => cases before <;> cases hfloor
  | choice => cases before <;> cases hfloor
  | _ => cases hfloor

/-- An expression of the same level can stand in the same place. -/
theorem takes_of_level {frame : Frame} {outer : Context} {e e' : Expr}
    (he : frame.shape.Takes frame.before.length e) (hlevel : e'.level = e.level)
    (he' : Context.asksTarget (frame :: outer) = true → e.isTarget = true → e'.isTarget = true) :
    frame.shape.Takes frame.before.length e' := by
  refine ⟨?_, hlevel ▸ he.2⟩
  cases hfloor : frame.shape.floor frame.before.length with
  | level least =>
      have hadmits := hfloor ▸ he.1
      rw [Floor.Admits] at hadmits ⊢
      rwa [hlevel]
  | target =>
      have hadmits := hfloor ▸ he.1
      rcases hadmits with htarget | hnew
      · exact Or.inl (he' (asksTarget_of_floor hfloor outer) htarget)
      · exact Or.inr (hlevel.trans hnew)

end Frame

namespace Context

theorem grammatical_of_plug {context : Context} {e : Expr} (he : (plug context e).Grammatical) :
    e.Grammatical := by
  induction context generalizing e with
  | nil => exact he
  | cons frame outer ih => exact (ih he).part (by simp)

theorem tokens_plug {context : Context} {e : Expr} (he : (plug context e).Grammatical)
    (e' : Expr) : (plug context e').tokens = opening context ++ (e'.tokens ++ closing context) := by
  induction context generalizing e e' with
  | nil => simp [plug, opening, closing]
  | cons frame outer ih =>
      rw [plug, ih he, Frame.tokens_plug (grammatical_of_plug he), opening, closing]
      simp only [List.append_assoc]

theorem bare_plug_congr (context : Context) {e e' : Expr} (hbare : e.bare = e'.bare) :
    (plug context e).bare = (plug context e').bare := by
  induction context generalizing e e' with
  | nil => exact hbare
  | cons frame outer ih => exact ih (frame.bare_plug_congr hbare)

/-- What is replaced in a frame is not seen from outside the frame, unless `new` creates
from it. -/
theorem grammatical_plug_of_level {context : Context} {e e' : Expr}
    (he : (plug context e).Grammatical) (he' : e'.Grammatical) (hlevel : e'.level = e.level)
    (htarget : asksTarget context = true → e.isTarget = true → e'.isTarget = true) :
    (plug context e').Grammatical := by
  induction context generalizing e e' with
  | nil => exact he'
  | cons frame outer ih =>
      have hframe : (frame.plug e).Grammatical := grammatical_of_plug he
      have htakes := Frame.takes_of_level (Frame.takes_of_grammatical hframe) hlevel htarget
      apply ih he (Frame.grammatical_plug hframe he' htakes) rfl
      intro houter hplug
      exact Frame.isTarget_plug houter hplug htarget

/-- The innermost frame decides what may replace an expression, unless `new` creates from
it. -/
theorem grammatical_plug {frame : Frame} {outer : Context} {e e' : Expr}
    (he : (plug (frame :: outer) e).Grammatical) (he' : e'.Grammatical)
    (htakes : frame.shape.Takes frame.before.length e')
    (htarget : asksTarget (frame :: outer) = true → e'.isTarget = true) :
    (plug (frame :: outer) e').Grammatical := by
  have houter : (plug outer (frame.plug e)).Grammatical := he
  have hframe := Frame.grammatical_plug (grammatical_of_plug houter) he' htakes
  apply grammatical_plug_of_level houter hframe rfl
  intro houter hplug
  exact Frame.isTarget_plug houter hplug fun hasks _ => htarget hasks

/-- What `new` creates from is a target, or `new` without arguments. -/
theorem isTarget_of_asksTarget {context : Context} {e : Expr}
    (he : (plug context e).Grammatical) (hasks : asksTarget context = true) :
    e.isTarget = true ∨ e.level = .leftHandSide := by
  induction context generalizing e with
  | nil => cases hasks
  | cons frame outer ih =>
      have htakes := Frame.takes_of_grammatical (grammatical_of_plug he)
      have houter : (plug outer (frame.plug e)).Grammatical := he
      -- A member expression is a target when its object is.
      have hlink : asksTarget outer = true → frame.shape.level = .member →
          (frame.plug e).isTarget = true := by
        intro hasks hmember
        rcases ih houter hasks with htarget | hnew
        · exact htarget
        · exact absurd (hmember.symm.trans hnew) (by decide)
      obtain ⟨shape, before, after⟩ := frame
      unfold asksTarget at hasks
      split at hasks
      next => cases hasks
      next heq =>
        cases heq
        exact htakes.1
      next heq =>
        cases heq
        exact Or.inl (hlink hasks rfl)
      next heq =>
        cases heq
        exact Or.inl (hlink hasks rfl)
      next heq =>
        cases heq
        exact Or.inl (hlink hasks rfl)
      next => cases hasks

end Context

end CallMigration
