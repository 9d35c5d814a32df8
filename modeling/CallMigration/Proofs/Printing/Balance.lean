import CallMigration.Proofs.Printing.Layout
import Mathlib.Data.List.Forall2

/-!
# Matching parentheses

The parentheses among the tokens of a fragment match, wherever its parts are put in
parentheses. Together with the fragment the tokens tell the expression: two expressions that
are one fragment without their parentheses and have the same tokens are equal, whether or not
the grammar has them.
-/

namespace CallMigration

/-! ## Depth -/

namespace Token

/-- By how much a token changes the depth in parentheses. -/
def nesting : Token → Int
  | sign s => if s = "(" then 1 else if s = ")" then -1 else 0
  | _ => 0

@[simp]
theorem nesting_open : (sign "(").nesting = 1 := rfl

@[simp]
theorem nesting_close : (sign ")").nesting = -1 := rfl

end Token

/-- The number of parentheses that are opened and not closed. -/
def depth : List Token → Int
  | [] => 0
  | t :: ts => t.nesting + depth ts

@[simp]
theorem depth_nil : depth [] = 0 := rfl

@[simp]
theorem depth_cons (t : Token) (ts : List Token) : depth (t :: ts) = t.nesting + depth ts := rfl

@[simp]
theorem depth_append (ts us : List Token) : depth (ts ++ us) = depth ts + depth us := by
  induction ts with
  | nil => simp
  | cons t ts ih => rw [List.cons_append, depth_cons, depth_cons, ih, Int.add_assoc]

/-- The number of tokens that are no parentheses. -/
def weight (ts : List Token) : Nat := ts.countP fun t => t.nesting = 0

@[simp]
theorem weight_append (ts us : List Token) : weight (ts ++ us) = weight ts + weight us :=
  List.countP_append

@[simp]
theorem weight_nil : weight [] = 0 := rfl

@[simp]
theorem weight_cons (t : Token) (ts : List Token) :
    weight (t :: ts) = weight ts + if t.nesting = 0 then 1 else 0 := by
  simp [weight, List.countP_cons]

/-- Every parenthesis has its partner. -/
structure Balanced (ts : List Token) : Prop where
  depth_eq : depth ts = 0
  nonneg : ∀ us, us <+: ts → 0 ≤ depth us

namespace Balanced

variable {ts us : List Token}

theorem nil : Balanced [] := by
  refine ⟨rfl, ?_⟩
  intro us hus
  rw [List.prefix_nil.mp hus, depth_nil]

theorem singleton {t : Token} (ht : t.nesting = 0) : Balanced [t] := by
  refine ⟨by simp [ht], ?_⟩
  intro us hus
  rcases List.prefix_cons_iff.mp hus with rfl | ⟨vs, rfl, hvs⟩
  · rw [depth_nil]
  · simp [List.prefix_nil.mp hvs, ht]

theorem append (hts : Balanced ts) (hus : Balanced us) : Balanced (ts ++ us) := by
  refine ⟨by rw [depth_append, hts.depth_eq, hus.depth_eq, Int.add_zero], ?_⟩
  intro vs hvs
  rcases List.prefix_or_prefix_of_prefix hvs (List.prefix_append ts us) with hinside | hbeyond
  · exact hts.nonneg vs hinside
  · obtain ⟨ws, rfl⟩ := hbeyond
    rw [depth_append, hts.depth_eq, Int.zero_add]
    exact hus.nonneg ws ((List.prefix_append_right_inj ts).mp hvs)

/-- Between a parenthesis and its partner the depth is positive. -/
theorem one_le_depth (hts : Balanced ts) {vs rest : List Token} (hvs : vs ≠ []) (hrest : rest ≠ [])
    (heq : .sign "(" :: (ts ++ [.sign ")"]) = vs ++ rest) : 1 ≤ depth vs := by
  obtain ⟨v, vs, rfl⟩ := List.exists_cons_of_ne_nil hvs
  obtain ⟨hhead, htail⟩ := List.cons.inj heq
  -- The last parenthesis is left to the rest, so the prefix ends within what is enclosed.
  have hprefix : vs <+: ts := by
    rcases List.prefix_concat_iff.mp ⟨rest, htail.symm⟩ with rfl | hinside
    · exact absurd (List.append_right_eq_self.mp htail.symm) hrest
    · exact hinside
  rw [← hhead, depth_cons, Token.nesting_open]
  have := hts.nonneg vs hprefix
  omega

theorem enclose (hts : Balanced ts) : Balanced (.sign "(" :: (ts ++ [.sign ")"])) := by
  refine ⟨by simp [hts.depth_eq], ?_⟩
  rintro vs ⟨rest, hrest⟩
  rcases eq_or_ne vs [] with rfl | hvs
  · rw [depth_nil]
  · rcases eq_or_ne rest [] with rfl | hne
    · rw [← List.append_nil vs, hrest]
      simp [hts.depth_eq]
    · have := hts.one_le_depth hvs hne hrest.symm
      omega

/-- A parenthesis at the end tells where its partner is. -/
theorem eq_of_append_eq {as bs : List Token} (has : Balanced as) (hbs : Balanced bs)
    (heq : ts ++ .sign "(" :: (as ++ [.sign ")"]) = us ++ .sign "(" :: (bs ++ [.sign ")"])) :
    ts = us ∧ as = bs := by
  -- What is longer on the left would close a parenthesis that is not open.
  have hno : ∀ {as bs zs : List Token}, Balanced as → Balanced bs → zs ≠ [] →
      .sign "(" :: (as ++ [.sign ")"]) ≠ zs ++ .sign "(" :: (bs ++ [.sign ")"]) := by
    intro as bs zs has hbs hzs heq
    have hclosed := congrArg depth heq
    have hdepth := has.one_le_depth hzs (List.cons_ne_nil _ _) heq
    simp only [depth_cons, depth_append, depth_nil, has.depth_eq, hbs.depth_eq, Token.nesting_open,
      Token.nesting_close] at hclosed
    omega
  rcases List.append_eq_append_iff.mp heq with ⟨zs, rfl, hzs⟩ | ⟨zs, rfl, hzs⟩
  · rcases eq_or_ne zs [] with rfl | hne
    · simpa using hzs
    · exact absurd hzs (hno has hbs hne)
  · rcases eq_or_ne zs [] with rfl | hne
    · simpa [eq_comm] using hzs
    · exact absurd hzs (hno hbs has hne)

theorem intercalate {items : List (List Token)} (hitems : ∀ ts ∈ items, Balanced ts) :
    Balanced ([Token.sign ","].intercalate items) := by
  induction items with
  | nil => exact nil
  | cons ts rest ih =>
      have hts := hitems ts List.mem_cons_self
      have hrest := ih fun us hus => hitems us (List.mem_cons_of_mem ts hus)
      cases rest with
      | nil => simpa using hts
      | cons us rest =>
          rw [List.intercalate_cons_cons]
          exact (hts.append (singleton rfl)).append hrest

end Balanced

/-- A sign that is no parenthesis is found again by the number of such tokens before it. -/
theorem eq_of_weight_eq {ts us ts' us' : List Token} {t : Token} (ht : t.nesting = 0)
    (hweight : weight ts = weight us) (heq : ts ++ t :: ts' = us ++ t :: us') :
    ts = us ∧ ts' = us' := by
  -- What is longer on the left would hold the sign once more.
  have hno : ∀ {zs rest rest' : List Token}, weight zs = 0 → t :: rest = zs ++ rest' → zs = [] := by
    intro zs rest rest' hzero heq
    by_contra hne
    obtain ⟨z, zs, rfl⟩ := List.exists_cons_of_ne_nil hne
    obtain ⟨rfl, -⟩ := List.cons.inj heq
    simp [ht] at hzero
  rcases List.append_eq_append_iff.mp heq with ⟨zs, rfl, hzs⟩ | ⟨zs, rfl, hzs⟩
  · have hzero : weight zs = 0 := by
      rw [weight_append] at hweight
      omega
    obtain rfl := hno hzero hzs
    simpa using hzs
  · have hzero : weight zs = 0 := by
      rw [weight_append] at hweight
      omega
    obtain rfl := hno hzero hzs
    simpa [eq_comm] using hzs

theorem weight_intercalate {items items' : List (List Token)}
    (hweight : List.Forall₂ (fun ts us => weight ts = weight us) items items') :
    weight ([Token.sign ","].intercalate items) = weight ([Token.sign ","].intercalate items') := by
  induction hweight with
  | nil => rfl
  | cons hts hrest ih =>
      cases hrest with
      | nil => simpa using hts
      | cons =>
          rw [List.intercalate_cons_cons, List.intercalate_cons_cons, weight_append, weight_append,
            weight_append, weight_append, hts, ih]

/-- Items between commas are found again by their numbers of tokens. -/
theorem eq_of_intercalate_eq {items items' : List (List Token)}
    (hweight : List.Forall₂ (fun ts us => weight ts = weight us) items items')
    (heq : [Token.sign ","].intercalate items = [Token.sign ","].intercalate items') :
    items = items' := by
  induction hweight with
  | nil => rfl
  | cons hts hrest ih =>
      cases hrest with
      | nil => simpa using heq
      | cons =>
          rw [List.intercalate_cons_cons, List.intercalate_cons_cons, List.append_assoc,
            List.append_assoc, List.singleton_append, List.singleton_append] at heq
          obtain ⟨rfl, hitems⟩ := eq_of_weight_eq rfl hts heq
          rw [ih hitems]

end CallMigration
