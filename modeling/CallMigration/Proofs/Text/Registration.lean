import CallMigration.Proofs.Text.Finalize

/-!
# Order of registration

Edits that are all to be accepted are accepted in any order, or in none: what counts
is whether two of them overlap. The stored edits are sorted by span, so the order in
which they came shows only among edits with one span, and those are insertions.
-/

namespace CallMigration

theorem Span.precedes_antisymm {a b : Span} (hab : a.precedes b = true)
    (hba : b.precedes a = true) : a = b := by
  rw [Span.precedes_iff] at hab hba
  obtain ⟨start, stop⟩ := b
  rw [Span.eq_mk_iff]
  dsimp only at hab hba
  omega

theorem Edit.overlaps_comm (a b : Edit) : a.overlaps b = b.overlaps a :=
  Bool.and_comm _ _

namespace Overlay

/-- Register edits one after the other, up to the first that is refused. -/
def overwriteAll (o : Overlay) (edits : List Edit) : Except OverlayError Overlay :=
  edits.foldlM overwrite o

theorem overwriteAll_nil (o : Overlay) : o.overwriteAll [] = .ok o := rfl

theorem overwriteAll_cons (o : Overlay) (e : Edit) (rest : List Edit) :
    o.overwriteAll (e :: rest) =
      match o.overwrite e with
      | .ok next => next.overwriteAll rest
      | .error err => .error err := by
  rw [overwriteAll, List.foldlM_cons]
  cases o.overwrite e <;> rfl

/-- A list is accepted in full when its first edit is, and then the others. -/
theorem overwriteAll_cons_eq_ok_iff {o last : Overlay} {e : Edit} {rest : List Edit} :
    o.overwriteAll (e :: rest) = .ok last ↔
      ∃ next, o.overwrite e = .ok next ∧ next.overwriteAll rest = .ok last := by
  rw [overwriteAll_cons]
  cases o.overwrite e <;> simp

theorem overwrite_text {o next : Overlay} {e : Edit} (hok : o.overwrite e = .ok next) :
    next.text = o.text := by
  obtain ⟨-, -, rfl⟩ := overwrite_eq_ok_iff.mp hok
  rfl

/-! ## Which lists are accepted -/

namespace Tidy

/-- Edits are accepted in full exactly when no two of them overlap and none overlaps
what is stored. -/
theorem exists_overwriteAll_iff {o : Overlay} (htidy : o.Tidy) {edits : List Edit}
    (hfits : ∀ e ∈ edits, e.span.Fits o.text) :
    (∃ last, o.overwriteAll edits = .ok last) ↔
      edits.Pairwise (fun a b => a.overlaps b = false) ∧
        ∀ stored ∈ o.edits, ∀ e ∈ edits, stored.overlaps e = false := by
  induction edits generalizing o with
  | nil => simp [overwriteAll_nil]
  | cons e rest ih =>
      obtain ⟨he, hrest⟩ := List.forall_mem_cons.mp hfits
      have hstep : (∃ last, o.overwriteAll (e :: rest) = .ok last) ↔
          ∃ next, o.overwrite e = .ok next ∧
            rest.Pairwise (fun a b => a.overlaps b = false) ∧
            ∀ stored ∈ next.edits, ∀ x ∈ rest, stored.overlaps x = false := by
        simp only [overwriteAll_cons_eq_ok_iff]
        rw [exists_comm]
        refine exists_congr fun next => ?_
        rw [exists_and_left]
        refine and_congr_right fun hok => ih (htidy.overwrite hok) ?_
        rwa [overwrite_text hok]
      rw [hstep, List.pairwise_cons]
      constructor
      · rintro ⟨next, hok, hapart, hfree⟩
        have hmem := fun x => (overwrite_perm hok).mem_iff (a := x)
        refine ⟨⟨fun x hx => hfree e ((hmem e).mpr List.mem_cons_self) x hx, hapart⟩, ?_⟩
        intro stored hstored
        refine List.forall_mem_cons.mpr ⟨?_, ?_⟩
        · exact (htidy.exists_overwrite_iff.mp ⟨next, hok⟩).2 stored hstored
        · exact hfree stored ((hmem stored).mpr (List.mem_cons_of_mem _ hstored))
      · rintro ⟨⟨hfirst, hapart⟩, hfree⟩
        obtain ⟨next, hok⟩ := htidy.exists_overwrite_iff.mpr
          ⟨he, fun stored hstored => hfree stored hstored e List.mem_cons_self⟩
        refine ⟨next, hok, hapart, ?_⟩
        intro stored hstored x hx
        rcases List.mem_cons.mp ((overwrite_perm hok).mem_iff.mp hstored) with rfl | hold
        · exact hfirst x hx
        · exact hfree stored hold x (List.mem_cons_of_mem _ hx)

/-- Registration keeps an overlay tidy and the text as it is. -/
theorem overwriteAll {o last : Overlay} (htidy : o.Tidy) {edits : List Edit}
    (hok : o.overwriteAll edits = .ok last) : last.Tidy ∧ last.text = o.text := by
  induction edits generalizing o with
  | nil =>
      cases hok
      exact ⟨htidy, rfl⟩
  | cons e rest ih =>
      obtain ⟨next, hnext, hlast⟩ := overwriteAll_cons_eq_ok_iff.mp hok
      rw [← overwrite_text hnext]
      exact ih (htidy.overwrite hnext) hlast

/-- Edits with one span are stored in the order in which they come. -/
theorem spanning_overwriteAll {o last : Overlay} (htidy : o.Tidy) {edits : List Edit}
    (hok : o.overwriteAll edits = .ok last) (s : Span) :
    spanning s last.edits = spanning s o.edits ++ spanning s edits := by
  induction edits generalizing o with
  | nil =>
      cases hok
      exact (List.append_nil _).symm
  | cons e rest ih =>
      obtain ⟨next, hnext, hlast⟩ := overwriteAll_cons_eq_ok_iff.mp hok
      rw [ih (htidy.overwrite hnext) hlast, htidy.spanning_overwrite hnext, List.append_assoc,
        ← spanning_append, List.singleton_append]

end Tidy

/-! ## What order can change -/

theorem mem_iff_of_spanning_eq {first second : List Edit}
    (hspanning : ∀ s, spanning s first = spanning s second) (x : Edit) :
    x ∈ first ↔ x ∈ second := by
  have hx := congrArg (x ∈ ·) (hspanning x.span)
  simpa [mem_spanning] using hx

/-- Sorted edits are known from the edits with each span. -/
theorem eq_of_spanning_eq {first second : List Edit}
    (hfirst : first.Pairwise fun a b => a.span.precedes b.span = true)
    (hsecond : second.Pairwise fun a b => a.span.precedes b.span = true)
    (hspanning : ∀ s, spanning s first = spanning s second) : first = second := by
  have hmem := mem_iff_of_spanning_eq hspanning
  induction first generalizing second with
  | nil =>
      cases second with
      | nil => rfl
      | cons b second => exact absurd ((hmem b).mpr List.mem_cons_self) (by simp)
  | cons a first ih =>
      cases second with
      | nil => exact absurd ((hmem a).mp List.mem_cons_self) (by simp)
      | cons b second =>
          obtain ⟨ha, hfirst'⟩ := List.pairwise_cons.mp hfirst
          obtain ⟨hb, hsecond'⟩ := List.pairwise_cons.mp hsecond
          -- Each head comes before the other list, so the heads have one span.
          have hab : a.span.precedes b.span = true := by
            rcases List.mem_cons.mp ((hmem b).mpr List.mem_cons_self) with rfl | hlater
            · exact Span.precedes_refl _
            · exact ha b hlater
          have hba : b.span.precedes a.span = true := by
            rcases List.mem_cons.mp ((hmem a).mp List.mem_cons_self) with rfl | hlater
            · exact Span.precedes_refl _
            · exact hb a hlater
          have hspan := Span.precedes_antisymm hab hba
          have hheads : a :: spanning a.span first = b :: spanning a.span second := by
            have hlists := hspanning a.span
            simpa [spanning, hspan] using hlists
          obtain rfl := (List.cons.inj hheads).1
          have htails : ∀ s, spanning s first = spanning s second := by
            intro s
            have hlists := hspanning s
            by_cases hs : a.span = s
            · simpa [spanning, hs] using hlists
            · simpa [spanning, hs] using hlists
          exact congrArg _ (ih hfirst' hsecond' htails (mem_iff_of_spanning_eq htails))

/-- Of edits that do not overlap at most one has a given span that is not empty. -/
theorem length_spanning_le_one {edits : List Edit} {s : Span} (hs : s.start < s.stop)
    (hapart : edits.Pairwise fun a b => a.overlaps b = false) :
    (spanning s edits).length ≤ 1 := by
  have hfree : (spanning s edits).Pairwise fun a b => a.overlaps b = false := hapart.filter _
  rcases hlist : spanning s edits with _ | ⟨a, _ | ⟨b, rest⟩⟩
  · simp
  · simp
  · exfalso
    have hspan : ∀ x ∈ spanning s edits, x.span = s := fun x hx => (mem_spanning.mp hx).2
    rw [hlist] at hfree hspan
    have hab := List.rel_of_pairwise_cons hfree List.mem_cons_self
    rw [Edit.overlaps, hspan a (by simp), hspan b (by simp), Span.overlaps_eq_false_iff] at hab
    omega

/-- Edits that do not overlap have the same edits with each span in any order that keeps
the insertions at each offset in order. -/
theorem spanning_eq_of_perm {text : String} {first second : List Edit}
    (hperm : first.Perm second) (hfits : ∀ e ∈ first, e.span.Fits text)
    (hapart : first.Pairwise fun a b => a.overlaps b = false)
    (hinsertions : ∀ offset, spanning ⟨offset, offset⟩ first = spanning ⟨offset, offset⟩ second)
    (s : Span) : spanning s first = spanning s second := by
  have hfilter : (spanning s first).Perm (spanning s second) := hperm.filter _
  rcases Nat.lt_trichotomy s.start s.stop with hlt | heq | hgt
  · have hlength := length_spanning_le_one hlt hapart
    rcases hlist : spanning s first with _ | ⟨a, _ | ⟨b, rest⟩⟩
    · rw [hlist] at hfilter
      exact hfilter.nil_eq
    · rw [hlist] at hfilter
      rw [List.singleton_perm.mp hfilter]
    · rw [hlist] at hlength
      simp at hlength
  · have hs : s = ⟨s.start, s.start⟩ := Span.eq_mk_iff.mpr ⟨rfl, heq.symm⟩
    rw [hs]
    exact hinsertions s.start
  · have hnone : spanning s first = [] := by
      apply List.filter_eq_nil_iff.mpr
      intro x hx hspan
      have hordered := (hfits x hx).ordered
      rw [of_decide_eq_true hspan] at hordered
      omega
    rw [hnone] at hfilter ⊢
    exact hfilter.nil_eq

/-- Edits that fit into a text are accepted in full exactly when no two of them overlap,
so one order is accepted when another is. Two orders that keep the insertions at each
offset in order store the same edits and finish with the same text. -/
theorem overwriteAll_perm (text : String) (edits : List Edit)
    (hfits : ∀ e ∈ edits, e.span.Fits text) :
    ((∃ o, (ofText text).overwriteAll edits = .ok o) ↔
      edits.Pairwise fun a b => a.overlaps b = false) ∧
    ((∃ o, (ofText text).overwriteAll edits = .ok o) → ∀ first second : List Edit,
      first.Perm edits → second.Perm edits →
      ∃ o₁ o₂, (ofText text).overwriteAll first = .ok o₁ ∧
        (ofText text).overwriteAll second = .ok o₂ ∧
        ((∀ offset, spanning ⟨offset, offset⟩ first = spanning ⟨offset, offset⟩ second) →
          o₁.edits = o₂.edits ∧ o₁.finalize = o₂.finalize)) := by
  have hiff : ∀ order : List Edit, order.Perm edits →
      ((∃ o, (ofText text).overwriteAll order = .ok o) ↔
        order.Pairwise fun a b => a.overlaps b = false) := by
    intro order hperm
    rw [(tidy_ofText text).exists_overwriteAll_iff fun e he => hfits e (hperm.mem_iff.mp he)]
    simp [ofText]
  refine ⟨hiff edits (.refl _), ?_⟩
  intro haccepted first second hfirst hsecond
  have hsymm : ∀ {a b : Edit}, a.overlaps b = false → b.overlaps a = false := by
    intro a b hfree
    rwa [Edit.overlaps_comm]
  have hapart := (hiff edits (.refl _)).mp haccepted
  have hapart₁ := hapart.perm hfirst.symm hsymm
  obtain ⟨o₁, hok₁⟩ := (hiff first hfirst).mpr hapart₁
  obtain ⟨o₂, hok₂⟩ := (hiff second hsecond).mpr (hapart.perm hsecond.symm hsymm)
  refine ⟨o₁, o₂, hok₁, hok₂, ?_⟩
  intro hinsertions
  obtain ⟨htidy₁, htext₁⟩ := (tidy_ofText text).overwriteAll hok₁
  obtain ⟨htidy₂, htext₂⟩ := (tidy_ofText text).overwriteAll hok₂
  have hsame := spanning_eq_of_perm (hfirst.trans hsecond.symm)
    (fun e he => hfits e (hfirst.mem_iff.mp he)) hapart₁ hinsertions
  have hedits : o₁.edits = o₂.edits := by
    refine eq_of_spanning_eq htidy₁.sorted htidy₂.sorted fun s => ?_
    rw [(tidy_ofText text).spanning_overwriteAll hok₁, (tidy_ofText text).spanning_overwriteAll hok₂,
      hsame]
  exact ⟨hedits, by rw [finalize, finalize, hedits, htext₁, htext₂]⟩

namespace Sample

/-- Two insertions in front of a replaced character, from left to right. -/
def ordered : List Edit := [⟨⟨1, 1⟩, "x"⟩, ⟨⟨1, 1⟩, "y"⟩, ⟨⟨1, 3⟩, "z"⟩]

/-- The same edits with the replacement first. -/
def shuffled : List Edit := [⟨⟨1, 3⟩, "z"⟩, ⟨⟨1, 1⟩, "x"⟩, ⟨⟨1, 1⟩, "y"⟩]

theorem spanning_ordered (offset : Nat) :
    spanning ⟨offset, offset⟩ ordered = spanning ⟨offset, offset⟩ shuffled := by
  by_cases hoffset : 1 = offset
  · subst hoffset
    decide
  · simp [spanning, ordered, shuffled, hoffset]

end Sample

/-- The insertions keep their order, and the replacement may come before or after them. -/
theorem overwriteAll_sample :
    (∀ e ∈ Sample.ordered, e.span.Fits "aéb") ∧ Sample.shuffled.Perm Sample.ordered ∧
      ∃ o₁ o₂, (ofText "aéb").overwriteAll Sample.ordered = .ok o₁ ∧
        (ofText "aéb").overwriteAll Sample.shuffled = .ok o₂ ∧
        o₁.edits = o₂.edits ∧ o₁.finalize = o₂.finalize := by
  have hfits : ∀ e ∈ Sample.ordered, e.span.Fits "aéb" := by decide +kernel
  have hperm : Sample.shuffled.Perm Sample.ordered := by decide
  obtain ⟨hiff, horders⟩ := overwriteAll_perm "aéb" Sample.ordered hfits
  obtain ⟨o₁, o₂, hok₁, hok₂, hsame⟩ :=
    horders (hiff.mpr (by decide)) Sample.ordered Sample.shuffled (.refl _) hperm
  exact ⟨hfits, hperm, o₁, o₂, hok₁, hok₂, hsame Sample.spanning_ordered⟩

end Overlay

end CallMigration
