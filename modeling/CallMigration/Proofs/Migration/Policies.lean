import CallMigration.Proofs.Migration.Valid

/-!
# One migration under several policies

Whether absent values are tracked, and which ones count, decides how a call is rewritten,
but not whether it is. Valid settings that list the same migrations and globals therefore
go through a file alike: they offer the same nodes, replace the same ones and fail with the
same errors. The policy that counts more values as absent rewrites more calls into the form
with a fallback.
-/

namespace CallMigration

open Checker

/-! ## Types under other options -/

namespace Program

variable {p q : Program} {n : Node}

/-- How types are shown has no influence on the errors. -/
theorem isNullableAt_eq_error_iff (hfiles : q.files = p.files)
    (hglobals : q.options.ambientGlobals = p.options.ambientGlobals)
    (policy policy' : NullabilityPolicy) (n : Node) (e : TypeQueryError) :
    q.isNullableAt policy' n = .error e ↔ p.isNullableAt policy n = .error e := by
  unfold isNullableAt typeAt contains
  rw [hfiles, trackedTypeAt_congr hfiles hglobals]
  generalize p.files.any (·.same n.file) = known
  cases known
  · exact Iff.rfl
  · cases p.trackedTypeAt n <;> simp

end Program

theorem NullabilityPolicy.isNullable_mono {t : StaticType}
    (ht : nullOnly.isNullable t = true) : nullOrUndefined.isNullable t = true := by
  obtain ⟨hunion, hmember⟩ := Bool.and_eq_true_iff.mp ht
  obtain ⟨m, hm, hnull⟩ := List.any_eq_true.mp hmember
  refine Bool.and_eq_true_iff.mpr ⟨hunion, List.any_eq_true.mpr ⟨m, hm, ?_⟩⟩
  exact Bool.or_eq_true_iff.mpr (.inl hnull)

namespace Migration

variable {migrations : List Migration} {p q : Program} {policy policy' : NullabilityPolicy}

/-- Where nullability has the same errors, the decisions are alike. -/
theorem transform_alike (hvalid : ∀ m ∈ migrations, m.Valid)
    (herrors : ∀ n e, q.isNullableAt policy' n = .error e ↔ p.isNullableAt policy n = .error e) :
    Revision.Alike (transform migrations policy p) (transform migrations policy' q) := by
  have hsame : ∀ n,
      Revision.replaces (transform migrations policy' q) n =
        Revision.replaces (transform migrations policy p) n ∧
      Revision.failure? (transform migrations policy' q) n =
        Revision.failure? (transform migrations policy p) n := by
    intro n
    rcases transform_cases migrations n with hkept | ⟨m, subject, others, -, hdecision⟩
    · simp [Revision.replaces, Revision.failure?, hkept]
    · have hp := hdecision policy p
      have hq := hdecision policy' q
      cases hnullable : p.isNullableAt policy subject with
      | error e =>
          rw [hnullable] at hp
          rw [(herrors subject e).mpr hnullable] at hq
          simp [Revision.replaces, Revision.failure?, hp, hq]
      | ok nullable =>
          -- The new texts may differ, but both are written.
          obtain ⟨nullable', hnullable'⟩ : ∃ b, q.isNullableAt policy' subject = .ok b := by
            cases hother : q.isNullableAt policy' subject with
            | ok b => exact ⟨b, rfl⟩
            | error e => cases hnullable.symm.trans ((herrors subject e).mp hother)
          rw [hnullable] at hp
          rw [hnullable'] at hq
          rw [failure?_eq_none hvalid hp, failure?_eq_none hvalid hq]
          simp [Revision.replaces, hp, hq]
  exact ⟨funext fun n => (hsame n).1, funext fun n => (hsame n).2⟩

/-- A call that gets a fallback for `null` gets it when `undefined` counts as well. -/
theorem transform_coalesce_mono {n : Node} {call fallback : Fragment}
    (hsome : transform migrations .nullOnly p n = .ok (some (.binary call .coalesce fallback))) :
    transform migrations .nullOrUndefined p n =
      .ok (some (.binary call .coalesce fallback)) := by
  rcases transform_cases migrations n with hkept | ⟨m, subject, others, -, hdecision⟩
  · cases (hkept .nullOnly p).symm.trans hsome
  · rw [hdecision, Program.isNullableAt] at hsome ⊢
    cases htype : p.typeAt subject with
    | error e =>
        rw [htype] at hsome
        cases hsome
    | ok t =>
        rw [htype] at hsome
        dsimp only at hsome ⊢
        cases hnullable : NullabilityPolicy.nullOnly.isNullable t with
        | false =>
            rw [hnullable] at hsome
            cases hsome
        | true =>
            rw [NullabilityPolicy.isNullable_mono hnullable]
            rwa [hnullable] at hsome

end Migration

namespace Settings

/-- The same migrations and globals, with absent values treated in a given way. -/
def treating (s : Settings) (strict : Bool) (policy : NullabilityPolicy) : Settings :=
  { s with strict := strict, nullability := policy }

/-- The transform that carries out the migrations in files that are checked as the
settings say. -/
def forFiles (s : Settings) (files : List SourceFile) : Transform :=
  s.transform ⟨files, s.options⟩

/-- However valid settings treat absent values, a file is revised alike: the same nodes are
offered, the run fails at the same node with the same error or exchanges the same nodes,
in the same order. A call whose replacement has a fallback when only `null` counts as
absent has the same replacement when `undefined` counts too. -/
theorem revision_treating (s : Settings) (hissues : s.issues = []) (files : List SourceFile)
    (file : SourceFile) (hsource : file.isDeclaration = false)
    (hwf : file.tree.WellFormed file.text) (strict strict' : Bool)
    (policy policy' : NullabilityPolicy) :
    let one := (s.treating strict policy).forFiles files
    let other := (s.treating strict' policy').forFiles files
    (Revision.runFile other file).offered = (Revision.runFile one file).offered ∧
      (∀ n, Revision.failure? other n = Revision.failure? one n) ∧
      (∀ e, Revision.ofFile other file = .error e ↔ Revision.ofFile one file = .error e) ∧
      (∀ r r', Revision.ofFile one file = .ok r → Revision.ofFile other file = .ok r' →
        let sites := Revision.replaced one file
        Revision.Exchanges one file sites r ∧ Revision.Exchanges other file sites r') ∧
      ∀ n call fallback,
        (s.treating true .nullOnly).forFiles files n =
          .ok (some (.binary call .coalesce fallback)) →
        (s.treating true .nullOrUndefined).forFiles files n =
          .ok (some (.binary call .coalesce fallback)) := by
  intro one other
  have halike : Revision.Alike one other := by
    apply Migration.transform_alike (valid_migrations hissues)
    intro n e
    exact Program.isNullableAt_eq_error_iff (p := ⟨files, (s.treating strict policy).options⟩)
      (q := ⟨files, (s.treating strict' policy').options⟩) rfl rfl policy policy' n e
  obtain ⟨hoffered, herrors⟩ := halike.run hsource hwf
  refine ⟨hoffered, congrFun halike.failure, herrors, ?_,
    fun _ _ _ => Migration.transform_coalesce_mono⟩
  intro r r' hr hr'
  refine ⟨Revision.exchanges_of_ok hsource hwf hr, ?_⟩
  rw [← halike.replaced]
  exact Revision.exchanges_of_ok hsource hwf hr'

/-- The same call is rewritten with a fallback, or without one when absent values are not
tracked. -/
theorem revision_treating_sample :
    standard.issues = [] ∧ Migration.Sample.file.isDeclaration = false ∧
      Migration.Sample.file.tree.WellFormed Migration.Sample.file.text ∧
      let one := (standard.treating true .nullOnly).forFiles [Migration.Sample.file]
      let other := (standard.treating false .nullOrUndefined).forFiles [Migration.Sample.file]
      ∃ r r', Revision.ofFile one Migration.Sample.file = .ok r ∧
        Revision.ofFile other Migration.Sample.file = .ok r' ∧
        r.revised = "let x: A | null;\nx?.some() ?? false;" ∧
        r'.revised = "let x: A | null;\nx.some();" ∧
        let sites := Revision.replaced one Migration.Sample.file
        Revision.Exchanges one Migration.Sample.file sites r ∧
          Revision.Exchanges other Migration.Sample.file sites r' := by
  have hissues : standard.issues = [] := by decide +kernel
  have hsource : Migration.Sample.file.isDeclaration = false := by decide +kernel
  have hwf : Migration.Sample.file.tree.WellFormed Migration.Sample.file.text := by decide +kernel
  obtain ⟨-, -, -, hsites, -⟩ := revision_treating standard hissues [Migration.Sample.file]
    Migration.Sample.file hsource hwf true false .nullOnly .nullOrUndefined
  refine ⟨hissues, hsource, hwf, ?_⟩
  intro one other
  have hone : (Revision.ofFile one Migration.Sample.file).toOption.map (·.revised) =
      some "let x: A | null;\nx?.some() ?? false;" := by decide +kernel
  have hother : (Revision.ofFile other Migration.Sample.file).toOption.map (·.revised) =
      some "let x: A | null;\nx.some();" := by decide +kernel
  obtain ⟨r, hr, htext⟩ := Revision.exists_ok_of_revised hone
  obtain ⟨r', hr', htext'⟩ := Revision.exists_ok_of_revised hother
  exact ⟨r, r', hr, hr', htext, htext', hsites r r' hr hr'⟩

end Settings

end CallMigration
