import CallMigration.Config.Settings
import CallMigration.Proofs.Migration.Untracked
import CallMigration.Proofs.Revision.Comparison

/-!
# Valid settings

Settings without an issue list each deprecated name once, with a replacement that is an
identifier and a fallback that can be written. The replacement calls of such settings are
made of these and of arguments of the call in question, which stand in the file that is
revised, so each of them can be written. All that can stop the revision of a file of the
program is then a name without a declaration.
-/

namespace CallMigration

/-! ## Writable fragments -/

namespace Fragment

/-- A fragment with nothing in it that cannot be written into a file. -/
inductive Writable (site : SourceFile) : Fragment → Prop
  | node {n : Node} (hfile : n.file.same site = true) : Writable site (node n)
  | identifier {name : String} (hname : Text.isIdentifier name = true) :
      Writable site (identifier name)
  | literal {value : Literal} {text : String} (hvalue : value.render = .ok text) :
      Writable site (literal value)
  | property {object : Fragment} {optional : Bool} {name : String}
      (hobject : Writable site object) (hname : Text.isIdentifier name = true) :
      Writable site (property object optional name)
  | call {callee : Fragment} {arguments : List Fragment} (hcallee : Writable site callee)
      (harguments : ∀ a ∈ arguments, Writable site a) : Writable site (call callee arguments)
  | binary {left right : Fragment} {op : LogicalOperator} (hleft : Writable site left)
      (hright : Writable site right) : Writable site (binary left op right)

theorem exists_renderAllIn {site : SourceFile} {fs : List Fragment}
    (hfs : ∀ f ∈ fs, ∃ text, renderIn site .any f = .ok text) :
    ∃ texts, renderAllIn site fs = .ok texts := by
  induction fs with
  | nil => exact ⟨[], by rw [renderAllIn]⟩
  | cons f fs ih =>
      obtain ⟨⟨text, hf⟩, hrest⟩ := List.forall_mem_cons.mp hfs
      obtain ⟨texts, hfs⟩ := ih hrest
      refine ⟨text :: texts, ?_⟩
      rw [renderAllIn, hf, hfs]
      rfl

/-- A writable fragment is written, wherever it goes. -/
theorem Writable.exists_renderIn {site : SourceFile} {f : Fragment} (hf : Writable site f)
    (slot : Slot) : ∃ text, renderIn site slot f = .ok text := by
  induction hf generalizing slot with
  | node hfile => exact ⟨_, by rw [renderIn, embeddedText, if_pos hfile]; rfl⟩
  | identifier hname => exact ⟨_, by rw [renderIn, checkedName, if_pos hname]; rfl⟩
  | literal hvalue => exact ⟨_, by rw [renderIn, hvalue]; rfl⟩
  | @property object optional name _ hname ih =>
      obtain ⟨base, hbase⟩ := ih (if object.isInteger then .any else .atLeast .member)
      exact ⟨_, by rw [renderIn, checkedName, if_pos hname, hbase]; rfl⟩
  | call _ _ ih iharguments =>
      obtain ⟨base, hbase⟩ := ih (.atLeast .member)
      obtain ⟨parts, hparts⟩ := exists_renderAllIn fun a ha => iharguments a ha .any
      exact ⟨_, by rw [renderIn, hbase, hparts]; rfl⟩
  | @binary _ _ op _ _ ihleft ihright =>
      obtain ⟨l, hl⟩ := ihleft (.operand op.precedence (some op.token))
      obtain ⟨r, hr⟩ := ihright (.operand op.precedence.next (some op.token))
      exact ⟨_, by rw [renderIn, hl, hr]; rfl⟩

end Fragment

namespace Migration

variable {migrations : List Migration} {policy : NullabilityPolicy} {p : Program} {n : Node}

/-! ## Valid migrations -/

/-- What replaces a call under this migration can be written. -/
structure Valid (m : Migration) : Prop where
  replacement : Text.isIdentifier m.replacement = true
  fallback : ∃ text, m.fallback.render = .ok text

/-- The subject and the other arguments are listed in the call. -/
theorem mem_of_splitArguments? {m : Migration} {subject : Node} {others : List Node}
    (hsplit : (callArguments? n).bind m.splitArguments? = some (subject, others)) :
    ∃ list, n.field? "arguments" = some list ∧ subject ∈ list.constructs ∧
      ∀ other ∈ others, other ∈ list.constructs := by
  obtain ⟨arguments, harguments, hsplit⟩ := Option.bind_eq_some_iff.mp hsplit
  obtain ⟨list, hlist, rfl⟩ := Option.map_eq_some_iff.mp harguments
  refine ⟨list, (Option.filter_eq_some_iff.mp hlist).1, ?_⟩
  unfold splitArguments? at hsplit
  split at hsplit
  · cases hsplit
  · split at hsplit
    next found hfound =>
      cases hsplit
      exact ⟨List.mem_of_getElem? hfound, fun _ => List.mem_of_mem_eraseIdx⟩
    next => cases hsplit

/-- The arguments of a call stand in the file of the call. -/
theorem file_of_splitArguments? {m : Migration} {subject : Node} {others : List Node}
    (hsplit : (callArguments? n).bind m.splitArguments? = some (subject, others)) :
    subject.file = n.file ∧ ∀ other ∈ others, other.file = n.file := by
  obtain ⟨list, hlist, hsubject, hothers⟩ := mem_of_splitArguments? hsplit
  have hbelow : ∀ a ∈ list.constructs, a.file = n.file := by
    intro a ha
    obtain ⟨t, -, i, rfl⟩ := Node.exists_of_mem_children (List.mem_of_mem_filter ha)
    obtain ⟨t', -, j, rfl⟩ := Node.exists_of_mem_children (List.mem_of_find?_eq_some hlist)
    rfl
  exact ⟨hbelow subject hsubject, fun other hother => hbelow other (hothers other hother)⟩

theorem Valid.writable_replacementCall {m : Migration} (hm : m.Valid) {site : SourceFile}
    {subject : Node} {others : List Node} (hsubject : subject.file = site)
    (hothers : ∀ other ∈ others, other.file = site) (nullable : Bool) :
    (m.replacementCall subject others nullable).Writable site := by
  have hnode : ∀ a : Node, a.file = site → (Fragment.node a).Writable site := by
    rintro a rfl
    exact .node a.file.same_self
  have hcall : (Fragment.call (.property (.node subject) nullable m.replacement)
      (others.map Fragment.node)).Writable site := by
    refine .call (.property (hnode subject hsubject) hm.replacement) ?_
    intro f hf
    obtain ⟨other, hother, rfl⟩ := List.mem_map.mp hf
    exact hnode other (hothers other hother)
  obtain ⟨text, hfallback⟩ := hm.fallback
  cases nullable with
  | true => exact .binary hcall (.literal hfallback)
  | false => exact hcall

/-- The node is a call of a member of this name. -/
def CallsMember (n : Node) (name : String) : Prop :=
  n.kind = "call_expression" ∧ ∃ callee member, n.field? "function" = some callee ∧
    callee.kind = "member_expression" ∧ callee.field? "property" = some member ∧
      member.text = name

/-- A node calls for the migration that is found for the name of the member it calls. -/
theorem forNode?_eq_some_iff_find? {m : Migration} :
    forNode? migrations n = some m ↔
      ∃ name, CallsMember n name ∧ find? migrations name = some m := by
  unfold forNode? CallsMember
  by_cases hcall : n.kind = "call_expression"
  · rw [if_neg (by simpa using hcall)]
    constructor
    · intro hm
      obtain ⟨callee, hcallee, hm⟩ := Option.bind_eq_some_iff.mp hm
      split at hm
      · cases hm
      next hkind =>
        obtain ⟨member, hmember, hm⟩ := Option.bind_eq_some_iff.mp hm
        have hkind : callee.kind = "member_expression" := by simpa using hkind
        exact ⟨member.text, ⟨hcall, callee, member, hcallee, hkind, hmember, rfl⟩, hm⟩
    · rintro ⟨_, ⟨-, callee, member, hcallee, hkind, hmember, rfl⟩, hm⟩
      refine Option.bind_eq_some_iff.mpr ⟨callee, hcallee, ?_⟩
      rw [if_neg (by simpa using hkind)]
      exact Option.bind_eq_some_iff.mpr ⟨member, hmember, hm⟩
  · rw [if_pos (by simpa using hcall)]
    simp [hcall]

theorem mem_of_find? {m : Migration} {name : String} (hfind : find? migrations name = some m) :
    m ∈ migrations ∧ m.deprecated = name := by
  unfold find? at hfind
  have hname := List.find?_some hfind
  exact ⟨List.mem_reverse.mp (List.mem_of_find?_eq_some hfind), eq_of_beq hname⟩

theorem mem_of_forNode? {m : Migration} (hm : forNode? migrations n = some m) :
    m ∈ migrations := by
  obtain ⟨name, -, hfind⟩ := forNode?_eq_some_iff_find?.mp hm
  exact (mem_of_find? hfind).1

/-- What replaces a node under valid migrations is written. -/
theorem exists_print (hvalid : ∀ m ∈ migrations, m.Valid) {f : Fragment}
    (hsome : transform migrations policy p n = .ok (some f)) : ∃ text, f.print n = .ok text := by
  obtain ⟨m, subject, others, nullable, hm, hsplit, -, rfl⟩ := transform_eq_some hsome
  obtain ⟨hsubject, hothers⟩ := file_of_splitArguments? hsplit
  have hm := hvalid m (mem_of_forNode? hm)
  exact (hm.writable_replacementCall hsubject hothers nullable).exists_renderIn _

theorem failure?_eq_none (hvalid : ∀ m ∈ migrations, m.Valid) {f : Fragment}
    (hsome : transform migrations policy p n = .ok (some f)) :
    Revision.failure? (transform migrations policy p) n = none := by
  obtain ⟨text, hprint⟩ := exists_print hvalid hsome
  rw [Revision.failure?, hsome]
  dsimp only
  rw [hprint]

/-! ## Distinct names -/

theorem find?_eq_some_iff (hdistinct : (migrations.map deprecated).Nodup) {name : String}
    {m : Migration} :
    find? migrations name = some m ↔ m ∈ migrations ∧ m.deprecated = name := by
  constructor
  · exact mem_of_find?
  · rintro ⟨hm, rfl⟩
    have hsome : (find? migrations m.deprecated).isSome = true :=
      List.find?_isSome.mpr ⟨m, List.mem_reverse.mpr hm, beq_self_eq_true _⟩
    obtain ⟨found, hfound⟩ := Option.isSome_iff_exists.mp hsome
    obtain ⟨hmem, hname⟩ := mem_of_find? hfound
    rw [hfound, List.inj_on_of_nodup_map hdistinct hmem hm hname]

theorem forNode?_eq_some_iff_mem (hdistinct : (migrations.map deprecated).Nodup)
    {m : Migration} :
    forNode? migrations n = some m ↔ m ∈ migrations ∧ CallsMember n m.deprecated := by
  rw [forNode?_eq_some_iff_find?]
  constructor
  · rintro ⟨name, hcalls, hfind⟩
    obtain ⟨hm, rfl⟩ := (find?_eq_some_iff hdistinct).mp hfind
    exact ⟨hm, hcalls⟩
  · rintro ⟨hm, hcalls⟩
    exact ⟨m.deprecated, hcalls, (find?_eq_some_iff hdistinct).mpr ⟨hm, rfl⟩⟩

/-- A node is replaced under the one migration that is listed for the member it calls. -/
theorem transform_eq_some_iff_mem (hdistinct : (migrations.map deprecated).Nodup)
    {f : Fragment} :
    transform migrations policy p n = .ok (some f) ↔
      ∃ m ∈ migrations, CallsMember n m.deprecated ∧ ∃ subject others nullable,
        (callArguments? n).bind m.splitArguments? = some (subject, others) ∧
        p.isNullableAt policy subject = .ok nullable ∧
        f = m.replacementCall subject others nullable := by
  constructor
  · intro hsome
    obtain ⟨m, subject, others, nullable, hm, hsplit, hnullable, rfl⟩ := transform_eq_some hsome
    obtain ⟨hmem, hcalls⟩ := (forNode?_eq_some_iff_mem hdistinct).mp hm
    exact ⟨m, hmem, hcalls, subject, others, nullable, hsplit, hnullable, rfl⟩
  · rintro ⟨m, hmem, hcalls, subject, others, nullable, hsplit, hnullable, rfl⟩
    have hm := (forNode?_eq_some_iff_mem hdistinct).mpr ⟨hmem, hcalls⟩
    exact transform_of_call hm hsplit hnullable

/-! ## Errors of a transform -/

/-- A decision depends on the program only through the type of one argument. -/
theorem transform_cases (migrations : List Migration) (n : Node) :
    (∀ policy p, transform migrations policy p n = .ok none) ∨
      ∃ (m : Migration) (subject : Node) (others : List Node),
        (callArguments? n).bind m.splitArguments? = some (subject, others) ∧
        ∀ policy p, transform migrations policy p n =
          match p.isNullableAt policy subject with
          | .error e => .error e
          | .ok nullable => .ok (some (m.replacementCall subject others nullable)) := by
  unfold transform
  cases forNode? migrations n with
  | none => exact .inl fun _ _ => rfl
  | some m =>
      dsimp only
      cases hsplit : (callArguments? n).bind m.splitArguments? with
      | none => exact .inl fun _ _ => rfl
      | some found =>
          obtain ⟨subject, others⟩ := found
          exact .inr ⟨m, subject, others, hsplit, fun _ _ => rfl⟩

theorem transform_eq_error {e : TypeQueryError}
    (herror : transform migrations policy p n = .error e) :
    ∃ subject, subject.file = n.file ∧ p.typeAt subject = .error e := by
  rcases transform_cases migrations n with hkept | ⟨m, subject, others, hsplit, hdecision⟩
  · cases (hkept policy p).symm.trans herror
  · refine ⟨subject, (file_of_splitArguments? hsplit).1, ?_⟩
    rw [hdecision, Program.isNullableAt] at herror
    cases htype : p.typeAt subject with
    | ok t =>
        rw [htype] at herror
        cases herror
    | error cause =>
        rw [htype] at herror
        cases herror
        rfl

theorem failure?_transform (hvalid : ∀ m ∈ migrations, m.Valid) {e : RevisionError}
    (hfailure : Revision.failure? (transform migrations policy p) n = some e) :
    ∃ cause, transform migrations policy p n = .error cause ∧
      e = .typeQuery n.file.path n.location cause := by
  cases hdecision : transform migrations policy p n with
  | error cause =>
      rw [Revision.failure?, hdecision] at hfailure
      exact ⟨cause, rfl, (Option.some.inj hfailure).symm⟩
  | ok decision =>
      cases decision with
      | none =>
          rw [Revision.failure?, hdecision] at hfailure
          cases hfailure
      | some f => cases (failure?_eq_none hvalid hdecision).symm.trans hfailure

end Migration

namespace Settings

/-! ## Settings without issues -/

theorem isIdentifier_of_nameIssues {id : Option String} {field value : String}
    (hnone : nameIssues id field value = []) : Text.isIdentifier value = true := by
  unfold nameIssues at hnone
  split at hnone
  · cases hnone
  · split at hnone
    next hname => exact hname
    next => cases hnone

theorem exists_render_of_fallbackIssues {id : Option String} {value : Literal}
    (hnone : fallbackIssues id value = []) : ∃ text, value.render = .ok text := by
  cases value with
  | number value =>
      rw [fallbackIssues] at hnone
      split at hnone
      next hfinite => exact ⟨value.render, by rw [Literal.render, if_pos hfinite]⟩
      next => cases hnone
  | _ => exact ⟨_, rfl⟩

theorem valid_of_migrationIssues {seen : List String} {m : Migration}
    (hnone : migrationIssues seen m = []) : m.Valid ∧ m.deprecated ∉ seen := by
  simp only [migrationIssues, List.append_eq_nil_iff] at hnone
  obtain ⟨⟨⟨⟨hdeprecated, hreplacement⟩, hduplicate⟩, -⟩, hfallback⟩ := hnone
  refine ⟨⟨isIdentifier_of_nameIssues hreplacement, exists_render_of_fallbackIssues hfallback⟩, ?_⟩
  -- An empty name would be no identifier, so the search for a duplicate is made.
  have hname : m.deprecated ≠ "" := by
    intro hempty
    have hidentifier := isIdentifier_of_nameIssues hdeprecated
    rw [hempty] at hidentifier
    exact absurd hidentifier (by decide)
  simpa [hname] using hduplicate

theorem valid_of_migrationsIssues {seen : List String} {ms : List Migration}
    (hnone : migrationsIssues seen ms = []) :
    (∀ m ∈ ms, m.Valid ∧ m.deprecated ∉ seen) ∧ (ms.map Migration.deprecated).Nodup := by
  induction ms generalizing seen with
  | nil => simp
  | cons m ms ih =>
      obtain ⟨hhead, hrest⟩ := List.append_eq_nil_iff.mp hnone
      obtain ⟨hvalid, hdistinct⟩ := ih hrest
      refine ⟨List.forall_mem_cons.mpr ⟨valid_of_migrationIssues hhead, ?_⟩, ?_⟩
      · intro m' hm'
        obtain ⟨hm', hfresh⟩ := hvalid m' hm'
        exact ⟨hm', fun hseen => hfresh (List.mem_cons_of_mem _ hseen)⟩
      · -- The later entries were checked with this name among those before them.
        refine List.nodup_cons.mpr ⟨?_, hdistinct⟩
        intro hagain
        obtain ⟨m', hm', hname⟩ := List.mem_map.mp hagain
        exact (hvalid m' hm').2 (hname ▸ List.mem_cons_self)

variable {s : Settings}

theorem migrationsIssues_of_issues (hissues : s.issues = []) :
    migrationsIssues [] s.migrations = [] := by
  simp only [issues, List.append_eq_nil_iff] at hissues
  exact hissues.1.2

theorem valid_migrations (hissues : s.issues = []) : ∀ m ∈ s.migrations, m.Valid :=
  fun m hm => ((valid_of_migrationsIssues (migrationsIssues_of_issues hissues)).1 m hm).1

theorem nodup_migrations (hissues : s.issues = []) :
    (s.migrations.map Migration.deprecated).Nodup :=
  (valid_of_migrationsIssues (migrationsIssues_of_issues hissues)).2

/-- With valid settings the revision of a source file of a program succeeds, unless the
type of an argument needs a name that has no declaration. In particular every replacement
can be written, none is refused, and no type is asked for outside the program. The
migration of a deprecated name is the one that the settings list for it: a node calls for the
listed migration whose deprecated name is that of the member it calls, and under no other one
is the node replaced. -/
theorem ofFile_of_valid (s : Settings) (hissues : s.issues = []) :
    (∀ (p : Program) (file : SourceFile), file ∈ p.files → file.isDeclaration = false →
      file.tree.WellFormed file.text →
      (∃ r, Revision.ofFile (s.transform p) file = .ok r) ∨
        ∃ n m : Node, n.file = file ∧ Undeclared p m ∧
          Revision.ofFile (s.transform p) file =
            .error (.typeQuery file.path n.location
              (.unresolvedSymbol m.text m.file.path m.location))) ∧
      (∀ name m, Migration.find? s.migrations name = some m ↔
        m ∈ s.migrations ∧ m.deprecated = name) ∧
      (∀ n m, Migration.forNode? s.migrations n = some m ↔
        m ∈ s.migrations ∧ Migration.CallsMember n m.deprecated) ∧
      ∀ p n f, s.transform p n = .ok (some f) ↔
        ∃ m ∈ s.migrations, Migration.CallsMember n m.deprecated ∧ ∃ subject others nullable,
          (Migration.callArguments? n).bind m.splitArguments? = some (subject, others) ∧
          p.isNullableAt s.nullability subject = .ok nullable ∧
          f = m.replacementCall subject others nullable := by
  have hdistinct := nodup_migrations hissues
  refine ⟨?_, fun name m => Migration.find?_eq_some_iff hdistinct,
    fun n m => Migration.forNode?_eq_some_iff_mem hdistinct,
    fun p n f => Migration.transform_eq_some_iff_mem hdistinct⟩
  intro p file hfile hsource hwf
  rcases Revision.exists_first_failure (s.transform p)
      (Revision.candidates (s.transform p) file.root) with
    hok | ⟨first, n, rest, e, hcandidates, hok, hfailure⟩
  · exact .inl ⟨_, Revision.ofFile_of_ok hsource hwf hok⟩
  · -- The first node that fails has an argument in the file whose type cannot be told.
    obtain ⟨cause, hcause, rfl⟩ :=
      Migration.failure?_transform (valid_migrations hissues) hfailure
    obtain ⟨subject, hsubject, htype⟩ := Migration.transform_eq_error hcause
    have hn : n.file = file := Revision.file_of_mem_candidates (by rw [hcandidates]; simp)
    have hcontains : p.contains subject.file = true := by
      rw [hsubject, hn]
      exact Program.contains_of_mem hfile
    rcases Program.typeAt_cases hcontains with ⟨t, ht⟩ | ⟨m, -, hmissing, hm⟩
    · cases ht.symm.trans htype
    · cases hm.symm.trans htype
      refine .inr ⟨n, m, hn, hmissing, ?_⟩
      rw [Revision.ofFile, Revision.runFile_of_failure hsource hwf hcandidates hok hfailure, hn]
      rfl

/-- The standard settings are valid, and carry out their migration in a sample program. -/
theorem ofFile_of_standard :
    standard.issues = [] ∧ Migration.Sample.file.isDeclaration = false ∧
      Migration.Sample.file.tree.WellFormed Migration.Sample.file.text ∧
      (∃ r, Revision.ofFile (standard.transform (Migration.Sample.program true))
        Migration.Sample.file = .ok r) ∧
      Migration.find? standard.migrations "deprecated_some" = some Migration.standard ∧
      Migration.forNode? standard.migrations Migration.Sample.call = some Migration.standard := by
  have hissues : standard.issues = [] := by decide +kernel
  have hsource : Migration.Sample.file.isDeclaration = false := by decide +kernel
  have hwf : Migration.Sample.file.tree.WellFormed Migration.Sample.file.text := by decide +kernel
  have hcalls : Migration.CallsMember Migration.Sample.call "deprecated_some" :=
    ⟨by decide +kernel, _, _, rfl, by decide +kernel, rfl, by decide +kernel⟩
  have hlisted : Migration.standard ∈ standard.migrations := List.mem_singleton_self _
  obtain ⟨hrevised, hfind, hcalled, -⟩ := ofFile_of_valid standard hissues
  refine ⟨hissues, hsource, hwf, ?_, (hfind _ _).mpr ⟨hlisted, rfl⟩,
    (hcalled _ _).mpr ⟨hlisted, hcalls⟩⟩
  rcases hrevised (Migration.Sample.program true) Migration.Sample.file
      (List.mem_singleton_self _) hsource hwf with hok | ⟨_, _, _, _, herror⟩
  · exact hok
  · have hsome : (Revision.ofFile (standard.transform (Migration.Sample.program true))
        Migration.Sample.file).toOption.isSome = true := by decide +kernel
    rw [herror] at hsome
    cases hsome

end Settings

end CallMigration
