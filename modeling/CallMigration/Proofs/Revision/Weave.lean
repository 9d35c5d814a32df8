import CallMigration.Proofs.Revision.Walk
import CallMigration.Proofs.Text.Finalize
import Mathlib.Data.List.Forall2

/-!
# What a revision changes

The replaced nodes of a well-formed file follow one another in its text, so the
revised text is the text with their parts exchanged: the same gaps, with the new texts
woven in where the old ones stood.
-/

namespace CallMigration.Revision

open Text

/-- The nodes of a file that are replaced: those with a replacement that are inside
nothing else with one. -/
def replaced (transform : Transform) (file : SourceFile) : List Node :=
  (file.root.preorder.filter (spares transform)).filter (replaces transform)

/-- What the report of a replaced node of a file says: the old text, the new one, and
the line and the column where the node starts. -/
structure Reports (transform : Transform) (file : SourceFile) (n : Node) (e : AppliedEdit) :
    Prop where
  before : e.before = n.span.textIn file.text
  after : ∃ f, transform n = .ok (some f) ∧ f.print n = .ok e.after
  location : e.location.Counts file.text n.span.start

/-! ## Replacements of nodes that do not fail -/

section Nodes

variable {transform : Transform} {nodes : List Node}

theorem exists_fragment_of_printed? {n : Node} {text : String}
    (hprinted : printed? transform n = some text) :
    ∃ f, transform n = .ok (some f) ∧ f.print n = .ok text := by
  rcases offer_cases transform n with
    ⟨e, -, hnone, -⟩ | ⟨-, hnone, -⟩ | ⟨f, text', hdecision, hprint, -, hsome, -⟩
  · cases hnone.symm.trans hprinted
  · cases hnone.symm.trans hprinted
  · rw [hsome] at hprinted
    cases hprinted
    exact ⟨f, hdecision, hprint⟩

theorem replaces_eq_isSome_printed? {n : Node} (hok : failure? transform n = none) :
    replaces transform n = (printed? transform n).isSome := by
  rcases offer_cases transform n with
    ⟨e, hsome, -, -⟩ | ⟨-, hprinted, hkept, -⟩ | ⟨f, text, -, -, -, hprinted, hreplaces⟩
  · cases hsome.symm.trans hok
  · rw [hkept, hprinted, Option.isSome_none]
  · rw [hreplaces, hprinted, Option.isSome_some]

/-- Of nodes that do not fail, what is made from the printed texts belongs to the
replaced ones. -/
theorem filterMap_printed? {α : Type} (make : Node → String → α)
    (hok : ∀ n ∈ nodes, failure? transform n = none) :
    List.Forall₂ (fun n a => ∃ text, printed? transform n = some text ∧ make n text = a)
      (nodes.filter (replaces transform))
      (nodes.filterMap fun n => (printed? transform n).map (make n)) := by
  induction nodes with
  | nil => exact .nil
  | cons n rest ih =>
      obtain ⟨hn, hrest⟩ := List.forall_mem_cons.mp hok
      rw [List.filter_cons, List.filterMap_cons, replaces_eq_isSome_printed? hn]
      cases hprinted : printed? transform n with
      | none => exact ih hrest
      | some text => exact .cons ⟨text, hprinted, rfl⟩ (ih hrest)

theorem map_span_edits (hok : ∀ n ∈ nodes, failure? transform n = none) :
    (nodes.filterMap (edit? transform)).map (·.span) =
      (nodes.filter (replaces transform)).map (·.span) := by
  have hmade := filterMap_printed? (fun n text => Edit.mk n.span text) hok
  rw [eq_comm, ← List.forall₂_eq_eq_eq, List.forall₂_map_left_iff, List.forall₂_map_right_iff]
  refine hmade.imp ?_
  rintro n e ⟨text, -, rfl⟩
  rfl

theorem map_text_edits :
    (nodes.filterMap (edit? transform)).map (·.text) =
      (nodes.filterMap (applied? transform)).map (·.after) := by
  rw [List.map_filterMap, List.map_filterMap]
  apply List.filterMap_congr
  intro n _
  simp [edit?, applied?, Function.comp_def]

theorem map_textIn_edits {file : SourceFile} (hfile : ∀ n ∈ nodes, n.file = file) :
    (nodes.filterMap (edit? transform)).map (fun e => e.span.textIn file.text) =
      (nodes.filterMap (applied? transform)).map (·.before) := by
  rw [List.map_filterMap, List.map_filterMap]
  apply List.filterMap_congr
  intro n hn
  simp [edit?, applied?, Span.textIn, Node.text, hfile n hn, Function.comp_def]

end Nodes

/-! ## A whole file -/

theorem failure?_ne_overlay (transform : Transform) (n : Node) (path : PathName)
    (location : Location) (cause : OverlayError) :
    failure? transform n ≠ some (.overlay path location cause) := by
  intro hfailure
  unfold failure? at hfailure
  split at hfailure
  · cases hfailure
  · cases hfailure
  · split at hfailure <;> cases hfailure

/-- The replacements of a well-formed file can be put into its text in one pass. -/
theorem fitsFrom_edits {transform : Transform} {file : SourceFile}
    (hwf : file.tree.WellFormed file.text) :
    Overlay.FitsFrom file.text 0
      ((candidates transform file.root).filterMap (edit? transform)) := by
  refine Overlay.fitsFrom_of_pairwise (isBoundary_zero _) (fun _ _ => Nat.zero_le _) ?_ ?_
  · intro e he
    obtain ⟨n, hn, hedit⟩ := List.mem_filterMap.mp he
    obtain ⟨text, -, rfl⟩ := Option.map_eq_some_iff.mp hedit
    exact (inside_of_mem_candidates (n := file.root) hwf hn).1
  · refine List.Pairwise.filterMap (edit? transform) ?_ (candidates_pairwise (n := file.root) hwf)
    intro a b hapart e he e' he'
    obtain ⟨text, hprinted, rfl⟩ := Option.map_eq_some_iff.mp he
    obtain ⟨text', -, rfl⟩ := Option.map_eq_some_iff.mp he'
    exact hapart (replaces_of_printed? hprinted)

theorem reports_applied {transform : Transform} {file : SourceFile}
    (hwf : file.tree.WellFormed file.text)
    (hok : ∀ n ∈ candidates transform file.root, failure? transform n = none) :
    List.Forall₂ (Reports transform file) (replaced transform file)
      ((candidates transform file.root).filterMap (applied? transform)) := by
  have hmade := filterMap_printed? (fun n text => AppliedEdit.mk n.location n.text text) hok
  rw [replaced, ← candidates_eq_filter_preorder]
  refine ((List.forall₂_and_left _ _).mpr ⟨fun n => List.mem_of_mem_filter, hmade⟩).imp ?_
  rintro n e ⟨hn, text, hprinted, rfl⟩
  have hfile := file_of_mem_candidates hn
  refine ⟨by rw [Node.text, hfile]; rfl, exists_fragment_of_printed? hprinted, ?_⟩
  rw [Node.location, hfile]
  exact Location.ofOffset_counts (inside_of_mem_candidates (n := file.root) hwf hn).1.start_boundary

theorem ofFile_of_ok {transform : Transform} {file : SourceFile}
    (hsource : file.isDeclaration = false) (hwf : file.tree.WellFormed file.text)
    (hok : ∀ n ∈ candidates transform file.root, failure? transform n = none) :
    ofFile transform file = .ok ⟨file.path, file.text,
      Overlay.render file.text 0 ((candidates transform file.root).filterMap (edit? transform)),
      (candidates transform file.root).filterMap (applied? transform)⟩ := by
  rw [ofFile, runFile_of_ok hsource hwf hok]
  rfl

/-- A revision of a well-formed source file keeps the text between the replaced nodes.
The old texts woven into these gaps are the source and stand at the spans of the
replaced nodes, the new texts woven into them are the revised text, and each report is
that of its node. No replacement is refused. -/
theorem ofFile_eq_weave (transform : Transform) (file : SourceFile)
    (hsource : file.isDeclaration = false) (hwf : file.tree.WellFormed file.text) :
    (∀ r, ofFile transform file = .ok r →
      r.source = file.text ∧
      List.Forall₂ (Reports transform file) (replaced transform file) r.edits ∧
      ∃ gaps, gaps.length = r.edits.length + 1 ∧
        r.source = weave gaps (r.edits.map (·.before)) ∧
        r.revised = weave gaps (r.edits.map (·.after)) ∧
        places 0 gaps (r.edits.map (·.before)) = (replaced transform file).map (·.span)) ∧
    ∀ path location cause, ofFile transform file ≠ .error (.overlay path location cause) := by
  rcases exists_first_failure transform (candidates transform file.root) with
    hok | ⟨first, n, rest, e, hcandidates, hok, hfailure⟩
  · rw [ofFile_of_ok hsource hwf hok]
    refine ⟨?_, by simp⟩
    intro r hr
    cases hr
    let edits := (candidates transform file.root).filterMap (edit? transform)
    have hfrom : Overlay.FitsFrom file.text 0 edits := fitsFrom_edits hwf
    have hafter : edits.map (·.text) = _ := map_text_edits
    have hbefore : edits.map (fun e => e.span.textIn file.text) = _ :=
      map_textIn_edits fun _ => file_of_mem_candidates
    have hlength := congrArg List.length hafter
    rw [List.length_map, List.length_map] at hlength
    -- The gaps are what the text has between the replacements.
    refine ⟨rfl, reports_applied hwf hok,
      (Overlay.gaps file.text.utf8ByteSize 0 edits).map (Span.textIn file.text), ?_, ?_, ?_, ?_⟩
    · rw [List.length_map, Overlay.length_gaps, hlength]
    · rw [← hbefore, ← hfrom.sliceFrom_eq_weave, sliceFrom_zero]
    · rw [Overlay.render_eq_weave, ← hafter]
    · rw [← hbefore, hfrom.places_eq, map_span_edits hok, replaced,
        candidates_eq_filter_preorder]
  · rw [ofFile, runFile_of_failure hsource hwf hcandidates hok hfailure]
    refine ⟨by simp, ?_⟩
    intro path location cause herror
    rw [Except.error.inj herror] at hfailure
    exact failure?_ne_overlay transform n path location cause hfailure

namespace Sample

/-- The name `b` becomes `cc`. -/
def rename : Transform := fun n =>
  .ok (if n.kind = "identifier" ∧ n.text = "b" then some (.identifier "cc") else none)

def renamed : Revision where
  path := ⟨"a.ts"⟩
  source := "f(é, b);\nb;"
  revised := "f(é, cc);\ncc;"
  edits := [⟨⟨1, 7⟩, "b", "cc"⟩, ⟨⟨2, 1⟩, "b", "cc"⟩]

theorem ofFile_rename : ofFile rename file = .ok renamed := by
  have hrun : (ofFile rename file).toOption = some renamed := by decide +kernel
  cases hresult : ofFile rename file with
  | error e => simp [hresult, Except.toOption] at hrun
  | ok r => simpa [hresult, Except.toOption] using hrun

end Sample

/-- The columns count bytes, and the text between the names stays. -/
theorem weave_sample :
    Sample.file.isDeclaration = false ∧ Sample.file.tree.WellFormed Sample.file.text ∧
      ofFile Sample.rename Sample.file = .ok Sample.renamed ∧
      ∃ gaps, gaps.length = 3 ∧ Sample.renamed.source = weave gaps ["b", "b"] ∧
        Sample.renamed.revised = weave gaps ["cc", "cc"] ∧
        places 0 gaps ["b", "b"] = [⟨6, 7⟩, ⟨10, 11⟩] := by
  have hsource : Sample.file.isDeclaration = false := by decide +kernel
  have hwf : Sample.file.tree.WellFormed Sample.file.text := by decide +kernel
  obtain ⟨-, -, gaps, hlength, hbefore, hafter, hplaces⟩ :=
    (ofFile_eq_weave Sample.rename Sample.file hsource hwf).1 _ Sample.ofFile_rename
  have hreplaced : (replaced Sample.rename Sample.file).map (·.span) = [⟨6, 7⟩, ⟨10, 11⟩] := by
    decide +kernel
  exact ⟨hsource, hwf, Sample.ofFile_rename, gaps, hlength, hbefore, hafter,
    hplaces.trans hreplaced⟩

end CallMigration.Revision
