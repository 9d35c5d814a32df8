import CallMigration.Proofs.Revision.Offers
import CallMigration.Proofs.Text.Overlay

/-!
# Runs of a transform

In a well-formed file no replacement is refused: each one starts behind those
registered before it. A run therefore offers the candidates of the file in order and
ends at the first whose decision or text fails. A run over a program is the runs over
its files, up to the first that fails.
-/

namespace CallMigration.Revision

/-! ## One node -/

/-- The error with which a node ends a run: the transform fails on it, or what replaces
it cannot be written. -/
def failure? (transform : Transform) (n : Node) : Option RevisionError :=
  match transform n with
  | .error e => some (.typeQuery n.file.path n.location e)
  | .ok none => none
  | .ok (some f) =>
      match f.print n with
      | .error e => some (.render n.file.path n.location e)
      | .ok _ => none

/-- The text that replaces a node, if there is one. -/
def printed? (transform : Transform) (n : Node) : Option String :=
  match transform n with
  | .ok (some f) => (f.print n).toOption
  | _ => none

/-- The edit that replaces a node. -/
def edit? (transform : Transform) (n : Node) : Option Edit :=
  (printed? transform n).map fun text => ⟨n.span, text⟩

/-- The report of a replaced node. -/
def applied? (transform : Transform) (n : Node) : Option AppliedEdit :=
  (printed? transform n).map fun text => ⟨n.location, n.text, text⟩

/-- The draft with the replacements of some nodes added at its end. -/
def Draft.add (transform : Transform) (d : Draft) (nodes : List Node) : Draft :=
  ⟨{ d.overlay with edits := d.overlay.edits ++ nodes.filterMap (edit? transform) },
    d.edits ++ nodes.filterMap (applied? transform)⟩

theorem Draft.add_nil (transform : Transform) (d : Draft) : d.add transform [] = d := by
  simp [Draft.add]

theorem Draft.add_append (transform : Transform) (d : Draft) (first rest : List Node) :
    (d.add transform first).add transform rest = d.add transform (first ++ rest) := by
  simp [Draft.add]

/-- What can come of offering a node: it ends the run, it is kept, or a text replaces
it. -/
theorem offer_cases (transform : Transform) (n : Node) :
    (∃ e, failure? transform n = some e ∧ printed? transform n = none ∧
      ∀ d : Draft, d.settle transform n = .error e) ∨
    (failure? transform n = none ∧ printed? transform n = none ∧ replaces transform n = false ∧
      ∀ d : Draft, d.settle transform n = .ok d) ∨
    ∃ f text, transform n = .ok (some f) ∧ f.print n = .ok text ∧ failure? transform n = none ∧
      printed? transform n = some text ∧ replaces transform n = true := by
  unfold failure? printed? replaces Draft.settle
  cases transform n with
  | error cause => exact .inl ⟨_, rfl, rfl, fun _ => rfl⟩
  | ok decision =>
      cases decision with
      | none => exact .inr (.inl ⟨rfl, rfl, rfl, fun _ => rfl⟩)
      | some f =>
          cases hprint : f.print n with
          | error cause =>
              refine .inl ⟨.render n.file.path n.location cause, ?_, ?_, ?_⟩
              · simp only [hprint]
              · simp only [hprint, Except.toOption]
              · intro d
                simp only [Draft.replace, hprint]
          | ok text =>
              refine .inr (.inr ⟨f, text, rfl, hprint, ?_, ?_, rfl⟩)
              · simp only [hprint]
              · simp only [hprint, Except.toOption]

theorem replaces_of_printed? {transform : Transform} {n : Node} {text : String}
    (hprinted : printed? transform n = some text) : replaces transform n = true := by
  rcases offer_cases transform n with
    ⟨e, -, hnone, -⟩ | ⟨-, hnone, -⟩ | ⟨f, text', -, -, -, -, hreplaces⟩
  · cases hnone.symm.trans hprinted
  · cases hnone.symm.trans hprinted
  · exact hreplaces

theorem settle_of_failure {transform : Transform} {n : Node} {e : RevisionError}
    (hfailure : failure? transform n = some e) (d : Draft) :
    d.settle transform n = .error e := by
  rcases offer_cases transform n with
    ⟨e', hsome, -, hsettle⟩ | ⟨hnone, -⟩ | ⟨f, text, -, -, hnone, -⟩
  · rw [hsettle, Option.some.inj (hsome.symm.trans hfailure)]
  · cases hnone.symm.trans hfailure
  · cases hnone.symm.trans hfailure

/-! ## Runs over nodes -/

/-- What holds before nodes are settled: what is registered ends in front of them, and
a replaced one ends in front of those behind it. -/
structure Ahead (transform : Transform) (d : Draft) (nodes : List Node) : Prop where
  stored : ∀ x ∈ d.overlay.edits, x.span.start ≤ x.span.stop ∧
    ∀ n ∈ nodes, x.span.stop ≤ n.span.start
  fits : ∀ n ∈ nodes, n.span.Fits d.overlay.text
  ordered : nodes.Pairwise fun a b => replaces transform a = true → a.span.stop ≤ b.span.start

namespace Ahead

variable {transform : Transform} {d : Draft} {n : Node} {rest : List Node}

/-- The overlay takes the replacement of the first node. -/
theorem settle (hahead : Ahead transform d (n :: rest)) (hok : failure? transform n = none) :
    d.settle transform n = .ok (d.add transform [n]) := by
  rcases offer_cases transform n with
    ⟨e, hsome, -, -⟩ | ⟨-, hprinted, -, hsettle⟩ | ⟨f, text, hdecision, hprint, -, hprinted, -⟩
  · cases hsome.symm.trans hok
  · rw [hsettle]
    simp [Draft.add, edit?, applied?, hprinted]
  · have haccepted := Overlay.overwrite_eq_append (o := d.overlay) (e := ⟨n.span, text⟩)
      (hahead.fits n List.mem_cons_self)
      (fun x hx => ⟨(hahead.stored x hx).1, (hahead.stored x hx).2 n List.mem_cons_self⟩)
    simp [Draft.settle, hdecision, Draft.replace, hprint, haccepted, Draft.add, edit?, applied?,
      hprinted]

theorem add (hahead : Ahead transform d (n :: rest)) :
    Ahead transform (d.add transform [n]) rest where
  stored := by
    intro x hx
    rcases List.mem_append.mp hx with hx | hx
    · have hbefore := hahead.stored x hx
      exact ⟨hbefore.1, fun m hm => hbefore.2 m (List.mem_cons_of_mem _ hm)⟩
    · -- The new edit has the span of the node, and the nodes left start behind it.
      obtain ⟨text, hprinted, rfl⟩ : ∃ text, printed? transform n = some text ∧
          ⟨n.span, text⟩ = x := by
        simpa [edit?] using hx
      refine ⟨(hahead.fits n List.mem_cons_self).ordered, ?_⟩
      intro m hm
      exact List.rel_of_pairwise_cons hahead.ordered hm (replaces_of_printed? hprinted)
  fits m hm := hahead.fits m (List.mem_cons_of_mem _ hm)
  ordered := (List.pairwise_cons.mp hahead.ordered).2

end Ahead

/-- Nodes that do not fail are all settled, and the run goes on behind them. -/
theorem settleAll_append {transform : Transform} {d : Draft} {first rest : List Node}
    (hahead : Ahead transform d (first ++ rest))
    (hok : ∀ n ∈ first, failure? transform n = none) :
    settleAll transform d (first ++ rest) =
      ⟨first ++ (settleAll transform (d.add transform first) rest).offered,
        (settleAll transform (d.add transform first) rest).result⟩ := by
  induction first generalizing d with
  | nil => rw [List.nil_append, Draft.add_nil, List.nil_append]
  | cons n first ih =>
      rw [List.cons_append] at hahead ⊢
      rw [settleAll, hahead.settle (hok n List.mem_cons_self)]
      simp only [ih hahead.add fun m hm => hok m (List.mem_cons_of_mem _ hm), Draft.add_append,
        List.cons_append, List.nil_append]

theorem settleAll_of_ok {transform : Transform} {d : Draft} {nodes : List Node}
    (hahead : Ahead transform d nodes) (hok : ∀ n ∈ nodes, failure? transform n = none) :
    settleAll transform d nodes = ⟨nodes, .ok (d.add transform nodes)⟩ := by
  have hall : Ahead transform d (nodes ++ []) := by rwa [List.append_nil]
  have hrun := settleAll_append hall hok
  rwa [List.append_nil, settleAll, List.append_nil] at hrun

theorem settleAll_of_failure {transform : Transform} {d : Draft} {first rest : List Node}
    {n : Node} {e : RevisionError} (hahead : Ahead transform d (first ++ n :: rest))
    (hok : ∀ m ∈ first, failure? transform m = none) (hfailure : failure? transform n = some e) :
    settleAll transform d (first ++ n :: rest) = ⟨first ++ [n], .error e⟩ := by
  rw [settleAll_append hahead hok, settleAll, settle_of_failure hfailure]

/-! ## Runs over a file -/

/-- What a file is revised with, before anything is offered. -/
def Draft.start (file : SourceFile) : Draft := ⟨Overlay.ofText file.text, []⟩

theorem ahead_start {transform : Transform} {file : SourceFile}
    (hwf : file.tree.WellFormed file.text) :
    Ahead transform (Draft.start file) (candidates transform file.root) where
  stored := by simp [Draft.start, Overlay.ofText]
  fits n hn := (inside_of_mem_candidates (n := file.root) hwf hn).1
  ordered := candidates_pairwise (n := file.root) hwf

theorem runFile_eq {transform : Transform} {file : SourceFile}
    (hsource : file.isDeclaration = false) :
    runFile transform file =
      let run := settleAll transform (Draft.start file) (candidates transform file.root)
      ⟨run.offered, match run.result with
        | .ok d => .ok ⟨file.path, file.text, d.overlay.finalize, d.edits⟩
        | .error e => .error e⟩ := by
  rw [runFile, hsource, walk_eq_settleAll, List.flatMap_singleton]
  rfl

theorem runFile_of_ok {transform : Transform} {file : SourceFile}
    (hsource : file.isDeclaration = false) (hwf : file.tree.WellFormed file.text)
    (hok : ∀ n ∈ candidates transform file.root, failure? transform n = none) :
    runFile transform file =
      let d := (Draft.start file).add transform (candidates transform file.root)
      ⟨candidates transform file.root,
        .ok ⟨file.path, file.text, d.overlay.finalize, d.edits⟩⟩ := by
  rw [runFile_eq hsource, settleAll_of_ok (ahead_start hwf) hok]

theorem runFile_of_failure {transform : Transform} {file : SourceFile}
    (hsource : file.isDeclaration = false) (hwf : file.tree.WellFormed file.text)
    {first rest : List Node} {n : Node} {e : RevisionError}
    (hcandidates : candidates transform file.root = first ++ n :: rest)
    (hok : ∀ m ∈ first, failure? transform m = none) (hfailure : failure? transform n = some e) :
    runFile transform file = ⟨first ++ [n], .error e⟩ := by
  have hahead : Ahead transform (Draft.start file) (candidates transform file.root) :=
    ahead_start hwf
  rw [hcandidates] at hahead
  rw [runFile_eq hsource, hcandidates, settleAll_of_failure hahead hok hfailure]

theorem ofFile_eq_ok {transform : Transform} {file : SourceFile} {r : Revision}
    (hok : ofFile transform file = .ok r) : r.path = file.path ∧ r.source = file.text := by
  unfold ofFile runFile at hok
  split at hok
  · cases hok
  · dsimp only at hok
    split at hok
    · cases hok
      exact ⟨rfl, rfl⟩
    · cases hok

/-- Some candidate is the first that fails, unless none does. -/
theorem exists_first_failure (transform : Transform) (nodes : List Node) :
    (∀ n ∈ nodes, failure? transform n = none) ∨
      ∃ first n rest e, nodes = first ++ n :: rest ∧
        (∀ m ∈ first, failure? transform m = none) ∧ failure? transform n = some e := by
  induction nodes with
  | nil => exact .inl (by simp)
  | cons n nodes ih =>
      cases hfailure : failure? transform n with
      | some e => exact .inr ⟨[], n, nodes, e, rfl, by simp, hfailure⟩
      | none =>
          rcases ih with hnone | ⟨first, m, rest, e, rfl, hfirst, hm⟩
          · exact .inl (List.forall_mem_cons.mpr ⟨hfailure, hnone⟩)
          · exact .inr ⟨n :: first, m, rest, e, rfl,
              List.forall_mem_cons.mpr ⟨hfailure, hfirst⟩, hm⟩

/-- No node is offered twice. -/
theorem offered_pairwise {transform : Transform} {file : SourceFile}
    (hsource : file.isDeclaration = false) (hwf : file.tree.WellFormed file.text) :
    (runFile transform file).offered.Pairwise fun a b => a.same b = false := by
  have hdistinct : (candidates transform file.root).Pairwise fun a b => a.same b = false := by
    rw [candidates_root]
    refine (file.root.subtree_pairwise_address.filter _).imp ?_
    intro a b hne
    simp [Node.same, hne]
  rcases exists_first_failure transform (candidates transform file.root) with
    hok | ⟨first, n, rest, e, hcandidates, hok, hfailure⟩
  · rw [runFile_of_ok hsource hwf hok]
    exact hdistinct
  · rw [runFile_of_failure hsource hwf hcandidates hok hfailure]
    rw [hcandidates] at hdistinct
    refine hdistinct.sublist (List.Sublist.append_left ?_ first)
    exact List.Sublist.cons_cons n (List.nil_sublist rest)

/-! ## Runs over a program -/

/-- The files of a program that are revised. -/
def sources (files : List SourceFile) : List SourceFile :=
  files.filter fun f => !f.isDeclaration

theorem sources_cons (file : SourceFile) (files : List SourceFile) :
    sources (file :: files) =
      if file.isDeclaration then sources files else file :: sources files := by
  rw [sources, List.filter_cons]
  cases file.isDeclaration <;> rfl

/-- The first file decides, and if it does not fail the others do. -/
theorem runFiles_cons (transform : Transform) (file : SourceFile) (files : List SourceFile) :
    (runFiles transform (file :: files)).result =
      if file.isDeclaration then (runFiles transform files).result
      else match ofFile transform file with
        | .error e => .error e
        | .ok revision =>
            match (runFiles transform files).result with
            | .error e => .error e
            | .ok revisions =>
                .ok (if revision.isChanged then revision :: revisions else revisions) := by
  rw [runFiles, ofFile]
  split
  · rfl
  · dsimp only
    cases (runFile transform file).result <;> rfl

/-- The first bad element of a list is its head, or comes behind a good head. -/
theorem exists_first_cons {α : Type} {good bad : α → Prop} {a : α} {l : List α} :
    (∃ first x rest, a :: l = first ++ x :: rest ∧ (∀ y ∈ first, good y) ∧ bad x) ↔
      bad a ∨ good a ∧
        ∃ first x rest, l = first ++ x :: rest ∧ (∀ y ∈ first, good y) ∧ bad x := by
  constructor
  · rintro ⟨first, x, rest, hsplit, hfirst, hx⟩
    cases first with
    | nil =>
        obtain ⟨rfl, -⟩ := List.cons.inj hsplit
        exact .inl hx
    | cons y first =>
        obtain ⟨rfl, htail⟩ := List.cons.inj hsplit
        obtain ⟨ha, hothers⟩ := List.forall_mem_cons.mp hfirst
        exact .inr ⟨ha, first, x, rest, htail, hothers, hx⟩
  · rintro (ha | ⟨ha, first, x, rest, rfl, hfirst, hx⟩)
    · exact ⟨[], a, l, rfl, by simp, ha⟩
    · exact ⟨a :: first, x, rest, rfl, List.forall_mem_cons.mpr ⟨ha, hfirst⟩, hx⟩

theorem runFiles_eq_error_iff {transform : Transform} {files : List SourceFile}
    {e : RevisionError} :
    (runFiles transform files).result = .error e ↔
      ∃ first file rest, sources files = first ++ file :: rest ∧
        (∀ f ∈ first, ∃ r, ofFile transform f = .ok r) ∧ ofFile transform file = .error e := by
  induction files with
  | nil => simp [runFiles, sources]
  | cons file files ih =>
      rw [runFiles_cons, sources_cons]
      split
      · exact ih
      · rw [exists_first_cons, ← ih]
        cases ofFile transform file with
        | error cause => simp
        | ok revision => cases (runFiles transform files).result <;> simp

theorem runFiles_eq_ok_iff {transform : Transform} {files : List SourceFile}
    {revisions : List Revision} :
    (runFiles transform files).result = .ok revisions ↔
      ∃ all, List.Forall₂ (fun f r => ofFile transform f = .ok r) (sources files) all ∧
        revisions = all.filter isChanged := by
  induction files generalizing revisions with
  | nil =>
      constructor
      · intro hok
        exact ⟨[], .nil, (Except.ok.inj hok).symm⟩
      · rintro ⟨all, hall, rfl⟩
        cases hall
        rfl
  | cons file files ih =>
      rw [runFiles_cons, sources_cons]
      split
      · exact ih
      · constructor
        · intro hok
          cases hfile : ofFile transform file with
          | error cause => simp [hfile] at hok
          | ok revision =>
              cases hrest : (runFiles transform files).result with
              | error cause => simp [hfile, hrest] at hok
              | ok others =>
                  obtain ⟨all, hall, rfl⟩ := ih.mp hrest
                  simp only [hfile, hrest, Except.ok.injEq] at hok
                  exact ⟨revision :: all, .cons hfile hall, by rw [List.filter_cons, hok]⟩
        · rintro ⟨all, hall, rfl⟩
          cases hall with
          | @cons _ revision _ all hfile hall =>
              rw [hfile, ih.mpr ⟨all, hall, rfl⟩, List.filter_cons]

/-- A well-formed source file is offered node by node: its preorder without what is
inside something that the transform replaces. No node is offered twice, and the first
one that fails ends the run with its error. The preorder of a layered tree under a
construct is all its constructs, parents before children and in source order. A run
over a program fails as its first failing source file does, and otherwise gives the
revisions of its source files that change the text. -/
theorem offered_eq_filter_preorder (transform : Transform) (file : SourceFile)
    (hsource : file.isDeclaration = false) (hwf : file.tree.WellFormed file.text)
    (program : Program) :
    let nodes := file.root.preorder.filter (spares transform)
    let run := runFile transform file
    (∀ n ∈ nodes, n.file = file) ∧
      run.offered.Pairwise (fun a b => a.same b = false) ∧
      ((∀ n ∈ nodes, failure? transform n = none) →
        run.offered = nodes ∧ ∃ r, run.result = .ok r) ∧
      (∀ first n rest e, nodes = first ++ n :: rest →
        (∀ m ∈ first, failure? transform m = none) → failure? transform n = some e →
        run.offered = first ++ [n] ∧ run.result = .error e) ∧
      (file.tree.isConstruct = true → file.tree.Layered →
        file.root.preorder = file.root.subtree.filter (·.tree.isConstruct)) ∧
      (∀ e, ofProgram transform program = .error e ↔
        ∃ first f rest, sources program.files = first ++ f :: rest ∧
          (∀ g ∈ first, ∃ r, ofFile transform g = .ok r) ∧ ofFile transform f = .error e) ∧
      (∀ revisions, ofProgram transform program = .ok revisions ↔
        ∃ all, List.Forall₂ (fun f r => ofFile transform f = .ok r) (sources program.files) all ∧
          revisions = all.filter fun r => r.source != r.revised) ∧
      ∀ f r, ofFile transform f = .ok r → r.path = f.path ∧ r.source = f.text := by
  intro nodes run
  have hnodes : nodes = candidates transform file.root :=
    (candidates_eq_filter_preorder transform file).symm
  refine ⟨?_, offered_pairwise hsource hwf, ?_, ?_, ?_, fun _ => runFiles_eq_error_iff,
    fun _ => runFiles_eq_ok_iff, fun _ _ => ofFile_eq_ok⟩
  · intro n hn
    rw [hnodes] at hn
    exact file_of_mem_candidates hn
  · intro hok
    rw [hnodes] at hok ⊢
    have hrun : run = _ := runFile_of_ok hsource hwf hok
    exact ⟨by rw [hrun], _, by rw [hrun]⟩
  · intro first n rest e hsplit hfirst hfailure
    rw [hnodes] at hsplit
    have hrun : run = _ := runFile_of_failure hsource hwf hsplit hfirst hfailure
    exact ⟨by rw [hrun], by rw [hrun]⟩
  · intro hconstruct hlayered
    have hroot : file.root.isReached = file.root.tree.isConstruct := hconstruct.symm
    rw [preorder_root]
    apply List.filter_congr
    intro n hn
    exact Node.isReached_eq_isConstruct hlayered hroot hn

namespace Sample

def token (kind : String) (start stop : Nat) : Tree :=
  .node ⟨kind, false, false, ⟨start, stop⟩, []⟩ []

def construct (kind : String) (start stop : Nat) (children : List Tree) : Tree :=
  .node ⟨kind, true, false, ⟨start, stop⟩, []⟩ children

/-- Two statements, the first with a name of more bytes than characters. -/
def file : SourceFile where
  load := 0
  path := ⟨"a.ts"⟩
  text := "f(é, b);\nb;"
  dialect := .typeScript
  tree := construct "program" 0 12
    [construct "expression_statement" 0 9
      [construct "call_expression" 0 8
        [construct "identifier" 0 1 [],
          construct "arguments" 1 8
            [token "(" 1 2, construct "identifier" 2 4 [], token "," 4 5,
              construct "identifier" 6 7 [], token ")" 7 8]],
        token ";" 8 9],
      construct "expression_statement" 10 12
        [construct "identifier" 10 11 [], token ";" 11 12]]

/-- Calls are replaced, and the names outside them have no declaration. -/
def dropCalls : Transform := fun n =>
  if n.kind = "call_expression" then .ok (some (.identifier "g"))
  else if n.kind = "identifier" then .error (.unresolvedSymbol n.text n.file.path n.location)
  else .ok none

def nodes : List Node := file.root.preorder.filter (spares dropCalls)

def last : Node := nodes.get ⟨4, by decide +kernel⟩

end Sample

/-- The names inside the call are not offered, and the name behind it ends the run. -/
theorem offered_sample :
    Sample.file.isDeclaration = false ∧ Sample.file.tree.WellFormed Sample.file.text ∧
      Sample.file.tree.Layered ∧
      (runFile Sample.dropCalls Sample.file).offered.map (fun n => (n.kind, n.span.start)) =
        [("program", 0), ("expression_statement", 0), ("call_expression", 0),
          ("expression_statement", 10), ("identifier", 10)] ∧
      ofFile Sample.dropCalls Sample.file = .error (.typeQuery ⟨"a.ts"⟩ ⟨2, 1⟩
        (.unresolvedSymbol "b" ⟨"a.ts"⟩ ⟨2, 1⟩)) := by
  have hsource : Sample.file.isDeclaration = false := by decide +kernel
  have hwf : Sample.file.tree.WellFormed Sample.file.text := by decide +kernel
  have hnodes : Sample.nodes = Sample.nodes.take 4 ++ [Sample.last] := by
    rw [Sample.last, List.get_eq_getElem, List.take_append_getElem, List.take_of_length_le]
    decide +kernel
  obtain ⟨-, -, -, hfailed, -⟩ :=
    offered_eq_filter_preorder Sample.dropCalls Sample.file hsource hwf ⟨[Sample.file], default⟩
  obtain ⟨hoffered, hresult⟩ := hfailed (Sample.nodes.take 4) Sample.last []
    (.typeQuery ⟨"a.ts"⟩ ⟨2, 1⟩ (.unresolvedSymbol "b" ⟨"a.ts"⟩ ⟨2, 1⟩)) hnodes
    (by decide +kernel) (by decide +kernel)
  rw [← hnodes] at hoffered
  refine ⟨hsource, hwf, by decide +kernel, ?_, hresult⟩
  rw [hoffered]
  decide +kernel

end CallMigration.Revision
