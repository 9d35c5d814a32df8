import CallMigration.Proofs.Revision.Weave

/-!
# Runs of two transforms

Two transforms that decide alike about the nodes of a file run alike over it. Where one of
them fails the other may do something else, but the run of the first ends there: unless it
does, the two runs are the same. Transforms that replace the same nodes and fail at the
same nodes, whatever the new texts are, offer the same nodes and edit the same places.
-/

namespace CallMigration.Revision

variable {one other : Transform} {file : SourceFile}

/-! ## The same decisions -/

section Agreement

/-- On nodes that a walk does not leave the second transform decides as the first one does,
except where the first one fails with an excused error. -/
structure AgreesOn (K : Node → Prop) (excused : TypeQueryError → Prop)
    (one other : Transform) : Prop where
  below {n c : Node} : K n → c ∈ n.constructs → K c
  agree {n : Node} : K n → other n = one n ∨ ∃ e, one n = .error e ∧ excused e

variable {K : Node → Prop} {excused : TypeQueryError → Prop}

theorem Draft.settle_congr {n : Node} (hsame : other n = one n) (d : Draft) :
    d.settle other n = d.settle one n := by
  rw [Draft.settle, Draft.settle, hsame]

theorem entered_congr {n : Node} (hsame : other n = one n) : entered other n = entered one n := by
  rw [entered, entered, hsame]

/-- Walks agree as long as the transforms do. They may part only at a node where the first
transform fails, and there its walk ends. -/
theorem walk_of_agrees (hagrees : AgreesOn K excused one other) {stack : List Node} {d : Draft}
    (hstack : ∀ n ∈ stack, K n) :
    walk other stack d = walk one stack d ∨ ∃ (n : Node) (e : TypeQueryError), excused e ∧
      (walk one stack d).result = .error (.typeQuery n.file.path n.location e) := by
  fun_induction walk one stack d with
  | case1 d =>
      rw [walk]
      exact .inl rfl
  | case2 n stack d e herror =>
      rcases hagrees.agree (hstack n List.mem_cons_self) with hsame | ⟨cause, hcause, hexcused⟩
      · rw [walk, Draft.settle_congr hsame, herror]
        exact .inl rfl
      · rw [Draft.settle, hcause] at herror
        exact .inr ⟨n, cause, hexcused, by rw [← Except.error.inj herror]⟩
  | case3 n stack d next hok run ih =>
      -- The first transform does not fail here, so the second decides alike.
      have hsame : other n = one n := by
        rcases hagrees.agree (hstack n List.mem_cons_self) with hsame | ⟨cause, hcause, -⟩
        · exact hsame
        · rw [Draft.settle, hcause] at hok
          cases hok
      have hentered : ∀ m ∈ entered one n ++ stack, K m := by
        intro m hm
        rcases List.mem_append.mp hm with hm | hm
        · unfold entered at hm
          split at hm
          · exact hagrees.below (hstack n List.mem_cons_self) hm
          · simp at hm
        · exact hstack m (List.mem_cons_of_mem _ hm)
      rw [walk, Draft.settle_congr hsame, hok]
      dsimp only
      rw [entered_congr hsame]
      rcases ih hentered with hrun | hfailed
      · exact .inl (by rw [hrun])
      · exact .inr hfailed

theorem runFile_of_agrees (hagrees : AgreesOn K excused one other) (file : SourceFile)
    (hroot : K file.root) :
    runFile other file = runFile one file ∨ ∃ (n : Node) (e : TypeQueryError), excused e ∧
      ofFile one file = .error (.typeQuery n.file.path n.location e) := by
  unfold ofFile runFile
  split
  · exact .inl rfl
  · have hstack : ∀ n ∈ [file.root], K n := List.forall_mem_singleton.mpr hroot
    rcases walk_of_agrees hagrees (d := Draft.start file) hstack with
      hrun | ⟨n, e, hexcused, hfailed⟩
    · refine .inl ?_
      rw [Draft.start] at hrun
      rw [hrun]
    · refine .inr ⟨n, e, hexcused, ?_⟩
      rw [Draft.start] at hfailed
      dsimp only
      rw [hfailed]

end Agreement

/-! ## The same places -/

/-- The transforms replace the same nodes, and fail at the same nodes with the same errors. -/
structure Alike (one other : Transform) : Prop where
  replaces : replaces other = replaces one
  failure : failure? other = failure? one

/-- The revision replaces nodes of a file, in order, and reports each of them. -/
structure Exchanges (transform : Transform) (file : SourceFile) (sites : List Node)
    (r : Revision) : Prop where
  reports : List.Forall₂ (Reports transform file) sites r.edits
  revised : r.revised = Overlay.render file.text 0
    (List.zipWith (fun n e => ⟨n.span, e.after⟩) sites r.edits)

theorem edits_eq_zipWith {transform : Transform} {nodes : List Node}
    (hok : ∀ n ∈ nodes, failure? transform n = none) :
    nodes.filterMap (edit? transform) =
      List.zipWith (fun n (e : AppliedEdit) => ⟨n.span, e.after⟩)
        (nodes.filter (Revision.replaces transform)) (nodes.filterMap (applied? transform)) := by
  induction nodes with
  | nil => rfl
  | cons n rest ih =>
      obtain ⟨hn, hrest⟩ := List.forall_mem_cons.mp hok
      rw [List.filterMap_cons, List.filterMap_cons, List.filter_cons,
        replaces_eq_isSome_printed? hn, edit?, applied?]
      cases hprinted : printed? transform n with
      | none => exact ih hrest
      | some text => exact congrArg _ (ih hrest)

theorem exchanges_of_ok {transform : Transform} (hsource : file.isDeclaration = false)
    (hwf : file.tree.WellFormed file.text) {r : Revision} (hr : ofFile transform file = .ok r) :
    Exchanges transform file (replaced transform file) r := by
  rcases exists_first_failure transform (candidates transform file.root) with
    hok | ⟨first, n, rest, e, hcandidates, hok, hfailure⟩
  · rw [ofFile_of_ok hsource hwf hok] at hr
    cases hr
    refine ⟨reports_applied hwf hok, ?_⟩
    rw [replaced, ← candidates_eq_filter_preorder, ← edits_eq_zipWith hok]
  · rw [ofFile, runFile_of_failure hsource hwf hcandidates hok hfailure] at hr
    cases hr

namespace Alike

theorem candidates (halike : Alike one other) :
    Revision.candidates other = Revision.candidates one := by
  funext n
  simp only [Revision.candidates, halike.replaces]

theorem replaced (halike : Alike one other) (file : SourceFile) :
    Revision.replaced other file = Revision.replaced one file := by
  have hspares : spares other = spares one := by
    funext n
    simp only [spares, halike.replaces]
  rw [Revision.replaced, Revision.replaced, halike.replaces, hspares]

/-- The same nodes are offered, and a run fails if the other does, with the same error. -/
theorem run (halike : Alike one other) (hsource : file.isDeclaration = false)
    (hwf : file.tree.WellFormed file.text) :
    (runFile other file).offered = (runFile one file).offered ∧
      ∀ e, ofFile other file = .error e ↔ ofFile one file = .error e := by
  unfold ofFile
  rcases exists_first_failure one (Revision.candidates one file.root) with
    hok | ⟨first, n, rest, e, hcandidates, hok, hfailure⟩
  · rw [runFile_of_ok hsource hwf hok]
    rw [← halike.candidates, ← halike.failure] at hok
    rw [runFile_of_ok hsource hwf hok, halike.candidates]
    exact ⟨rfl, fun e => by simp⟩
  · rw [runFile_of_failure hsource hwf hcandidates hok hfailure]
    rw [← halike.candidates] at hcandidates
    rw [← halike.failure] at hok hfailure
    rw [runFile_of_failure hsource hwf hcandidates hok hfailure]
    exact ⟨rfl, fun e => Iff.rfl⟩

end Alike

/-- A result whose revised text is known is a revision. -/
theorem exists_ok_of_revised {result : Except RevisionError Revision} {text : String}
    (hresult : result.toOption.map (·.revised) = some text) :
    ∃ r, result = .ok r ∧ r.revised = text := by
  cases result with
  | error e => cases hresult
  | ok r => exact ⟨r, rfl, Option.some.inj hresult⟩

end CallMigration.Revision
