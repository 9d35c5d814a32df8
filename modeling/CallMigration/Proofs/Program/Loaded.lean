import CallMigration.Program

/-!
# The files of a loaded program

Sources are parsed one after the other, and each adds one file at the end or none. So what
every source keeps is true of the loaded files: each of them is one of the sources, and no
two of them have the same path. A file is then found again among them.
-/

namespace CallMigration

variable {grammar : Grammar} {load : Nat}

theorem SourceFile.of_parse {path : PathName} {text : String} {file : SourceFile}
    (hparse : parse grammar load path text = .ok file) : (file.path, file.text) = (path, text) := by
  unfold parse at hparse
  split at hparse
  · cases hparse
  · dsimp only at hparse
    split at hparse
    · cases hparse
    · cases hparse
      rfl

namespace Program

variable {p : Program} {files next : List SourceFile} {file : SourceFile}

/-- A source whose path is there adds nothing, another one a file with its path and text. -/
theorem addSource_cases {source : PathName × String}
    (hadd : addSource grammar load files source = .ok next) :
    next = files ∨ files.any (·.path.same source.1) = false ∧
      ∃ added : SourceFile, (added.path, added.text) = source ∧ next = files ++ [added] := by
  unfold addSource at hadd
  split at hadd
  next =>
    cases hadd
    exact .inl rfl
  next hnew =>
    split at hadd
    next added hparse =>
      cases hadd
      exact .inr ⟨Bool.eq_false_iff.mpr hnew, added, SourceFile.of_parse hparse, rfl⟩
    next => cases hadd

/-- What each of the sources keeps is kept by all of them. -/
theorem foldlM_addSource_induction {P : List SourceFile → Prop}
    {sources : List (PathName × String)}
    (step : ∀ source ∈ sources, ∀ before after, P before →
      addSource grammar load before source = .ok after → P after)
    (hfiles : P files) (hadd : sources.foldlM (addSource grammar load) files = .ok next) :
    P next := by
  induction sources generalizing files with
  | nil =>
      cases hadd
      exact hfiles
  | cons source rest ih =>
      obtain ⟨hsource, hrest⟩ := List.forall_mem_cons.mp step
      rw [List.foldlM_cons] at hadd
      cases hfirst : addSource grammar load files source with
      | error e =>
          rw [hfirst] at hadd
          cases hadd
      | ok middle =>
          rw [hfirst] at hadd
          exact ih hrest (hsource files middle hfiles hfirst) hadd

/-- What each source keeps, from no files on, is true of the files of the program. -/
theorem ofSources_induction {P : List SourceFile → Prop} {options : Options}
    {sources : List (PathName × String)} (nil : P [])
    (step : ∀ source ∈ sources, ∀ before after, P before →
      addSource grammar load before source = .ok after → P after)
    (hload : ofSources grammar load options sources = .ok p) : P p.files := by
  unfold ofSources at hload
  split at hload
  next files hfiles =>
    cases hload
    exact foldlM_addSource_induction step nil hfiles
  next => cases hload

/-- Every file is one of the sources. -/
theorem mem_of_ofSources {options : Options} {sources : List (PathName × String)}
    (hload : ofSources grammar load options sources = .ok p) (hfile : file ∈ p.files) :
    (file.path, file.text) ∈ sources := by
  refine ofSources_induction (P := fun files => ∀ file ∈ files, (file.path, file.text) ∈ sources)
    (List.forall_mem_nil _) ?_ hload file hfile
  intro source hsource before after hbefore hadd
  rcases addSource_cases hadd with rfl | ⟨-, added, hadded, rfl⟩
  · exact hbefore
  · intro f hf
    rcases List.mem_append.mp hf with hf | hf
    · exact hbefore f hf
    · rw [List.mem_singleton.mp hf, hadded]
      exact hsource

/-! ## Paths -/

/-- No two of the files have the same path. -/
def PathsApart (p : Program) : Prop :=
  p.files.Pairwise fun f g => f.path.same g.path = false

theorem pathsApart_of_ofSources {options : Options} {sources : List (PathName × String)}
    (hload : ofSources grammar load options sources = .ok p) : p.PathsApart := by
  refine ofSources_induction (P := List.Pairwise fun f g => f.path.same g.path = false)
    List.Pairwise.nil ?_ hload
  intro source _ before after hbefore hadd
  rcases addSource_cases hadd with rfl | ⟨hnew, added, rfl, rfl⟩
  · exact hbefore
  · refine List.pairwise_append.mpr ⟨hbefore, List.pairwise_singleton _ _, ?_⟩
    intro f hf g hg
    rw [List.mem_singleton.mp hg]
    exact Bool.eq_false_iff.mpr (List.any_eq_false.mp hnew f hf)

/-- Where paths are apart, only one file is the same as a given one, so its position is found. -/
theorem PathsApart.indexOf?_eq_some_iff (hp : p.PathsApart) {i : Nat} :
    p.indexOf? file = some i ↔ ∃ f, p.files[i]? = some f ∧ f.same file = true := by
  constructor
  · intro hindex
    obtain ⟨hi, hsame, -⟩ := List.findIdx?_eq_some_iff_getElem.mp hindex
    exact ⟨_, List.getElem?_eq_getElem hi, hsame⟩
  · rintro ⟨f, hf, hsame⟩
    obtain ⟨hi, rfl⟩ := List.getElem?_eq_some_iff.mp hf
    refine List.findIdx?_eq_some_iff_getElem.mpr ⟨hi, hsame, fun j hj hother => ?_⟩
    have hapart := List.pairwise_iff_getElem.mp hp j i (Nat.lt_trans hj hi) hi hj
    simp_all [SourceFile.same, PathName.same]

theorem PathsApart.indexOf?_eq_some (hp : p.PathsApart) {i : Nat}
    (hfile : p.files[i]? = some file) : p.indexOf? file = some i :=
  hp.indexOf?_eq_some_iff.mpr ⟨file, hfile, by simp [SourceFile.same, PathName.same]⟩

theorem PathsApart.exists_indexOf? (hp : p.PathsApart) (hfile : file ∈ p.files) :
    ∃ i, p.indexOf? file = some i ∧ p.files[i]? = some file := by
  obtain ⟨i, hi⟩ := List.mem_iff_getElem?.mp hfile
  exact ⟨i, hp.indexOf?_eq_some hi, hi⟩

end Program

end CallMigration
