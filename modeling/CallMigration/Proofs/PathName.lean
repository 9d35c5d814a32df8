import CallMigration.Proofs.Disk.Canonical
import Mathlib.Data.List.Sort

/-!
# Components of path names

Whether a path name is absolute can be told from its text or from its components. A path name
that is written from the components of another one, or from the first of them, has just these
components, and a name that is joined to a path name adds one. Path names are ordered by their
components, so two of them are in order both ways only when they are the same.
-/

namespace CallMigration.PathName

/-! ## Absolute path names -/

theorem startsWith_slash_iff {text : String} :
    Text.startsWith "/" text = true ↔ ∃ cs, text.toList = '/' :: cs := by
  rw [Text.startsWith]
  cases text.toList with
  | nil => simp
  | cons c cs =>
      by_cases hc : '/' = c
      · simp [← hc]
      · simp [hc, Ne.symm hc]

theorem splitChars_ne_nil (sep : Char) (cs : List Char) : Text.splitChars sep cs ≠ [] := by
  cases cs with
  | nil => simp [Text.splitChars]
  | cons c cs =>
      unfold Text.splitChars
      split
      · simp
      · split <;> simp

theorem isAbsolute_iff_startsWith {path : PathName} :
    path.isAbsolute = true ↔ Text.startsWith "/" path.text = true := by
  rw [startsWith_slash_iff]
  unfold isAbsolute components Text.split
  cases htext : path.text.toList with
  | nil => simp [Text.splitChars, pieceComponent?]
  | cons c cs =>
      by_cases hc : c = '/'
      · simp [hc, Text.splitChars, splitChars_ne_nil]
      · obtain ⟨first, rest, hsplit⟩ := List.exists_cons_of_ne_nil (splitChars_ne_nil '/' cs)
        have hfirst : String.ofList (c :: first) ≠ "" := by simp [← String.toList_inj]
        simp only [Text.splitChars, if_neg hc, hsplit, List.map_cons, hfirst, false_and, if_false]
        split
        · simp [hc]
        · unfold pieceComponent?
          split
          next hpiece => simp_all
          next => split <;> simp [hc]

theorem startsWith_join {p : PathName} (hstart : Text.startsWith "/" p.text = true) (q : PathName) :
    Text.startsWith "/" (p.join q).text = true := by
  obtain ⟨cs, hcs⟩ := startsWith_slash_iff.mp hstart
  unfold join
  split
  next hq => exact hq
  next =>
    split
    next hempty => simp [hempty] at hcs
    next => split <;> simp [startsWith_slash_iff, String.toList_append, hcs]

/-! ## Joining a name -/

/-- A text is cut at a separator as what stands before it and what stands after it. -/
theorem splitChars_append_sep (sep : Char) (cs rest : List Char) :
    Text.splitChars sep (cs ++ sep :: rest) =
      Text.splitChars sep cs ++ Text.splitChars sep rest := by
  induction cs with
  | nil => simp [Text.splitChars]
  | cons c cs ih =>
      rw [List.cons_append, Text.splitChars, Text.splitChars, ih]
      split
      · rfl
      · obtain ⟨piece, pieces, hsplit⟩ := List.exists_cons_of_ne_nil (splitChars_ne_nil sep cs)
        rw [hsplit, List.cons_append]
        rfl

theorem split_append_slash (before after : String) :
    Text.split '/' (before ++ "/" ++ after) = Text.split '/' before ++ Text.split '/' after := by
  simp [Text.split, String.toList_append, splitChars_append_sep]

theorem split_ne_nil (sep : Char) (text : String) : Text.split sep text ≠ [] := by
  simp [Text.split, splitChars_ne_nil]

/-- Only the empty text is cut into one empty piece. -/
theorem eq_empty_of_split {sep : Char} {text : String} (hsplit : Text.split sep text = [""]) :
    text = "" := by
  rw [← String.toList_inj]
  unfold Text.split at hsplit
  cases hchars : text.toList with
  | nil => rfl
  | cons c cs =>
      rw [hchars] at hsplit
      unfold Text.splitChars at hsplit
      split at hsplit
      · simp [splitChars_ne_nil] at hsplit
      · split at hsplit <;> simp at hsplit

section Join

variable {p : PathName} {name : String}

theorem text_join (htext : p.text ≠ "") (hname : Disk.IsName name) :
    (p.join ⟨name⟩).text =
      if Text.endsWith "/" p.text then p.text ++ name else p.text ++ "/" ++ name := by
  have hrelative : ¬Text.startsWith "/" name = true := by
    rw [startsWith_slash_iff]
    rintro ⟨cs, hcs⟩
    exact hname.noSlash (hcs ▸ List.mem_cons_self)
  rw [join, if_neg hrelative, if_neg htext]
  split <;> rfl

/-- The name is one more piece. It takes the place of the empty piece after a slash at the end
of the path name. -/
theorem split_join (htext : p.text ≠ "") (hname : Disk.IsName name) :
    ∃ front, Text.split '/' (p.join ⟨name⟩).text = front ++ [name] ∧
      ((Text.split '/' p.text = front ∧ Text.endsWith "/" p.text = false) ∨
        (Text.split '/' p.text = front ++ [""] ∧ Text.endsWith "/" p.text = true)) := by
  rw [text_join htext hname]
  cases hends : Text.endsWith "/" p.text with
  | false =>
      refine ⟨Text.split '/' p.text, ?_, .inl ⟨rfl, rfl⟩⟩
      rw [if_neg Bool.false_ne_true, split_append_slash, hname.split]
  | true =>
      obtain ⟨cs, hcs⟩ := List.getLast?_eq_some_iff.mp (Text.endsWith_slash.mp hends)
      have hp : p.text = String.ofList cs ++ "/" ++ "" := by
        simp [← String.toList_inj, String.toList_append, hcs]
      refine ⟨Text.split '/' (String.ofList cs), ?_, .inr ⟨?_, rfl⟩⟩
      · rw [if_pos rfl, hp, String.append_empty, split_append_slash, hname.split]
      · rw [hp, split_append_slash]
        rfl

/-- A name that is joined to a path name is one more component. -/
theorem components_join (htext : p.text ≠ "") (hname : Disk.IsName name) :
    (p.join ⟨name⟩).components = p.components ++ [.name name] := by
  obtain ⟨front, hjoin, hfront⟩ := split_join htext hname
  have hsplit : Text.split '/' p.text ≠ [""] := fun hsplit => htext (eq_empty_of_split hsplit)
  have hlast : [name].filterMap pieceComponent? = [.name name] := by
    simp [hname.pieceComponent?]
  have hnone : [""].filterMap pieceComponent? = [] := by decide
  cases front with
  | nil => simp [split_ne_nil, hsplit] at hfront
  | cons first rest =>
      rw [List.cons_append] at hjoin hfront
      rcases hfront with ⟨hp, -⟩ | ⟨hp, -⟩
      · have hlead : (first = "" ∧ rest ++ [name] ≠ []) ↔ (first = "" ∧ rest ≠ []) := by
          refine and_congr_right fun hempty => iff_of_true (by simp) fun hrest => hsplit ?_
          rw [hp, hempty, hrest]
        simp only [components, hp, hjoin, hlead, List.filterMap_append, hlast, List.append_assoc]
      · have hlead : (first = "" ∧ rest ++ [name] ≠ []) ↔ (first = "" ∧ rest ++ [""] ≠ []) := by
          simp
        simp only [components, hp, hjoin, hlead, List.filterMap_append, hlast, hnone,
          List.append_assoc, List.append_nil]

theorem fileName?_join (htext : p.text ≠ "") (hname : Disk.IsName name) :
    (p.join ⟨name⟩).fileName? = some name := by
  rw [fileName?, components_join htext hname, List.getLast?_concat]

theorem text_join_ne (htext : p.text ≠ "") (hname : Disk.IsName name) :
    (p.join ⟨name⟩).text ≠ "" := by
  rw [text_join htext hname]
  split <;> simp [htext]

theorem isAbsolute_join (htext : p.text ≠ "") (hname : Disk.IsName name) :
    (p.join ⟨name⟩).isAbsolute = p.isAbsolute := by
  rw [isAbsolute, isAbsolute, components_join htext hname]
  cases p.components <;> rfl

end Join

/-! ## The order of path names -/

theorem same_iff {p q : PathName} : p.same q = true ↔ p.components = q.components := by
  rw [same, beq_iff_eq]

/-- Components are ordered by their forms, and then by their texts. -/
theorem Component.compare_eq (a b : Component) :
    a.compare b = (Ord.compare a.rank b.rank).then (Ord.compare a.text b.text) := by
  cases a <;> cases b <;> simp [Component.compare, rank, text, Std.ReflCmp.compare_self] <;> rfl

instance Component.transCmp_compare : Std.TransCmp Component.compare := by
  have hcompare : Component.compare = compareLex (compareOn rank) (compareOn text) :=
    funext₂ Component.compare_eq
  rw [hcompare]
  infer_instance

instance Component.lawfulEqCmp_compare : Std.LawfulEqCmp Component.compare where
  eq_of_compare {a b} heq := by
    rw [Component.compare_eq, Ordering.then_eq_eq] at heq
    have hrank := Std.LawfulEqCmp.eq_of_compare heq.1
    have htext := Std.LawfulEqCmp.eq_of_compare heq.2
    cases a <;> cases b <;> simp_all [rank, text]

theorem compare_eq (p q : PathName) :
    p.compare q = List.compareLex Component.compare p.components q.components := by
  rw [compare]
  generalize p.components = as
  generalize q.components = bs
  induction as generalizing bs with
  | nil => cases bs <;> rfl
  | cons a as ih =>
      cases bs with
      | nil => rfl
      | cons b bs => rw [compare.go, ih, List.compareLex_cons_cons]

instance transCmp_compare : Std.TransCmp compare where
  eq_swap {p q} := by
    rw [compare_eq, compare_eq]
    exact Std.OrientedCmp.eq_swap
  isLE_trans {p q r} hpq hqr := by
    rw [compare_eq] at *
    exact Std.TransCmp.isLE_trans hpq hqr

theorem compare_eq_eq_iff {p q : PathName} : p.compare q = .eq ↔ p.components = q.components := by
  rw [compare_eq]
  exact Std.LawfulEqCmp.compare_eq_iff_eq

/-! ## Reading components back -/

/-- A component that is what a piece between slashes stands for. -/
structure Component.IsSolid (c : Component) : Prop where
  piece : pieceComponent? c.text = some c
  noSlash : '/' ∉ c.text.toList

theorem isSolid_of_pieceComponent? {piece : String} {c : Component}
    (hpiece : pieceComponent? piece = some c) (hslash : '/' ∉ piece.toList) : c.IsSolid := by
  have htext : c.text = piece := by
    unfold pieceComponent? at hpiece
    split at hpiece
    · cases hpiece
    · split at hpiece
      next hparent =>
        cases hpiece
        exact hparent.symm
      next =>
        cases hpiece
        rfl
  exact ⟨htext ▸ hpiece, htext ▸ hslash⟩

theorem Component.IsSolid.text_ne {c : Component} (hc : c.IsSolid) :
    c.text ≠ "" ∧ c.text ≠ "." := by
  rw [← not_or]
  intro htext
  have hpiece := hc.piece
  rw [pieceComponent?, if_pos htext] at hpiece
  cases hpiece

theorem Component.IsSolid.ne_parent {s : String} (hs : (Component.name s).IsSolid) : s ≠ ".." := by
  rintro rfl
  exact absurd hs.piece (by decide)

/-- Components that can be written: those of pieces, after a first one that may be of another
form. -/
def IsWritable (cs : List Component) : Prop :=
  ∃ lead solid, cs = lead ++ solid ∧ (lead = [] ∨ lead = [.root] ∨ lead = [.current]) ∧
    ∀ c ∈ solid, c.IsSolid

theorem isWritable_components (path : PathName) : IsWritable path.components := by
  unfold components
  have hslash : ∀ piece ∈ Text.split '/' path.text, '/' ∉ piece.toList := by
    intro piece hpiece
    obtain ⟨cs, hcs, rfl⟩ := List.mem_map.mp hpiece
    rw [String.toList_ofList]
    exact Text.not_mem_of_mem_splitChars hcs
  cases hsplit : Text.split '/' path.text with
  | nil => exact ⟨[], [], rfl, .inl rfl, by simp⟩
  | cons first rest =>
      obtain ⟨hfirst, hrest⟩ := List.forall_mem_cons.mp (hsplit ▸ hslash)
      have hsolid : ∀ c ∈ rest.filterMap pieceComponent?, c.IsSolid := by
        intro c hc
        obtain ⟨piece, hpiece, hsome⟩ := List.mem_filterMap.mp hc
        exact isSolid_of_pieceComponent? hsome (hrest piece hpiece)
      dsimp only
      split
      · exact ⟨_, _, rfl, .inr (.inr rfl), hsolid⟩
      · split
        · exact ⟨_, _, rfl, .inr (.inl rfl), hsolid⟩
        · refine ⟨[], _, rfl, .inl rfl, fun c hc => ?_⟩
          rcases List.mem_append.mp hc with hc | hc
          · exact isSolid_of_pieceComponent? (Option.mem_toList.mp hc) hfirst
          · exact hsolid c hc

theorem IsWritable.dropLast {cs : List Component} (hcs : IsWritable cs) :
    IsWritable cs.dropLast := by
  obtain ⟨lead, solid, rfl, hlead, hsolid⟩ := hcs
  by_cases hempty : solid = []
  · refine ⟨[], [], ?_, .inl rfl, by simp⟩
    rcases hlead with rfl | rfl | rfl <;> simp [hempty]
  · rw [List.dropLast_append_of_ne_nil hempty]
    exact ⟨lead, _, rfl, hlead, fun c hc => hsolid c (List.dropLast_subset _ hc)⟩

theorem isSolid_of_mem_components {path : PathName} {s : String}
    (hs : .name s ∈ path.components) : (Component.name s).IsSolid := by
  obtain ⟨lead, solid, hcomponents, hlead, hsolid⟩ := isWritable_components path
  rw [hcomponents] at hs
  rcases List.mem_append.mp hs with hs | hs
  · rcases hlead with rfl | rfl | rfl <;> simp at hs
  · exact hsolid _ hs

theorem split_intercalate {texts : List String} (hne : texts ≠ [])
    (hslash : ∀ s ∈ texts, '/' ∉ s.toList) : Text.split '/' ("/".intercalate texts) = texts := by
  obtain ⟨first, rest, rfl⟩ := List.exists_cons_of_ne_nil hne
  have hlists : ∀ cs ∈ first.toList :: rest.map String.toList, '/' ∉ cs := by
    intro cs hcs
    obtain ⟨s, hs, rfl⟩ := List.mem_map.mp (List.map_cons ▸ hcs)
    exact hslash s hs
  rw [Text.split, String.toList_intercalate, List.map_cons]
  exact (congrArg _ (Text.splitChars_intercalate hlists)).trans (by simp [Function.comp_def])

/-- Written components are read back. -/
theorem components_ofComponents {cs : List Component} (hcs : IsWritable cs) :
    (ofComponents cs).components = cs := by
  obtain ⟨lead, solid, rfl, hlead, hsolid⟩ := hcs
  have hslash : ∀ s ∈ solid.map Component.text, '/' ∉ s.toList :=
    List.forall_mem_map.mpr fun c hc => (hsolid c hc).noSlash
  have hpieces : (solid.map Component.text).filterMap pieceComponent? = solid := by
    rw [List.filterMap_map]
    exact (List.filterMap_congr fun c hc => (hsolid c hc).piece).trans List.filterMap_some
  rcases hlead with rfl | rfl | rfl
  · cases solid with
    | nil => decide
    | cons c solid =>
        have hc := hsolid c List.mem_cons_self
        have hwritten : (ofComponents (c :: solid)).text =
            "/".intercalate ((c :: solid).map Component.text) := by
          cases c with
          | root => exact absurd (List.mem_singleton.mpr rfl) hc.noSlash
          | current => rfl
          | parent => rfl
          | name => rfl
        rw [List.map_cons, List.filterMap_cons_some hc.piece] at hpieces
        rw [components, List.nil_append, hwritten, split_intercalate (by simp) hslash,
          List.map_cons]
        simp [hc.text_ne, hc.piece, (List.cons.inj hpieces).2]
  · have htext : (ofComponents ([.root] ++ solid)).text =
        "/" ++ "/".intercalate (solid.map Component.text) := rfl
    have hsplit : Text.split '/' (ofComponents ([.root] ++ solid)).text =
        "" :: Text.split '/' ("/".intercalate (solid.map Component.text)) := by
      rw [htext]
      simp [Text.split, Text.splitChars, String.toList_append]
    rw [components, hsplit]
    cases solid with
    | nil => decide
    | cons c solid =>
        rw [split_intercalate (by simp) hslash]
        simp only [hpieces]
        simp
  · have htext : (ofComponents ([.current] ++ solid)).text =
        "/".intercalate ("." :: solid.map Component.text) := rfl
    have htexts : ∀ s ∈ "." :: solid.map Component.text, '/' ∉ s.toList :=
      List.forall_mem_cons.mpr ⟨by decide, hslash⟩
    rw [components, htext, split_intercalate (by simp) htexts]
    simp [hpieces]

end CallMigration.PathName
