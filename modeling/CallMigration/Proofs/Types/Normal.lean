import CallMigration.Types.StaticType
import Mathlib.Data.List.Nodup

/-!
# Normal types

A type is normal when every union in it, at the top or further inside, has at least
two members, all different, and none of them a union, `never`, `any` or `unknown`.
The operations on unions look at one level of members only. They keep normal types
normal, and there one level is all there is.
-/

namespace CallMigration

namespace StaticType

/-- A type that can be a member of a normal union. -/
def isPlain (t : StaticType) : Bool :=
  !t.isUnion && t ≠ primitive "never" && t ≠ primitive "any" && t ≠ primitive "unknown"

theorem isPlain_iff {t : StaticType} : t.isPlain = true ↔
    t.isUnion = false ∧ t ≠ primitive "never" ∧ t ≠ primitive "any" ∧
      t ≠ primitive "unknown" := by
  simp [isPlain, and_assoc]

/-- Every union in the type is a normal one. -/
inductive Normal : StaticType → Prop
  | null : Normal null
  | undefined : Normal undefined
  | primitive (name : String) : Normal (primitive name)
  | literal (text : String) : Normal (literal text)
  | array {element : StaticType} (helement : Normal element) : Normal (array element)
  | tuple {elements : List StaticType} (helements : ∀ t ∈ elements, Normal t) :
      Normal (tuple elements)
  | shape {id : ShapeId} {label : String} {bindings : List (String × StaticType)}
      (hbindings : ∀ b ∈ bindings, Normal b.2) : Normal (shape id label bindings)
  | function {returns : StaticType} (hreturns : Normal returns) : Normal (function returns)
  | reference {name : String} {arguments : List StaticType}
      (harguments : ∀ t ∈ arguments, Normal t) : Normal (reference name arguments)
  | union {ms : List StaticType} (hlength : 2 ≤ ms.length) (hnodup : ms.Nodup)
      (hplain : ∀ t ∈ ms, t.isPlain = true) (hmembers : ∀ t ∈ ms, Normal t) : Normal (union ms)
  | unseen : Normal unseen

attribute [simp] Normal.null Normal.undefined Normal.primitive Normal.literal Normal.unseen

/-! ## Members -/

namespace Normal

theorem member {t m : StaticType} (ht : t.Normal) (hm : m ∈ t.members) :
    m.Normal ∧ m.isUnion = false := by
  cases ht with
  | union _ _ hplain hmembers => exact ⟨hmembers m hm, (isPlain_iff.mp (hplain m hm)).1⟩
  | array helement =>
      rw [List.mem_singleton.mp hm]
      exact ⟨.array helement, rfl⟩
  | tuple helements =>
      rw [List.mem_singleton.mp hm]
      exact ⟨.tuple helements, rfl⟩
  | shape hbindings =>
      rw [List.mem_singleton.mp hm]
      exact ⟨.shape hbindings, rfl⟩
  | function hreturns =>
      rw [List.mem_singleton.mp hm]
      exact ⟨.function hreturns, rfl⟩
  | reference harguments =>
      rw [List.mem_singleton.mp hm]
      exact ⟨.reference harguments, rfl⟩
  | _ =>
      rw [List.mem_singleton.mp hm]
      simp [isUnion]

theorem element {t : StaticType} (ht : (StaticType.array t).Normal) : t.Normal := by
  cases ht with
  | array helement => exact helement

theorem elements {ts : List StaticType} (hts : (StaticType.tuple ts).Normal) :
    ∀ t ∈ ts, t.Normal := by
  cases hts with
  | tuple helements => exact helements

theorem bindings {id : ShapeId} {label : String} {bs : List (String × StaticType)}
    (hshape : (StaticType.shape id label bs).Normal) : ∀ b ∈ bs, b.2.Normal := by
  cases hshape with
  | shape hbindings => exact hbindings

theorem returns {t : StaticType} (ht : (StaticType.function t).Normal) : t.Normal := by
  cases ht with
  | function hreturns => exact hreturns

theorem arguments {name : String} {ts : List StaticType}
    (hts : (StaticType.reference name ts).Normal) : ∀ t ∈ ts, t.Normal := by
  cases hts with
  | reference harguments => exact harguments

end Normal

/-! ## Unions -/

theorem mem_distinct {t : StaticType} {ts : List StaticType} : t ∈ distinct ts ↔ t ∈ ts := by
  induction ts with
  | nil => rfl
  | cons head rest ih =>
      rw [distinct, List.mem_cons, List.mem_cons, List.mem_filter, ih]
      by_cases ht : t = head <;> simp [ht]

theorem nodup_distinct (ts : List StaticType) : (distinct ts).Nodup := by
  induction ts with
  | nil => exact List.nodup_nil
  | cons head rest ih =>
      refine List.nodup_cons.mpr ⟨?_, ih.filter _⟩
      simp

theorem mem_flatten {t : StaticType} {types : List StaticType} :
    t ∈ flatten types ↔ ∃ u ∈ types, t ∈ u.members := by
  rw [flatten, mem_distinct, List.mem_flatMap]

theorem normal_ofMembers {ms : List StaticType} (hnodup : ms.Nodup)
    (hplain : ∀ t ∈ ms, t.isPlain = true) (hmembers : ∀ t ∈ ms, t.Normal) :
    (ofMembers ms).Normal := by
  match ms with
  | [] => exact .primitive "never"
  | [t] => exact hmembers t List.mem_cons_self
  | a :: b :: rest => exact .union (by simp) hnodup hplain hmembers

/-- Members that are normal and no unions give a normal union. -/
theorem normal_join {types : List StaticType} (htypes : ∀ t ∈ types, t.Normal) :
    (join types).Normal := by
  have hflat : ∀ t ∈ flatten types, t.Normal ∧ t.isUnion = false := by
    intro t ht
    obtain ⟨u, hu, hmember⟩ := mem_flatten.mp ht
    exact (htypes u hu).member hmember
  unfold join
  dsimp only
  split
  · exact .primitive "any"
  next hany =>
    split
    · exact .primitive "unknown"
    next hunknown =>
      refine normal_ofMembers ((nodup_distinct _).filter _) ?_ ?_
      · intro t ht
        obtain ⟨hmem, hnever⟩ := List.mem_filter.mp ht
        refine isPlain_iff.mpr ⟨(hflat t hmem).2, by simpa using hnever, ?_, ?_⟩
        · exact fun heq => hany (heq ▸ hmem)
        · exact fun heq => hunknown (heq ▸ hmem)
      · intro t ht
        exact (hflat t (List.mem_of_mem_filter ht)).1

theorem members_eq_singleton {t : StaticType} (ht : t.isUnion = false) : t.members = [t] := by
  cases t with
  | union ms => cases ht
  | _ => rfl

theorem distinct_of_nodup {ts : List StaticType} (hnodup : ts.Nodup) : distinct ts = ts := by
  induction ts with
  | nil => rfl
  | cons head rest ih =>
      obtain ⟨hhead, hrest⟩ := List.nodup_cons.mp hnodup
      rw [distinct, ih hrest, List.filter_eq_self.mpr]
      intro t ht
      have hne : t ≠ head := fun heq => hhead (heq ▸ ht)
      simpa using hne

/-- A union of plain members that is made anew is the same. -/
theorem join_union {ms : List StaticType} (hlength : 2 ≤ ms.length) (hnodup : ms.Nodup)
    (hplain : ∀ t ∈ ms, t.isPlain = true) : join [union ms] = union ms := by
  have hflat : flatten [union ms] = ms := by
    rw [flatten, List.flatMap_singleton]
    exact distinct_of_nodup hnodup
  have hplain := fun t ht => isPlain_iff.mp (hplain t ht)
  have hkept : ms.filter (· ≠ primitive "never") = ms :=
    List.filter_eq_self.mpr fun t ht => by simpa using (hplain t ht).2.1
  rw [join, hflat, if_neg fun hany => (hplain _ hany).2.2.1 rfl,
    if_neg fun hunknown => (hplain _ hunknown).2.2.2 rfl, hkept]
  match ms, hlength with
  | _ :: _ :: _, _ => rfl

theorem join_of_not_isUnion {t : StaticType} (ht : t.isUnion = false) : join [t] = t := by
  have hflat : flatten [t] = [t] := by
    rw [flatten, List.flatMap_singleton, members_eq_singleton ht]
    rfl
  rw [join, hflat]
  by_cases hany : primitive "any" = t
  · subst hany
    rfl
  · by_cases hunknown : primitive "unknown" = t
    · subst hunknown
      rfl
    · by_cases hnever : t = primitive "never"
      · subst hnever
        rfl
      · simp [hany, hunknown, hnever, ofMembers]

/-- The union of a single normal type is the type. -/
theorem join_singleton {t : StaticType} (ht : t.Normal) : join [t] = t := by
  cases ht with
  | union hlength hnodup hplain _ => exact join_union hlength hnodup hplain
  | _ => exact join_of_not_isUnion rfl

/-- A union of types that are no unions has some of them as its members. -/
theorem subset_of_join_eq_union {types ms : List StaticType}
    (htypes : ∀ t ∈ types, t.isUnion = false) (hjoin : join types = union ms) : ms ⊆ types := by
  have hflat : ∀ t ∈ flatten types, t ∈ types := by
    intro t ht
    obtain ⟨u, hu, hmember⟩ := mem_flatten.mp ht
    rw [members_eq_singleton (htypes u hu)] at hmember
    rwa [List.mem_singleton.mp hmember]
  unfold join at hjoin
  dsimp only at hjoin
  split at hjoin
  · cases hjoin
  · split at hjoin
    · cases hjoin
    · intro m hm
      match hkept : (flatten types).filter (· ≠ primitive "never") with
      | [] =>
          rw [hkept] at hjoin
          cases hjoin
      | [u] =>
          -- A single member stands for itself, and it is no union.
          rw [hkept] at hjoin
          have hu : u ∈ flatten types := List.mem_of_mem_filter (hkept ▸ List.mem_cons_self)
          have hplain := htypes u (hflat u hu)
          rw [show u = union ms from hjoin] at hplain
          cases hplain
      | a :: b :: rest =>
          rw [hkept] at hjoin
          cases hjoin
          rw [← hkept] at hm
          exact hflat m (List.mem_of_mem_filter hm)

/-! ## Absent values -/

/-- What is left of a normal union holds no absent value at the top: its members were
members before, since none of them was a union. -/
theorem not_isNullish_of_eraseNullish {t : StaticType} {ms : List StaticType} (ht : t.Normal)
    (herased : t.eraseNullish = union ms) : ∀ m ∈ ms, m.isNullish = false := by
  cases t with
  | union all =>
      have hplain : ∀ m ∈ all.filter (!·.isNullish), m.isUnion = false :=
        fun m hm => (ht.member (List.mem_of_mem_filter hm)).2
      intro m hm
      have hkept := subset_of_join_eq_union hplain herased hm
      simpa using List.of_mem_filter hkept
  | _ => cases herased

end StaticType

/-- With absent values erased no normal type is nullable, whatever counts as absent. -/
theorem NullabilityPolicy.isNullable_eraseNullish (policy : NullabilityPolicy) {t : StaticType}
    (ht : t.Normal) : policy.isNullable t.eraseNullish = false := by
  cases herased : t.eraseNullish with
  | union ms =>
      have hpresent := StaticType.not_isNullish_of_eraseNullish ht herased
      have habsent : ∀ m ∈ ms, policy.isAbsent m = false := by
        intro m hm
        have hm := hpresent m hm
        cases policy <;> cases m <;> first | rfl | cases hm
      simpa [isNullable, StaticType.isUnion, StaticType.members] using habsent
  | _ => rfl

end CallMigration
