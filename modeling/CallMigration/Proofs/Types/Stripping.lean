import CallMigration.Proofs.Types.Closed
import CallMigration.Proofs.Types.Joining

/-!
# Types without absent values

A type without `null` and `undefined`, or without `undefined` only, has the other members
of the type, in their order. Whatever members are taken away, it comes to the same whether
they are taken from a union or from the types it is made of, as long as `any` and `unknown`
stay.
-/

namespace CallMigration

namespace StaticType

/-- The type with those members only that pass, in order; `never` when there is none. -/
def keeping (keep : StaticType → Bool) (t : StaticType) : StaticType :=
  ofMembers (t.members.filter keep)

variable {keep : StaticType → Bool} {t m : StaticType}

/-- A type that is no union stays or is taken away as a whole. -/
theorem keeping_of_not_isUnion (ht : t.isUnion = false) (hkeep : keep t = true) :
    t.keeping keep = t := by
  rw [keeping, members_eq_singleton ht, List.filter_cons_of_pos hkeep]
  rfl

theorem members_keeping (ht : t.Normal) (keep : StaticType → Bool) :
    (t.keeping keep).members =
      if t.members.filter keep = [] then [primitive "never"] else t.members.filter keep :=
  members_ofMembers fun _ hm => (ht.member (List.mem_of_mem_filter hm)).2

theorem mem_members_keeping (ht : t.Normal) (hm : m ≠ primitive "never") :
    m ∈ (t.keeping keep).members ↔ m ∈ t.members ∧ keep m = true := by
  rw [members_keeping ht, ← List.mem_filter]
  split
  next hnone => simp [hnone, hm]
  next => rfl

/-- `never` aside, the members of what is kept are the members that are kept. -/
theorem filter_members_keeping (ht : t.Normal) (keep again : StaticType → Bool)
    (hagain : again (primitive "never") = false) :
    (t.keeping keep).members.filter again = (t.members.filter keep).filter again := by
  rw [members_keeping ht]
  split
  next hnone => simp [hnone, hagain]
  next => rfl

/-- Taking members away twice takes away the members of both kinds. -/
theorem keeping_keeping (ht : t.Normal) (first second : StaticType → Bool) :
    (t.keeping first).keeping second = t.keeping fun m => second m && first m := by
  rw [keeping, members_keeping ht, keeping, ← List.filter_filter]
  split
  next hnone =>
    rw [hnone, List.filter_nil, List.filter_cons]
    split <;> rfl
  next => rfl

/-! ## Members of a union and of its types -/

variable {ms : List StaticType}

/-- Taking members away does not add any. -/
theorem mem_flatten_keeping (hms : ∀ t ∈ ms, t.Normal) (hm : m ≠ primitive "never") :
    m ∈ flatten (ms.map (keeping keep)) ↔ m ∈ flatten ms ∧ keep m = true := by
  simp only [mem_flatten, List.mem_map, exists_exists_and_eq_and]
  constructor
  · rintro ⟨t, ht, hmem⟩
    obtain ⟨hmem, hkeep⟩ := (mem_members_keeping (hms t ht) hm).mp hmem
    exact ⟨⟨t, ht, hmem⟩, hkeep⟩
  · rintro ⟨⟨t, ht, hmem⟩, hkeep⟩
    exact ⟨t, ht, (mem_members_keeping (hms t ht) hm).mpr ⟨hmem, hkeep⟩⟩

/-- Members are taken away from a union by taking them away from the types it is made of. -/
theorem keeping_join (hms : ∀ t ∈ ms, t.Normal) (hany : keep (primitive "any") = true)
    (hunknown : keep (primitive "unknown") = true) :
    (join ms).keeping keep = join (ms.map (keeping keep)) := by
  have hmemAny : primitive "any" ∈ flatten (ms.map (keeping keep)) ↔
      primitive "any" ∈ flatten ms := by
    rw [mem_flatten_keeping hms (by simp), and_iff_left hany]
  have hmemUnknown : primitive "unknown" ∈ flatten (ms.map (keeping keep)) ↔
      primitive "unknown" ∈ flatten ms := by
    rw [mem_flatten_keeping hms (by simp), and_iff_left hunknown]
  by_cases hanyIn : primitive "any" ∈ flatten ms
  · rw [join_of_any hanyIn, join_of_any (hmemAny.mpr hanyIn), keeping_of_not_isUnion rfl hany]
  · by_cases hunknownIn : primitive "unknown" ∈ flatten ms
    · rw [join_of_unknown hanyIn hunknownIn, keeping_of_not_isUnion rfl hunknown,
        join_of_unknown (mt hmemAny.mp hanyIn) (hmemUnknown.mpr hunknownIn)]
    · rw [join_of_neither (mt hmemAny.mp hanyIn) (mt hmemUnknown.mp hunknownIn), keeping,
        members_join hms, if_neg hanyIn, if_neg hunknownIn, filter_flatten]
      -- `never` is left out before or after, and repetitions too.
      have hkept : (ms.map (keeping keep)).flatMap
            (fun t => t.members.filter (· ≠ primitive "never")) =
          (ms.flatMap fun t => t.members.filter (· ≠ primitive "never")).filter keep := by
        rw [List.flatMap_map, List.filter_flatMap]
        refine List.flatMap_congr fun t ht => ?_
        rw [filter_members_keeping (hms t ht) _ _ (by simp), List.filter_comm]
      rw [filter_flatten, hkept, distinct_filter]
      split
      next hnone =>
        rw [hnone, List.filter_nil, List.filter_cons]
        split <;> rfl
      next => rfl

/-! ## Absent values -/

/-- A union of members that are plain and all different has just these. -/
theorem join_of_plain {ms : List StaticType} (hnodup : ms.Nodup)
    (hplain : ∀ m ∈ ms, m.isPlain = true) : join ms = ofMembers ms := by
  have hflat : flatten ms = ms := by
    rw [flatten, List.flatMap_congr fun m hm =>
      members_eq_singleton (isPlain_iff.mp (hplain m hm)).1, List.flatMap_singleton']
    exact distinct_of_nodup hnodup
  have hplain := fun m hm => isPlain_iff.mp (hplain m hm)
  rw [join_of_neither, hflat]
  · rw [List.filter_eq_self.mpr fun m hm => by simpa using (hplain m hm).2.1]
  · rw [hflat]
    exact fun hany => (hplain _ hany).2.2.1 rfl
  · rw [hflat]
    exact fun hunknown => (hplain _ hunknown).2.2.2 rfl

theorem join_filter_of_normal {ms : List StaticType} (hms : (union ms).Normal)
    (keep : StaticType → Bool) : join (ms.filter keep) = (union ms).keeping keep := by
  cases hms with
  | union _ hnodup hplain _ =>
      exact join_of_plain (hnodup.filter _) fun m hm => hplain m (List.mem_of_mem_filter hm)

theorem withoutNullish_eq (ht : t.Normal) : t.withoutNullish = t.keeping (!·.isNullish) := by
  cases t with
  | union ms => exact join_filter_of_normal ht _
  | _ => rfl

theorem withoutUndefined_eq (ht : t.Normal) :
    t.withoutUndefined = t.keeping (· ≠ undefined) := by
  cases t with
  | union ms => exact join_filter_of_normal ht _
  | _ => rfl

theorem map_withoutNullish (hms : ∀ t ∈ ms, t.Normal) :
    ms.map withoutNullish = ms.map (keeping (!·.isNullish)) :=
  List.map_congr_left fun t ht => withoutNullish_eq (hms t ht)

theorem map_withoutUndefined (hms : ∀ t ∈ ms, t.Normal) :
    ms.map withoutUndefined = ms.map (keeping (· ≠ undefined)) :=
  List.map_congr_left fun t ht => withoutUndefined_eq (hms t ht)

theorem hasNull_keeping (ht : t.Normal) (keep : StaticType → Bool) :
    (t.keeping keep).hasNull = (t.hasNull && keep null) := by
  rw [Bool.eq_iff_iff]
  simpa [hasNull] using mem_members_keeping (m := null) ht (by simp)

theorem hasUndefined_keeping (ht : t.Normal) (keep : StaticType → Bool) :
    (t.keeping keep).hasUndefined = (t.hasUndefined && keep undefined) := by
  rw [Bool.eq_iff_iff]
  simpa [hasUndefined] using mem_members_keeping (m := undefined) ht (by simp)

/-- Absent values can be taken away from a union or from its types. Without them a type has
its other members in their order, or is `never`; taking them away again changes nothing, and
taking away `undefined` before both does not either. -/
theorem stripping {ms : List StaticType} (hms : ∀ t ∈ ms, t.Normal) {t : StaticType}
    (ht : t.Normal) :
    ((join ms).withoutNullish = join (ms.map withoutNullish) ∧
      (join ms).withoutUndefined = join (ms.map withoutUndefined)) ∧
    (t.withoutNullish.hasNull = false ∧ t.withoutNullish.hasUndefined = false ∧
      t.withoutUndefined.hasUndefined = false ∧ t.withoutUndefined.hasNull = t.hasNull) ∧
    (t.withoutNullish = t.keeping (!·.isNullish) ∧
      t.withoutUndefined = t.keeping (· ≠ undefined)) ∧
    (t.withoutNullish.withoutNullish = t.withoutNullish ∧
      t.withoutUndefined.withoutUndefined = t.withoutUndefined) ∧
    t.withoutUndefined.withoutNullish = t.withoutNullish := by
  have hjoin := normal_join hms
  have hnullish := withoutNullish_eq ht
  have hundefined := withoutUndefined_eq ht
  have hpresent := closed_normal.withoutNullish ht
  have hdefined := closed_normal.withoutUndefined ht
  refine ⟨⟨?_, ?_⟩, ⟨?_, ?_, ?_, ?_⟩, ⟨hnullish, hundefined⟩, ⟨?_, ?_⟩, ?_⟩
  · rw [withoutNullish_eq hjoin, map_withoutNullish hms, keeping_join hms rfl rfl]
  · rw [withoutUndefined_eq hjoin, map_withoutUndefined hms, keeping_join hms (by simp) (by simp)]
  · rw [hnullish, hasNull_keeping ht]
    exact Bool.and_false _
  · rw [hnullish, hasUndefined_keeping ht]
    exact Bool.and_false _
  · rw [hundefined, hasUndefined_keeping ht]
    simp
  · rw [hundefined, hasNull_keeping ht]
    simp
  · rw [withoutNullish_eq hpresent, hnullish, keeping_keeping ht]
    simp only [Bool.and_self]
  · rw [withoutUndefined_eq hdefined, hundefined, keeping_keeping ht]
    simp only [Bool.and_self]
  · -- What is `undefined` is nullish, so it is taken away in any case.
    rw [withoutNullish_eq hdefined, hundefined, hnullish, keeping_keeping ht]
    congr 1
    funext m
    cases m <;> rfl

/-- Types of which two are absent values alone. -/
theorem stripping_sample :
    let absent := union [null, undefined]
    let ms := [union [literal "1", null], undefined, absent, primitive "string"]
    ((∀ t ∈ ms, t.Normal) ∧ absent.Normal) ∧
      (join ms).withoutNullish = union [literal "1", primitive "string"] ∧
      join (ms.map withoutNullish) = union [literal "1", primitive "string"] ∧
      (join ms).withoutUndefined = union [literal "1", null, primitive "string"] ∧
      join (ms.map withoutUndefined) = union [literal "1", null, primitive "string"] ∧
      absent.withoutNullish = primitive "never" ∧ absent.withoutUndefined.hasNull = true := by
  intro absent ms
  have habsent : absent.Normal := .union (by decide) (by decide) (by decide) (by simp)
  have hliteral : (union [literal "1", null]).Normal :=
    .union (by decide) (by decide) (by decide) (by simp)
  have hms : ∀ t ∈ ms, t.Normal := by simp [ms, hliteral, habsent]
  obtain ⟨⟨hnullish, hundefined⟩, ⟨-, -, -, hnull⟩, ⟨hkept, -⟩, -, -⟩ := stripping hms habsent
  have hwithout : (join ms).withoutNullish = union [literal "1", primitive "string"] := by decide
  have hdefined : (join ms).withoutUndefined = union [literal "1", null, primitive "string"] := by
    decide
  exact ⟨⟨hms, habsent⟩, hwithout, hnullish ▸ hwithout, hdefined, hundefined ▸ hdefined,
    hkept.trans (by decide), hnull.trans (by decide)⟩

end StaticType

end CallMigration
