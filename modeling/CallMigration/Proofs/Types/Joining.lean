import CallMigration.Proofs.Types.Normal
import Mathlib.Data.List.Perm.Lattice

/-!
# Unions of unions

A union is made of the members of its types: whether `any` or `unknown` is one of them, and
which others there are, in the order of their first occurrence. A union inside the list of
types can therefore be replaced by the types it is made of, and the order of the types
decides on nothing but the order of the members.
-/

namespace CallMigration

namespace StaticType

/-! ## Lists without repetitions -/

theorem distinct_filter (keep : StaticType → Bool) (ts : List StaticType) :
    distinct (ts.filter keep) = (distinct ts).filter keep := by
  induction ts with
  | nil => rfl
  | cons head rest ih =>
      rw [distinct, List.filter_cons, List.filter_cons]
      split
      · rw [distinct, ih, List.filter_filter, List.filter_filter]
        simp only [Bool.and_comm]
      next hdropped =>
        rw [ih, List.filter_filter]
        refine List.filter_congr fun t _ => ?_
        by_cases heq : t = head
        · simp [heq, hdropped]
        · simp [heq]

theorem distinct_append (first second : List StaticType) :
    distinct (first ++ second) = distinct first ++ (distinct second).filter (· ∉ first) := by
  induction first with
  | nil => simp [distinct]
  | cons head rest ih =>
      rw [List.cons_append, distinct, distinct, ih, List.filter_append, List.filter_filter,
        List.cons_append]
      congr 2
      refine List.filter_congr fun t _ => ?_
      simp

/-- Repetitions in the middle of a list can be left out beforehand. -/
theorem distinct_splice (first middle last : List StaticType) :
    distinct (first ++ distinct middle ++ last) = distinct (first ++ middle ++ last) := by
  simp only [distinct_append, distinct_of_nodup (nodup_distinct middle), List.mem_append,
    mem_distinct]

theorem distinct_perm {ts us : List StaticType} (hperm : ts.Perm us) :
    (distinct ts).Perm (distinct us) := by
  rw [List.perm_ext_iff_of_nodup (nodup_distinct ts) (nodup_distinct us)]
  intro t
  rw [mem_distinct, mem_distinct, hperm.mem_iff]

/-! ## What a union is -/

variable {ts : List StaticType} {t m : StaticType}

theorem join_of_any (hany : primitive "any" ∈ flatten ts) : join ts = primitive "any" :=
  if_pos hany

theorem join_of_unknown (hany : primitive "any" ∉ flatten ts)
    (hunknown : primitive "unknown" ∈ flatten ts) : join ts = primitive "unknown" :=
  (if_neg hany).trans (if_pos hunknown)

theorem join_of_neither (hany : primitive "any" ∉ flatten ts)
    (hunknown : primitive "unknown" ∉ flatten ts) :
    join ts = ofMembers ((flatten ts).filter (· ≠ primitive "never")) :=
  (if_neg hany).trans (if_neg hunknown)

theorem filter_flatten (keep : StaticType → Bool) (ts : List StaticType) :
    (flatten ts).filter keep = distinct (ts.flatMap fun t => t.members.filter keep) := by
  rw [flatten, ← distinct_filter, List.filter_flatMap]

/-- Among the members of a normal type, only the type itself may be one that no normal union
has. -/
theorem Normal.eq_of_mem_members (ht : t.Normal) (hm : m ∈ t.members)
    (hplain : m.isPlain = false) : t = m := by
  cases ht with
  | union _ _ hmembers _ => rw [hmembers m hm] at hplain; cases hplain
  | _ => exact (List.mem_singleton.mp hm).symm

theorem isUnion_of_mem_flatten (hts : ∀ t ∈ ts, t.Normal) (hm : m ∈ flatten ts) :
    m.isUnion = false := by
  obtain ⟨t, ht, hmember⟩ := mem_flatten.mp hm
  exact ((hts t ht).member hmember).2

/-- A type that no normal union has for a member is met only as one of the types. -/
theorem mem_flatten_of_not_plain (hts : ∀ t ∈ ts, t.Normal) (hplain : m.isPlain = false)
    (hunion : m.isUnion = false) : m ∈ flatten ts ↔ m ∈ ts := by
  rw [mem_flatten]
  constructor
  · rintro ⟨t, ht, hm⟩
    rwa [← (hts t ht).eq_of_mem_members hm hplain]
  · intro hm
    exact ⟨m, hm, by rw [members_eq_singleton hunion]; exact List.mem_singleton_self m⟩

/-! ## The members of a union -/

/-- The members of the type that stands for a list of members. -/
theorem members_ofMembers {ms : List StaticType} (hms : ∀ m ∈ ms, m.isUnion = false) :
    (ofMembers ms).members = if ms = [] then [primitive "never"] else ms := by
  match ms with
  | [] => rfl
  | [m] => exact members_eq_singleton (hms m List.mem_cons_self)
  | _ :: _ :: _ => rfl

theorem members_join (hts : ∀ t ∈ ts, t.Normal) :
    (join ts).members =
      if primitive "any" ∈ flatten ts then [primitive "any"]
      else if primitive "unknown" ∈ flatten ts then [primitive "unknown"]
      else if (flatten ts).filter (· ≠ primitive "never") = [] then [primitive "never"]
      else (flatten ts).filter (· ≠ primitive "never") := by
  split
  next hany => rw [join_of_any hany]; rfl
  next hany =>
    split
    next hunknown => rw [join_of_unknown hany hunknown]; rfl
    next hunknown =>
      rw [join_of_neither hany hunknown]
      exact members_ofMembers fun m hm => isUnion_of_mem_flatten hts (List.mem_of_mem_filter hm)

/-- The members of a union are those of its types, unless `any` or `unknown` absorbs them. -/
theorem mem_members_join (hts : ∀ t ∈ ts, t.Normal) (hm : m ≠ primitive "never") :
    m ∈ (join ts).members ↔ m ∈ flatten ts ∧
      (primitive "any" ∈ flatten ts → m = primitive "any") ∧
      (primitive "unknown" ∈ flatten ts → m = primitive "unknown" ∨ m = primitive "any") := by
  rw [members_join hts]
  split
  next hany =>
    simp only [List.mem_singleton]
    constructor
    · rintro rfl
      exact ⟨hany, fun _ => rfl, fun _ => .inr rfl⟩
    · exact fun h => h.2.1 hany
  next hany =>
    split
    next hunknown =>
      simp only [List.mem_singleton]
      constructor
      · rintro rfl
        exact ⟨hunknown, fun h => absurd h hany, fun _ => .inl rfl⟩
      · rintro ⟨hmem, -, habsorbed⟩
        exact (habsorbed hunknown).resolve_right fun heq => hany (heq ▸ hmem)
    next hunknown =>
      split
      next hnone =>
        have hempty := List.filter_eq_nil_iff.mp hnone
        simp only [List.mem_singleton, hm, false_iff]
        rintro ⟨hmem, -⟩
        exact hempty m hmem (by simpa using hm)
      next => simp [hm, hany, hunknown]

/-! ## Unions inside unions -/

/-- A union among the types can be replaced by the types it is made of. -/
theorem join_splice (first : List StaticType) {middle : List StaticType}
    (hmiddle : ∀ t ∈ middle, t.Normal) (last : List StaticType) :
    join (first ++ join middle :: last) = join (first ++ middle ++ last) := by
  have hmem : ∀ m, m ∈ flatten (first ++ join middle :: last) ↔
      m ∈ flatten first ∨ m ∈ (join middle).members ∨ m ∈ flatten last := by
    intro m
    simp [mem_flatten, or_and_right, exists_or]
  have hmem' : ∀ m, m ∈ flatten (first ++ middle ++ last) ↔
      m ∈ flatten first ∨ m ∈ flatten middle ∨ m ∈ flatten last := by
    intro m
    simp [mem_flatten, or_and_right, exists_or]
  have hany : primitive "any" ∈ (join middle).members ↔ primitive "any" ∈ flatten middle := by
    rw [mem_members_join hmiddle (by simp)]
    simp
  have hunknown : primitive "unknown" ∈ (join middle).members ↔
      primitive "unknown" ∈ flatten middle ∧ primitive "any" ∉ flatten middle := by
    rw [mem_members_join hmiddle (by simp)]
    simp
  by_cases habsorbed : primitive "any" ∈ flatten (first ++ middle ++ last)
  · rw [join_of_any habsorbed, join_of_any]
    rwa [hmem, hany, ← hmem']
  · have hnot : primitive "any" ∉ flatten (first ++ join middle :: last) := by
      rwa [hmem, hany, ← hmem']
    have hmiddleAny : primitive "any" ∉ flatten middle :=
      fun h => habsorbed ((hmem' _).mpr (.inr (.inl h)))
    by_cases hsecond : primitive "unknown" ∈ flatten (first ++ middle ++ last)
    · rw [join_of_unknown habsorbed hsecond, join_of_unknown hnot]
      rwa [hmem, hunknown, and_iff_left hmiddleAny, ← hmem']
    · have hnotSecond : primitive "unknown" ∉ flatten (first ++ join middle :: last) := by
        rwa [hmem, hunknown, and_iff_left hmiddleAny, ← hmem']
      have hmiddleUnknown : primitive "unknown" ∉ flatten middle :=
        fun h => hsecond ((hmem' _).mpr (.inr (.inl h)))
      -- What is kept of the inner union is what is kept of its types, once each.
      have hkept : (join middle).members.filter (· ≠ primitive "never") =
          distinct (middle.flatMap fun t => t.members.filter (· ≠ primitive "never")) := by
        rw [members_join hmiddle, if_neg hmiddleAny, if_neg hmiddleUnknown, ← filter_flatten]
        split
        next hnone => rw [hnone]; rfl
        next => rw [List.filter_filter]; simp
      rw [join_of_neither habsorbed hsecond, join_of_neither hnot hnotSecond, filter_flatten,
        filter_flatten, List.flatMap_append, List.flatMap_cons, hkept, List.flatMap_append,
        List.flatMap_append, ← distinct_splice, List.append_assoc]

/-- The order of the types decides on the order of the members only. -/
theorem members_join_perm {us : List StaticType} (hts : ∀ t ∈ ts, t.Normal) (hperm : us.Perm ts) :
    (join us).members.Perm (join ts).members := by
  have hus : ∀ t ∈ us, t.Normal := fun t ht => hts t (hperm.mem_iff.mp ht)
  have hflat : (flatten us).Perm (flatten ts) := distinct_perm (hperm.flatMap_right _)
  have hkept := hflat.filter (· ≠ primitive "never")
  have hnone : (flatten us).filter (· ≠ primitive "never") = [] ↔
      (flatten ts).filter (· ≠ primitive "never") = [] := by
    rw [← List.length_eq_zero_iff, ← List.length_eq_zero_iff, hkept.length_eq]
  rw [members_join hus, members_join hts]
  simp only [hflat.mem_iff, hnone]
  split
  · exact .refl _
  · split
    · exact .refl _
    · split
      · exact .refl _
      · exact hkept

/-- A member of another kind than those that absorb or vanish is found in a union when one of
the types has it and nothing absorbs it. -/
theorem mem_members_join_iff (hts : ∀ t ∈ ts, t.Normal) (hm : m.isPlain = true) :
    m ∈ (join ts).members ↔
      (∃ t ∈ ts, m ∈ t.members) ∧ primitive "any" ∉ ts ∧ primitive "unknown" ∉ ts := by
  obtain ⟨-, hnever, hany, hunknown⟩ := isPlain_iff.mp hm
  rw [mem_members_join hts hnever, mem_flatten,
    mem_flatten_of_not_plain hts (by decide) rfl, mem_flatten_of_not_plain hts (by decide) rfl]
  simp [hany, hunknown]

/-- A union of unions is the union of all their types, and a union of one union is that union.
However its types are ordered, a union has the same members. It has `null` or `undefined` for
a member just when one of its types has, and none of them absorbs it. -/
theorem join_join {a b : List StaticType} (ha : ∀ t ∈ a, t.Normal) (hb : ∀ t ∈ b, t.Normal) :
    join [join a, join b] = join (a ++ b) ∧ join [join a] = join a ∧
      (∀ a', a'.Perm a → (join a').members.Perm (join a).members) ∧
      ((join a).hasNull = true ↔
        (∃ t ∈ a, t.hasNull = true) ∧ primitive "any" ∉ a ∧ primitive "unknown" ∉ a) ∧
      ((join a).hasUndefined = true ↔
        (∃ t ∈ a, t.hasUndefined = true) ∧ primitive "any" ∉ a ∧ primitive "unknown" ∉ a) := by
  refine ⟨?_, join_singleton (normal_join ha), fun a' => members_join_perm ha, ?_, ?_⟩
  · calc join [join a, join b]
        = join (a ++ [join b]) := join_splice [] ha [join b]
      _ = join (a ++ b) := by rw [join_splice a hb [], List.append_nil]
  · simpa [hasNull] using mem_members_join_iff (m := null) ha rfl
  · simpa [hasUndefined] using mem_members_join_iff (m := undefined) ha rfl

/-- A union with `null`, made of types that are not all different, one of them `never`. -/
theorem join_join_sample :
    let a := [primitive "never", union [literal "1", null], literal "1"]
    let b := [undefined, union [null, primitive "string"]]
    ((∀ t ∈ a, t.Normal) ∧ ∀ t ∈ b, t.Normal) ∧
      join (a ++ b) = union [literal "1", null, undefined, primitive "string"] ∧
      join [join a, join b] = join (a ++ b) ∧
      (join a.reverse).members.Perm [literal "1", null] ∧ (join a).hasNull = true := by
  intro a b
  have hnull : (union [literal "1", null]).Normal :=
    .union (by decide) (by decide) (by decide) (by simp)
  have hstring : (union [null, primitive "string"]).Normal :=
    .union (by decide) (by decide) (by decide) (by simp)
  have ha : ∀ t ∈ a, t.Normal := by simp [a, hnull]
  have hb : ∀ t ∈ b, t.Normal := by simp [b, hstring]
  obtain ⟨hjoin, -, hperm, habsent, -⟩ := join_join ha hb
  refine ⟨⟨ha, hb⟩, by decide, hjoin, hperm _ a.reverse_perm, ?_⟩
  exact habsent.mpr ⟨⟨union [literal "1", null], by simp [a], by decide⟩, by decide, by decide⟩

end StaticType

end CallMigration
