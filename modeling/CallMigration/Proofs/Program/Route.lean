import CallMigration.Program
import CallMigration.Proofs.PathName
import Mathlib.Logic.Relation

/-!
# Routes of path names

A path name leads, by its text alone, from the root or from where one is, some directories up
and then down through names: this is what is left of its components when every name that `..`
follows is taken out together with it. The normal form of a path name is its route, but that the
second `..` takes the first one back: of the directories up only their parity is kept. So path
names with the same normal form have the same route as long as none of them goes up more than
once.
-/

namespace CallMigration

open Relation (ReflTransGen)

namespace PathName

/-- Where a path name leads by its text alone. -/
structure Route where
  /-- Whether it starts at the root. -/
  absolute : Bool
  /-- How many directories it goes up. -/
  climbs : Nat
  /-- The names through which it then goes down. -/
  names : List String
deriving DecidableEq, Repr

namespace Route

/-- The route of the empty path name. -/
def start : Route := ⟨false, 0, []⟩

/-- Go on by one component: `..` takes the last name back, or else goes up. -/
def go (r : Route) : Component → Route
  | .root => { r with absolute := true }
  | .current => r
  | .parent =>
      if r.names = [] then { r with climbs := r.climbs + 1 }
      else { r with names := r.names.dropLast }
  | .name s => { r with names := r.names ++ [s] }

/-- The components that say the route. -/
def components (r : Route) : List Component :=
  cond r.absolute [.root] [] ++ List.replicate r.climbs .parent ++ r.names.map .name

/-- The route with the parity of the directories up in place of their number. -/
def reduced (r : Route) : Route := { r with climbs := r.climbs % 2 }

theorem reduced_of_climbs_le {r : Route} (hclimbs : r.climbs ≤ 1) : r.reduced = r := by
  rw [reduced, Nat.mod_eq_of_lt (by omega)]

theorem names_eq_nil_or_concat (r : Route) : r.names = [] ∨ ∃ init s, r.names = init ++ [s] :=
  (List.eq_nil_or_concat r.names).imp_right fun ⟨init, s, h⟩ => ⟨init, s, by simpa using h⟩

end Route

/-- The route of a path name. -/
def route (p : PathName) : Route := p.components.foldl Route.go .start

/-- The components of a path name after a leading `/` or `.`. -/
theorem exists_lead (p : PathName) : ∃ lead solid, p.components = lead ++ solid ∧
    (lead = [] ∨ lead = [.root] ∨ lead = [.current]) ∧
    ∀ c ∈ solid, c = .parent ∨ ∃ s, c = .name s ∧ (Component.name s).IsSolid := by
  obtain ⟨lead, solid, hcomponents, hlead, hsolid⟩ := isWritable_components p
  refine ⟨lead, solid, hcomponents, hlead, fun c hc => ?_⟩
  cases c with
  | root => exact absurd (List.mem_singleton.mpr rfl) (hsolid _ hc).noSlash
  | current => exact absurd rfl (hsolid _ hc).text_ne.2
  | parent => exact .inl rfl
  | name s => exact .inr ⟨s, rfl, hsolid _ hc⟩

/-! ## Cancelling -/

/-- A name and the `..` that follows it are taken out. -/
inductive Cancels : List Component → List Component → Prop
  | pair (before : List Component) (s : String) (after : List Component) :
      Cancels (before ++ .name s :: .parent :: after) (before ++ after)

/-- To go on along components is to cancel among them. -/
theorem cancels_go (r : Route) {cs : List Component}
    (hcs : ∀ c ∈ cs, c = .parent ∨ ∃ s, c = .name s) :
    ReflTransGen Cancels (r.components ++ cs) (cs.foldl Route.go r).components := by
  induction cs generalizing r with
  | nil => rw [List.append_nil]; exact .refl
  | cons c cs ih =>
      obtain ⟨hc, hcs⟩ := List.forall_mem_cons.mp hcs
      have hrest := ih (r.go c) hcs
      rw [List.foldl_cons]
      rcases hc with rfl | ⟨s, rfl⟩
      · rcases r.names_eq_nil_or_concat with hnil | ⟨init, s, hconcat⟩
        · have hup : r.components ++ .parent :: cs = (r.go .parent).components ++ cs := by
            simp [Route.components, Route.go, hnil, List.replicate_succ']
          rwa [hup]
        · refine .head ?_ hrest
          have hpair : r.components ++ .parent :: cs =
              (r.go .parent).components ++ .name s :: .parent :: cs := by
            simp [Route.components, Route.go, hconcat]
          rw [hpair]
          exact .pair _ s cs
      · have hdown : r.components ++ .name s :: cs = (r.go (.name s)).components ++ cs := by
          simp [Route.components, Route.go]
        rwa [hdown]

/-- The route says what is left of the components of a path name after cancelling. -/
theorem cancels_route (p : PathName) :
    ReflTransGen Cancels (p.components.filter (· ≠ .current)) p.route.components := by
  obtain ⟨lead, solid, hcomponents, hlead, hsolid⟩ := p.exists_lead
  have hsteps : ∀ c ∈ solid, c = .parent ∨ ∃ s, c = .name s :=
    fun c hc => (hsolid c hc).imp_right fun ⟨s, hs, _⟩ => ⟨s, hs⟩
  have hkept : solid.filter (· ≠ .current) = solid := by
    refine List.filter_eq_self.mpr fun c hc => ?_
    rcases hsteps c hc with rfl | ⟨s, rfl⟩ <;> simp
  rw [route, hcomponents, List.filter_append, List.foldl_append, hkept]
  rcases hlead with rfl | rfl | rfl
  · exact cancels_go .start hsteps
  · exact cancels_go ⟨true, 0, []⟩ hsteps
  · exact cancels_go .start hsteps

/-! ## Normal forms -/

/-- One more component changes the normal form as it changes the route. -/
theorem pushNormal_reduced (r : Route) {c : Component} (hc : c = .parent ∨ ∃ s, c = .name s) :
    pushNormal r.reduced.components.reverse c = (r.go c).reduced.components.reverse := by
  rcases hc with rfl | ⟨s, rfl⟩
  · rcases r.names_eq_nil_or_concat with hnil | ⟨init, s, hconcat⟩
    · -- Without names the last component is the root, a single `..`, or none.
      have hgo : (r.go .parent).reduced = ⟨r.absolute, (r.climbs + 1) % 2, []⟩ := by
        simp [Route.go, Route.reduced, hnil]
      have hreduced : r.reduced = ⟨r.absolute, r.climbs % 2, []⟩ := by
        simp [Route.reduced, hnil]
      rw [hgo, hreduced]
      rcases Nat.mod_two_eq_zero_or_one r.climbs with heven | hodd
      · rw [heven, show (r.climbs + 1) % 2 = 1 by omega]
        cases r.absolute <;> rfl
      · rw [hodd, show (r.climbs + 1) % 2 = 0 by omega]
        cases r.absolute <;> rfl
    · simp [Route.go, Route.reduced, Route.components, hconcat, pushNormal]
  · simp [Route.go, Route.reduced, Route.components, pushNormal]

theorem foldl_pushNormal (r : Route) {cs : List Component}
    (hcs : ∀ c ∈ cs, c = .parent ∨ ∃ s, c = .name s) :
    cs.foldl pushNormal r.reduced.components.reverse =
      (cs.foldl Route.go r).reduced.components.reverse := by
  induction cs generalizing r with
  | nil => rfl
  | cons c cs ih =>
      obtain ⟨hc, hcs⟩ := List.forall_mem_cons.mp hcs
      rw [List.foldl_cons, pushNormal_reduced r hc, ih (r.go c) hcs, List.foldl_cons]

theorem normalize_eq_reduced (p : PathName) : p.normalize = p.route.reduced.components := by
  obtain ⟨lead, solid, hcomponents, hlead, hsolid⟩ := p.exists_lead
  have hsteps : ∀ c ∈ solid, c = .parent ∨ ∃ s, c = .name s :=
    fun c hc => (hsolid c hc).imp_right fun ⟨s, hs, _⟩ => ⟨s, hs⟩
  rw [normalize, route, hcomponents, List.foldl_append, List.foldl_append,
    List.reverse_eq_iff]
  rcases hlead with rfl | rfl | rfl
  · exact foldl_pushNormal .start hsteps
  · exact foldl_pushNormal ⟨true, 0, []⟩ hsteps
  · exact foldl_pushNormal .start hsteps

/-- Going along the components of a route leads there. -/
theorem foldl_go_components (r : Route) : r.components.foldl Route.go .start = r := by
  have hlead : ∀ absolute : Bool, (cond absolute [Component.root] []).foldl Route.go .start =
      ⟨absolute, 0, []⟩ := by
    rintro (_ | _) <;> rfl
  have hup : ∀ (n k : Nat), (List.replicate n Component.parent).foldl Route.go
      ⟨r.absolute, k, []⟩ = ⟨r.absolute, k + n, []⟩ := by
    intro n
    induction n with
    | zero => exact fun _ => rfl
    | succ n ih =>
        intro k
        rw [List.replicate_succ, List.foldl_cons]
        exact (ih (k + 1)).trans (by rw [Nat.add_right_comm, Nat.add_assoc])
  have hdown : ∀ names before : List String, (names.map Component.name).foldl Route.go
      ⟨r.absolute, r.climbs, before⟩ = ⟨r.absolute, r.climbs, before ++ names⟩ := by
    intro names
    induction names with
    | nil => exact fun _ => by rw [List.append_nil]; rfl
    | cons s names ih =>
        intro before
        exact (ih (before ++ [s])).trans (by rw [List.append_assoc, List.singleton_append])
  rw [Route.components, List.foldl_append, List.foldl_append, hlead, hup, Nat.zero_add, hdown,
    List.nil_append]

/-- A normal form that is read as a path name tells its route. -/
theorem reduced_eq_of_normalize {p q : PathName} (hnormal : p.normalize = q.components) :
    p.route.reduced = q.route := by
  rw [route.eq_def q, ← hnormal, normalize_eq_reduced, foldl_go_components]

theorem components_injective : Function.Injective Route.components := by
  intro r r' hcomponents
  rw [← foldl_go_components r, hcomponents, foldl_go_components r']

end PathName

open PathName

namespace Program

/-- The path name that a specifier stands for, read from the directory of the importer. -/
def specifiedPath (importer : SourceFile) (specifier : String) : PathName :=
  (importer.path.parent?.getD ⟨""⟩).join ⟨specifier⟩

theorem moduleTarget_eq (importer : SourceFile) (specifier : String) :
    moduleTarget importer.path specifier =
      (ofComponents (specifiedPath importer specifier).route.reduced.components).text := by
  rw [← normalize_eq_reduced]
  rfl

/-- A module that is found is at the place of a candidate, as far as normal forms tell. -/
theorem exists_candidate_of_resolveModule {p : Program} {importer file : SourceFile}
    {specifier : String} (hfile : p.resolveModule importer specifier = some file) :
    ∃ candidate ∈ moduleCandidates
        (ofComponents (specifiedPath importer specifier).route.reduced.components).text,
      candidate.route = file.path.route.reduced := by
  unfold resolveModule at hfile
  split at hfile
  · obtain ⟨candidate, hcandidate, hfile⟩ := List.exists_of_findSome?_eq_some hfile
    have hfound := List.find?_some hfile
    rw [moduleTarget_eq] at hcandidate
    exact ⟨candidate, hcandidate, (reduced_eq_of_normalize (beq_iff_eq.mp hfound)).symm⟩
  · cases hfile

end Program

namespace PathName

/-- Path names have the same normal form when their routes are the same but for an even number
of directories up. So the normal form tells the routes of path names that go up at most once
apart, and a module whose path name goes up at most once, found for a specifier that does the
same, is at the place of one of the candidates for it. -/
theorem normalize_eq_iff_route (p q : PathName) :
    ReflTransGen Cancels (p.components.filter (· ≠ .current)) p.route.components ∧
    (p.normalize = q.normalize ↔ p.route.absolute = q.route.absolute ∧
      p.route.climbs % 2 = q.route.climbs % 2 ∧ p.route.names = q.route.names) ∧
    (p.route.climbs ≤ 1 → q.route.climbs ≤ 1 → p.normalize = q.normalize → p.route = q.route) ∧
    ∀ (program : Program) (importer file : SourceFile) (specifier : String),
      program.resolveModule importer specifier = some file →
      (Program.specifiedPath importer specifier).route.climbs ≤ 1 → file.path.route.climbs ≤ 1 →
      ∃ candidate ∈ Program.moduleCandidates
          (ofComponents (Program.specifiedPath importer specifier).route.components).text,
        file.path.route = candidate.route := by
  have hiff : p.normalize = q.normalize ↔ p.route.reduced = q.route.reduced := by
    rw [normalize_eq_reduced, normalize_eq_reduced, components_injective.eq_iff]
  refine ⟨p.cancels_route, ?_, ?_, ?_⟩
  · rw [hiff, Route.reduced, Route.reduced, Route.mk.injEq]
  · intro hp hq hnormal
    rwa [hiff, Route.reduced_of_climbs_le hp, Route.reduced_of_climbs_le hq] at hnormal
  · intro program importer file specifier hfile htarget hpath
    obtain ⟨candidate, hcandidate, hroute⟩ := Program.exists_candidate_of_resolveModule hfile
    rw [Route.reduced_of_climbs_le htarget] at hcandidate
    rw [Route.reduced_of_climbs_le hpath] at hroute
    exact ⟨candidate, hcandidate, hroute.symm⟩

namespace Sample

/-- An empty file. -/
def emptyFile (path : String) : SourceFile :=
  ⟨0, ⟨path⟩, "", .typeScript, .node ⟨"program", true, false, ⟨0, 0⟩, []⟩ []⟩

def importer : SourceFile := emptyFile "src/main.ts"

/-- A program with a file that is not below the directory of its path names. -/
def program : Program := ⟨[importer, emptyFile "a.ts", emptyFile "../lib/b.ts"], .standard⟩

end Sample

/-- Two path names of that file, and a specifier for which it is found. -/
theorem normalize_eq_iff_route_sample :
    (⟨"src/.././../lib/b.ts"⟩ : PathName).route = (⟨"../lib/b.ts"⟩ : PathName).route ∧
      (Program.specifiedPath Sample.importer "../../lib/b").route = ⟨false, 1, ["lib", "b"]⟩ ∧
      ∃ file, Sample.program.resolveModule Sample.importer "../../lib/b" = some file ∧
        file.path.route = ⟨false, 1, ["lib", "b.ts"]⟩ ∧
        ∃ candidate ∈ Program.moduleCandidates "../lib/b", file.path.route = candidate.route := by
  obtain ⟨-, -, hroute, hmodule⟩ :=
    normalize_eq_iff_route ⟨"src/.././../lib/b.ts"⟩ ⟨"../lib/b.ts"⟩
  have htarget : (Program.specifiedPath Sample.importer "../../lib/b").route =
      ⟨false, 1, ["lib", "b"]⟩ := by decide +kernel
  have hpath : (Sample.program.resolveModule Sample.importer "../../lib/b").map (·.path.route) =
      some ⟨false, 1, ["lib", "b.ts"]⟩ := by decide +kernel
  obtain ⟨file, hfile, hpath⟩ := Option.map_eq_some_iff.mp hpath
  refine ⟨hroute (by decide +kernel) (by decide +kernel) (by decide +kernel), htarget, file, hfile,
    hpath, ?_⟩
  have hcandidate := hmodule Sample.program Sample.importer file "../../lib/b" hfile
    (by simp [htarget]) (by simp [hpath])
  rwa [htarget, show (ofComponents (Route.components ⟨false, 1, ["lib", "b"]⟩)).text = "../lib/b" by
    decide +kernel] at hcandidate

/-- The second `..` takes the first one back: a file two directories up is taken for one in the
directory itself, and for a specifier that leads two directories up the file is found that is
not there. -/
theorem normalize_climbs_twice :
    (⟨"../../a.ts"⟩ : PathName).normalize = (⟨"a.ts"⟩ : PathName).normalize ∧
      (⟨"../../a.ts"⟩ : PathName).route ≠ (⟨"a.ts"⟩ : PathName).route ∧
      (Program.specifiedPath Sample.importer "../../../a").route = ⟨false, 2, ["a"]⟩ ∧
      (Sample.program.resolveModule Sample.importer "../../../a").map (·.path.route) =
        some ⟨false, 0, ["a.ts"]⟩ := by
  decide +kernel

end PathName

end CallMigration
