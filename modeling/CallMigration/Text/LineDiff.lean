import CallMigration.Text.Split

/-!
# Line differences

A script turns one list of lines into another by keeping, removing and adding runs
of lines. The script is found by splitting at the middle of a shortest one, after
which additions slide down as far as the lines around them allow. Within a changed
block all removed lines come before all added ones.
-/

namespace CallMigration.LineDiff

/-- The lines of a text with their ends: a line feed, a carriage return, or both. -/
def splitLines : List Char → List (List Char)
  | [] => []
  | '\r' :: '\n' :: rest => ['\r', '\n'] :: splitLines rest
  | c :: rest =>
      if c = '\n' ∨ c = '\r' then [c] :: splitLines rest
      else
        match splitLines rest with
        | [] => [[c]]
        | line :: lines => (c :: line) :: lines

/-- The lines of a text. -/
def lines (text : String) : List String :=
  (splitLines text.toList).map String.ofList

/-- What a script does with a run of lines. -/
inductive Change where
  | keep
  | remove
  | add
deriving DecidableEq, Repr, Inhabited

/-- A run of lines and what becomes of it. -/
structure Segment where
  change : Change
  lines : List String
deriving DecidableEq, Repr, Inhabited

/-- The common front of two lists. -/
def commonFront : List String → List String → List String
  | a :: as, b :: bs => if a = b then a :: commonFront as bs else []
  | _, _ => []

/-- The common back of two lists. -/
def commonBack (as bs : List String) : List String :=
  (commonFront as.reverse bs.reverse).reverse

/-! ## The middle of a shortest script

Forward and backward searches reach, with `d` changes, the farthest points on each
diagonal `k`; the first point where they meet splits the problem. -/

/-- The farthest points by diagonal; the middle of the array is diagonal zero. -/
structure Reach where
  offset : Nat
  points : Array Nat

namespace Reach

def start (bound : Nat) : Reach :=
  ⟨bound + 1, Array.replicate (2 * bound + 3) 0⟩

def get (r : Reach) (k : Int) : Nat := r.points.getD (k + r.offset).toNat 0

def set (r : Reach) (k : Int) (x : Nat) : Reach :=
  { r with points := r.points.setIfInBounds (k + r.offset).toNat x }

/-- Where a path with `d` changes enters diagonal `k`. -/
def entrance (r : Reach) (d k : Int) : Nat :=
  if k = -d ∨ (k ≠ d ∧ r.get (k - 1) < r.get (k + 1)) then r.get (k + 1) else r.get (k - 1) + 1

end Reach

/-- How many lines agree from the given positions on. -/
def agreeFrom (old new : Array String) (x y : Nat) : Nat → Nat
  | 0 => 0
  | fuel + 1 =>
      match old[x]?, new[y]? with
      | some a, some b => if a = b then agreeFrom old new (x + 1) (y + 1) fuel + 1 else 0
      | _, _ => 0

/-- The diagonals that `d` changes lead to, from the highest down. -/
def diagonals (d : Nat) : List Int :=
  (List.range (d + 1)).map fun (i : Nat) => (d : Int) - 2 * (i : Int)

/-- One step of a search on the diagonals `ks`. `old` and `new` are given in the
direction of the search, `other` is the reach of the opposite search; a point is
answered when the two meet. -/
def search (old new : Array String) (d : Nat) (meets : Int → Bool) (other : Reach) :
    List Int → Reach → Reach × Option (Nat × Nat × Nat × Nat)
  | [], r => (r, none)
  | k :: ks, r =>
      let x := r.entrance d k
      let y : Int := x - k
      let run := if 0 ≤ y then agreeFrom old new x y.toNat old.size else 0
      let r := r.set k (x + run)
      let delta : Int := (old.size : Int) - new.size
      if meets (k - delta) && x + run + other.get (-(k - delta)) ≥ old.size then
        (r, some (x, y.toNat, x + run, y.toNat + run))
      else search old new d meets other ks r

/-- Search from both ends, with more and more changes. -/
def searchBoth (old new oldBack newBack : Array String) :
    (fuel d : Nat) → (ahead back : Reach) → Option (Nat × Nat)
  | 0, _, _, _ => none
  | fuel + 1, d, ahead, back =>
      let delta : Int := (old.size : Int) - new.size
      let odd := delta % 2 != 0
      let near (limit : Int) (k : Int) : Bool := k.natAbs ≤ limit
      match search old new d (fun k => odd && near ((d : Int) - 1) k) back (diagonals d) ahead with
      | (_, some (x, y, _, _)) => some (x, y)
      | (ahead, none) =>
          match search oldBack newBack d (fun k => !odd && near d k) ahead (diagonals d) back with
          | (_, some (_, _, x, y)) => some (old.size - x, new.size - y)
          | (back, none) => searchBoth old new oldBack newBack fuel (d + 1) ahead back

/-- A point on a shortest script between two lists that are not empty. -/
def middle (old new : List String) : Option (Nat × Nat) :=
  let bound := (old.length + new.length + 1) / 2 + 1
  searchBoth old.toArray new.toArray old.reverse.toArray new.reverse.toArray bound 0
    (Reach.start bound) (Reach.start bound)

/-- A segment, unless it is empty. -/
def segment (change : Change) (lines : List String) : List Segment :=
  if lines.isEmpty then [] else [⟨change, lines⟩]

/-- The script between two lists. The first argument bounds the number of splits. -/
def script : Nat → List String → List String → List Segment
  | 0, old, new => segment .remove old ++ segment .add new
  | splits + 1, old, new =>
      let front := commonFront old new
      let old := old.drop front.length
      let new := new.drop front.length
      let back := commonBack old new
      let old := old.take (old.length - back.length)
      let new := new.take (new.length - back.length)
      let between :=
        if old.isEmpty || new.isEmpty then segment .remove old ++ segment .add new
        else
          match middle old new with
          | some (x, y) =>
              script splits (old.take x) (new.take y) ++ script splits (old.drop x) (new.drop y)
          | none => segment .remove old ++ segment .add new
      segment .keep front ++ between ++ segment .keep back

/-! ## Sliding

A script under the hand: the segments before the one in hand, nearest first, and those
after it. -/

/-- Put kept lines in front of segments. -/
def keepBefore (kept : List String) : List Segment → List Segment
  | ⟨.keep, ls⟩ :: rest => ⟨.keep, kept ++ ls⟩ :: rest
  | rest => segment .keep kept ++ rest

/-- Put kept lines behind reversed segments. -/
def keepAfter (kept : List String) : List Segment → List Segment
  | ⟨.keep, ls⟩ :: rest => ⟨.keep, ls ++ kept⟩ :: rest
  | rest => segment .keep kept ++ rest

/-- Slide the segment in hand up: additions move over kept lines that equal their own
last lines, additions and removals change places, and like segments merge. -/
def slideUp : Nat → List Segment → Segment → List Segment → List Segment × Segment × List Segment
  | 0, before, this, after => (before, this, after)
  | fuel + 1, before, this, after =>
      match before with
      | [] => ([], this, after)
      | prev :: rest =>
          if prev.lines.isEmpty then slideUp fuel rest this after
          else if prev.change = this.change then
            slideUp fuel rest ⟨this.change, prev.lines ++ this.lines⟩ after
          else if prev.change = .keep then
            let shared := if this.change = .add then commonBack prev.lines this.lines else []
            if shared.isEmpty then (before, this, after)
            else
              slideUp fuel
                (segment .keep (prev.lines.take (prev.lines.length - shared.length)) ++ rest)
                ⟨.add, shared ++ this.lines.take (this.lines.length - shared.length)⟩
                (keepBefore shared after)
          else slideUp fuel rest this (prev :: after)

/-- Slide the segment in hand down, likewise. -/
def slideDown : Nat → List Segment → Segment → List Segment → List Segment × Segment × List Segment
  | 0, before, this, after => (before, this, after)
  | fuel + 1, before, this, after =>
      match after with
      | [] => (before, this, [])
      | next :: rest =>
          if next.lines.isEmpty then slideDown fuel before this rest
          else if next.change = this.change then
            slideDown fuel before ⟨this.change, this.lines ++ next.lines⟩ rest
          else if next.change = .keep then
            let shared := if this.change = .add then commonFront next.lines this.lines else []
            if shared.isEmpty then (before, this, after)
            else
              slideDown fuel (keepAfter shared before)
                ⟨.add, this.lines.drop shared.length ++ shared⟩
                (segment .keep (next.lines.drop shared.length) ++ rest)
          else slideDown fuel (next :: before) this rest

/-- Slide every segment of one kind, from the first to the last. -/
def slideAll (change : Change) (reach : Nat) : Nat → List Segment → List Segment → List Segment
  | 0, before, after => before.reverse ++ after
  | fuel + 1, before, after =>
      match after with
      | [] => before.reverse
      | this :: after =>
          if this.change = change then
            let (before, this, after) := slideUp reach before this after
            let (before, this, after) := slideDown reach before this after
            slideAll change reach fuel (this :: before) after
          else slideAll change reach fuel (this :: before) after

/-- The script between two lists of lines, slid into place. -/
def compare (old new : List String) : List Segment :=
  let size := old.length + new.length + 2
  let raw := script size old new
  let reach := size * size
  slideAll .add reach reach [] (slideAll .remove reach reach [] raw)

/-! ## Written form -/

/-- A line with its mark, ended when it is not. -/
def markLine (mark line : String) : String :=
  mark ++ line ++
    (match line.toList.getLast? with
      | some c => if c = '\n' ∨ c = '\r' then "" else "\n"
      | none => "\n")

/-- Write a script; `removed` and `added` are the lines of the block at hand. -/
def renderFrom (removed added : List String) : List Segment → String
  | [] => block removed added
  | ⟨.keep, ls⟩ :: rest =>
      block removed added ++ String.join (ls.map (markLine " ")) ++ renderFrom [] [] rest
  | ⟨.remove, ls⟩ :: rest => renderFrom (removed ++ ls) added rest
  | ⟨.add, ls⟩ :: rest => renderFrom removed (added ++ ls) rest
where
  /-- A changed block: removed lines first. -/
  block (removed added : List String) : String :=
    String.join (removed.map (markLine "-")) ++ String.join (added.map (markLine "+"))

/-- Every line of both texts, marked with what becomes of it. -/
def render (old new : String) : String :=
  renderFrom [] [] (compare (lines old) (lines new))

end CallMigration.LineDiff
