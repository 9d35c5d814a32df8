/-!
# Cutting a text at a character

Cutting at a separator gives one piece more than there are separators, so
joining the pieces with it restores the text.
-/

namespace CallMigration.Text

/-- The pieces of `cs` between occurrences of `sep`. -/
def splitChars (sep : Char) : List Char → List (List Char)
  | [] => [[]]
  | c :: cs =>
      if c = sep then [] :: splitChars sep cs
      else
        match splitChars sep cs with
        | [] => [[c]]
        | piece :: pieces => (c :: piece) :: pieces

/-- The pieces of `text` between occurrences of `sep`. -/
def split (sep : Char) (text : String) : List String :=
  (splitChars sep text.toList).map String.ofList

/-- Cut at the last occurrence of `sep`; `none` when there is none. -/
def splitLast? (sep : Char) (text : String) : Option (String × String) :=
  let reversed := text.toList.reverse
  match reversed.dropWhile (· ≠ sep) with
  | [] => none
  | _ :: before =>
      some (String.ofList before.reverse, String.ofList (reversed.takeWhile (· ≠ sep)).reverse)

/-- What stands before `ending`, if `text` ends with it. -/
def dropEnding? (ending text : String) : Option String :=
  if ending.toList.reverse.isPrefixOf text.toList.reverse then
    some (String.ofList (text.toList.take (text.length - ending.length)))
  else none

/-- Whether `text` ends with `ending`. -/
def endsWith (ending text : String) : Bool :=
  (dropEnding? ending text).isSome

/-- Whether `text` starts with `beginning`. -/
def startsWith (beginning text : String) : Bool :=
  beginning.toList.isPrefixOf text.toList

/-- Cut around the last occurrence of `sep`; `none` when there is none. -/
def splitAround? (sep : List Char) : List Char → Option (List Char × List Char)
  | [] => if sep.isEmpty then some ([], []) else none
  | c :: cs =>
      match splitAround? sep cs with
      | some (before, after) => some (c :: before, after)
      | none =>
          if sep.isPrefixOf (c :: cs) then some ([], (c :: cs).drop sep.length) else none

end CallMigration.Text
