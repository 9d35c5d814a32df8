/-!
# Byte offsets into a text

Every position in this library is a number of UTF-8 bytes from the start of a
text. An offset may be cut at when it is a character boundary. Locations are
the 1-based line and byte column of an offset; only a line feed ends a line.
-/

namespace CallMigration

/-- A half-open range of byte offsets. -/
structure Span where
  start : Nat
  stop : Nat
deriving DecidableEq, Repr, Inhabited

namespace Text

/-- Whether a character of `text` starts at byte `offset`, or `text` ends there. -/
def isBoundary (text : String) (offset : Nat) : Bool :=
  String.Pos.Raw.isValid text ⟨offset⟩

/-- The characters of `text` that start in `[start, stop)`. -/
def slice (text : String) (start stop : Nat) : String :=
  String.Pos.Raw.extract text ⟨start⟩ ⟨stop⟩

/-- The part of `text` from `start` on. -/
def sliceFrom (text : String) (start : Nat) : String :=
  slice text start text.utf8ByteSize

end Text

/-- A 1-based line and byte column. -/
structure Location where
  line : Nat
  column : Nat
deriving DecidableEq, Repr, Inhabited

namespace Location

/-- The location of the first byte of a text. -/
def origin : Location := ⟨1, 1⟩

/-- The location after one more character. -/
def advance (l : Location) (c : Char) : Location :=
  if c = '\n' then ⟨l.line + 1, 1⟩ else ⟨l.line, l.column + c.utf8Size⟩

/-- The location of byte `offset` of `text`. -/
def ofOffset (text : String) (offset : Nat) : Location :=
  (Text.slice text 0 offset).toList.foldl advance origin

/-- The written form `line:column`. -/
def render (l : Location) : String :=
  s!"{l.line}:{l.column}"

end Location

end CallMigration
