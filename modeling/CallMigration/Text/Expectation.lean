import CallMigration.Text.Fingerprint

/-!
# Expected texts

What a file is expected to hold before it is written: a short text is kept
itself, a text of more than 1024 bytes is kept as its fingerprint.
-/

namespace CallMigration

/-- What a text is compared with. -/
inductive Expectation where
  | exactly (text : String)
  | fingerprint (digest : UInt64)
deriving DecidableEq, Repr

namespace Expectation

/-- The expectation of finding `text` again. -/
def ofText (text : String) : Expectation :=
  if 1024 < text.utf8ByteSize then fingerprint (Fingerprint.ofText text) else exactly text

/-- Whether a text is as expected. -/
def isMet (e : Expectation) (text : String) : Bool :=
  match e with
  | exactly expected => text == expected
  | fingerprint digest => Fingerprint.ofText text == digest

end Expectation

end CallMigration
