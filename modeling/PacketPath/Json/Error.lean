import PacketPath.Decimal.Shortest
import PacketPath.Text.Decimal
import PacketPath.Text.Escaped

set_option autoImplicit false

/-! # Why a document is refused

A text that is no JSON, or ends too early, is malformed. JSON that does not have the expected shape
is refused with a cause, which names what was found and what was expected.
-/

namespace PacketPath.Json

/-- What stands in a document where something else was expected. -/
inductive Found
  | null
  | boolean (b : Bool)
  | integer (n : Int)
  | float (x : Float)
  | text (s : String)
  | sequence
  | map
  /-- A bare variant name, where the variant has a value. -/
  | unitVariant

/-- How JSON that is well formed differs from the expected shape. -/
inductive ShapeError
  | wrongType (found : Found) (expected : String)
  | outOfRange (n : Int) (expected : String)
  | wrongLength (length : Nat) (expected : String)
  | unknownVariant (name : String) (known : List String)
  | unknownField (name : String) (known : List String)
  | duplicateField (name : String)
  | missingField (name : String)

/-- Why reading fails. -/
inductive Failure
  | malformed
  | shape (cause : ShapeError)

/-- Doubles are written in positional notation up to sixteen digits before the point and up to four
zeros after it. -/
def floatFormat : Decimal.Format := ⟨16, 4, true⟩

def Found.describe : Found → String
  | null => "null"
  | boolean b => "boolean \x60" ++ (if b then "true" else "false") ++ "\x60"
  | integer n => "integer \x60" ++ Text.decimal n ++ "\x60"
  | float x => "floating point \x60" ++ Decimal.writeFloat floatFormat x ++ "\x60"
  | text s => "string " ++ Text.quoted s
  | sequence => "sequence"
  | map => "map"
  | unitVariant => "unit variant"

/-- Names between grave accents, with commas between them. -/
def listNames (names : List String) : String :=
  String.intercalate ", " (names.map fun name => "\x60" ++ name ++ "\x60")

def ShapeError.message : ShapeError → String
  | wrongType found expected => "invalid type: " ++ found.describe ++ ", expected " ++ expected
  | outOfRange n expected =>
    "invalid value: " ++ (Found.integer n).describe ++ ", expected " ++ expected
  | wrongLength length expected => "invalid length " ++ length.repr ++ ", expected " ++ expected
  | unknownVariant name known =>
    "unknown variant " ++ listNames [name] ++ ", expected one of " ++ listNames known
  | unknownField name known =>
    "unknown field " ++ listNames [name] ++ ", expected one of " ++ listNames known
  | duplicateField name => "duplicate field " ++ listNames [name]
  | missingField name => "missing field " ++ listNames [name]

end PacketPath.Json
