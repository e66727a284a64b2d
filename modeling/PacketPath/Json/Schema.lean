import PacketPath.Json.Error
import PacketPath.Json.Text

set_option autoImplicit false

/-! # Schemas of documents

What is declared of a type that has a document form: the names of its fields or of its alternatives,
the types of their values, and how names are written and missing or unknown fields are treated.
Documents are written and read by a library, which is told the schema (`Library`). It comes from
outside, and so do the rules by which a schema determines a document; nothing here says what they
are.
-/

namespace PacketPath.Json

/-! ## Values without parts -/

/-- A value without parts. -/
inductive Datum
  | boolean (b : Bool)
  | integer (n : Int)
deriving DecidableEq

def boolean (b : Bool) : String := if b then "true" else "false"

/-- How a value without parts is written. -/
def Datum.text : Datum → String
  | .boolean b => Json.boolean b
  | .integer n => Text.decimal n

/-- An integer type of a machine. -/
inductive IntegerType
  | unsigned8
  | unsigned32
  | signed32
  | signed64
deriving DecidableEq

namespace IntegerType

/-- How messages call it. -/
def name : IntegerType → String
  | unsigned8 => "u8"
  | unsigned32 => "u32"
  | signed32 => "i32"
  | signed64 => "i64"

def low : IntegerType → Int
  | unsigned8 | unsigned32 => 0
  | signed32 => -2147483648
  | signed64 => -9223372036854775808

def high : IntegerType → Int
  | unsigned8 => 255
  | unsigned32 => 4294967295
  | signed32 => 2147483647
  | signed64 => 9223372036854775807

end IntegerType

/-- The type of a value without parts. -/
inductive Scalar
  | boolean
  | integer (type : IntegerType)
deriving DecidableEq

/-- Whether a type has a value. -/
def Scalar.Admits : Scalar → Datum → Prop
  | .boolean, .boolean _ => True
  | .integer type, .integer n => type.low ≤ n ∧ n ≤ type.high
  | _, _ => False

/-! ## Records -/

/-- A field of a record. -/
structure Field where
  name : String
  type : Scalar
  /-- The value of the field where none is given. -/
  default : Option Datum := none

/-- A name in upper case. -/
def upper (name : String) : String := String.ofList (name.toList.map Char.toUpper)

/-- The name by which documents call a field. -/
def Field.label (f : Field) (upperCase : Bool) : String :=
  if upperCase then upper f.name else f.name

/-- A record, with what is declared of its documents. -/
structure RecordType where
  name : String
  fields : List Field
  /-- Names are written in upper case. -/
  upperCase : Bool := false
  /-- Fields that the record does not have are refused; otherwise they are skipped. -/
  closed : Bool := false
  /-- Documents can tell the fields apart. -/
  distinct : (fields.map (·.label upperCase)).Nodup := by decide

namespace RecordType

/-- The name by which documents of the record call a field. -/
def nameOf (r : RecordType) (f : Field) : String := f.label r.upperCase

def names (r : RecordType) : List String := r.fields.map r.nameOf

/-- The field that a document calls by a name. -/
def field? (r : RecordType) (name : String) : Option Field := r.fields.find? (r.nameOf · = name)

end RecordType

/-! ## Types and values -/

/-- What is declared of a type. -/
inductive Schema
  /-- It has one value without a name. -/
  | wrapper (type : Scalar)
  /-- It has alternatives, each with a name, and with a value or without one. -/
  | alternatives (list : List (String × Option Scalar))
  | record (type : RecordType)

/-- A value of such a type. -/
inductive Value
  | scalar (d : Datum)
  | alternative (name : String) (payload : Option Datum)
  /-- The values of the fields in order of declaration. -/
  | record (values : List Datum)

/-- What documents are written and read by. -/
structure Library where
  write : Schema → Value → String
  read : Schema → String → Except Failure Value

/-- A type with its schema, and how its values are taken apart and put together again. -/
structure Declaration (α : Type) where
  schema : Schema
  toValue : α → Value
  /-- Only values that the schema has are put together. -/
  ofValue? : Value → Option α

end PacketPath.Json
