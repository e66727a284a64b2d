import PacketPath.Json.Reader
import PacketPath.Json.Schema

set_option autoImplicit false

/-! # The standard library for documents

A library that writes documents without blanks, and reads every document of a shape that a schema
allows. Records are read from objects, their members in any order, or from arrays, their values in
order of declaration. Alternatives are read from a bare name or from an object with one member.

None of this is decided here: it is taken over from the library outside, with which names the
failures give, and at which place of a text reading fails. What is proved of documents holds with
any library that does as it is documented to do.
-/

namespace PacketPath.Json

/-! ## Writing -/

/-- A member of an object: its name and the text of its value. -/
def member (name value : String) : String := quote name ++ ":" ++ value

/-- Members with commas between them. -/
def members : List (String × String) → String
  | [] => ""
  | [(name, value)] => member name value
  | (name, value) :: rest => member name value ++ "," ++ members rest

/-- An object with its members in order. -/
def object (list : List (String × String)) : String := "\x7b" ++ members list ++ "\x7d"

/-- Writes a value. One that the schema does not have is written as nothing. -/
def write : Schema → Value → String
  | .wrapper _, .scalar d => d.text
  | .alternatives _, .alternative name none => quote name
  | .alternatives _, .alternative name (some d) => object [(name, d.text)]
  | .record r, .record values => object ((r.names.zip values).map fun m => (m.1, m.2.text))
  | _, _ => "null"

/-! ## Values without parts -/

def readScalar : Scalar → Reader Datum
  | .boolean => do
    let b ← readBool
    return .boolean b
  | .integer type => do
    let n ← readInteger type.low type.high type.name
    return .integer n

/-! ## Alternatives -/

/-- The type of the value of an alternative, if it has one. -/
def findAlternative (list : List (String × Option Scalar)) (name : String) :
    Reader (Option Scalar) :=
  match list.lookup name with
  | some payload => pure payload
  | none => .fail (.unknownVariant name (list.map (·.1)))

def readPayload : Option Scalar → Reader (Option Datum)
  | none => do
    readNull
    return none
  | some type => do
    let d ← readScalar type
    return some d

/-- Reads one of several alternatives. -/
def readAlternative (list : List (String × Option Scalar)) : Reader Value := fun cs =>
  match skipBlank cs with
  | [] => .error .malformed
  | c :: rest =>
    if c = '\x7b' then
      (do let name ← readName
          let payload ← findAlternative list name
          mark ':'
          let value ← readPayload payload
          mark '\x7d'
          return .alternative name value : Reader Value) rest
    else if c = '"' then
      (do let name ← readName
          match ← findAlternative list name with
          | none => pure (.alternative name none)
          | some _ => .fail (.wrongType .unitVariant "newtype variant") : Reader Value) (c :: rest)
    else .error .malformed

/-! ## Records -/

namespace RecordType

/-- Reads the member of a name, given those that were read before. -/
def readField (r : RecordType) (name : String) (given : List (String × Datum)) :
    Reader (List (String × Datum)) :=
  match r.field? name with
  | some f => do
    let d ← readOnce name (given.lookup name) (readScalar f.type)
    return given ++ [(name, d)]
  | none =>
    if r.closed then .fail (.unknownField name r.names)
    else do
      readMember readAny
      return given

/-- The value that was given for each field, or else its default. -/
def collect (r : RecordType) (given : List (String × Datum)) :
    List Field → Except Failure (List Datum)
  | [] => .ok []
  | f :: rest =>
    match (given.lookup (r.nameOf f)).or f.default with
    | some d => (r.collect given rest).map (d :: ·)
    | none => .error (.shape (.missingField (r.nameOf f)))

/-- What a record is read from, by the number of its fields. -/
def expected (r : RecordType) : String :=
  let n := r.fields.length
  "struct " ++ r.name ++ " with " ++ n.repr ++ if n = 1 then " element" else " elements"

/-- Reads the items of an array for some fields, `index` items having been read. -/
def readItems (r : RecordType) (first : Bool) (index : Nat) : List Field → Reader (List Datum)
  | [] => pure []
  | f :: rest => do
    let item ← readItem first (readScalar f.type)
    let d ← requiredItem index r.expected (item.or f.default)
    let ds ← r.readItems false (index + 1) rest
    return d :: ds

end RecordType

/-- Reads a record from an array or an object. -/
def readRecord (r : RecordType) : Reader Value := fun cs =>
  match skipBlank cs with
  | [] => .error .malformed
  | c :: rest =>
    if c = '[' then
      (do let values ← r.readItems true 0 r.fields
          mark ']'
          return .record values : Reader Value) rest
    else if c = '\x7b' then
      (do let given ← readMembers r.readField (rest.length + 1) true []
          let values ← Reader.ofExcept (r.collect given r.fields)
          mark '\x7d'
          return .record values : Reader Value) rest
    else .error (mismatch ("struct " ++ r.name) (c :: rest))

/-! ## The library -/

def readValue : Schema → Reader Value
  | .wrapper type => do
    let d ← readScalar type
    return .scalar d
  | .alternatives list => readAlternative list
  | .record type => readRecord type

/-- The library that is meant where none is given. -/
def Library.standard : Library where
  write := Json.write
  read := fun schema text => readDocument (readValue schema) text

end PacketPath.Json
