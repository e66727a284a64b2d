import PacketPath.Json.Error
import PacketPath.Json.Number
import PacketPath.Json.Text

set_option autoImplicit false

/-! # Reading documents of a known shape

A reader takes a value of one type off the front of a text. It is driven by the shape it expects: a
document of another shape is refused at the first place where the two differ, and text behind that
place is not looked at. The standard library is made of such readers; where they stop, and with which
failure, is taken over from outside like everything that it does.
-/

namespace PacketPath.Json

/-- Takes a value off the front of a text, and gives the rest. -/
def Reader (α : Type) := List Char → Except Failure (α × List Char)

namespace Reader

instance : Monad Reader where
  pure a := fun cs => .ok (a, cs)
  bind r f := fun cs =>
    match r cs with
    | .ok (a, rest) => f a rest
    | .error e => .error e

def fail {α : Type} (cause : ShapeError) : Reader α := fun _ => .error (.shape cause)

/-- A value that is known without reading, or a failure. -/
def ofExcept {α : Type} (result : Except Failure α) : Reader α := fun cs => result.map (·, cs)

/-- What follows a successful reader goes on with its value, on the rest of the text. -/
theorem bind_of_ok {α β : Type} {r : Reader α} {f : α → Reader β} {a : α} {cs rest : List Char}
    (h : r cs = .ok (a, rest)) : (r >>= f) cs = f a rest := by
  show (match r cs with
    | .ok (a, rest) => f a rest
    | .error e => .error e) = _
  rw [h]

/-- A failure ends the reading. -/
theorem bind_of_error {α β : Type} {r : Reader α} {f : α → Reader β} {e : Failure}
    {cs : List Char} (h : r cs = .error e) : (r >>= f) cs = .error e := by
  show (match r cs with
    | .ok (a, rest) => f a rest
    | .error e => .error e) = _
  rw [h]

end Reader

/-! ## Blanks and words -/

def isBlank (c : Char) : Bool := c = ' ' || c = '\n' || c = '\t' || c = '\r'

def skipBlank (cs : List Char) : List Char := cs.dropWhile isBlank

/-- What follows a word, if the text starts with it. -/
def skipWord? (word : List Char) (cs : List Char) : Option (List Char) :=
  if word.isPrefixOf cs then some (cs.drop word.length) else none

/-- Reads a punctuation mark, blanks before it being skipped. -/
def mark (c : Char) : Reader Unit := fun cs =>
  match skipBlank cs with
  | d :: rest => if d = c then .ok ((), rest) else .error .malformed
  | [] => .error .malformed

/-! ## What stands there instead -/

def Number.found : Number → Found
  | .integer n => .integer n
  | .float x => .float x

/-- What the text starts with, if it starts with a value. Arrays and objects are not read on. -/
def found? (cs : List Char) : Option Found :=
  match cs with
  | [] => none
  | c :: rest =>
    if c = 'n' then (skipWord? ['u', 'l', 'l'] rest).map fun _ => .null
    else if c = 't' then (skipWord? ['r', 'u', 'e'] rest).map fun _ => .boolean true
    else if c = 'f' then (skipWord? ['a', 'l', 's', 'e'] rest).map fun _ => .boolean false
    else if c = '-' then (readNumber? true rest).map fun (n, _) => n.found
    else if isDigit c then (readNumber? false cs).map fun (n, _) => n.found
    else if c = '"' then (readText? rest).map fun (text, _) => .text (String.ofList text)
    else if c = '[' then some .sequence
    else if c = '\x7b' then some .map
    else none

/-- The failure at a text that does not start with what is expected. -/
def mismatch (expected : String) (cs : List Char) : Failure :=
  match found? cs with
  | some found => .shape (.wrongType found expected)
  | none => .malformed

/-! ## Single values -/

def readBool : Reader Bool := fun cs =>
  match skipBlank cs with
  | 't' :: rest =>
    match skipWord? ['r', 'u', 'e'] rest with
    | some rest => .ok (true, rest)
    | none => .error .malformed
  | 'f' :: rest =>
    match skipWord? ['a', 'l', 's', 'e'] rest with
    | some rest => .ok (false, rest)
    | none => .error .malformed
  | cs => .error (mismatch "a boolean" cs)

def readNull : Reader Unit := fun cs =>
  match skipBlank cs with
  | 'n' :: rest =>
    match skipWord? ['u', 'l', 'l'] rest with
    | some rest => .ok ((), rest)
    | none => .error .malformed
  | cs => .error (mismatch "unit" cs)

/-- Accepts a number that is an integer of the given range. -/
def inRange (low high : Int) (expected : String) (number : Option (Number × List Char)) :
    Except Failure (Int × List Char) :=
  match number with
  | none => .error .malformed
  | some (.integer n, rest) =>
    if low ≤ n ∧ n ≤ high then .ok (n, rest) else .error (.shape (.outOfRange n expected))
  | some (.float x, _) => .error (.shape (.wrongType (.float x) expected))

/-- Reads an integer of a range, which messages call `expected`. -/
def readInteger (low high : Int) (expected : String) : Reader Int := fun cs =>
  match skipBlank cs with
  | [] => .error .malformed
  | c :: rest =>
    if c = '-' then inRange low high expected (readNumber? true rest)
    else if isDigit c then inRange low high expected (readNumber? false (c :: rest))
    else .error (mismatch expected (c :: rest))

/-- Reads a name, which only a text can be. -/
def readName : Reader String := fun cs =>
  match skipBlank cs with
  | '"' :: rest =>
    match readText? rest with
    | some (text, rest) => .ok (String.ofList text, rest)
    | none => .error .malformed
  | _ => .error .malformed

/-! ## Values of any shape -/

/-- Skips a value that is neither an array nor an object. -/
def skipScalar? : List Char → Option (List Char)
  | 'n' :: rest => skipWord? ['u', 'l', 'l'] rest
  | 't' :: rest => skipWord? ['r', 'u', 'e'] rest
  | 'f' :: rest => skipWord? ['a', 'l', 's', 'e'] rest
  | '-' :: rest => skipNumber? rest
  | '"' :: rest => skipText? rest
  | cs => skipNumber? cs

mutual

/-- Skips a value whatever its shape. The first argument bounds the depth of the recursion. -/
def skipValue? : Nat → List Char → Option (List Char)
  | 0, _ => none
  | fuel + 1, cs =>
    match skipBlank cs with
    | '[' :: rest =>
      match skipBlank rest with
      | ']' :: rest => some rest
      | rest => skipItems? fuel rest
    | '\x7b' :: rest =>
      match skipBlank rest with
      | '\x7d' :: rest => some rest
      | rest => skipPairs? fuel rest
    | cs => skipScalar? cs

/-- Skips the items of an array, of which there is one at least, and its closing bracket. -/
def skipItems? : Nat → List Char → Option (List Char)
  | 0, _ => none
  | fuel + 1, cs =>
    match skipValue? fuel cs with
    | none => none
    | some rest =>
      match skipBlank rest with
      | ',' :: rest => skipItems? fuel rest
      | ']' :: rest => some rest
      | _ => none

/-- Skips the members of an object, of which there is one at least, and its closing brace. -/
def skipPairs? : Nat → List Char → Option (List Char)
  | 0, _ => none
  | fuel + 1, cs =>
    match skipBlank cs with
    | '"' :: rest =>
      match (skipText? rest).map skipBlank with
      | some (':' :: rest) =>
        match (skipValue? fuel rest).map skipBlank with
        | some (',' :: rest) => skipPairs? fuel rest
        | some ('\x7d' :: rest) => some rest
        | _ => none
      | _ => none
    | _ => none

end

/-- Reads a value of any shape and forgets it. A level of brackets takes at most two steps for each
of its characters. -/
def readAny : Reader Unit := fun cs =>
  match skipValue? (2 * cs.length + 2) cs with
  | some rest => .ok ((), rest)
  | none => .error .malformed

/-! ## Members and items -/

/-- Reads the members of an object up to its closing brace, which is left. `member` is given the
name of each and reads the colon and the value. The first argument bounds the number of members. -/
def readMembers {σ : Type} (member : String → σ → Reader σ) : Nat → Bool → σ → Reader σ
  | 0, _, _ => fun _ => .error .malformed
  | fuel + 1, first, s => fun cs =>
    match skipBlank cs with
    | [] => .error .malformed
    | c :: rest =>
      if c = '\x7d' then .ok (s, c :: rest)
      else
        let next := if first then c :: rest else if c = ',' then skipBlank rest else []
        match next with
        | '"' :: rest =>
          match readText? rest with
          | none => .error .malformed
          | some (name, rest) =>
            match member (String.ofList name) s rest with
            | .ok (s, rest) => readMembers member fuel false s rest
            | .error e => .error e
        | _ => .error .malformed

/-- Reads the value of a member, its name having been read. -/
def readMember {α : Type} (value : Reader α) : Reader α := do
  mark ':'
  value

/-- Reads the next item of an array, if there is one; `first` says that none was read yet. The
closing bracket is left. -/
def readItem {α : Type} (first : Bool) (value : Reader α) : Reader (Option α) := fun cs =>
  let read (cs : List Char) : Except Failure (Option α × List Char) :=
    match value cs with
    | .ok (a, rest) => .ok (some a, rest)
    | .error e => .error e
  match skipBlank cs with
  | [] => .error .malformed
  | c :: rest =>
    if c = ']' then .ok (none, c :: rest)
    else if first then read (c :: rest)
    else if c = ',' then
      match skipBlank rest with
      | [] => .error .malformed
      | d :: rest => if d = ']' then .error .malformed else read (d :: rest)
    else .error .malformed

/-- The value of an item that must be there; `index` items came before it. -/
def requiredItem {α : Type} (index : Nat) (expected : String) : Option α → Reader α
  | some a => pure a
  | none => .fail (.wrongLength index expected)

/-- Reads a field that must not have been read before. -/
def readOnce {α : Type} (name : String) (old : Option α) (value : Reader α) : Reader α :=
  match old with
  | some _ => .fail (.duplicateField name)
  | none => readMember value

/-! ## Documents -/

/-- Reads a whole document: nothing but blanks may follow the value. -/
def readDocument {α : Type} (reader : Reader α) (text : String) : Except Failure α :=
  match reader text.toList with
  | .error e => .error e
  | .ok (a, rest) => if skipBlank rest = [] then .ok a else .error .malformed

end PacketPath.Json
