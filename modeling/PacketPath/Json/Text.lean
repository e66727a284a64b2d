set_option autoImplicit false

/-! # JSON strings

Writing a text as a JSON string and reading one back. A written string escapes the quote, the
backslash and the control characters and nothing else. Reading accepts every escape, joins
surrogate pairs, and refuses control characters and surrogates that stand alone; a string that is
only skipped may hold any surrogates.
-/

namespace PacketPath.Json

/-! ## Writing -/

/-- A hexadecimal digit in lower case. -/
def hexDigit (n : Nat) : Char := if n < 10 then Char.ofNat (48 + n) else Char.ofNat (87 + n)

/-- How one character is written inside a string. -/
def escape (c : Char) : List Char :=
  if c = '"' then ['\\', '"']
  else if c = '\\' then ['\\', '\\']
  else if c = '\x08' then ['\\', 'b']
  else if c = '\x0c' then ['\\', 'f']
  else if c = '\n' then ['\\', 'n']
  else if c = '\r' then ['\\', 'r']
  else if c = '\t' then ['\\', 't']
  else if c.toNat < 32 then ['\\', 'u', '0', '0', hexDigit (c.toNat / 16), hexDigit (c.toNat % 16)]
  else [c]

/-- A text as a JSON string. -/
def quote (s : String) : String := "\"" ++ String.ofList (s.toList.flatMap escape) ++ "\""

/-! ## Reading -/

/-- The value of a hexadecimal digit of either case. -/
def hexValue? (c : Char) : Option Nat :=
  if '0' ≤ c ∧ c ≤ '9' then some (c.toNat - 48)
  else if 'a' ≤ c ∧ c ≤ 'f' then some (c.toNat - 87)
  else if 'A' ≤ c ∧ c ≤ 'F' then some (c.toNat - 55)
  else none

/-- The number that four hexadecimal digits stand for. -/
def codeUnit? (a b c d : Char) : Option Nat := do
  let a ← hexValue? a
  let b ← hexValue? b
  let c ← hexValue? c
  let d ← hexValue? d
  return a * 4096 + b * 256 + c * 16 + d

def isLeading (unit : Nat) : Bool := 0xD800 ≤ unit && unit ≤ 0xDBFF

def isTrailing (unit : Nat) : Bool := 0xDC00 ≤ unit && unit ≤ 0xDFFF

/-- The character that a surrogate pair stands for. -/
def joinPair (leading trailing : Nat) : Char :=
  Char.ofNat (0x10000 + (leading - 0xD800) * 0x400 + (trailing - 0xDC00))

/-- The character of an escape with a single letter. -/
def letterEscape? (c : Char) : Option Char :=
  if c = '"' then some '"'
  else if c = '\\' then some '\\'
  else if c = '/' then some '/'
  else if c = 'b' then some '\x08'
  else if c = 'f' then some '\x0c'
  else if c = 'n' then some '\n'
  else if c = 'r' then some '\r'
  else if c = 't' then some '\t'
  else none

/-- Reads one character of a string, and gives what follows it: nothing at the end of the text,
at a control character or at a bad escape. -/
def readChar? : List Char → Option (Char × List Char)
  | '\\' :: 'u' :: a :: b :: c :: d :: rest =>
    match codeUnit? a b c d with
    | none => none
    | some unit =>
      if isTrailing unit then none
      else if isLeading unit then
        match rest with
        | '\\' :: 'u' :: a :: b :: c :: d :: rest =>
          match codeUnit? a b c d with
          | none => none
          | some trailing =>
            if isTrailing trailing then some (joinPair unit trailing, rest) else none
        | _ => none
      else some (Char.ofNat unit, rest)
  | '\\' :: c :: rest => (letterEscape? c).map (·, rest)
  | c :: rest => if c.toNat < 32 ∨ c = '\\' then none else some (c, rest)
  | [] => none

/-- Reading a character consumes at least one. -/
theorem length_of_readChar? {cs rest : List Char} {c : Char} (h : readChar? cs = some (c, rest)) :
    rest.length < cs.length := by
  unfold readChar? at h
  repeat' split at h
  all_goals simp only [Option.map_eq_some_iff, Option.some.injEq, Prod.mk.injEq, reduceCtorEq] at h
  all_goals simp only [List.length_cons]
  all_goals grind

/-- Reads a string up to its closing quote, the opening quote having been read. -/
def readText? (cs : List Char) : Option (List Char × List Char) :=
  match cs with
  | '"' :: rest => some ([], rest)
  | cs =>
    match _h : readChar? cs with
    | none => none
    | some (c, rest) => (readText? rest).map fun (text, rest) => (c :: text, rest)
termination_by cs.length
decreasing_by exact length_of_readChar? ‹_›

/-- Skips one character of a string. -/
def skipChar? : List Char → Option (List Char)
  | '\\' :: 'u' :: a :: b :: c :: d :: rest => (codeUnit? a b c d).map fun _ => rest
  | '\\' :: c :: rest => (letterEscape? c).map fun _ => rest
  | c :: rest => if c.toNat < 32 ∨ c = '\\' then none else some rest
  | [] => none

theorem length_of_skipChar? {cs rest : List Char} (h : skipChar? cs = some rest) :
    rest.length < cs.length := by
  unfold skipChar? at h
  repeat' split at h
  all_goals simp only [Option.map_eq_some_iff, Option.some.injEq, reduceCtorEq] at h
  all_goals simp only [List.length_cons]
  all_goals grind

/-- Skips a string up to its closing quote, the opening quote having been read. -/
def skipText? (cs : List Char) : Option (List Char) :=
  match cs with
  | '"' :: rest => some rest
  | cs =>
    match _h : skipChar? cs with
    | none => none
    | some rest => skipText? rest
termination_by cs.length
decreasing_by exact length_of_skipChar? ‹_›

end PacketPath.Json
