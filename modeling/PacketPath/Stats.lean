set_option autoImplicit false

/-! # Statistics

Named groups of 64-bit counters. A group is registered under an owner and a name; these and the
labels of its counters must be short and free of NUL, and the first that is not refuses the whole
group. Counters wrap at 2^64.
-/

namespace PacketPath

/-- Why a group of statistics cannot be registered. -/
inductive StatError
  | nameTooLong (name : String)
  | nulChar
deriving DecidableEq

def StatError.message : StatError → String
  | .nameTooLong name => "kstat name too long: " ++ name
  | .nulChar => "kstat name contains NUL char"

/-- The most bytes of UTF-8 in a name. -/
def maxNameBytes : Nat := 30

/-- Checks one name. A NUL is reported before the length. -/
def checkName (name : String) : Except StatError Unit :=
  if '\x00' ∈ name.toList then .error .nulChar
  else if maxNameBytes < name.utf8ByteSize then .error (.nameTooLong name)
  else .ok ()

/-- Checks names in order, up to the first that is refused. -/
def checkNames : List String → Except StatError Unit
  | [] => .ok ()
  | name :: rest =>
    match checkName name with
    | .ok () => checkNames rest
    | .error e => .error e

/-- A registered group of `n` counters. -/
structure StatGroup (n : Nat) where
  owner : String
  name : String
  labels : Vector String n
  values : Vector UInt64 n
deriving DecidableEq

namespace StatGroup

variable {n : Nat}

/-- Registers a group, all counters being zero. -/
def register (owner name : String) (labels : Vector String n) : Except StatError (StatGroup n) :=
  match checkNames (owner :: name :: labels.toList) with
  | .ok () => .ok ⟨owner, name, labels, Vector.replicate n 0⟩
  | .error e => .error e

def value (g : StatGroup n) (i : Fin n) : UInt64 := g.values[i]

def set (g : StatGroup n) (i : Fin n) (v : UInt64) : StatGroup n :=
  { g with values := g.values.set i v }

/-- Adds to a counter and gives the value that it had before. -/
def increment (g : StatGroup n) (i : Fin n) (k : UInt64) : UInt64 × StatGroup n :=
  (g.value i, g.set i (g.value i + k))

def add (g : StatGroup n) (i : Fin n) (k : UInt64) : StatGroup n := g.set i (g.value i + k)

def subtract (g : StatGroup n) (i : Fin n) (k : UInt64) : StatGroup n := g.set i (g.value i - k)

/-- All counters with their labels, as a snapshot of statistics of the given kind. -/
def describe (kind : String) (g : StatGroup n) : String :=
  let fields := (g.labels.toList.zip g.values.toList).map fun (label, v) =>
    label ++ ": " ++ v.toNat.repr
  kind ++ "Snap \x7b " ++ String.intercalate ", " fields ++ " \x7d"

theorem value_set (g : StatGroup n) (i j : Fin n) (v : UInt64) :
    (g.set i v).value j = if i = j then v else g.value j := by
  simp only [set, value, Fin.getElem_fin, Vector.getElem_set, Fin.ext_iff]

end StatGroup

end PacketPath
