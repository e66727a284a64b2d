import PacketPath.Proofs.Checksum.PartialSums

set_option autoImplicit false

/-! # Sums that do not overflow

Words reach the accumulator in four ways: one by one, from a byte string, complemented from a byte
string that is taken out, and folded from another sum. Between them the carries may be folded at any
time. A `Change` is one of these, and stands for the words that it adds.

In the definitions of the sums a 32-bit addition wraps, and the loop that folds runs until no carry
is left. Here both are executed once more with a guard before each addition, and with a bound on the
rounds of the loop (`Checksum.Guarded`). No guard ever stops them: the accumulator is folded before
it could overflow, and two rounds are always enough. What is left after folding is then a matter of
the exact sum of the words, because every change keeps the residue (`residue_apply`).
-/

namespace PacketPath

/-! ## Folding -/

/-- A round brings in at most one new carry. -/
theorem foldRound_le (s : UInt32) : (foldRound s).toNat ≤ 0x1FFFE := by
  have := s.toNat_lt
  rw [toNat_foldRound]
  omega

theorem shiftRight_of_toNat_lt {s : UInt32} (h : s.toNat < 65536) : s >>> 16 = 0 := by
  rw [← UInt32.toNat_inj, toNat_shiftRight_sixteen, UInt32.toNat_zero]
  omega

/-- The second round leaves no carry. -/
theorem foldRound_foldRound (s : UInt32) : foldRound (foldRound s) >>> 16 = 0 := by
  have := foldRound_le s
  refine shiftRight_of_toNat_lt ?_
  rw [toNat_foldRound]
  omega

namespace Checksum

variable {c : Checksum}

/-! ## Words -/

/-- The words of a byte string as a machine loads them, an odd last byte being padded with zero. -/
def words : Bytes → List UInt16
  | [] => []
  | [x] => [Bytes.le16 x 0]
  | x :: y :: rest => Bytes.le16 x y :: words rest

/-- Adds words one after the other. -/
def addWords (c : Checksum) (ws : List UInt16) : Checksum := ws.foldl addWord c

/-- The exact sum of some words. -/
def wordTotal (ws : List UInt16) : Nat := (ws.map UInt16.toNat).sum

theorem addBytes_eq (c : Checksum) (b : Bytes) : c.addBytes b = c.addWords (words b) := by
  induction b using words.induct generalizing c with
  | case1 => rfl
  | case2 x => rfl
  | case3 x y rest ih => exact ih _

theorem subBytes_eq (c : Checksum) (b : Bytes) :
    c.subBytes b = c.addWords ((words b).map (~~~ ·)) := by
  induction b using words.induct generalizing c with
  | case1 => rfl
  | case2 x => rfl
  | case3 x y rest ih => exact ih _

theorem residue_addWords (c : Checksum) (ws : List UInt16) (n : Nat) :
    residue ((c.addWords ws).sum.toNat + n) = residue (c.sum.toNat + (wordTotal ws + n)) := by
  induction ws generalizing c with
  | nil => rw [wordTotal, List.map_nil, List.sum_nil, Nat.zero_add]; rfl
  | cons w rest ih =>
      have htotal : wordTotal (w :: rest) = w.toNat + wordTotal rest := List.sum_cons
      rw [htotal, Nat.add_assoc, ← residue_addWord]
      exact ih _

theorem wordTotal_append (ws vs : List UInt16) :
    wordTotal (ws ++ vs) = wordTotal ws + wordTotal vs := by
  rw [wordTotal, List.map_append, List.sum_append]
  rfl

/-- Only zeros sum to zero. -/
theorem wordTotal_eq_zero_iff (ws : List UInt16) : wordTotal ws = 0 ↔ ∀ w ∈ ws, w = 0 := by
  rw [wordTotal, List.sum_eq_zero_iff_forall_eq_nat, List.forall_mem_map]
  refine forall₂_congr fun w _ => ?_
  rw [← UInt16.toNat_inj]
  rfl

/-! ## Changes -/

/-- What can happen to a running sum. -/
inductive Change
  | word (w : UInt16)
  | addBytes (b : Bytes)
  | subBytes (b : Bytes)
  /-- Another sum is joined, folded to a word. -/
  | add (part : Checksum)
  | fold

def Change.apply (c : Checksum) : Change → Checksum
  | word w => c.addWord w
  | addBytes b => c.addBytes b
  | subBytes b => c.subBytes b
  | add part => c.add part
  | fold => c.folded

/-- The words that a change adds. -/
def Change.words : Change → List UInt16
  | word w => [w]
  | addBytes b => Checksum.words b
  | subBytes b => (Checksum.words b).map (~~~ ·)
  | add part => [part.value]
  | fold => []

/-- The sum after some changes. -/
def run (c : Checksum) (changes : List Change) : Checksum := changes.foldl Change.apply c

/-- The words that some changes add. -/
def allWords (changes : List Change) : List UInt16 := changes.flatMap Change.words

/-- A change keeps the residue of the exact sum. -/
theorem residue_apply (c : Checksum) (change : Change) (n : Nat) :
    residue ((change.apply c).sum.toNat + n)
      = residue (c.sum.toNat + (wordTotal change.words + n)) := by
  cases change with
  | word w => exact residue_addWords c [w] n
  | addBytes b =>
      rw [Change.apply, addBytes_eq]
      exact residue_addWords c _ n
  | subBytes b =>
      rw [Change.apply, subBytes_eq]
      exact residue_addWords c _ n
  | add part => exact residue_addWords c [part.value] n
  | fold =>
      have hnone : wordTotal Change.fold.words = 0 := rfl
      rw [hnone, Nat.zero_add, ← residue_add c.sum.toNat, ← residue_folded, residue_add]
      rfl

/-- So does a run, whatever is folded on the way. -/
theorem residue_run (c : Checksum) (changes : List Change) :
    residue (c.run changes).sum.toNat
      = residue (c.sum.toNat + wordTotal (allWords changes)) := by
  induction changes generalizing c with
  | nil => rfl
  | cons change rest ih =>
      have hall : allWords (change :: rest) = change.words ++ allWords rest := List.flatMap_cons
      calc residue ((change.apply c).run rest).sum.toNat
          _ = residue ((change.apply c).sum.toNat + wordTotal (allWords rest)) := ih _
          _ = residue (c.sum.toNat + wordTotal (allWords (change :: rest))) := by
              rw [residue_apply, hall, wordTotal_append]

/-! ## Additions with guards -/

namespace Guarded

/-- The sum, if 32 bits can hold it. -/
def plus (a b : UInt32) : Option UInt32 :=
  if a.toNat + b.toNat < 4294967296 then some (a + b) else none

/-- Folds until no carry is left, in no more than the given number of rounds. -/
def fold : Nat → UInt32 → Option UInt32
  | 0, s => if s >>> 16 = 0 then some s else none
  | rounds + 1, s =>
    if s >>> 16 = 0 then some s
    else (plus (s >>> 16) (s &&& 0xFFFF)).bind (fold rounds)

/-- The accumulator to which a word is added: folded if a word could overflow it. -/
def ready (c : Checksum) : Option UInt32 :=
  if c.sum ≥ 0xFFFF0000 then fold 2 c.sum else some c.sum

def addWord (c : Checksum) (w : UInt16) : Option Checksum := do
  let sum ← ready c
  let sum ← plus sum w.toUInt32
  return ⟨sum⟩

def addWords (c : Checksum) : List UInt16 → Option Checksum
  | [] => some c
  | w :: rest => (addWord c w).bind (addWords · rest)

def folded (c : Checksum) : Option Checksum := (fold 2 c.sum).map Checksum.mk

def apply (c : Checksum) : Change → Option Checksum
  | .word w => addWord c w
  | .addBytes b => addWords c (words b)
  | .subBytes b => addWords c ((words b).map (~~~ ·))
  | .add part => (folded part).bind fun part => addWord c part.sum.toUInt16
  | .fold => folded c

def run (c : Checksum) : List Change → Option Checksum
  | [] => some c
  | change :: rest => (apply c change).bind (run · rest)

theorem plus_eq {a b : UInt32} (h : a.toNat + b.toNat < 4294967296) : plus a b = some (a + b) :=
  if_pos h

/-- The two halves of an accumulator can always be added. -/
theorem plus_halves (s : UInt32) : plus (s >>> 16) (s &&& 0xFFFF) = some (foldRound s) := by
  have := s.toNat_lt
  refine plus_eq ?_
  rw [toNat_shiftRight_sixteen, toNat_and_mask]
  omega

theorem fold_of_shiftRight {s : UInt32} (h : s >>> 16 = 0) (rounds : Nat) :
    fold rounds s = some (foldCarries s) := by
  rw [foldCarries, if_pos h]
  cases rounds with
  | zero => exact if_pos h
  | succ rounds => exact if_pos h

/-- With one round more the loop gets past an accumulator with a carry. -/
theorem fold_succ {s : UInt32} {rounds : Nat}
    (h : fold rounds (foldRound s) = some (foldCarries (foldRound s))) :
    fold (rounds + 1) s = some (foldCarries s) := by
  by_cases hs : s >>> 16 = 0
  · exact fold_of_shiftRight hs _
  · have hround : foldCarries s = foldCarries (foldRound s) := by rw [foldCarries, if_neg hs]
    rw [fold, if_neg hs, plus_halves, Option.bind_some, h, hround]

/-- Two rounds are enough for every accumulator. -/
theorem fold_two (s : UInt32) : fold 2 s = some (foldCarries s) :=
  fold_succ (fold_succ (fold_of_shiftRight (foldRound_foldRound s) 0))

theorem ready_eq (c : Checksum) : ready c = some c.ready := by
  unfold ready Checksum.ready
  split
  · exact fold_two _
  · rfl

theorem addWord_eq (c : Checksum) (w : UInt16) : addWord c w = some (c.addWord w) := by
  have hplus : plus c.ready w.toUInt32 = some (c.ready + w.toUInt32) := by
    have hlt := c.ready_lt
    have hw := w.toNat_lt
    refine plus_eq ?_
    rw [UInt16.toNat_toUInt32]
    omega
  rw [addWord, ready_eq, Option.bind_eq_bind, Option.bind_some, hplus]
  rfl

theorem addWords_eq (c : Checksum) (ws : List UInt16) : addWords c ws = some (c.addWords ws) := by
  induction ws generalizing c with
  | nil => rfl
  | cons w rest ih =>
      rw [addWords, addWord_eq, Option.bind_some]
      exact ih _

theorem folded_eq (c : Checksum) : folded c = some c.folded := by
  rw [folded, fold_two]
  rfl

theorem apply_eq (c : Checksum) (change : Change) : apply c change = some (change.apply c) := by
  cases change with
  | word w => exact addWord_eq c w
  | addBytes b => rw [apply, addWords_eq, Change.apply, addBytes_eq]
  | subBytes b => rw [apply, addWords_eq, Change.apply, subBytes_eq]
  | add part =>
      rw [apply, folded_eq, Option.bind_some]
      exact addWord_eq c part.value
  | fold => exact folded_eq c

/-- No guard ever stops a run. -/
theorem run_eq (c : Checksum) (changes : List Change) : run c changes = some (c.run changes) := by
  induction changes generalizing c with
  | nil => rfl
  | cons change rest ih =>
      rw [run, apply_eq, Option.bind_some]
      exact ih _

end Guarded

/-! ## The folded sum -/

/-- How the loop folds an accumulator. It ends because each of its rounds makes the accumulator
smaller. -/
structure Folds (s : UInt32) : Prop where
  done : s >>> 16 = 0 → foldCarries s = s
  /-- While there is a carry, there is another round. -/
  round : s >>> 16 ≠ 0 → foldRound s < s ∧ foldCarries s = foldCarries (foldRound s)
  rounds : Guarded.fold 2 s = some (foldCarries s)
  le : foldCarries s ≤ 0xFFFF

theorem folds (s : UInt32) : Folds s := by
  refine ⟨fun h => ?_, fun h => ⟨?_, ?_⟩, Guarded.fold_two s, ?_⟩
  · rw [foldCarries, if_pos h]
  · exact UInt32.lt_iff_toNat_lt.mpr (foldRound_lt h)
  · rw [foldCarries, if_neg h]
  · rw [UInt32.le_iff_toNat_le, toNat_foldCarries]
    exact residue_le _

/-- How the sum that some changes leave is folded. -/
structure ExactlyFolded (c : Checksum) (changes : List Change) : Prop where
  /-- No 32-bit addition overflows, neither on the way nor when the sum is read. -/
  unhindered : (Guarded.run c changes).bind Guarded.folded = some (c.run changes).folded
  le : (c.run changes).folded.sum.toNat ≤ 0xFFFF
  /-- Cutting the folded sum down to 16 bits loses nothing. -/
  value : (c.run changes).value.toNat = (c.run changes).folded.sum.toNat
  zero_iff : (c.run changes).folded.sum = 0 ↔ c.sum = 0 ∧ ∀ w ∈ allWords changes, w = 0
  /-- Unless all is zero, the folded sum is the one representative of the exact sum. -/
  eq_iff : ¬ (c.sum = 0 ∧ ∀ w ∈ allWords changes, w = 0) → ∀ r : Nat,
    r = (c.run changes).folded.sum.toNat ↔ 1 ≤ r ∧ r ≤ 0xFFFF
      ∧ r % 65535 = (c.sum.toNat + wordTotal (allWords changes)) % 65535

theorem toNat_folded_run (c : Checksum) (changes : List Change) :
    (c.run changes).folded.sum.toNat
      = residue (c.sum.toNat + wordTotal (allWords changes)) := by
  rw [folded, toNat_foldCarries, residue_run]

/-- A residue is the one representative between 1 and 65535, except that of zero. -/
theorem eq_residue_iff {s : Nat} (hs : s ≠ 0) (r : Nat) :
    r = residue s ↔ 1 ≤ r ∧ r ≤ 65535 ∧ r % 65535 = s % 65535 := by
  have hpos : residue s ≠ 0 := fun h => hs (residue_eq_zero_iff.mp h)
  have hle := residue_le s
  have hmod := residue_mod s
  omega

theorem exactlyFolded_run (c : Checksum) (changes : List Change) : ExactlyFolded c changes := by
  have hfolded := toNat_folded_run c changes
  have hzero : c.sum.toNat + wordTotal (allWords changes) = 0
      ↔ c.sum = 0 ∧ ∀ w ∈ allWords changes, w = 0 := by
    rw [Nat.add_eq_zero_iff, wordTotal_eq_zero_iff, ← UInt32.toNat_inj]
    rfl
  refine ⟨?_, ?_, ?_, ?_, ?_⟩
  · rw [Guarded.run_eq, Option.bind_some, Guarded.folded_eq]
  · rw [hfolded]
    exact residue_le _
  · rw [toNat_value, hfolded, residue_run]
  · rw [← hzero, ← residue_eq_zero_iff, ← hfolded, ← UInt32.toNat_inj]
    rfl
  · intro hne r
    rw [hfolded]
    exact eq_residue_iff (fun h => hne (hzero.mp h)) r

/-- **Sums do not overflow, and fold exactly.** From any accumulator on, with any changes, in any
order. -/
theorem sums_fold_exactly :
    (∀ s, Folds s) ∧ ∀ (c : Checksum) (changes : List Change), ExactlyFolded c changes :=
  ⟨folds, exactlyFolded_run⟩

/-- Two words that would overflow the accumulator if it was not folded between them. -/
example : Guarded.plus 0xFFFEFFFF 0xFFFF = some 0xFFFFFFFE ∧ Guarded.plus 0xFFFFFFFE 0xFFFF = none
    ∧ Guarded.run ⟨0xFFFEFFFF⟩ [.word 0xFFFF, .word 0xFFFF] = some ⟨0x1FFFD⟩ := by decide

end Checksum

end PacketPath
