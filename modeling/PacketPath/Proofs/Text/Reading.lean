import PacketPath.Text.Decimal

set_option autoImplicit false

/-! # Reading printed numbers

A number that is printed in decimal can be read back, with zeros in front of its digits
(`readInt_zeroPadded`) and in a column, with blanks in front of it (`readCount?_padLeft`). A text of
lines, each with a newline at its end, can be taken apart into these (`lines_join`).
-/

namespace PacketPath.Text

variable {n : Nat} {c : Char}

/-! ## Digits -/

theorem isDigit_of_mem_repr (h : c ∈ n.repr.toList) : c.isDigit = true := by
  rw [Nat.toList_repr] at h
  exact Nat.isDigit_of_mem_toDigits (by decide) (by decide) h

theorem ofDigitChars_repr (n : Nat) : Nat.ofDigitChars 10 n.repr.toList 0 = n := by
  rw [Nat.toList_repr, Nat.ofDigitChars_ten_toDigits]

theorem toList_padLeft (width : Nat) (pad : Char) (s : String) :
    (padLeft width pad s).toList = List.replicate (width - s.length) pad ++ s.toList := by
  rw [padLeft, String.toList_append, String.toList_ofList]

theorem isDigit_of_mem_padLeft {width : Nat} (h : c ∈ (padLeft width '0' n.repr).toList) :
    c.isDigit = true := by
  rw [toList_padLeft, List.mem_append] at h
  rcases h with h | h
  · rw [List.eq_of_mem_replicate h]
    decide
  · exact isDigit_of_mem_repr h

/-- Zeros in front of a number do not change it. -/
theorem ofDigitChars_padLeft (width n : Nat) :
    Nat.ofDigitChars 10 (padLeft width '0' n.repr).toList 0 = n := by
  rw [toList_padLeft, Nat.ofDigitChars_append, Nat.ofDigitChars_replicate_zero, Nat.mul_zero,
    ofDigitChars_repr]

/-! ## Integers -/

/-- The value of a sign, if there is one, and digits. -/
def readInt : List Char → Int
  | [] => 0
  | c :: rest =>
    if c = '-' then -(Nat.ofDigitChars 10 rest 0 : Int) else Nat.ofDigitChars 10 (c :: rest) 0

theorem readInt_of_digits {cs : List Char} (h : ∀ c ∈ cs, c.isDigit = true) :
    readInt cs = Nat.ofDigitChars 10 cs 0 := by
  cases cs with
  | nil => rfl
  | cons c rest =>
      refine if_neg fun hc => ?_
      have hdigit := h c List.mem_cons_self
      rw [hc] at hdigit
      exact absurd hdigit (by decide)

theorem readInt_minus (digits : String) :
    readInt ("-" ++ digits).toList = -(Nat.ofDigitChars 10 digits.toList 0 : Int) := by
  have hsign : "-".toList = ['-'] := by decide
  rw [String.toList_append, hsign, List.singleton_append, readInt, if_pos rfl]

theorem readInt_decimal (i : Int) : readInt (decimal i).toList = i := by
  cases i with
  | ofNat n =>
      rw [decimal, readInt_of_digits fun c => isDigit_of_mem_repr, ofDigitChars_repr]
      rfl
  | negSucc n =>
      rw [decimal, readInt_minus, ofDigitChars_repr]
      rfl

theorem readInt_zeroPadded (width : Nat) (i : Int) : readInt (zeroPadded width i).toList = i := by
  cases i with
  | ofNat n =>
      rw [zeroPadded, readInt_of_digits fun c => isDigit_of_mem_padLeft, ofDigitChars_padLeft]
      rfl
  | negSucc n =>
      rw [zeroPadded, readInt_minus, ofDigitChars_padLeft]
      rfl

/-- There is nothing in a decimal number but digits and a sign. -/
theorem isDigit_of_mem_decimal {i : Int} (h : c ∈ (decimal i).toList) :
    c = '-' ∨ c.isDigit = true := by
  cases i with
  | ofNat n => exact .inr (isDigit_of_mem_repr h)
  | negSucc n =>
      rw [decimal, String.toList_append] at h
      rcases List.mem_append.mp h with h | h
      · exact .inl (List.mem_singleton.mp h)
      · exact .inr (isDigit_of_mem_repr h)

/-! ## Columns -/

/-- A text in a column of some width, with nothing but blanks in front of it. What is wider than the
column is there in full. -/
def RightAligned (width : Nat) (s column : String) : Prop :=
  ∃ blanks : String, column = blanks ++ s ∧ (∀ c ∈ blanks.toList, c = ' ')
    ∧ column.length = max width s.length

theorem rightAligned_padLeft (width : Nat) (s : String) :
    RightAligned width s (padLeft width ' ' s) := by
  refine ⟨_, rfl, fun c hc => ?_, length_padLeft width ' ' s⟩
  rw [String.toList_ofList] at hc
  exact List.eq_of_mem_replicate hc

/-- The number at the front of a text, behind blanks, if there is one. -/
def readCount? (s : String) : Option Nat :=
  let digits := (s.toList.dropWhile (· = ' ')).takeWhile Char.isDigit
  if digits = [] then none else some (Nat.ofDigitChars 10 digits 0)

/-- A number in a column is read back, whatever its size, if what follows is no digit. -/
theorem readCount?_padLeft (width n : Nat) (rest : String)
    (hrest : ∀ c ∈ rest.toList.head?, c.isDigit = false) :
    readCount? (padLeft width ' ' n.repr ++ rest) = some n := by
  have hdigits : ∀ c ∈ n.repr.toList, c.isDigit = true := fun c => isDigit_of_mem_repr
  obtain ⟨d, ds, hds⟩ : ∃ d ds, n.repr.toList = d :: ds := by
    refine List.exists_cons_of_ne_nil fun h => ?_
    rw [Nat.toList_repr] at h
    exact Nat.toDigits_ne_nil h
  -- the blanks end where the digits begin
  have hdrop : ((padLeft width ' ' n.repr ++ rest).toList.dropWhile (· = ' '))
      = n.repr.toList ++ rest.toList := by
    have hd : ¬ d = ' ' := fun he => by
      have := hdigits d (hds ▸ List.mem_cons_self)
      rw [he] at this
      exact absurd this (by decide)
    rw [String.toList_append, toList_padLeft, List.append_assoc, List.dropWhile_append_of_pos, hds,
      List.cons_append, List.dropWhile_cons_of_neg (by simpa using hd)]
    intro c hc
    rw [List.eq_of_mem_replicate hc]
    decide
  have htake : (n.repr.toList ++ rest.toList).takeWhile Char.isDigit = n.repr.toList := by
    rw [List.takeWhile_append_of_pos hdigits]
    have hnone : rest.toList.takeWhile Char.isDigit = [] := by
      cases hcs : rest.toList with
      | nil => rfl
      | cons c cs =>
          refine List.takeWhile_cons_of_neg ?_
          rw [hrest c (by rw [hcs]; rfl)]
          decide
    rw [hnone, List.append_nil]
  have hne : n.repr.toList ≠ [] := by
    rw [hds]
    exact List.cons_ne_nil _ _
  simp only [readCount?, hdrop, htake, if_neg hne, ofDigitChars_repr]

theorem readCount?_repr (n : Nat) : readCount? n.repr = some n := by
  have hpad : padLeft 0 ' ' n.repr ++ "" = n.repr := by
    rw [String.append_empty, padLeft, Nat.zero_sub]
    exact String.empty_append
  have hread := readCount?_padLeft 0 n "" (by simp)
  rwa [hpad] at hread

/-! ## Lines -/

/-- The pieces of a text between its newlines. Where every line has a newline at its end, the last
piece is empty. -/
def lines (s : String) : List String := (s.toList.splitOn '\n').map String.ofList

theorem lines_join {ls : List String} (h : ∀ l ∈ ls, '\n' ∉ l.toList) :
    lines (String.join (ls.map (· ++ "\n"))) = ls ++ [""] := by
  unfold lines
  induction ls with
  | nil => rfl
  | cons l rest ih =>
      have htext : (String.join ((l :: rest).map (· ++ "\n"))).toList
          = l.toList ++ '\n' :: (String.join (rest.map (· ++ "\n"))).toList := by
        rw [List.map_cons, String.join_cons, String.toList_append, String.toList_append,
          List.append_assoc]
        rfl
      rw [htext, List.splitOn_append_cons_self_of_not_mem (h l List.mem_cons_self), List.map_cons,
        String.ofList_toList, ih fun l hl => h l (List.mem_cons_of_mem _ hl)]
      rfl

end PacketPath.Text
