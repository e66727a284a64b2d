import PacketPath.Proofs.Json.Written

set_option autoImplicit false

/-! # Reading tokens back

What a reader makes of a token that stands at the front of a longer text. Nothing that stands behind
a token changes how it is read, provided that it does not go on with a number (`Ends`).
-/

namespace PacketPath.Json

/-- The rest of a text does not go on with a number that stands before it. -/
def Ends (rest : List Char) : Prop :=
  ∀ c cs, rest = c :: cs → isDigit c = false ∧ c ≠ '.' ∧ c ≠ 'e' ∧ c ≠ 'E'

/-- A token starts with neither a blank nor a closing bracket. -/
def Solid (token : List Char) : Prop :=
  ∃ c cs, token = c :: cs ∧ isBlank c = false ∧ c ≠ ']'

/-- A reader takes a token for a value, whatever stands behind it, and leaves the rest. -/
structure Reads {α : Type} (reader : Reader α) (token : List Char) (a : α) : Prop where
  solid : Solid token
  reads : ∀ before rest, Blank before → Ends rest →
    reader (before ++ (token ++ rest)) = .ok (a, rest)

variable {α : Type} {reader : Reader α} {token cs before rest : List Char} {a : α}

/-! ## Blanks and ends -/

theorem skipBlank_append (h : Blank before) (cs : List Char) :
    skipBlank (before ++ cs) = skipBlank cs := by
  induction before with
  | nil => rfl
  | cons c before ih =>
      have hc : isBlank c = true := h c List.mem_cons_self
      rw [List.cons_append, skipBlank, List.dropWhile_cons_of_pos hc]
      exact ih fun d hd => h d (List.mem_cons_of_mem c hd)

theorem skipBlank_cons {c : Char} (h : isBlank c = false) (cs : List Char) :
    skipBlank (c :: cs) = c :: cs := by
  rw [skipBlank, List.dropWhile_cons_of_neg (by rw [h]; exact Bool.false_ne_true)]

theorem skipBlank_blank (h : Blank cs) : skipBlank cs = [] := by
  have hskip := skipBlank_append h []
  rwa [List.append_nil] at hskip

theorem Solid.skipBlank (h : Solid token) (hb : Blank before) (rest : List Char) :
    skipBlank (before ++ (token ++ rest)) = token ++ rest := by
  obtain ⟨c, cs, rfl, hc, -⟩ := h
  rw [skipBlank_append hb, List.cons_append, skipBlank_cons hc]

theorem ends_nil : Ends [] := nofun

theorem ends_cons {c : Char} (h : isDigit c = false ∧ c ≠ '.' ∧ c ≠ 'e' ∧ c ≠ 'E')
    (cs : List Char) : Ends (c :: cs) := by
  intro d ds hd
  cases hd
  exact h

theorem isBlank_iff {c : Char} :
    isBlank c = true ↔ c = ' ' ∨ c = '\n' ∨ c = '\t' ∨ c = '\r' := by
  simp only [isBlank, Bool.or_eq_true, decide_eq_true_eq, or_assoc]

/-- No number goes on with a blank. -/
theorem Ends.blank (h : Ends rest) (hb : Blank before) : Ends (before ++ rest) := by
  cases before with
  | nil => exact h
  | cons c before =>
      refine ends_cons ?_ _
      rcases isBlank_iff.mp (hb c List.mem_cons_self) with rfl | rfl | rfl | rfl <;> decide

/-- A token with blanks around it is read off the front of a text, the blanks behind it being
left. -/
theorem Reads.padded (hr : Reads reader token a) (hp : Padded token cs) (hrest : Ends rest) :
    ∃ after, Blank after ∧ reader (cs ++ rest) = .ok (a, after ++ rest) := by
  obtain ⟨before, after, hbefore, hafter, rfl⟩ := hp
  refine ⟨after, hafter, ?_⟩
  have hread := hr.reads before (after ++ rest) hbefore (hrest.blank hafter)
  rw [← hread]
  simp only [List.append_assoc]

theorem mark_eq {c : Char} (hc : isBlank c = false) (hb : Blank before) (rest : List Char) :
    mark c (before ++ c :: rest) = .ok ((), rest) := by
  rw [mark, skipBlank_append hb, skipBlank_cons hc]
  exact if_pos rfl

/-- A document that consists of a token is read if the token is. -/
theorem readDocument_of_form {form : List Char → Prop} {text : String}
    (hform : ∀ token, form token → Reads reader token a) (hd : Document form text) :
    readDocument reader text = .ok a := by
  obtain ⟨token, htoken, hp⟩ := hd
  obtain ⟨after, hafter, hread⟩ := (hform token htoken).padded hp ends_nil
  rw [List.append_nil, List.append_nil] at hread
  rw [readDocument, hread]
  exact if_pos (skipBlank_blank hafter)

/-! ## Words -/

theorem skipWord?_append (word rest : List Char) : skipWord? word (word ++ rest) = some rest := by
  rw [skipWord?, if_pos (List.isPrefixOf_iff_prefix.mpr (List.prefix_append word rest)),
    List.drop_left]

theorem reads_boolean (b : Bool) : Reads readBool (boolean b).toList b := by
  cases b with
  | true =>
      have hsolid : Solid (boolean true).toList := ⟨'t', ['r', 'u', 'e'], by decide, by decide⟩
      refine ⟨hsolid, fun before rest hb _ => ?_⟩
      have hword := skipWord?_append ['r', 'u', 'e'] rest
      have htext : (boolean true).toList ++ rest = 't' :: (['r', 'u', 'e'] ++ rest) := rfl
      rw [readBool, hsolid.skipBlank hb, htext]
      simp only [hword]
  | false =>
      have hsolid : Solid (boolean false).toList :=
        ⟨'f', ['a', 'l', 's', 'e'], by decide, by decide⟩
      refine ⟨hsolid, fun before rest hb _ => ?_⟩
      have hword := skipWord?_append ['a', 'l', 's', 'e'] rest
      have htext : (boolean false).toList ++ rest = 'f' :: (['a', 'l', 's', 'e'] ++ rest) := rfl
      rw [readBool, hsolid.skipBlank hb, htext]
      simp only [hword]

/-! ## Strings -/

/-- A character that is not the closing quote is read, and then the text goes on. -/
theorem readText?_of_readChar {c : Char} {cs rest : List Char} (hne : cs.head? ≠ some '"')
    (hc : readChar? cs = some (c, rest)) :
    readText? cs = (readText? rest).map fun p => (c :: p.1, p.2) := by
  rw [readText?]
  · split
    · next hnone =>
      rw [hc] at hnone
      cases hnone
    · next hsome =>
      rw [hc] at hsome
      cases hsome
      rfl
  · rintro tail rfl
    exact hne rfl

/-- However a text is spelled, it is read back up to the closing quote. -/
theorem readText?_of_spelled {text cs : List Char} (h : Spelled text cs) (rest : List Char) :
    readText? (cs ++ '"' :: rest) = some (text, rest) := by
  have hescape : ∀ tail : List Char, ('\\' :: tail).head? ≠ some '"' := fun _ h =>
    absurd (Option.some.inj h) (by decide)
  induction h with
  | nil =>
      rw [List.nil_append, readText?]
  | @plain c text cs hlow hquote hback _ ih =>
      have hread : readChar? (c :: (cs ++ '"' :: rest)) = some (c, cs ++ '"' :: rest) := by
        rw [readChar?]
        · exact if_neg (not_or_intro hlow hback)
        · exact fun _ _ _ _ _ hc _ => hback hc
        · exact fun _ _ hc _ => hback hc
      have hnext : (c :: (cs ++ '"' :: rest)).head? ≠ some '"' := fun h =>
        hquote (Option.some.inj h)
      rw [List.cons_append, readText?_of_readChar hnext hread, ih]
      rfl
  | @letter c e text cs he _ ih =>
      have hread : readChar? ('\\' :: e :: (cs ++ '"' :: rest)) = some (c, cs ++ '"' :: rest) := by
        have hu : e ≠ 'u' := by
          rintro rfl
          cases he
        rw [readChar?]
        · rw [he]
          rfl
        · exact fun _ _ _ _ _ he _ => hu he
      rw [List.cons_append, List.cons_append, readText?_of_readChar (hescape _) hread, ih]
      rfl
  | @unit a b c d n text cs hn hlead htrail _ ih =>
      have hread : readChar? ('\\' :: 'u' :: a :: b :: c :: d :: (cs ++ '"' :: rest))
          = some (Char.ofNat n, cs ++ '"' :: rest) := by
        rw [readChar?]
        simp only [hn, htrail, hlead, Bool.false_eq_true, if_false]
      simp only [List.cons_append]
      rw [readText?_of_readChar (hescape _) hread, ih]
      rfl
  | @pair a b c d a' b' c' d' m n text cs hm hlead hn htrail _ ih =>
      have hmt : isTrailing m = false := by
        simp only [isLeading, isTrailing, Bool.and_eq_true, decide_eq_true_eq] at hlead ⊢
        simp only [Bool.and_eq_false_iff, decide_eq_false_iff_not]
        omega
      have hread : readChar? ('\\' :: 'u' :: a :: b :: c :: d :: '\\' :: 'u' :: a' :: b' :: c'
          :: d' :: (cs ++ '"' :: rest)) = some (joinPair m n, cs ++ '"' :: rest) := by
        rw [readChar?]
        simp only [hm, hmt, hlead, hn, htrail, Bool.false_eq_true, if_false, if_true]
      simp only [List.cons_append]
      rw [readText?_of_readChar (hescape _) hread, ih]
      rfl

theorem reads_name {s : String} (h : StringToken s token) : Reads readName token s := by
  obtain ⟨cs, hcs, rfl⟩ := h
  have hsolid : Solid ('"' :: (cs ++ ['"'])) := ⟨_, _, rfl, by decide, by decide⟩
  refine ⟨hsolid, fun before rest hb _ => ?_⟩
  rw [readName, hsolid.skipBlank hb]
  simp only [List.cons_append, List.append_assoc, List.nil_append]
  rw [readText?_of_spelled hcs]
  simp only [String.ofList_toList]

/-! ## Numbers -/

theorem isDigit_eq (c : Char) : isDigit c = c.isDigit := by
  simp only [isDigit, digit?, Char.isDigit, Char.le_def]
  split
  · next h => simpa using h
  · next h => simpa using h

theorem digit?_of_isDigit {c : Char} (h : isDigit c = true) :
    digit? c = some (c.toNat - '0'.toNat) := by
  unfold isDigit at h
  unfold digit? at h ⊢
  split
  · rfl
  · next hc =>
    rw [if_neg hc] at h
    cases h

theorem isDigit_of_mem_repr {n : Nat} {c : Char} (h : c ∈ n.repr.toList) : isDigit c = true := by
  rw [Nat.toList_repr] at h
  rw [isDigit_eq]
  exact Nat.isDigit_of_mem_toDigits (by decide) (by decide) h

theorem exists_cons_repr (n : Nat) : ∃ c cs, n.repr.toList = c :: cs ∧ isDigit c = true := by
  cases hds : n.repr.toList with
  | nil =>
      rw [Nat.toList_repr] at hds
      exact absurd hds Nat.toDigits_ne_nil
  | cons c cs => exact ⟨c, cs, rfl, isDigit_of_mem_repr (hds ▸ List.mem_cons_self)⟩

/-- Digits only add to the number in front of them. -/
theorem le_ofDigitChars (ds : List Char) (n : Nat) : n ≤ Nat.ofDigitChars 10 ds n := by
  induction ds generalizing n with
  | nil => exact Nat.le_refl _
  | cons d ds ih =>
      rw [Nat.ofDigitChars_cons]
      exact Nat.le_trans (by omega) (ih _)

/-- Digits that make a number of 64 bits are all taken. -/
theorem takeDigits_append {ds : List Char} {n : Nat} (hds : ∀ c ∈ ds, isDigit c = true)
    (hle : Nat.ofDigitChars 10 ds n ≤ maxSignificand) (hrest : Ends rest) (taken : Nat) :
    takeDigits n taken (ds ++ rest)
      = (Nat.ofDigitChars 10 ds n, taken + ds.length, rest) := by
  induction ds generalizing n taken with
  | nil =>
      cases rest with
      | nil => rfl
      | cons c rest =>
          have hc : digit? c = none := by simpa [isDigit] using (hrest c rest rfl).1
          simp only [List.nil_append, takeDigits, hc]
          rfl
  | cons d ds ih =>
      rw [Nat.ofDigitChars_cons, Nat.mul_comm] at hle ⊢
      have hfits : n * 10 + (d.toNat - '0'.toNat) ≤ maxSignificand :=
        Nat.le_trans (le_ofDigitChars ds _) hle
      rw [List.cons_append, takeDigits, digit?_of_isDigit (hds d List.mem_cons_self)]
      simp only [if_pos hfits]
      rw [ih (fun c hc => hds c (List.mem_cons_of_mem d hc)) hle, List.length_cons, Nat.add_assoc,
        Nat.add_comm 1]

/-- Only zero is written with a zero in front. -/
theorem head_repr_ne {n : Nat} (hn : n ≠ 0) : n.repr.toList.head? ≠ some '0' := by
  rw [Nat.toList_repr]
  induction n using Nat.strongRecOn with
  | _ n ih =>
    by_cases hlt : n < 10
    · rw [Nat.toDigits_of_lt_base hlt]
      intro h
      exact hn (Nat.digitChar_eq_zero.mp (Option.some.inj h))
    · rw [Nat.toDigits_of_base_le (by decide) (by omega)]
      have hdiv := ih (n / 10) (by omega) (by omega)
      obtain ⟨d, ds, hds⟩ := List.exists_cons_of_ne_nil
        (Nat.toDigits_ne_nil (b := 10) (n := n / 10))
      rw [hds] at hdiv ⊢
      exact hdiv

theorem startsWithDigit_of_ends (h : Ends rest) : startsWithDigit rest = false := by
  cases rest with
  | nil => rfl
  | cons c cs => exact (h c cs rfl).1

theorem afterInteger?_of_ends (negative : Bool) (n : Nat) (h : Ends rest) :
    afterInteger? negative n rest = some (whole negative n, rest) := by
  cases rest with
  | nil => rfl
  | cons c cs =>
      obtain ⟨-, hpoint, he, hE⟩ := h c cs rfl
      rw [afterInteger?, if_neg hpoint, if_neg (not_or_intro he hE)]

/-- The digits of a number of 64 bits are read back, whatever the sign. -/
theorem readNumber?_repr (negative : Bool) {n : Nat} (hn : n ≤ maxSignificand) (hrest : Ends rest) :
    readNumber? negative (n.repr.toList ++ rest) = some (whole negative n, rest) := by
  have hdigits : ∀ c ∈ n.repr.toList, isDigit c = true := fun c hc => isDigit_of_mem_repr hc
  have hvalue : Nat.ofDigitChars 10 n.repr.toList 0 = n := by
    rw [Nat.toList_repr, Nat.ofDigitChars_ten_toDigits]
  have htake := takeDigits_append hdigits (by rwa [hvalue]) hrest 0
  rw [hvalue] at htake
  by_cases hzero : n = 0
  · subst hzero
    show (if startsWithDigit rest then none else afterInteger? negative 0 rest) = _
    rw [startsWithDigit_of_ends hrest]
    exact afterInteger?_of_ends negative 0 hrest
  · have hhead := head_repr_ne hzero
    obtain ⟨d, ds, hds, hdigit⟩ := exists_cons_repr n
    rw [hds] at hhead htake ⊢
    have hd : d ≠ '0' := fun h => hhead (congrArg some h)
    rw [List.cons_append] at htake ⊢
    rw [readNumber?]
    simp only [if_neg hd, hdigit, htake, startsWithDigit_of_ends hrest, if_true,
      Bool.false_eq_true, if_false]
    exact afterInteger?_of_ends negative n hrest

theorem solid_of_digit {c : Char} (hc : isDigit c = true) (cs : List Char) : Solid (c :: cs) := by
  refine ⟨c, cs, rfl, ?_, ?_⟩
  · cases hblank : isBlank c with
    | false => rfl
    | true => rcases isBlank_iff.mp hblank with rfl | rfl | rfl | rfl <;> cases hc
  · rintro rfl
    cases hc

theorem inRange_integer {low high n : Int} (hlow : low ≤ n) (hhigh : n ≤ high) (expected : String)
    (rest : List Char) :
    inRange low high expected (some (.integer n, rest)) = .ok (n, rest) :=
  if_pos ⟨hlow, hhigh⟩

/-- An integer of a range is read back, if the range is one of 64 bits. -/
theorem reads_integer {low high n : Int} (expected : String) (hmin : -(maxNegative : Int) ≤ low)
    (hmax : high ≤ maxSignificand) (hlow : low ≤ n) (hhigh : n ≤ high) :
    Reads (readInteger low high expected) (Text.decimal n).toList n := by
  cases n with
  | ofNat n =>
      obtain ⟨c, cs, hcs, hc⟩ := exists_cons_repr n
      have htext : (Text.decimal (.ofNat n)).toList = c :: cs := hcs
      have hminus : c ≠ '-' := by
        rintro rfl
        cases hc
      have hn : n ≤ maxSignificand := Int.ofNat_le.mp (Int.le_trans hhigh hmax)
      rw [htext]
      refine ⟨solid_of_digit hc cs, fun before rest hb hrest => ?_⟩
      have hnumber := readNumber?_repr false hn hrest
      rw [hcs, List.cons_append] at hnumber
      rw [readInteger, (solid_of_digit hc cs).skipBlank hb]
      simp only [List.cons_append, if_neg hminus, hc, if_true, hnumber]
      exact inRange_integer hlow hhigh expected rest
  | negSucc n =>
      have htext : (Text.decimal (.negSucc n)).toList = '-' :: (n + 1).repr.toList := by
        simp [Text.decimal]
      have hsolid : Solid ('-' :: (n + 1).repr.toList) := ⟨_, _, rfl, by decide, by decide⟩
      have hn : n + 1 ≤ maxNegative := by omega
      have hwhole : whole true (n + 1) = .integer (.negSucc n) := by
        rw [whole, if_pos rfl, if_neg (by omega)]
        rfl
      rw [htext]
      refine ⟨hsolid, fun before rest hb hrest => ?_⟩
      have hnumber := readNumber?_repr true (Nat.le_trans hn (by decide)) hrest
      rw [readInteger, hsolid.skipBlank hb]
      simp only [List.cons_append, if_true, hnumber, hwhole]
      exact inRange_integer hlow hhigh expected rest

/-- What is read can be given another form. -/
theorem Reads.map {β : Type} (hr : Reads reader token a) (f : α → β) :
    Reads (do let a ← reader; return f a) token (f a) :=
  ⟨hr.solid, fun before rest hb hrest => Reader.bind_of_ok (hr.reads before rest hb hrest)⟩

end PacketPath.Json
