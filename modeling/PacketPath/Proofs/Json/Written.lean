import PacketPath.Json.Standard

set_option autoImplicit false

/-! # Written forms of documents

The texts that stand for one and the same document. Blanks may surround every token, and a string
may be spelled with escapes, also where it need not be. The forms that the library writes itself
have no blanks and few escapes; they are among the forms described here (`spelled_escape`,
`objectToken_object`).
-/

namespace PacketPath.Json

/-! ## Blanks -/

/-- Nothing but blanks. -/
def Blank (cs : List Char) : Prop := ∀ c ∈ cs, isBlank c = true

/-- A token with blanks on both sides. -/
def Padded (token cs : List Char) : Prop :=
  ∃ before after, Blank before ∧ Blank after ∧ cs = before ++ (token ++ after)

theorem blank_nil : Blank [] := nofun

theorem padded_self (token : List Char) : Padded token token :=
  ⟨[], [], blank_nil, blank_nil, by rw [List.nil_append, List.append_nil]⟩

/-! ## Strings -/

/-- The ways to spell a text inside a string: each character as itself, by a letter, by its code
unit, or by a pair of surrogates. -/
inductive Spelled : List Char → List Char → Prop
  | nil : Spelled [] []
  | plain {c : Char} {text cs : List Char} : ¬ c.toNat < 32 → c ≠ '"' → c ≠ '\\' →
      Spelled text cs → Spelled (c :: text) (c :: cs)
  | letter {c e : Char} {text cs : List Char} : letterEscape? e = some c →
      Spelled text cs → Spelled (c :: text) ('\\' :: e :: cs)
  | unit {a b c d : Char} {n : Nat} {text cs : List Char} : codeUnit? a b c d = some n →
      isLeading n = false → isTrailing n = false →
      Spelled text cs → Spelled (Char.ofNat n :: text) ('\\' :: 'u' :: a :: b :: c :: d :: cs)
  | pair {a b c d a' b' c' d' : Char} {m n : Nat} {text cs : List Char} :
      codeUnit? a b c d = some m → isLeading m = true →
      codeUnit? a' b' c' d' = some n → isTrailing n = true →
      Spelled text cs → Spelled (joinPair m n :: text)
        ('\\' :: 'u' :: a :: b :: c :: d :: '\\' :: 'u' :: a' :: b' :: c' :: d' :: cs)

/-- A text as a string, however it is spelled. -/
def StringToken (s : String) (token : List Char) : Prop :=
  ∃ cs, Spelled s.toList cs ∧ token = '"' :: (cs ++ ['"'])

/-- A control character is written by its code unit. -/
theorem codeUnit?_hexDigit {n : Nat} (h : n < 32) :
    codeUnit? '0' '0' (hexDigit (n / 16)) (hexDigit (n % 16)) = some n := by
  have hall : ∀ n < 32, codeUnit? '0' '0' (hexDigit (n / 16)) (hexDigit (n % 16)) = some n := by
    decide
  exact hall n h

theorem Spelled.escape {text cs : List Char} (c : Char) (h : Spelled text cs) :
    Spelled (c :: text) (Json.escape c ++ cs) := by
  unfold Json.escape
  -- seven characters have a letter to stand for them
  iterate 7
    split
    · next hc =>
      subst hc
      exact .letter rfl h
  split
  · next hlow =>
    have hlead : isLeading c.toNat = false := by
      rw [isLeading, decide_eq_false (by omega), Bool.false_and]
    have htrail : isTrailing c.toNat = false := by
      rw [isTrailing, decide_eq_false (by omega), Bool.false_and]
    have hunit := Spelled.unit (codeUnit?_hexDigit hlow) hlead htrail h
    rwa [Char.ofNat_toNat] at hunit
  · next hquote hback _ _ _ _ _ hlow => exact .plain hlow hquote hback h

/-- What the library writes into a string is a way to spell it. -/
theorem spelled_escape (text : List Char) : Spelled text (text.flatMap escape) := by
  induction text with
  | nil => exact .nil
  | cons c text ih =>
      rw [List.flatMap_cons]
      exact ih.escape c

theorem stringToken_quote (s : String) : StringToken s (quote s).toList := by
  refine ⟨_, spelled_escape s.toList, ?_⟩
  simp [quote]

/-! ## Objects and arrays -/

section Lists

variable {β : Type} (piece : β → List Char → Prop)

/-- The texts of some things, a comma before each. -/
inductive Further : List β → List Char → Prop
  | nil : Further [] []
  | cons {x : β} {xs : List β} {cs rest : List Char} : piece x cs → Further xs rest →
      Further (x :: xs) (',' :: (cs ++ rest))

/-- The texts of some things with commas between them; blanks, if there are none. -/
inductive Listed : List β → List Char → Prop
  | nil {cs : List Char} : Blank cs → Listed [] cs
  | cons {x : β} {xs : List β} {cs rest : List Char} : piece x cs → Further piece xs rest →
      Listed (x :: xs) (cs ++ rest)

variable {piece}

theorem further_intercalate {text : β → String} (h : ∀ x, piece x (text x).toList) (x : β)
    (xs : List β) : ∃ rest, Further piece xs rest
      ∧ (",".intercalate ((x :: xs).map text)).toList = (text x).toList ++ rest := by
  induction xs generalizing x with
  | nil => exact ⟨[], .nil, by simp⟩
  | cons y xs ih =>
      obtain ⟨rest, hrest, htext⟩ := ih y
      refine ⟨_, .cons (h y) hrest, ?_⟩
      rw [← htext, List.map_cons, List.map_cons, String.intercalate_cons_cons]
      simp

/-- Texts with commas between them, and no blanks. -/
theorem listed_intercalate {text : β → String} (h : ∀ x, piece x (text x).toList) (xs : List β) :
    Listed piece xs (",".intercalate (xs.map text)).toList := by
  cases xs with
  | nil => exact .nil blank_nil
  | cons x xs =>
      obtain ⟨rest, hrest, htext⟩ := further_intercalate h x xs
      rw [htext]
      exact .cons (h x) hrest

end Lists

/-- An array with its items in order. -/
def array (items : List String) : String := "[" ++ ",".intercalate items ++ "]"

theorem members_eq_intercalate (list : List (String × String)) :
    members list = ",".intercalate (list.map fun m => member m.1 m.2) := by
  induction list with
  | nil => rfl
  | cons m list ih =>
      cases list with
      | nil => simp [members]
      | cons next list =>
          rw [members, ih, List.map_cons, List.map_cons, List.map_cons,
            String.intercalate_cons_cons]
          simp

section Values

variable {α : Type} (write : α → String)

/-- An item of an array. -/
def ItemText (a : α) : List Char → Prop := Padded (write a).toList

/-- A member of an object: its name, a colon and its value, with blanks around each. -/
def MemberText (m : String × α) (cs : List Char) : Prop :=
  ∃ token name value, StringToken m.1 token ∧ Padded token name ∧ ItemText write m.2 value
    ∧ cs = name ++ ':' :: value

/-- An array of values, in order. -/
def ArrayToken (items : List α) (token : List Char) : Prop :=
  ∃ body, Listed (ItemText write) items body ∧ token = '[' :: (body ++ [']'])

/-- An object with members in the order given. -/
def ObjectToken (list : List (String × α)) (token : List Char) : Prop :=
  ∃ body, Listed (MemberText write) list body ∧ token = '\x7b' :: (body ++ ['\x7d'])

/-- A text that holds one token and nothing else but blanks. -/
def Document (form : List Char → Prop) (text : String) : Prop :=
  ∃ token, form token ∧ Padded token text.toList

theorem document_of_form {form : List Char → Prop} {text : String} (h : form text.toList) :
    Document form text := ⟨_, h, padded_self _⟩

/-- What the library writes for a member, without blanks. -/
theorem memberText_member (m : String × α) :
    MemberText write m (member m.1 (write m.2)).toList := by
  refine ⟨_, _, _, stringToken_quote m.1, padded_self _, padded_self _, ?_⟩
  simp [member]

/-- What the library writes for an object is one of its forms. -/
theorem objectToken_object (list : List (String × α)) :
    ObjectToken write list (object (list.map fun m => (m.1, write m.2))).toList := by
  refine ⟨_, listed_intercalate (memberText_member write) list, ?_⟩
  simp only [object, members_eq_intercalate, List.map_map, String.toList_append, List.append_assoc]
  rfl

/-- An array without blanks is one of its forms. -/
theorem arrayToken_array (items : List α) :
    ArrayToken write items (array (items.map write)).toList := by
  refine ⟨_, listed_intercalate (fun a => padded_self (write a).toList) items, ?_⟩
  simp only [array, String.toList_append, List.append_assoc]
  rfl

end Values

end PacketPath.Json
