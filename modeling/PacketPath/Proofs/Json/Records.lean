import PacketPath.Proofs.Json.Reading

set_option autoImplicit false

/-! # Reading members and items back

An object is read member by member: each changes what was kept so far, and the first one that is
refused ends the reading. So the reading of an object is the fold of one step over its members
(`readMembers_listed`), with the failures that the steps have. Arrays are read item by item.
-/

namespace PacketPath.Json

variable {α β σ : Type} {member : String → σ → Reader σ} {write : β → String}
  {put : σ → String × β → Except Failure σ} {m : String × β} {ms : List (String × β)}
  {token cs before rest : List Char}

/-! ## Members -/

/-- Once its name has been read, a member is read as the step `put` says, whatever stands behind
it. -/
def Puts (member : String → σ → Reader σ) (write : β → String)
    (put : σ → String × β → Except Failure σ) (m : String × β) : Prop :=
  ∀ s before before' rest, Blank before → Blank before' → Ends rest →
    member m.1 s (before ++ ':' :: (before' ++ ((write m.2).toList ++ rest)))
      = (put s m).map (·, rest)

/-- What follows the name of a member that stands at the front of a text. -/
theorem exists_afterName (hm : MemberText write m cs) (rest : List Char) :
    ∃ before tail after, Blank before ∧ Blank after
      ∧ cs ++ rest = before ++ '"' :: tail
      ∧ ∃ value, readText? tail = some (m.1.toList, value)
        ∧ ∀ {member : String → σ → Reader σ} {put : σ → String × β → Except Failure σ},
          Puts member write put m → Ends rest → ∀ s,
          member (String.ofList m.1.toList) s value = (put s m).map (·, after ++ rest) := by
  obtain ⟨token, name, value, ⟨cs, hcs, rfl⟩, hname, hvalue, rfl⟩ := hm
  obtain ⟨b₁, b₂, h₁, h₂, rfl⟩ := hname
  obtain ⟨b₃, b₄, h₃, h₄, rfl⟩ := hvalue
  refine ⟨b₁, cs ++ '"' :: (b₂ ++ ':' :: (b₃ ++ ((write m.2).toList ++ (b₄ ++ rest)))), b₄, h₁, h₄,
    ?_, _, readText?_of_spelled hcs _, fun hp hrest s => ?_⟩
  · simp only [List.append_assoc, List.cons_append, List.nil_append]
  · rw [String.ofList_toList]
    exact hp s b₂ b₃ (b₄ ++ rest) h₂ h₃ (hrest.blank h₄)

/-- One member is read, the first one of an object or one behind a comma. -/
theorem readMembers_member (hp : Puts member write put m) (hm : MemberText write m cs)
    (hrest : Ends rest) : ∃ after, Blank after ∧ ∀ fuel s,
      let next := put s m >>= fun s => readMembers member fuel false s (after ++ rest)
      readMembers member (fuel + 1) true s (cs ++ rest) = next
        ∧ ∀ before, Blank before →
          readMembers member (fuel + 1) false s (before ++ ',' :: (cs ++ rest)) = next := by
  obtain ⟨blanks, tail, after, hblanks, hafter, htext, value, hname, hvalue⟩ :=
    exists_afterName hm rest
  have hskip : skipBlank (cs ++ rest) = '"' :: tail := by
    rw [htext, skipBlank_append hblanks, skipBlank_cons (by decide)]
  refine ⟨after, hafter, fun fuel s => ⟨?_, fun before hb => ?_⟩⟩
  · simp only [readMembers, hskip, Char.reduceEq, if_false, if_true, hname, hvalue hp hrest s]
    cases put s m <;> rfl
  · have hcomma : skipBlank (before ++ ',' :: (cs ++ rest)) = ',' :: (cs ++ rest) := by
      rw [skipBlank_append hb, skipBlank_cons (by decide)]
    simp only [readMembers, hcomma, Char.reduceEq, Bool.false_eq_true, if_false, if_true, hskip,
      hname, hvalue hp hrest s]
    cases put s m <;> rfl

theorem ends_brace (rest : List Char) : Ends ('\x7d' :: rest) := ends_cons (by decide) rest

theorem ends_further {piece : α → List Char → Prop} {xs : List α} (h : Further piece xs cs)
    (hrest : Ends rest) : Ends (cs ++ rest) := by
  cases h with
  | nil => exact hrest
  | cons _ _ => exact ends_cons (by decide) _

theorem map_bind_except {γ δ ε : Type} (x : Except ε γ) (f : γ → Except ε δ) (g : δ → α) :
    (x >>= f).map g = x >>= fun a => (f a).map g :=
  map_bind g x f

theorem readMembers_brace (hb : Blank before) (fuel : Nat) (first : Bool) (s : σ)
    (rest : List Char) :
    readMembers member (fuel + 1) first s (before ++ '\x7d' :: rest) = .ok (s, '\x7d' :: rest) := by
  have hskip : skipBlank (before ++ '\x7d' :: rest) = '\x7d' :: rest := by
    rw [skipBlank_append hb, skipBlank_cons (by decide)]
  simp only [readMembers, hskip, if_true]

/-- The members behind the first one are read up to the closing brace. -/
theorem readMembers_further (hm : Further (MemberText write) ms cs)
    (hp : ∀ m ∈ ms, Puts member write put m) (hb : Blank before) {fuel : Nat}
    (hfuel : ms.length < fuel) (s : σ) (rest : List Char) :
    readMembers member fuel false s (before ++ (cs ++ '\x7d' :: rest))
      = (ms.foldlM put s).map (·, '\x7d' :: rest) := by
  induction hm generalizing before fuel s with
  | nil =>
      obtain ⟨fuel, rfl⟩ := Nat.exists_eq_add_of_lt hfuel
      exact readMembers_brace hb _ false s rest
  | @cons m ms cs more hcs hmore ih =>
      obtain ⟨hpm, hpms⟩ := List.forall_mem_cons.mp hp
      obtain ⟨fuel, rfl⟩ := Nat.exists_eq_add_of_lt hfuel
      obtain ⟨after, hafter, hread⟩ :=
        readMembers_member hpm hcs (ends_further hmore (ends_brace rest))
      have htext : before ++ (',' :: (cs ++ more) ++ '\x7d' :: rest)
          = before ++ ',' :: (cs ++ (more ++ '\x7d' :: rest)) := by
        simp only [List.cons_append, List.append_assoc]
      rw [htext, (hread _ s).2 before hb, List.foldlM_cons, map_bind_except]
      refine congrArg (put s m >>= ·) (funext fun s => ?_)
      exact ih hpms hafter (by rw [List.length_cons]; omega) s

/-- **The members of an object** are read in order, up to the closing brace or to the first one that
is refused. -/
theorem readMembers_listed (hm : Listed (MemberText write) ms cs)
    (hp : ∀ m ∈ ms, Puts member write put m) {fuel : Nat} (hfuel : ms.length < fuel) (s : σ)
    (rest : List Char) :
    readMembers member fuel true s (cs ++ '\x7d' :: rest)
      = (ms.foldlM put s).map (·, '\x7d' :: rest) := by
  obtain ⟨fuel, rfl⟩ := Nat.exists_eq_add_of_lt hfuel
  cases hm with
  | nil hb => exact readMembers_brace hb _ true s rest
  | @cons m ms cs more hcs hmore =>
      obtain ⟨hpm, hpms⟩ := List.forall_mem_cons.mp hp
      obtain ⟨after, hafter, hread⟩ :=
        readMembers_member hpm hcs (ends_further hmore (ends_brace rest))
      rw [List.append_assoc, (hread _ s).1, List.foldlM_cons, map_bind_except]
      refine congrArg (put s m >>= ·) (funext fun s => ?_)
      exact readMembers_further hmore hpms hafter (by rw [List.length_cons]; omega) s rest

/-- Every member takes a character at least. -/
theorem length_le_of_listed (hm : Listed (MemberText write) ms cs) : ms.length ≤ cs.length := by
  have hfurther : ∀ {ms : List (String × β)} {cs}, Further (MemberText write) ms cs →
      ms.length ≤ cs.length := by
    intro ms cs h
    induction h with
    | nil => exact Nat.le_refl _
    | cons _ _ ih =>
        simp only [List.length_cons, List.length_append]
        omega
  cases hm with
  | nil _ => exact Nat.zero_le _
  | cons hcs hmore =>
      obtain ⟨_, _, _, -, -, -, rfl⟩ := hcs
      have := hfurther hmore
      simp only [List.length_cons, List.length_append]
      omega

/-! ## Items -/

variable {reader : Reader α} {a : α}

/-- An item of an array is read, the first one or one behind a comma. -/
theorem readItem_padded (hr : Reads reader token a) (hp : Padded token cs) (hrest : Ends rest) :
    ∃ after, Blank after
      ∧ readItem true reader (cs ++ rest) = .ok (some a, after ++ rest)
      ∧ ∀ before, Blank before →
        readItem false reader (before ++ ',' :: (cs ++ rest)) = .ok (some a, after ++ rest) := by
  obtain ⟨blanks, after, hblanks, hafter, rfl⟩ := hp
  obtain ⟨c, tail, rfl, hc, hbracket⟩ := hr.solid
  have hread : reader (c :: (tail ++ (after ++ rest))) = .ok (a, after ++ rest) :=
    hr.reads [] (after ++ rest) blank_nil (hrest.blank hafter)
  have hskip : skipBlank (blanks ++ (c :: tail ++ after) ++ rest)
      = c :: (tail ++ (after ++ rest)) := by
    rw [List.append_assoc, skipBlank_append hblanks, List.cons_append, List.cons_append,
      skipBlank_cons hc, List.append_assoc]
  refine ⟨after, hafter, ?_, fun before hb => ?_⟩
  · simp only [readItem, hskip, if_neg hbracket, if_true, hread]
  · have hcomma : skipBlank (before ++ ',' :: (blanks ++ (c :: tail ++ after) ++ rest))
        = ',' :: (blanks ++ (c :: tail ++ after) ++ rest) := by
      rw [skipBlank_append hb, skipBlank_cons (by decide)]
    simp only [readItem, hcomma, Char.reduceEq, Bool.false_eq_true, if_false, if_true, hskip,
      if_neg hbracket, hread]

end PacketPath.Json
