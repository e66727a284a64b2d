import PacketPath.Proofs.Json.Documented
import PacketPath.Proofs.Json.Records

set_option autoImplicit false

/-! # The standard library is documented

The standard library reads a record from an object as the fold of one step over the members, and from
an array field by field; an alternative is read from its name, or from an object with one member. From
this it follows that it does what a library is documented to do (`Library.standard_documented`).
-/

namespace PacketPath.Json

variable {α σ : Type} {token cs before rest : List Char}

/-! ## Fields -/

theorem reads_scalar {type : Scalar} {d : Datum} (h : type.Admits d) :
    Reads (readScalar type) d.text.toList d := by
  cases type with
  | boolean =>
      cases d with
      | boolean b => exact (reads_boolean b).map Datum.boolean
      | integer n => exact h.elim
  | integer type =>
      cases d with
      | boolean b => exact h.elim
      | integer n =>
          have hlow : -(maxNegative : Int) ≤ type.low := by cases type <;> decide
          have hhigh : type.high ≤ maxSignificand := by cases type <;> decide
          exact (reads_integer type.name hlow hhigh h.1 h.2).map Datum.integer

/-- A field is read, if it has not been given before. -/
theorem readOnce_eq {reader : Reader α} {a : α} {before' : List Char} (hr : Reads reader token a)
    (name : String) (old : Option α) (f : α → σ) (hb : Blank before) (hb' : Blank before')
    (hrest : Ends rest) :
    (do let read ← readOnce name old reader
        return f read : Reader σ) (before ++ ':' :: (before' ++ (token ++ rest)))
      = (if old.isSome then .error (.shape (.duplicateField name)) else .ok (f a)
          : Except Failure σ).map (·, rest) := by
  cases old with
  | some _ => rfl
  | none =>
      have hmember : readOnce name none reader (before ++ ':' :: (before' ++ (token ++ rest)))
          = .ok (a, rest) := by
        rw [readOnce, readMember, Reader.bind_of_ok (mark_eq (by decide) hb _),
          hr.reads before' rest hb' hrest]
      rw [Reader.bind_of_ok hmember]
      rfl

section

variable {r : RecordType} {given members : List (String × Datum)} {values : List Datum}
  {fields : List Field} {d : String × Datum}

namespace RecordType

/-- The step that a member of an object makes: a field of the record must not have been given
before, and no other field is accepted. -/
def give (r : RecordType) (given : List (String × Datum)) (m : String × Datum) :
    Except Failure (List (String × Datum)) :=
  match r.field? m.1 with
  | some _ =>
    if (given.lookup m.1).isSome then .error (.shape (.duplicateField m.1)) else .ok (given ++ [m])
  | none => .error (.shape (.unknownField m.1 r.names))

theorem puts_accepted (h : r.Accepts d) : Puts r.readField Datum.text r.give d := by
  obtain ⟨f, hf, hd⟩ := h
  intro given before before' rest hb hb' hrest
  simp only [readField, give, hf]
  exact readOnce_eq (reads_scalar hd) d.1 (given.lookup d.1) (fun read => given ++ [(d.1, read)])
    hb hb' hrest

theorem puts_unknown (hclosed : r.closed = true) (h : r.field? d.1 = none) :
    Puts r.readField Datum.text r.give d := by
  intro given before before' rest _ _ _
  simp only [readField, give, h, hclosed, if_true]
  rfl

theorem give_of_new (h : r.Accepts d) (hnew : d.1 ∉ given.map (·.1)) :
    r.give given d = .ok (given ++ [d]) := by
  obtain ⟨f, hf, -⟩ := h
  have hnone : given.lookup d.1 = none := by
    refine List.lookup_eq_none_iff.mpr fun m hm => bne_iff_ne.mpr fun he => hnew ?_
    exact List.mem_map.mpr ⟨m, hm, he.symm⟩
  simp only [give, hf, hnone]
  rfl

theorem give_of_given (hgiven : d.1 ∈ given.map (·.1)) : ∃ e, r.give given d = .error e := by
  have hsome : (given.lookup d.1).isSome = true := by
    rw [Option.isSome_iff_ne_none]
    intro hnone
    obtain ⟨m, hm, he⟩ := List.mem_map.mp hgiven
    exact bne_iff_ne.mp (List.lookup_eq_none_iff.mp hnone m hm) he.symm
  unfold give
  split
  · exact ⟨_, if_pos hsome⟩
  · exact ⟨_, rfl⟩

/-- Members that are accepted, and give no field twice, are all kept. -/
theorem foldlM_give (haccepts : ∀ m ∈ members, r.Accepts m)
    (hnodup : ((given ++ members).map (·.1)).Nodup) :
    members.foldlM r.give given = .ok (given ++ members) := by
  induction members generalizing given with
  | nil => rw [List.append_nil]; rfl
  | cons m members ih =>
      obtain ⟨hm, hmembers⟩ := List.forall_mem_cons.mp haccepts
      have hnew : m.1 ∉ given.map (·.1) := by
        rw [List.map_append, List.map_cons] at hnodup
        exact fun hgiven => List.disjoint_of_nodup_append hnodup hgiven List.mem_cons_self
      rw [List.append_cons] at hnodup ⊢
      rw [List.foldlM_cons, give_of_new hm hnew]
      exact ih hmembers hnodup

/-- A field that is given twice ends the reading. -/
theorem foldlM_give_twice (haccepts : ∀ m ∈ members, r.Accepts m)
    (hgiven : (given.map (·.1)).Nodup) (htwice : ¬ ((given ++ members).map (·.1)).Nodup) :
    ∃ e, members.foldlM r.give given = .error e := by
  induction members generalizing given with
  | nil => exact absurd (by rwa [List.append_nil]) htwice
  | cons m members ih =>
      obtain ⟨hm, hmembers⟩ := List.forall_mem_cons.mp haccepts
      rw [List.foldlM_cons]
      by_cases hnew : m.1 ∈ given.map (·.1)
      · obtain ⟨e, he⟩ := give_of_given (r := r) hnew
        exact ⟨e, by rw [he]; rfl⟩
      · rw [give_of_new hm hnew]
        have hlonger : ((given ++ [m]).map (·.1)).Nodup := by
          rw [List.map_append]
          exact hgiven.append (List.nodup_singleton _) (List.disjoint_singleton.mpr hnew)
        rw [List.append_cons] at htwice
        exact ih hmembers hlonger htwice

/-- So does a field that the record does not have. -/
theorem foldlM_give_unknown (haccepts : ∀ m ∈ members, r.Accepts m ∨ r.field? m.1 = none)
    (hunknown : ∃ m ∈ members, r.field? m.1 = none) :
    ∃ e, members.foldlM r.give given = .error e := by
  induction members generalizing given with
  | nil =>
      obtain ⟨m, hm, -⟩ := hunknown
      cases hm
  | cons m members ih =>
      obtain ⟨hm, hmembers⟩ := List.forall_mem_cons.mp haccepts
      rw [List.foldlM_cons]
      cases hgive : r.give given m with
      | error e => exact ⟨e, rfl⟩
      | ok after =>
          -- the first member was accepted, so the unknown one comes later
          have hlater : ∃ m ∈ members, r.field? m.1 = none := by
            obtain ⟨k, hk, hnone⟩ := hunknown
            rcases List.mem_cons.mp hk with rfl | hk
            · simp only [give, hnone] at hgive
              cases hgive
            · exact ⟨k, hk, hnone⟩
          exact ih hmembers hlater

theorem collect_eq
    (h : List.Forall₂ (fun f d => (given.lookup (r.nameOf f)).or f.default = some d)
      fields values) : r.collect given fields = .ok values := by
  induction h with
  | nil => rfl
  | cons hd _ ih =>
      rw [collect, hd]
      simp only [ih]
      rfl

end RecordType

/-! ## Objects -/

/-- **A record is read from an object** as the fold of the steps that its members make, and what was
given in the end is collected. -/
theorem readRecord_object (ht : ObjectToken Datum.text members token)
    (hp : ∀ m ∈ members, Puts r.readField Datum.text r.give m) (hb : Blank before)
    (rest : List Char) :
    readRecord r (before ++ (token ++ rest))
      = (members.foldlM r.give [] >>= fun given => (r.collect given r.fields).map Value.record).map
        (·, rest) := by
  obtain ⟨body, hbody, rfl⟩ := ht
  have hlength := length_le_of_listed hbody
  have hmembers : readMembers r.readField ((body ++ '\x7d' :: rest).length + 1) true []
      (body ++ '\x7d' :: rest) = (members.foldlM r.give []).map (·, '\x7d' :: rest) := by
    refine readMembers_listed hbody hp ?_ [] rest
    rw [List.length_append]
    omega
  have hbrace : mark '\x7d' ('\x7d' :: rest) = .ok ((), rest) := by
    show mark '\x7d' ([] ++ '\x7d' :: rest) = _
    exact mark_eq (by decide) blank_nil rest
  rw [readRecord, skipBlank_append hb]
  simp only [List.cons_append, List.append_assoc, List.nil_append]
  rw [skipBlank_cons (by decide)]
  simp only [Char.reduceEq, if_false, if_true]
  cases hfold : members.foldlM r.give [] with
  | error e =>
      rw [hfold] at hmembers
      exact Reader.bind_of_error hmembers
  | ok given =>
      rw [hfold] at hmembers
      rw [Reader.bind_of_ok hmembers]
      show _ = ((r.collect given r.fields).map Value.record).map (·, rest)
      cases hvalues : r.collect given r.fields with
      | error e => rfl
      | ok values =>
          have hcollected : Reader.ofExcept (.ok values) ('\x7d' :: rest)
              = .ok (values, '\x7d' :: rest) := rfl
          rw [Reader.bind_of_ok hcollected, Reader.bind_of_ok hbrace]
          rfl

namespace RecordType

/-- The items behind the first one are read for the fields that are left. -/
theorem readItems_further
    (h : List.Forall₂ (fun f d => f.type.Admits d) fields values)
    (hbody : Further (ItemText Datum.text) values cs) (hb : Blank before) (index : Nat)
    (rest : List Char) : ∃ after, Blank after
      ∧ r.readItems false index fields (before ++ (cs ++ ']' :: rest))
        = .ok (values, after ++ ']' :: rest) := by
  induction h generalizing before cs index with
  | nil =>
      cases hbody
      exact ⟨before, hb, rfl⟩
  | @cons f d fields values hd _ ih =>
      cases hbody with
      | @cons _ _ first more hfirst hmore =>
        obtain ⟨after, hafter, -, hread⟩ := readItem_padded (reads_scalar hd) hfirst
          (ends_further hmore (ends_cons (c := ']') (by decide) rest))
        obtain ⟨after', hafter', hitems⟩ := ih hmore hafter (index + 1)
        refine ⟨after', hafter', ?_⟩
        simp only [List.cons_append, List.append_assoc]
        rw [readItems, Reader.bind_of_ok (hread before hb)]
        show (r.readItems false (index + 1) fields >>= _) _ = _
        rw [Reader.bind_of_ok hitems]
        rfl

theorem readItems_listed (h : List.Forall₂ (fun f d => f.type.Admits d) fields values)
    (hbody : Listed (ItemText Datum.text) values cs) (rest : List Char) : ∃ after, Blank after
      ∧ r.readItems true 0 fields (cs ++ ']' :: rest) = .ok (values, after ++ ']' :: rest) := by
  cases h with
  | nil =>
      cases hbody with
      | nil hb => exact ⟨cs, hb, rfl⟩
  | @cons f d fields values hd hvalues =>
      cases hbody with
      | @cons _ _ first more hfirst hmore =>
        obtain ⟨after, hafter, hread, -⟩ := readItem_padded (reads_scalar hd) hfirst
          (ends_further hmore (ends_cons (c := ']') (by decide) rest))
        obtain ⟨after', hafter', hitems⟩ := readItems_further hvalues hmore hafter 1 rest
        refine ⟨after', hafter', ?_⟩
        simp only [List.append_assoc]
        rw [readItems, Reader.bind_of_ok hread]
        show (r.readItems false 1 fields >>= _) _ = _
        rw [Reader.bind_of_ok hitems]
        rfl

end RecordType

/-- **A record is read from an array** of the values of its fields. -/
theorem reads_array (h : r.AdmitsAll values) (ht : ArrayToken Datum.text values token) :
    Reads (readRecord r) token (.record values) := by
  obtain ⟨body, hbody, rfl⟩ := ht
  refine ⟨⟨_, _, rfl, by decide, by decide⟩, fun before rest hb _ => ?_⟩
  obtain ⟨after, hafter, hitems⟩ := RecordType.readItems_listed h hbody rest
  rw [readRecord, skipBlank_append hb]
  simp only [List.cons_append, List.append_assoc, List.nil_append]
  rw [skipBlank_cons (by decide)]
  simp only [if_true]
  rw [Reader.bind_of_ok hitems, Reader.bind_of_ok (mark_eq (by decide) hafter rest)]
  rfl

end

/-! ## Alternatives -/

section

variable {list : List (String × Option Scalar)} {name : String}

theorem findAlternative_eq {payload : Option Scalar} (hl : list.lookup name = some payload)
    (cs : List Char) : findAlternative list name cs = .ok (payload, cs) := by
  rw [findAlternative, hl]
  rfl

/-- An alternative without a value is read from its name. -/
theorem reads_bare (hl : list.lookup name = some none) (ht : StringToken name token) :
    Reads (readAlternative list) token (.alternative name none) := by
  have hname := reads_name ht
  obtain ⟨spelling, -, rfl⟩ := ht
  refine ⟨hname.solid, fun before rest hb hrest => ?_⟩
  have hread : readName ('"' :: (spelling ++ ['"'] ++ rest)) = .ok (name, rest) :=
    hname.reads [] rest blank_nil hrest
  rw [readAlternative, hname.solid.skipBlank hb]
  simp only [List.cons_append, Char.reduceEq, if_false, if_true]
  rw [Reader.bind_of_ok hread, Reader.bind_of_ok (findAlternative_eq hl rest)]
  rfl

/-- An alternative with a value is read from an object with this one member. -/
theorem reads_valued {type : Scalar} {d : Datum} (hl : list.lookup name = some (some type))
    (h : type.Admits d) (ht : ObjectToken Datum.text [(name, d)] token) :
    Reads (readAlternative list) token (.alternative name (some d)) := by
  have hr : Reads (readPayload (some type)) d.text.toList (some d) := (reads_scalar h).map some
  obtain ⟨body, hbody, rfl⟩ := ht
  have hsolid : Solid ('\x7b' :: (body ++ ['\x7d'])) := ⟨_, _, rfl, by decide, by decide⟩
  refine ⟨hsolid, fun before rest hb _ => ?_⟩
  cases hbody with
  | cons hm hmore =>
    cases hmore
    obtain ⟨label, padded, value, hlabel, hpadded, hvalue, rfl⟩ := hm
    rw [List.append_nil] at hsolid ⊢
    -- the name is read, then the colon, the value, and the closing brace
    obtain ⟨b₁, h₁, hname⟩ := (reads_name hlabel).padded hpadded
      (ends_cons (c := ':') (by decide) (value ++ '\x7d' :: rest))
    obtain ⟨b₂, h₂, hread⟩ := hr.padded hvalue (ends_brace rest)
    rw [readAlternative, hsolid.skipBlank hb]
    simp only [List.cons_append, List.append_assoc, List.nil_append, if_true]
    rw [Reader.bind_of_ok hname, Reader.bind_of_ok (findAlternative_eq hl _),
      Reader.bind_of_ok (mark_eq (by decide) h₁ _), Reader.bind_of_ok hread,
      Reader.bind_of_ok (mark_eq (by decide) h₂ _)]
    rfl

end

/-! ## The library -/

/-- What an object is read as, if nothing but blanks surrounds it. -/
theorem read_object_eq {r : RecordType} {members : List (String × Datum)} {text : String}
    (hp : ∀ m ∈ members, Puts r.readField Datum.text r.give m)
    (hd : Document (ObjectToken Datum.text members) text) :
    readDocument (readRecord r) text
      = members.foldlM r.give [] >>= fun given => (r.collect given r.fields).map Value.record := by
  obtain ⟨token, htoken, before, after, hbefore, hafter, htext⟩ := hd
  rw [readDocument, htext, readRecord_object htoken hp hbefore after]
  cases members.foldlM r.give [] >>= fun given => (r.collect given r.fields).map Value.record with
  | error e => rfl
  | ok value => exact if_pos (skipBlank_blank hafter)

/-- **The standard library does what a library is documented to do.** -/
theorem Library.standard_documented : Library.standard.Documented where
  write_wrapper _ := rfl
  write_bare _ := rfl
  write_valued _ _ := rfl
  write_record _ := rfl
  read_wrapper := by
    intro type d text h hd
    refine readDocument_of_form (fun token ht => ?_) hd
    subst ht
    exact (reads_scalar h).map Value.scalar
  read_bare hl hd := readDocument_of_form (fun _ => reads_bare hl) hd
  read_valued hl h hd := readDocument_of_form (fun _ => reads_valued hl h) hd
  read_array h hd := readDocument_of_form (fun _ => reads_array h) hd
  read_object := by
    intro r members values text haccepts hnodup hcollects hd
    show readDocument (readRecord r) text = _
    have hgiven : members.foldlM r.give [] = .ok members := RecordType.foldlM_give haccepts hnodup
    rw [read_object_eq (fun m hm => RecordType.puts_accepted (haccepts m hm)) hd, hgiven]
    show (r.collect members r.fields).map Value.record = _
    rw [RecordType.collect_eq hcollects]
    rfl
  read_twice := by
    intro r members text haccepts htwice hd
    obtain ⟨e, he⟩ : ∃ e, members.foldlM r.give [] = .error e :=
      RecordType.foldlM_give_twice haccepts List.nodup_nil htwice
    refine ⟨e, ?_⟩
    show readDocument (readRecord r) text = _
    rw [read_object_eq (fun m hm => RecordType.puts_accepted (haccepts m hm)) hd, he]
    rfl
  read_unknown := by
    intro r members text hclosed haccepts hunknown hd
    obtain ⟨e, he⟩ : ∃ e, members.foldlM r.give [] = .error e :=
      RecordType.foldlM_give_unknown haccepts hunknown
    refine ⟨e, ?_⟩
    have hputs : ∀ m ∈ members, Puts r.readField Datum.text r.give m := fun m hm =>
      (haccepts m hm).elim RecordType.puts_accepted (RecordType.puts_unknown hclosed)
    show readDocument (readRecord r) text = _
    rw [read_object_eq hputs hd, he]
    rfl

end PacketPath.Json
