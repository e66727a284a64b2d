import Mathlib.Data.List.Forall2
import Mathlib.Data.List.Nodup
import PacketPath.Proofs.Json.Written

set_option autoImplicit false

/-! # Documented libraries

What is relied on of the library that writes and reads documents: that it does with a schema what its
documentation says, for the attributes that schemas have. Which texts a document can have is not left
to the library (`Document`), but only what it makes of them.
-/

namespace PacketPath.Json

namespace RecordType

/-- A member that gives a field of the record a value of its type. -/
def Accepts (r : RecordType) (m : String × Datum) : Prop :=
  ∃ f, r.field? m.1 = some f ∧ f.type.Admits m.2

/-- The values of all fields of a record have the types of the fields. -/
def AdmitsAll (r : RecordType) (values : List Datum) : Prop :=
  List.Forall₂ (fun f d => f.type.Admits d) r.fields values

/-- The value of each field is the one that a member gives it, or else its default. -/
def Collects (r : RecordType) (members : List (String × Datum)) (values : List Datum) : Prop :=
  List.Forall₂ (fun f d => (members.lookup (r.nameOf f)).or f.default = some d) r.fields values

end RecordType

/-- A library that does what its documentation says. -/
structure Library.Documented (lib : Library) : Prop where
  /-- A value without a name is written as it is. -/
  write_wrapper : ∀ {type : Scalar} {d : Datum}, type.Admits d →
    lib.write (.wrapper type) (.scalar d) = d.text
  /-- An alternative without a value is written as its name. -/
  write_bare : ∀ {list : List (String × Option Scalar)} {name : String},
    list.lookup name = some none → lib.write (.alternatives list) (.alternative name none)
      = quote name
  /-- One with a value is written as an object with one member. -/
  write_valued : ∀ {list : List (String × Option Scalar)} {name : String} {type : Scalar}
    {d : Datum}, list.lookup name = some (some type) → type.Admits d →
    lib.write (.alternatives list) (.alternative name (some d)) = object [(name, d.text)]
  /-- A record is written as an object, with the fields in order of declaration. -/
  write_record : ∀ {r : RecordType} {values : List Datum}, r.AdmitsAll values →
    lib.write (.record r) (.record values)
      = object ((r.names.zip values).map fun m => (m.1, m.2.text))
  read_wrapper : ∀ {type : Scalar} {d : Datum} {text : String}, type.Admits d →
    Document (· = d.text.toList) text → lib.read (.wrapper type) text = .ok (.scalar d)
  read_bare : ∀ {list : List (String × Option Scalar)} {name text : String},
    list.lookup name = some none → Document (StringToken name) text →
    lib.read (.alternatives list) text = .ok (.alternative name none)
  read_valued : ∀ {list : List (String × Option Scalar)} {name : String} {type : Scalar} {d : Datum}
    {text : String}, list.lookup name = some (some type) → type.Admits d →
    Document (ObjectToken Datum.text [(name, d)]) text →
    lib.read (.alternatives list) text = .ok (.alternative name (some d))
  /-- The items of an array are the fields in order of declaration. -/
  read_array : ∀ {r : RecordType} {values : List Datum} {text : String}, r.AdmitsAll values →
    Document (ArrayToken Datum.text values) text →
    lib.read (.record r) text = .ok (.record values)
  /-- The members of an object can have any order. A field that is missing has its default. -/
  read_object : ∀ {r : RecordType} {members : List (String × Datum)} {values : List Datum}
    {text : String}, (∀ m ∈ members, r.Accepts m) → (members.map (·.1)).Nodup →
    r.Collects members values → Document (ObjectToken Datum.text members) text →
    lib.read (.record r) text = .ok (.record values)
  /-- A field that is given twice is refused. -/
  read_twice : ∀ {r : RecordType} {members : List (String × Datum)} {text : String},
    (∀ m ∈ members, r.Accepts m) → ¬ (members.map (·.1)).Nodup →
    Document (ObjectToken Datum.text members) text → ∃ e, lib.read (.record r) text = .error e
  /-- A closed record refuses fields that it does not have. -/
  read_unknown : ∀ {r : RecordType} {members : List (String × Datum)} {text : String},
    r.closed = true → (∀ m ∈ members, r.Accepts m ∨ r.field? m.1 = none) →
    (∃ m ∈ members, r.field? m.1 = none) → Document (ObjectToken Datum.text members) text →
    ∃ e, lib.read (.record r) text = .error e

/-! ## Fields and members -/

section

variable {members ms : List (String × Datum)} {values : List Datum} {m : String × Datum}

/-- Of names without repetition, each is found with its own value. -/
theorem lookup_of_mem (hnodup : (members.map (·.1)).Nodup) {name : String} {d : Datum}
    (hm : (name, d) ∈ members) : members.lookup name = some d := by
  induction members with
  | nil => cases hm
  | cons first rest ih =>
      obtain ⟨hnew, hrest⟩ := List.nodup_cons.mp hnodup
      rcases List.mem_cons.mp hm with rfl | hm
      · rw [List.lookup_cons, beq_self_eq_true]
      · have hne : name ≠ first.1 := fun he => hnew (List.mem_map.mpr ⟨_, hm, he⟩)
        rw [List.lookup_cons, beq_eq_false_iff_ne.mpr hne]
        exact ih hrest hm

namespace RecordType

variable {r : RecordType} {f : Field}

theorem nodup_names (r : RecordType) : r.names.Nodup := r.distinct

/-- Each field is found by its name. -/
theorem field?_nameOf (hf : f ∈ r.fields) : r.field? (r.nameOf f) = some f := by
  cases hfound : r.field? (r.nameOf f) with
  | none =>
      have hnone := List.find?_eq_none.mp hfound f hf
      simp at hnone
  | some g =>
      have hg : g ∈ r.fields := List.mem_of_find?_eq_some hfound
      have hname : r.nameOf g = r.nameOf f := by simpa using List.find?_some hfound
      rw [List.inj_on_of_nodup_map r.nodup_names hg hf hname]

theorem field?_eq_none_iff {name : String} : r.field? name = none ↔ name ∉ r.names := by
  simp [field?, names]

theorem AdmitsAll.nodup_members (h : r.AdmitsAll values) :
    ((r.names.zip values).map (·.1)).Nodup := by
  have hlength : r.names.length = values.length := by
    rw [names, List.length_map]
    exact List.Forall₂.length_eq h
  rw [List.map_fst_zip (Nat.le_of_eq hlength)]
  exact r.nodup_names

/-- The values of a record are accepted under the names of their fields. -/
theorem AdmitsAll.accepts (h : r.AdmitsAll values) (hm : m ∈ r.names.zip values) :
    r.Accepts m := by
  have hfield : ∀ {fields : List Field} {values : List Datum},
      List.Forall₂ (fun f d => f.type.Admits d) fields values →
      m ∈ (fields.map r.nameOf).zip values →
        ∃ f ∈ fields, r.nameOf f = m.1 ∧ f.type.Admits m.2 := by
    intro fields values h hm
    induction h with
    | nil => cases hm
    | @cons f d fields values hd _ ih =>
        rcases List.mem_cons.mp hm with rfl | hm
        · exact ⟨f, List.mem_cons_self, rfl, hd⟩
        · obtain ⟨g, hg, hname⟩ := ih hm
          exact ⟨g, List.mem_cons_of_mem f hg, hname⟩
  obtain ⟨f, hf, hname, hd⟩ := hfield h hm
  exact ⟨f, hname ▸ field?_nameOf hf, hd⟩

/-- They are collected from the members in any order. -/
theorem AdmitsAll.collects (h : r.AdmitsAll values) (hms : ms.Perm (r.names.zip values)) :
    r.Collects ms values := by
  have hnodup : (ms.map (·.1)).Nodup := (hms.map _).nodup_iff.mpr h.nodup_members
  have hmem : ∀ {fields : List Field} {values : List Datum},
      List.Forall₂ (fun f d => f.type.Admits d) fields values →
      List.Forall₂ (fun f d => (r.nameOf f, d) ∈ (fields.map r.nameOf).zip values)
        fields values := by
    intro fields values h
    induction h with
    | nil => exact .nil
    | cons _ _ ih =>
        exact .cons List.mem_cons_self (ih.imp fun _ _ => List.mem_cons_of_mem _)
  -- no name occurs twice, so the order of the members does not matter to a lookup
  refine (hmem h).imp fun f d hm => ?_
  rw [lookup_of_mem hnodup (hms.mem_iff.mpr hm)]
  rfl

end RecordType

/-- **A record is read from its members**, whatever their order. -/
theorem Library.Documented.read_members {lib : Library} (hlib : lib.Documented) {r : RecordType}
    {text : String} (h : r.AdmitsAll values) (hms : ms.Perm (r.names.zip values))
    (hd : Document (ObjectToken Datum.text ms) text) :
    lib.read (.record r) text = .ok (.record values) :=
  hlib.read_object (fun _ hm => h.accepts (hms.mem_iff.mp hm))
    ((hms.map _).nodup_iff.mpr h.nodup_members) (h.collects hms) hd

end

end PacketPath.Json
