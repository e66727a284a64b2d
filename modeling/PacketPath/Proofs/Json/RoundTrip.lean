import PacketPath.Json.Codec
import PacketPath.Proofs.Json.Standard

set_option autoImplicit false

/-! # Values read back from their documents

Every value that has a document form is read back from what is written for it, over the whole range
of its type, by means of any documented library. It is read back from every other text of the form
too: with blanks between the tokens, with strings that are spelled in another way, and for a record
with its members in any order or with its values in an array.
-/

namespace PacketPath

open Json

/-! ## The forms -/

def Protocol.Form : Protocol → List Char → Prop
  | .icmp => StringToken "ICMP"
  | .tcp => StringToken "TCP"
  | .udp => StringToken "UDP"
  | .unknown n => ObjectToken Datum.text [("Unknown", .integer n.toNat)]

def PacketType.Form (t : PacketType) : List Char → Prop := StringToken t.name

def DeviceId.Form (d : DeviceId) (token : List Char) : Prop :=
  token = (Text.decimal d.number.toNat).toList

/-- The members of a timestamp, in order of declaration. -/
def Timestamp.members (t : Timestamp) : List (String × Datum) :=
  [("secs", .integer t.secs.toInt), ("usecs", .integer t.usecs.toInt)]

/-- The members of a configuration, in order of declaration. -/
def CheckConfig.members (c : CheckConfig) : List (String × Datum) :=
  [("VERBOSE", .boolean c.verbose), ("DETAILS", .boolean c.details),
    ("CHECKSUM", .boolean c.checksum)]

namespace Json

/-- A record as an object with the members in any order, or as the array of their values. -/
def RecordForm (list : List (String × Datum)) (token : List Char) : Prop :=
  (∃ ms, ms.Perm list ∧ ObjectToken Datum.text ms token)
    ∨ ArrayToken Datum.text (list.map (·.2)) token

theorem recordForm_object {list ms : List (String × Datum)} (h : ms.Perm list) :
    RecordForm list (object (ms.map fun m => (m.1, m.2.text))).toList :=
  .inl ⟨ms, h, objectToken_object Datum.text ms⟩

theorem recordForm_array (list : List (String × Datum)) :
    RecordForm list (array (list.map fun m => m.2.text)).toList := by
  have harray := arrayToken_array Datum.text (list.map (·.2))
  rw [List.map_map] at harray
  exact .inr harray

/-! ## Reading back -/

/-- The values of a type are read back from their documents. -/
structure ReadsBack {α : Type} (lib : Library) (d : Declaration α) (form : α → List Char → Prop) :
    Prop where
  /-- What is written for a value is read as this value. -/
  round_trip : ∀ a, d.ofJson (d.toJson a lib) lib = .ok a
  /-- So is every other text of its form. -/
  reads : ∀ a text, Document (form a) text → d.ofJson text lib = .ok a
  /-- What is written is of this form. -/
  written : ∀ a, Document (form a) (d.toJson a lib)
  /-- No text is a form of two values. -/
  told_apart : ∀ a b text, Document (form a) text → Document (form b) text → a = b

/-- The values of a record are read back from objects and from arrays. -/
structure RecordReadsBack {α : Type} (lib : Library) (d : Declaration α)
    (list : α → List (String × Datum)) : Prop extends ReadsBack lib d (fun a => RecordForm (list a))
    where
  /-- The members of the object can have any order. -/
  objects : ∀ a (ms : List (String × Datum)), ms.Perm (list a) →
    d.ofJson (object (ms.map fun m => (m.1, m.2.text))) lib = .ok a
  /-- The items of the array are the values in order of declaration. -/
  arrays : ∀ a, d.ofJson (array ((list a).map fun m => m.2.text)) lib = .ok a

section

variable {α : Type} {lib : Library} {d : Declaration α} {form : α → List Char → Prop}
  {r : RecordType}

theorem readsBack_of_reads (hreads : ∀ a text, Document (form a) text → d.ofJson text lib = .ok a)
    (hwritten : ∀ a, Document (form a) (d.toJson a lib)) : ReadsBack lib d form where
  round_trip a := hreads a _ (hwritten a)
  reads := hreads
  written := hwritten
  told_apart a b text ha hb := Except.ok.inj ((hreads a text ha).symm.trans (hreads b text hb))

/-- **A record is read back** if it is put together from the values that it is taken apart into, and
these have the types of its fields. -/
theorem recordReadsBack (hlib : lib.Documented) (values : α → List Datum)
    (hschema : d.schema = .record r) (htaken : ∀ a, d.toValue a = .record (values a))
    (hput : ∀ a, d.ofValue? (.record (values a)) = some a) (hadmits : ∀ a, r.AdmitsAll (values a)) :
    RecordReadsBack lib d fun a => r.names.zip (values a) := by
  have hlength : ∀ a, r.names.length = (values a).length := by
    intro a
    rw [RecordType.names, List.length_map]
    exact (hadmits a).length_eq
  have hitems : ∀ a, (r.names.zip (values a)).map (·.2) = values a := fun a =>
    List.map_snd_zip (Nat.le_of_eq (hlength a).symm)
  -- objects have the members in some order, arrays have the values without their names
  have hreads : ∀ a text, Document (RecordForm (r.names.zip (values a))) text →
      d.ofJson text lib = .ok a := by
    rintro a text ⟨token, ⟨ms, hms, hobject⟩ | harray, hpadded⟩
    · have hread := hlib.read_members (hadmits a) hms ⟨token, hobject, hpadded⟩
      rw [← hschema] at hread
      exact Declaration.ofJson_of_ok hread (hput a)
    · rw [hitems] at harray
      have hread := hlib.read_array (hadmits a) ⟨token, harray, hpadded⟩
      rw [← hschema] at hread
      exact Declaration.ofJson_of_ok hread (hput a)
  have hwritten : ∀ a, Document (RecordForm (r.names.zip (values a))) (d.toJson a lib) := by
    intro a
    rw [Declaration.toJson, hschema, htaken, hlib.write_record (hadmits a)]
    exact document_of_form (recordForm_object (.refl _))
  refine ⟨readsBack_of_reads hreads hwritten, fun a ms hms => ?_, fun a => ?_⟩
  · exact hreads a _ (document_of_form (recordForm_object hms))
  · exact hreads a _ (document_of_form (recordForm_array _))

end

/-! ## The types -/

/-- All types that have a document form, with a library for the documents. -/
structure AllReadBack (lib : Library) : Prop where
  protocol : ReadsBack lib Protocol.declaration Protocol.Form
  packetType : ReadsBack lib PacketType.declaration PacketType.Form
  device : ReadsBack lib DeviceId.declaration DeviceId.Form
  timestamp : RecordReadsBack lib Timestamp.declaration Timestamp.members
  config : RecordReadsBack lib CheckConfig.declaration CheckConfig.members

variable {lib : Library}

theorem admits_uint8 (n : UInt8) : (Scalar.integer .unsigned8).Admits (.integer n.toNat) := by
  have hlt := n.toNat_lt
  simp only [Scalar.Admits, IntegerType.low, IntegerType.high]
  omega

theorem admits_uint32 (n : UInt32) : (Scalar.integer .unsigned32).Admits (.integer n.toNat) := by
  have hlt := n.toNat_lt
  simp only [Scalar.Admits, IntegerType.low, IntegerType.high]
  omega

theorem admits_int32 (n : Int32) : (Scalar.integer .signed32).Admits (.integer n.toInt) := by
  have hlow := n.le_toInt
  have hhigh := n.toInt_lt
  simp only [Scalar.Admits, IntegerType.low, IntegerType.high]
  omega

theorem admits_int64 (n : Int64) : (Scalar.integer .signed64).Admits (.integer n.toInt) := by
  have hlow := n.le_toInt
  have hhigh := n.toInt_lt
  simp only [Scalar.Admits, IntegerType.low, IntegerType.high]
  omega

/-- **A protocol** is read from its name, or from its number if it has none. -/
theorem protocol_readsBack (hlib : lib.Documented) :
    ReadsBack lib Protocol.declaration Protocol.Form := by
  refine readsBack_of_reads (fun p text hd => ?_) fun p => ?_
  · cases p with
    | icmp => exact Declaration.ofJson_of_ok (hlib.read_bare rfl hd) rfl
    | tcp => exact Declaration.ofJson_of_ok (hlib.read_bare rfl hd) rfl
    | udp => exact Declaration.ofJson_of_ok (hlib.read_bare rfl hd) rfl
    | unknown n =>
        refine Declaration.ofJson_of_ok (hlib.read_valued rfl (admits_uint8 n) hd) ?_
        show some (Protocol.unknown (UInt8.ofNat (n.toNat : Int).toNat)) = _
        rw [Int.toNat_natCast, UInt8.ofNat_toNat]
  · have hbare : ∀ name : String, lib.write Protocol.declaration.schema (.alternative name none)
        = quote name → Document (StringToken name)
          (lib.write Protocol.declaration.schema (.alternative name none)) := by
      intro name hwrite
      rw [hwrite]
      exact document_of_form (stringToken_quote name)
    cases p with
    | icmp => exact hbare "ICMP" (hlib.write_bare rfl)
    | tcp => exact hbare "TCP" (hlib.write_bare rfl)
    | udp => exact hbare "UDP" (hlib.write_bare rfl)
    | unknown n =>
        have hwrite : Protocol.declaration.toJson (.unknown n) lib
            = object [("Unknown", (Datum.integer n.toNat).text)] :=
          hlib.write_valued rfl (admits_uint8 n)
        rw [hwrite]
        exact document_of_form (objectToken_object Datum.text [("Unknown", .integer n.toNat)])

/-- **A packet type** is read from its name. -/
theorem packetType_readsBack (hlib : lib.Documented) :
    ReadsBack lib PacketType.declaration PacketType.Form := by
  have hlookup : ∀ t : PacketType,
      (PacketType.all.map fun t => (t.name, (none : Option Scalar))).lookup t.name
        = some none := by
    intro t
    cases t <;> rfl
  refine readsBack_of_reads (fun t text hd => ?_) fun t => ?_
  · refine Declaration.ofJson_of_ok (hlib.read_bare (hlookup t) hd) ?_
    cases t <;> rfl
  · have hwrite : PacketType.declaration.toJson t lib = quote t.name :=
      hlib.write_bare (hlookup t)
    rw [hwrite]
    exact document_of_form (stringToken_quote t.name)

/-- **A device** is read from its number. -/
theorem device_readsBack (hlib : lib.Documented) :
    ReadsBack lib DeviceId.declaration DeviceId.Form := by
  refine readsBack_of_reads (fun d text hd => ?_) fun d => ?_
  · refine Declaration.ofJson_of_ok (hlib.read_wrapper (admits_uint32 d.number) hd) ?_
    show some (DeviceId.mk (UInt32.ofNat (d.number.toNat : Int).toNat)) = _
    rw [Int.toNat_natCast, UInt32.ofNat_toNat]
  · have hwrite : DeviceId.declaration.toJson d lib = (Datum.integer d.number.toNat).text :=
      hlib.write_wrapper (admits_uint32 d.number)
    rw [hwrite]
    exact document_of_form rfl

/-- **A timestamp** is read from both of its fields. -/
theorem timestamp_readsBack (hlib : lib.Documented) :
    RecordReadsBack lib Timestamp.declaration Timestamp.members := by
  have hput : ∀ t : Timestamp, Timestamp.declaration.ofValue? (.record t.values) = some t := by
    intro t
    show some (Timestamp.mk (Int64.ofInt t.secs.toInt) (Int32.ofInt t.usecs.toInt)) = _
    rw [Int64.ofInt_toInt, Int32.ofInt_toInt]
  have hadmits : ∀ t : Timestamp, Timestamp.recordType.AdmitsAll t.values := fun t =>
    .cons (admits_int64 t.secs) (.cons (admits_int32 t.usecs) .nil)
  exact recordReadsBack hlib Timestamp.values rfl (fun _ => rfl) hput hadmits

/-- **A configuration** is read from its options. -/
theorem config_readsBack (hlib : lib.Documented) :
    RecordReadsBack lib CheckConfig.declaration CheckConfig.members := by
  have hadmits : ∀ c : CheckConfig, CheckConfig.recordType.AdmitsAll c.values := fun _ =>
    .cons trivial (.cons trivial (.cons trivial .nil))
  exact recordReadsBack (d := CheckConfig.declaration) hlib CheckConfig.values rfl (fun _ => rfl)
    (fun _ => rfl) hadmits

/-- **Every value with a document form is read back** from each of its texts, by means of every
documented library. -/
theorem all_read_back (lib : Library) (hlib : lib.Documented) : AllReadBack lib where
  protocol := protocol_readsBack hlib
  packetType := packetType_readsBack hlib
  device := device_readsBack hlib
  timestamp := timestamp_readsBack hlib
  config := config_readsBack hlib

/-- With the standard library, a number that has a name is told apart from the name, and the least
timestamp is read with its fields exchanged. -/
theorem all_read_back_standard :
    let least : Timestamp := ⟨Int64.minValue, Int32.minValue⟩
    Library.standard.Documented
    ∧ Protocol.declaration.toJson (.unknown 6) = "\x7b\"Unknown\":6\x7d"
    ∧ Protocol.declaration.ofJson "\x7b\"Unknown\":6\x7d" = .ok (.unknown 6)
    ∧ Protocol.declaration.ofJson "\"TCP\"" = .ok .tcp
    ∧ Timestamp.declaration.ofJson (object (least.members.reverse.map fun m => (m.1, m.2.text)))
      = .ok least := by
  intro least
  have hlib := Library.standard_documented
  have hall := all_read_back .standard hlib
  have hsix : Protocol.declaration.toJson (.unknown 6) = "\x7b\"Unknown\":6\x7d" := by decide
  have htcp : Protocol.declaration.toJson .tcp = "\"TCP\"" := by decide
  refine ⟨hlib, hsix, ?_, ?_, hall.timestamp.objects least _ (List.reverse_perm _)⟩
  · rw [← hsix]
    exact hall.protocol.round_trip (.unknown 6)
  · rw [← htcp]
    exact hall.protocol.round_trip .tcp

end Json

end PacketPath
