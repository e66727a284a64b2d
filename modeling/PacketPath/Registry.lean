set_option autoImplicit false

/-! # Registries

Values under distinct keys, kept in the order of the keys. A registry holds the buffers of a pool
by number, and the packets, checkers and sinks of a session by name.
-/

namespace PacketPath

structure Registry (κ α : Type) where
  entries : List (κ × α)
  nodup_keys : (entries.map (·.1)).Nodup

namespace Registry

variable {κ α β : Type}

def empty : Registry κ α := ⟨[], List.nodup_nil⟩

instance : Inhabited (Registry κ α) := ⟨empty⟩

def keys (r : Registry κ α) : List κ := r.entries.map (·.1)

def values (r : Registry κ α) : List α := r.entries.map (·.2)

theorem nodup_entries (r : Registry κ α) : r.entries.Nodup :=
  List.Pairwise.of_map (·.1) (fun _ _ hne he => hne (congrArg (·.1) he)) r.nodup_keys

section

variable [DecidableEq κ]

def find? (r : Registry κ α) (k : κ) : Option α := (r.entries.find? (·.1 = k)).map (·.2)

def contains (r : Registry κ α) (k : κ) : Bool := (r.find? k).isSome

def erase (r : Registry κ α) (k : κ) : Registry κ α where
  entries := r.entries.filter (·.1 ≠ k)
  nodup_keys := (List.filter_sublist.map _).nodup r.nodup_keys

theorem notMem_keys_erase (r : Registry κ α) (k : κ) : k ∉ (r.erase k).keys := by
  simp [erase, keys]

end

section

variable [LT κ] [DecidableLT κ]

/-- Puts an entry in front of the first key that is not smaller. -/
def place (k : κ) (a : α) : List (κ × α) → List (κ × α)
  | [] => [(k, a)]
  | e :: rest => if e.1 < k then e :: place k a rest else (k, a) :: e :: rest

theorem place_perm (k : κ) (a : α) (l : List (κ × α)) : (place k a l).Perm ((k, a) :: l) := by
  induction l with
  | nil => exact .refl _
  | cons e rest ih =>
    rw [place]
    split
    · exact (ih.cons e).trans (.swap _ _ _)
    · exact .refl _

variable [DecidableEq κ]

/-- Stores a value under a key, in place of what was there. -/
def insert (r : Registry κ α) (k : κ) (a : α) : Registry κ α where
  entries := place k a (r.erase k).entries
  nodup_keys := by
    have h : ((place k a (r.erase k).entries).map (·.1)).Perm (k :: (r.erase k).keys) :=
      (place_perm k a _).map _
    rw [h.nodup_iff]
    exact List.nodup_cons.mpr ⟨r.notMem_keys_erase k, (r.erase k).nodup_keys⟩

/-- A stored value is the only change to the erased registry, up to order. -/
theorem insert_perm (r : Registry κ α) (k : κ) (a : α) :
    (r.insert k a).entries.Perm ((k, a) :: (r.erase k).entries) := place_perm k a _

/-- What is placed under a key goes when that key is filtered out. -/
theorem filter_place (k : κ) (a : α) (l : List (κ × α)) :
    (place k a l).filter (·.1 ≠ k) = l.filter (·.1 ≠ k) := by
  induction l with
  | nil => simp [place]
  | cons e rest ih =>
    rw [place]
    split
    · rw [List.filter_cons, ih, List.filter_cons]
    · simp [List.filter_cons]

theorem erase_insert (r : Registry κ α) (k : κ) (a : α) : (r.insert k a).erase k = r.erase k := by
  have hentries : (place k a (r.erase k).entries).filter (·.1 ≠ k) = (r.erase k).entries := by
    rw [filter_place, erase, List.filter_filter]
    simp
  rw [erase, mk.injEq]
  exact hentries

/-- What is stored under a key last is what counts. -/
theorem insert_insert (r : Registry κ α) (k : κ) (a b : α) :
    (r.insert k a).insert k b = r.insert k b := by
  -- a registry is stored into as what is left of it without the key
  have hcongr : ∀ r' : Registry κ α, r'.erase k = r.erase k → r'.insert k b = r.insert k b := by
    intro r' h
    simp only [insert, h]
  exact hcongr _ (r.erase_insert k a)

end

/-! ## Looking up -/

section

variable [DecidableEq κ]

theorem find?_eq_some_iff (r : Registry κ α) (k : κ) (a : α) :
    r.find? k = some a ↔ (k, a) ∈ r.entries := by
  obtain ⟨l, h⟩ := r
  simp only [find?]
  induction l with
  | nil => simp
  | cons e rest ih =>
    obtain ⟨k', a'⟩ := e
    rw [List.map_cons, List.nodup_cons] at h
    rw [List.find?_cons]
    by_cases hk : k' = k
    · subst hk
      have : (k', a) ∉ rest := fun hm => h.1 (List.mem_map_of_mem (f := (·.1)) hm)
      simp [this, eq_comm]
    · simp only [decide_eq_false hk, ih h.2, List.mem_cons, Prod.mk.injEq]
      simp [Ne.symm hk]

theorem find?_erase (r : Registry κ α) (k k' : κ) :
    (r.erase k).find? k' = if k = k' then none else r.find? k' := by
  ext a
  rw [find?_eq_some_iff]
  by_cases h : k = k'
  · subst h; simp [erase]
  · rw [if_neg h, find?_eq_some_iff]; simp [erase, Ne.symm h]

theorem find?_insert [LT κ] [DecidableLT κ] (r : Registry κ α) (k k' : κ) (a : α) :
    (r.insert k a).find? k' = if k = k' then some a else r.find? k' := by
  ext b
  rw [find?_eq_some_iff, (r.insert_perm k a).mem_iff]
  by_cases h : k = k'
  · subst h; simp [erase, eq_comm]
  · rw [if_neg h, find?_eq_some_iff]; simp [erase, Ne.symm h]

/-! ## Contents -/

theorem erase_eq_self {r : Registry κ α} {k : κ} (h : r.find? k = none) : r.erase k = r := by
  have hk : ∀ e ∈ r.entries, e.1 ≠ k := by
    intro e he hek
    have hf : r.find? k = some e.2 := (r.find?_eq_some_iff k e.2).mpr (hek ▸ he)
    rw [h] at hf
    cases hf
  simp only [erase]
  congr 1
  exact List.filter_eq_self.mpr fun e he => decide_eq_true (hk e he)

/-- What is stored under a key can be taken out in front. -/
theorem entries_perm {r : Registry κ α} {k : κ} {a : α} (h : r.find? k = some a) :
    r.entries.Perm ((k, a) :: (r.erase k).entries) := by
  have hn : (k, a) ∉ (r.erase k).entries := by simp [erase]
  refine (List.perm_ext_iff_of_nodup r.nodup_entries ?_).mpr ?_
  · exact List.nodup_cons.mpr ⟨hn, (r.erase k).nodup_entries⟩
  · rintro ⟨k', a'⟩
    rw [List.mem_cons, ← find?_eq_some_iff, ← find?_eq_some_iff, find?_erase]
    by_cases hk : k = k'
    · subst hk
      simp [h, eq_comm]
    · simp [hk, Ne.symm hk]

theorem values_perm {r : Registry κ α} {k : κ} {a : α} (h : r.find? k = some a) :
    r.values.Perm (a :: (r.erase k).values) :=
  (entries_perm h).map Prod.snd

theorem values_insert_perm [LT κ] [DecidableLT κ] (r : Registry κ α) (k : κ) (a : α) :
    (r.insert k a).values.Perm (a :: (r.erase k).values) :=
  (r.insert_perm k a).map Prod.snd

theorem mem_values_iff (r : Registry κ α) (a : α) : a ∈ r.values ↔ ∃ k, r.find? k = some a := by
  simp only [values, List.mem_map, Prod.exists, find?_eq_some_iff]
  constructor
  · rintro ⟨k, a', h, rfl⟩
    exact ⟨k, h⟩
  · rintro ⟨k, h⟩
    exact ⟨k, a, h, rfl⟩

end

end Registry

end PacketPath
