import PacketPath.Proofs.Pool.Evolution

set_option autoImplicit false

/-! # The ledger of imported regions

A ledger lists the regions that were ever imported into a pool. The pool accounts for them
(`Pool.Settles`): a region is in the pool under the number of its buffer, as it was imported, or it
was handed back, and has been handed back no second time. Since a number is given to one buffer only,
and no buffer comes back, this is kept by every change of a pool.
-/

namespace PacketPath

open scoped List

/-- Elements with one property or another, of which none has both. -/
theorem filter_or_perm {α : Type} {a b : α → Bool} {l : List α} (h : ∀ x ∈ l, a x = true → b x = false) :
    l.filter (fun x => a x || b x) ~ l.filter a ++ l.filter b := by
  have hfirst : (l.filter fun x => a x || b x).filter a = l.filter a := by
    rw [List.filter_filter]
    exact List.filter_congr fun x _ => by cases a x <;> simp
  have hsecond : ((l.filter fun x => a x || b x).filter fun x => !a x) = l.filter b := by
    rw [List.filter_filter]
    refine List.filter_congr fun x hx => ?_
    have hboth := h x hx
    cases ha : a x
    · simp
    · simp [hboth ha]
  have hsplit := List.filter_append_perm a (l.filter fun x => a x || b x)
  rw [hfirst, hsecond] at hsplit
  exact hsplit.symm

namespace Pool

variable {p q : Pool} {l rs : List ImportedRegion} {b : Buffer} {id : BufferId}

/-- Whether there is a buffer with a number. -/
def has (p : Pool) (id : BufferId) : Bool := p.buffers.contains id

theorem has_eq_false_iff : p.has id = false ↔ p.buffers.find? id = none := by
  rw [has, Registry.contains, Option.isSome_eq_false_iff, Option.isNone_iff_eq_none]

theorem has_of_find? (hb : p.buffers.find? id = some b) : p.has id = true := by
  rw [has, Registry.contains, hb]
  rfl

/-- The regions of a ledger that are no longer in the pool. -/
def gone (p : Pool) (l : List ImportedRegion) : List ImportedRegion := l.filter fun r => !p.has r.buffer

/-- The pool accounts for the regions of a ledger. -/
structure Settles (p : Pool) (l : List ImportedRegion) : Prop where
  fresh : ∀ id, p.next ≤ id → p.buffers.find? id = none
  lt_next : ∀ r ∈ l, r.buffer < p.next
  nodup : (l.map ImportedRegion.buffer).Nodup
  /-- What a buffer will hand back is what its region was imported as; others are no regions. -/
  stored : ∀ id b, p.buffers.find? id = some b →
    b.handedBack = (l.filter (·.buffer == id)).map ImportedRegion.release
  releases_perm : p.releases ~ (p.gone l).map ImportedRegion.release

theorem settles_empty : ({} : Pool).Settles [] where
  fresh := fun _ _ => rfl
  lt_next := fun _ hr => absurd hr List.not_mem_nil
  nodup := List.nodup_nil
  stored := fun _ _ hb => nomatch hb
  releases_perm := .refl _

namespace Settles

/-- A buffer may change its bytes and its count, as long as it will hand back the same. -/
theorem replace {c : Buffer} (hp : p.Settles l) (hb : p.buffers.find? id = some b)
    (hback : c.handedBack = b.handedBack) (hnext : q.next = p.next)
    (hreleases : q.releases = p.releases)
    (hfind : ∀ j, q.buffers.find? j = if id = j then some c else p.buffers.find? j) :
    q.Settles l := by
  have hhas : ∀ j, q.has j = p.has j := by
    intro j
    rw [has, Registry.contains, hfind, has, Registry.contains]
    split
    · next hij => rw [← hij, hb, Option.isSome_some, Option.isSome_some]
    · rfl
  refine ⟨fun j hj => ?_, fun r hr => ?_, hp.nodup, fun j d hd => ?_, ?_⟩
  · rw [← has_eq_false_iff, hhas, has_eq_false_iff]
    exact hp.fresh j (hnext ▸ hj)
  · exact hnext ▸ hp.lt_next r hr
  · rw [hfind] at hd
    split at hd
    · next hij =>
      cases hd
      rw [hback, hp.stored id b hb, hij]
    · exact hp.stored j d hd
  · have hgone : q.gone l = p.gone l := List.filter_congr fun r _ => by rw [hhas]
    rw [hreleases, hgone]
    exact hp.releases_perm

theorem add (hp : p.Settles l) (bytes : Bytes) (storage : Storage) :
    (p.add bytes storage).1.Settles (l ++ storage.regions p.next bytes.length) := by
  have hnew : ∀ r ∈ storage.regions p.next bytes.length, r.buffer = p.next := by
    intro r hr
    cases storage with
    | heap => cases hr
    | imported name =>
        rw [Storage.regions, List.mem_singleton] at hr
        rw [hr]
  refine ⟨?_, ?_, ?_, ?_, ?_⟩
  · intro id hid
    have hlt : p.next < id := hid
    rw [find?_add, if_neg (Nat.ne_of_lt hlt)]
    exact hp.fresh id (Nat.le_of_lt hlt)
  · intro r hr
    show r.buffer < p.next + 1
    rcases List.mem_append.mp hr with hr | hr
    · exact Nat.lt_succ_of_lt (hp.lt_next r hr)
    · rw [hnew r hr]
      exact Nat.lt_succ_self _
  · -- the numbers before are smaller
    rw [List.map_append, List.nodup_append]
    refine ⟨hp.nodup, ?_, ?_⟩
    · cases storage with
      | heap => exact List.nodup_nil
      | imported name => exact List.pairwise_singleton _ _
    · intro i hi j hj
      obtain ⟨r, hr, rfl⟩ := List.mem_map.mp hi
      obtain ⟨r', hr', rfl⟩ := List.mem_map.mp hj
      rw [hnew r' hr']
      exact Nat.ne_of_lt (hp.lt_next r hr)
  · intro id b hb
    rw [List.filter_append, List.map_append]
    rw [find?_add] at hb
    split at hb
    · next hid =>
      cases hb
      subst hid
      have hold : l.filter (·.buffer == p.next) = [] := by
        refine List.filter_eq_nil_iff.mpr fun r hr => ?_
        rw [beq_iff_eq]
        exact Nat.ne_of_lt (hp.lt_next r hr)
      rw [hold]
      cases storage with
      | heap => rfl
      | imported name => simp [Buffer.handedBack, Storage.regions, ImportedRegion.release]
    · next hid =>
      have hother : (storage.regions p.next bytes.length).filter (·.buffer == id) = [] := by
        refine List.filter_eq_nil_iff.mpr fun r hr => ?_
        rw [beq_iff_eq, hnew r hr]
        exact hid
      rw [hother, hp.stored id b hb, List.map_nil, List.append_nil]
  · have hhas : ∀ id, (p.add bytes storage).1.has id = (p.next == id || p.has id) := by
      intro id
      rw [has, Registry.contains, find?_add, has, Registry.contains]
      by_cases hid : p.next = id <;> simp [hid]
    have hold : (p.add bytes storage).1.gone l = p.gone l := by
      refine List.filter_congr fun r hr => ?_
      have hne : p.next ≠ r.buffer := Nat.ne_of_gt (hp.lt_next r hr)
      rw [hhas, beq_eq_false_iff_ne.mpr hne, Bool.false_or]
    have hthere : (p.add bytes storage).1.gone (storage.regions p.next bytes.length) = [] := by
      refine List.filter_eq_nil_iff.mpr fun r hr => ?_
      rw [hhas, hnew r hr]
      simp
    show p.releases ~ _
    rw [gone, List.filter_append]
    show p.releases ~ ((p.add bytes storage).1.gone l ++ (p.add bytes storage).1.gone _).map _
    rw [hold, hthere, List.append_nil]
    exact hp.releases_perm

theorem retain (hp : p.Settles l) (id : BufferId) : (p.retain id).Settles l := by
  cases hi : p.buffers.find? id with
  | none => simpa only [Pool.retain, hi] using hp
  | some b =>
      exact hp.replace (c := { b with uses := b.uses + 1 }) hi rfl next_retain
        (by simp only [Pool.retain, hi]) fun j => find?_retain hi

theorem setBytes (hp : p.Settles l) (id : BufferId) {bytes : Bytes}
    (hl : bytes.length = (p.bytes id).length) : (p.setBytes id bytes).Settles l := by
  cases hi : p.buffers.find? id with
  | none => simpa only [Pool.setBytes, hi] using hp
  | some b =>
      have hlen : bytes.length = b.bytes.length := by rw [hl, Pool.bytes, hi]; rfl
      have hback : ({ b with bytes := bytes } : Buffer).handedBack = b.handedBack := by
        simp only [Buffer.handedBack, hlen]
      exact hp.replace hi hback (next_setBytes bytes) (by simp only [Pool.setBytes, hi])
        fun j => find?_setBytes hi bytes

/-- The last handle on a region hands it back; no other one does. -/
theorem release (hp : p.Settles l) (id : BufferId) : (p.release id).Settles l := by
  cases hi : p.buffers.find? id with
  | none => simpa only [Pool.release, hi] using hp
  | some b =>
      by_cases hb : b.uses ≤ 1
      · have hfind := fun j => find?_release_last (j := j) hi hb
        refine ⟨fun j hj => ?_, fun r hr => ?_, hp.nodup, fun j c hc => ?_, ?_⟩
        · rw [next_release] at hj
          exact find?_release_eq_none (hp.fresh j hj)
        · rw [next_release]
          exact hp.lt_next r hr
        · rw [hfind] at hc
          split at hc
          · cases hc
          · exact hp.stored j c hc
        · -- the region of the buffer joins those that were gone before
          have hhas : ∀ r : ImportedRegion,
              (!(p.release id).has r.buffer) = (!p.has r.buffer || r.buffer == id) := by
            intro r
            rw [has, Registry.contains, hfind, has, Registry.contains]
            by_cases hid : id = r.buffer
            · simp [← hid]
            · simp [hid, Ne.symm hid]
          have hgone : (p.release id).gone l ~ p.gone l ++ l.filter (·.buffer == id) := by
            rw [gone, List.filter_congr fun r _ => hhas r]
            refine filter_or_perm fun r _ hr => ?_
            rw [Bool.not_eq_true'] at hr
            rw [beq_eq_false_iff_ne]
            rintro rfl
            rw [has_of_find? hi] at hr
            cases hr
          have hreleases : (p.release id).releases = p.releases ++ b.handedBack := by
            simp only [Pool.release, hi, if_pos hb]
          rw [hreleases, hp.stored id b hi]
          refine (hp.releases_perm.append_right _).trans ?_
          rw [← List.map_append]
          exact (hgone.map _).symm
      · exact hp.replace (c := { b with uses := b.uses - 1 }) hi rfl next_release
          (by simp only [Pool.release, hi, if_neg hb]) fun j => find?_release_shared hi hb

/-- **Changes keep the account**, of the regions before and of those imported meanwhile. -/
theorem evolve (hp : p.Settles l) (hpq : p.Evolves rs q) : q.Settles (l ++ rs) := by
  induction hpq with
  | refl => rwa [List.append_nil]
  | add bytes storage _ ih =>
      rw [← List.append_assoc]
      exact ih.add bytes storage
  | retain id _ ih => exact ih.retain id
  | release id _ ih => exact ih.release id
  | setBytes id bytes hl _ ih => exact ih.setBytes id hl

/-- What is handed back meanwhile are the regions that leave the pool. -/
theorem released_perm (hp : p.Settles l) (hpq : p.Evolves rs q)
    (hrs : ∀ r ∈ rs, q.has r.buffer = true) :
    q.releases.drop p.releases.length
      ~ (l.filter fun r => p.has r.buffer && !q.has r.buffer).map ImportedRegion.release := by
  set left := l.filter fun r => p.has r.buffer && !q.has r.buffer with hleft
  have hnew : q.gone rs = [] := by
    refine List.filter_eq_nil_iff.mpr fun r hr => ?_
    rw [hrs r hr]
    decide
  -- no region that was gone has come back
  have hgone : q.gone l ~ p.gone l ++ left := by
    have hsplit : q.gone l
        = l.filter fun r => !p.has r.buffer || (p.has r.buffer && !q.has r.buffer) := by
      refine List.filter_congr fun r hr => ?_
      cases hpr : p.has r.buffer with
      | true => rfl
      | false =>
          have hq := hpq.find?_eq_none (hp.lt_next r hr) (has_eq_false_iff.mp hpr)
          rw [has_eq_false_iff.mpr hq]
          rfl
    rw [hsplit]
    refine filter_or_perm fun r _ hr => ?_
    rw [Bool.not_eq_true'] at hr
    rw [hr, Bool.false_and]
  obtain ⟨d, hd⟩ := hpq.releases_le
  have hdrop : q.releases.drop p.releases.length = d := by rw [← hd, List.drop_left]
  have hafter : p.releases ++ d ~ (q.gone l).map ImportedRegion.release := by
    have := (hp.evolve hpq).releases_perm
    rwa [gone, List.filter_append, ← gone, ← gone, hnew, List.append_nil, ← hd] at this
  have hbefore : p.releases ++ left.map ImportedRegion.release
      ~ (q.gone l).map ImportedRegion.release := by
    refine (hp.releases_perm.append_right _).trans ?_
    rw [← List.map_append]
    exact (hgone.map _).symm
  rw [hdrop]
  exact (List.perm_append_left_iff _).mp (hafter.trans hbefore.symm)

/-- An imported buffer is as long as its region was. -/
theorem mem_of_imported (hp : p.Settles l) (hb : p.buffers.find? id = some b) {name : String}
    (hs : b.storage = .imported name) : ⟨id, name, b.bytes.length⟩ ∈ l := by
  have hback : b.handedBack = [⟨name, b.bytes.length⟩] := by rw [Buffer.handedBack, hs]
  have hmem : (⟨name, b.bytes.length⟩ : Release) ∈
      (l.filter (·.buffer == id)).map ImportedRegion.release := by
    rw [← hp.stored id b hb, hback]
    exact List.mem_singleton.mpr rfl
  obtain ⟨r, hr, hrelease⟩ := List.mem_map.mp hmem
  obtain ⟨hr, hid⟩ := List.mem_filter.mp hr
  obtain ⟨hname, hlength⟩ := Release.mk.inj hrelease
  rw [← eq_of_beq hid, ← hname, ← hlength]
  exact hr

end Settles

end Pool

end PacketPath
