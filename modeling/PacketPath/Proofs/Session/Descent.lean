import PacketPath.Proofs.DeepCopy.Widened
import PacketPath.Proofs.Session.Queues

set_option autoImplicit false

/-! # Where the handle at a place comes from

What a command does to the places of handles. After a command, the handle at a place was made by it,
was cloned by it from another handle, or was there before: at the same place, or at the one that
it was moved from (`Session.descent`). This is told by what the session holds at which place, and
nothing that a handle remembers is looked at.
-/

namespace PacketPath

/-- Where a handle comes from that is there after a command. -/
inductive Descent
  | made
  | clone (original : Place)
  /-- It was there before the command. -/
  | came (before : Place)
deriving DecidableEq

namespace Session

/-- The sink that a packet goes to when it is processed, if it goes to one. -/
def divertTarget (s : Session) (checker packet : String) : Option String :=
  match s.checkers.find? checker, s.packets.find? packet with
  | some c, some h =>
    match c.transport.classify c.config.checksum (s.pool.headerViews h) with
    | .ok () => none
    | .error _ => c.divert
  | _, _ => none

/-- The position in a queue that a packet had which a drain of `n` packets has put under a name. -/
def drainedFrom (target : String) (n : Nat) (name : String) : Option Nat :=
  (List.range n).find? fun i => name = target ++ i.repr

/-- Where the handle at a place comes from, if there is one after the command. -/
def descent (s : Session) (c : Command) (a : Place) : Descent :=
  match c with
  | .make target source =>
    if a = .packet target ∧ (s.pool.make source).isOk then .made else .came a
  | .clone packet target =>
    if a = .packet target ∧ s.packets.contains packet then .clone (.packet packet) else .came a
  | .process checker packet =>
    match s.divertTarget checker packet with
    | some sink =>
      if a = .queued sink (s.queueOf sink).length then .came (.packet packet) else .came a
    | none => .came a
  | .drain sink target =>
    match a with
    | .packet name =>
      match drainedFrom target (s.queueOf sink).length name with
      | some i => .came (.queued sink i)
      | none => .came a
    | .queued _ _ => .came a
  | _ => .came a

variable {s after : Session} {h g : Handle} {a : Place} {name target : String}
  {queue : List Handle}

/-! ## Places after a command -/

/-- Nothing else in a session has to do with places. -/
theorem handleAt_congr (hp : after.packets = s.packets) (hq : after.sinks = s.sinks) (a : Place) :
    after.handleAt a = s.handleAt a := by
  cases a with
  | packet name => rw [handleAt, hp, handleAt]
  | queued sink position => rw [handleAt, queueOf_congr hq, handleAt]

theorem handleAt_store (s : Session) (name : String) (h : Handle) (a : Place) :
    (s.store name h).handleAt a = if a = .packet name then some h else s.handleAt a :=
  (handleAt_congr rfl rfl a).trans (handleAt_update s name h a)

/-- A name that is not among the numbered ones keeps what it has. -/
theorem find?_storeAll_of_ne {i : Nat} (hne : ∀ k < queue.length, name ≠ target ++ (i + k).repr) :
    (s.storeAll target i queue).packets.find? name = s.packets.find? name := by
  induction queue generalizing s i with
  | nil => rfl
  | cons h rest ih =>
      have hfirst : target ++ i.repr ≠ name := (hne 0 (Nat.zero_lt_succ _)).symm
      rw [storeAll, ih fun k hk => ?_, find?_store, if_neg hfirst]
      rw [Nat.add_assoc, Nat.add_comm 1]
      exact hne (k + 1) (Nat.succ_lt_succ hk)

/-- The packets are under the numbered names in their order. -/
theorem find?_storeAll_numbered {i k : Nat} (hk : k < queue.length) :
    (s.storeAll target i queue).packets.find? (target ++ (i + k).repr) = queue[k]? := by
  induction queue generalizing s i k with
  | nil => cases hk
  | cons h rest ih =>
      cases k with
      | zero =>
          have hlater := find?_storeAll_of_lt (s := s.store (target ++ i.repr) h)
            (Nat.lt_succ_self i) target rest
          rw [storeAll, Nat.add_zero]
          exact hlater.trans ((find?_store s _ h _).trans (if_pos rfl))
      | succ k =>
          rw [storeAll, Nat.add_comm k, ← Nat.add_assoc, ih (Nat.lt_of_succ_lt_succ hk),
            Nat.add_comm 1, List.getElem?_cons_succ]

/-- What is under a name after a drain. -/
theorem find?_storeAll (s : Session) (target : String) (queue : List Handle) (name : String) :
    (s.storeAll target 0 queue).packets.find? name
      = match drainedFrom target queue.length name with
        | some i => queue[i]?
        | none => s.packets.find? name := by
  cases hd : drainedFrom target queue.length name with
  | some i =>
      have hname : name = target ++ i.repr := by simpa using List.find?_some hd
      have hi : i < queue.length := List.mem_range.mp (List.mem_of_find?_eq_some hd)
      have hnumbered : (s.storeAll target 0 queue).packets.find? (target ++ (0 + i).repr)
          = queue[i]? := find?_storeAll_numbered hi
      rwa [Nat.zero_add, ← hname] at hnumbered
  | none =>
      refine find?_storeAll_of_ne fun k hk => ?_
      rw [Nat.zero_add]
      simpa using List.find?_eq_none.mp hd k (List.mem_range.mpr hk)

end Session

/-! ## Annotations of packets that are made or resized -/

namespace Pool

variable {p q : Pool} {h : Handle}

theorem annotations_makeCopy {headroom tailroom : Nat} {bytes : Bytes}
    (hm : p.makeCopy headroom bytes tailroom = .ok (q, h)) : h.annotations = {} := by
  unfold makeCopy at hm
  split at hm <;> cases hm
  rfl

theorem annotations_makeZeros {headroom length tailroom : Nat}
    (hm : p.makeZeros headroom length tailroom = .ok (q, h)) : h.annotations = {} := by
  unfold makeZeros at hm
  split at hm <;> cases hm
  rfl

theorem annotations_makeIpv4 {bytes : Bytes} (hm : p.makeIpv4 bytes = some (q, h)) :
    h.annotations = {} := by
  unfold makeIpv4 at hm
  split at hm
  · next q' h' hcopy =>
    have hnone : h'.annotations = {} := annotations_makeCopy hcopy
    split at hm <;> cases hm
    exact hnone
  · cases hm

/-- A packet that was made has no annotations yet. -/
theorem annotations_make {source : Source} (hm : p.make source = .ok (q, h)) :
    h.annotations = {} := by
  cases source with
  | zeros headroom length tailroom => exact annotations_makeZeros (mapError_eq_ok hm)
  | copy headroom bytes tailroom => exact annotations_makeCopy (mapError_eq_ok hm)
  | region name bytes =>
      cases hm
      rfl
  | tcp flow payload | udp flow payload =>
      obtain ⟨datagram, -, hd⟩ := Option.bind_eq_some_iff.mp (orFault_eq_ok hm)
      exact annotations_makeIpv4 hd
  | ipv4 bytes => exact annotations_makeIpv4 (orFault_eq_ok hm)

end Pool

namespace Owned

variable {o o' : Owned}

theorem annotations_push {n : Nat} (ho : o.push n = .ok o') : o'.annotations = o.annotations := by
  obtain ⟨extra, -, rfl⟩ := push_eq_ok ho
  rfl

theorem annotations_put {n : Nat} (ho : o.put n = .ok o') : o'.annotations = o.annotations := by
  obtain ⟨extra, rfl⟩ := put_eq_ok ho
  rfl

theorem annotations_patched {r : Except ResizeError Owned} {pos : Nat} {patch : Bytes}
    (ho : patched r pos patch = .ok o') : ∃ o, r = .ok o ∧ o'.annotations = o.annotations := by
  obtain ⟨o, hr, -, rfl⟩ := patched_eq_ok ho
  exact ⟨o, hr, rfl⟩

/-- No operation that resizes a packet changes annotations. -/
theorem annotations_resize {how : Resizing} (ho : o.resize how = .ok o') :
    o'.annotations = o.annotations := by
  cases how with
  | uniqueify =>
      cases ho
      rfl
  | push n | pushShared n =>
      obtain ⟨pushed, hpush, rfl⟩ := map_eq_ok ho
      have hkept := annotations_push hpush
      exact hkept
  | put n | putShared n =>
      obtain ⟨opened, hput, rfl⟩ := map_eq_ok ho
      have hkept := annotations_put hput
      exact hkept
  | encapsulate =>
      obtain ⟨written, hr, hkept⟩ := annotations_patched ho
      obtain ⟨pushed, hpush, rfl⟩ := map_eq_ok hr
      have hpushed := annotations_push hpush
      exact hkept.trans hpushed
  | flipBit offset bit =>
      simp only [resize] at ho
      split at ho
      · obtain ⟨written, hr, hkept⟩ := annotations_patched (r := .ok (o.setWritable true)) ho
        cases hr
        exact hkept
      · cases ho
  | overwrite position bytes =>
      obtain ⟨written, hr, hkept⟩ := annotations_patched (r := .ok (o.setWritable true)) ho
      cases hr
      exact hkept

end Owned

/-- A handle that was resized has the annotations that it had. -/
theorem Resizing.annotations_apply {p q : Pool} {h g : Handle} {others : List Handle}
    (hs : p.Sound (h :: others)) {how : Resizing} (happly : how.apply p h = (q, .ok g)) :
    g.annotations = h.annotations := by
  have howned : Resized.owned (how.apply p h) = .ok (q.owned g) := by rw [happly]; rfl
  have hkept := Owned.annotations_resize (Resizing.resize_eq_ok hs howned)
  exact hkept

end PacketPath
