import PacketPath.Packet.Make
import PacketPath.Proofs.Pool.Resizing

set_option autoImplicit false

/-! # Making keeps the account

A made packet is the only handle on a buffer of its own, whichever way it is made.
-/

namespace PacketPath

/-- Renaming an error makes no success. -/
theorem mapError_eq_ok {ε ε' α : Type} {f : ε → ε'} {x : Except ε α} {a : α}
    (h : x.mapError f = .ok a) : x = .ok a := by
  cases x with
  | error e => cases h
  | ok b =>
      cases h
      rfl

namespace Pool

variable {p q : Pool} {h : Handle} {live : List Handle}

/-- Between two states of a pool, a new original has come to the live handles. -/
structure Admits (p q : Pool) (h : Handle) (live : List Handle) : Prop where
  sound : q.Sound (h :: live)
  keeps : p.Keeps q live
  original : h.cloned = false

theorem addPacket_admits (hs : p.Sound live) {bytes : Bytes} {storage : Storage} {start stop : Nat}
    (h₁ : start ≤ stop) (h₂ : stop ≤ bytes.length)
    (hl : storage = .heap → bytes.length ≤ maxBuffer) :
    p.Admits (p.addPacket bytes storage start stop).1 (p.addPacket bytes storage start stop).2
      live := by
  refine ⟨hs.add rfl rfl ⟨h₁, h₂, ?_⟩ hl, hs.keeps_add bytes storage, rfl⟩
  intro m hm
  cases hm

/-- The size that is allocated for a packet of a permitted size is permitted as well. -/
theorem max_minBuffer_le {size : Nat} (h : size ≤ maxBuffer) : max size minBuffer ≤ maxBuffer :=
  Nat.max_le.mpr ⟨h, by decide⟩

theorem makeZeros_admits (hs : p.Sound live) {headroom length tailroom : Nat}
    (hm : p.makeZeros headroom length tailroom = .ok (q, h)) :
    p.Admits q h live := by
  unfold makeZeros at hm
  split at hm
  · cases hm
  · next size hsize =>
    obtain ⟨rfl, hle⟩ := Environment.room_eq_ok hsize
    cases hm
    refine addPacket_admits hs (Nat.le_add_right _ _) ?_ fun _ => ?_
    · simp only [total, Bytes.length_zeros]
      omega
    · rw [Bytes.length_zeros]
      exact max_minBuffer_le hle

theorem makeCopy_admits (hs : p.Sound live) {headroom tailroom : Nat} {bytes : Bytes}
    (hm : p.makeCopy headroom bytes tailroom = .ok (q, h)) :
    p.Admits q h live := by
  unfold makeCopy at hm
  split at hm
  · cases hm
  · next size hsize =>
    obtain ⟨rfl, hle⟩ := Environment.room_eq_ok hsize
    cases hm
    have hroom : headroom + bytes.length ≤ max (total [headroom, bytes.length, tailroom]) minBuffer := by
      simp only [total]
      omega
    have hlen : (Bytes.overlay (Bytes.zeros (max (total [headroom, bytes.length, tailroom]) minBuffer))
        headroom bytes).length = max (total [headroom, bytes.length, tailroom]) minBuffer := by
      rw [Bytes.length_overlay (by rwa [Bytes.length_zeros]), Bytes.length_zeros]
    refine addPacket_admits hs (Nat.le_add_right _ _) ?_ fun _ => ?_
    · rwa [hlen]
    · rw [hlen]
      exact max_minBuffer_le hle

theorem makeIpv4_admits (hs : p.Sound live) {bytes : Bytes} (hm : p.makeIpv4 bytes = some (q, h)) :
    p.Admits q h live := by
  unfold makeIpv4 at hm
  split at hm
  · next q' h' hcopy =>
    obtain ⟨hsound, hkeeps, horiginal⟩ := makeCopy_admits hs hcopy
    split at hm
    · next frame hframe =>
      cases hm
      -- the packet that is handed out is no longer writable
      have hfits := (hsound.fits h' List.mem_cons_self).markHeader hframe
      exact ⟨hsound.exchange rfl rfl (fun hw => nomatch hw) hfits, hkeeps, horiginal⟩
    · cases hm
  · cases hm

theorem orFault_eq_ok {made : Option (Pool × Handle)} (hm : make.orFault made = .ok (q, h)) :
    made = some (q, h) := by
  cases made with
  | none => cases hm
  | some _ => exact congrArg some (Except.ok.inj hm)

/-- **Making keeps the account.** -/
theorem make_admits (hs : p.Sound live) {source : Source} (hm : p.make source = .ok (q, h)) :
    p.Admits q h live := by
  cases source with
  | zeros headroom length tailroom => exact makeZeros_admits hs (mapError_eq_ok hm)
  | copy headroom bytes tailroom => exact makeCopy_admits hs (mapError_eq_ok hm)
  | region name bytes =>
      -- a region was not allocated, so it may be larger than an allocation
      cases hm
      exact addPacket_admits hs (Nat.zero_le _) (Nat.le_refl _) fun hheap => nomatch hheap
  | tcp flow payload =>
      obtain ⟨datagram, -, hd⟩ := Option.bind_eq_some_iff.mp (orFault_eq_ok hm)
      exact makeIpv4_admits hs hd
  | udp flow payload =>
      obtain ⟨datagram, -, hd⟩ := Option.bind_eq_some_iff.mp (orFault_eq_ok hm)
      exact makeIpv4_admits hs hd
  | ipv4 bytes => exact makeIpv4_admits hs (orFault_eq_ok hm)

end Pool

end PacketPath
