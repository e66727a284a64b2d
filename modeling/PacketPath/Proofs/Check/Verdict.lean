import PacketPath.Check.Checker
import PacketPath.Proofs.Check.Guarded
import PacketPath.Proofs.Session.Sound

set_option autoImplicit false

/-! # The verdicts of the checkers

When a packet passes a check, and for which of three ranked reasons it fails otherwise, told from
the bytes between its header marks and the end of its data: lengths are integers, and the checksum is
the sum of RFC 1071 over the bytes in network order (`ringSum`).

Neither the machine words of the accumulator nor its byte order appear here, and no difference is cut
off at zero.
-/

namespace PacketPath

/-- The first of three ranked reasons that holds, if one does, decides the verdict. -/
structure Ranked (verdict : Except DropReason Unit)
    (notProtocol badLength badChecksum : Prop) : Prop where
  notProtocol_iff : verdict = .error .notProtocol ↔ notProtocol
  badLength_iff : verdict = .error .badLength ↔ ¬ notProtocol ∧ badLength
  badChecksum_iff : verdict = .error .badChecksum ↔ ¬ notProtocol ∧ ¬ badLength ∧ badChecksum
  ok_iff : verdict = .ok () ↔ ¬ notProtocol ∧ ¬ badLength ∧ ¬ badChecksum

namespace Ranked

variable {A B C : Prop}

theorem of_notProtocol (hA : A) : Ranked (.error .notProtocol) A B C := by
  constructor <;> simp [hA]

theorem of_badLength (hA : ¬ A) (hB : B) : Ranked (.error .badLength) A B C := by
  constructor <;> simp [hA, hB]

theorem of_badChecksum (hA : ¬ A) (hB : ¬ B) (hC : C) : Ranked (.error .badChecksum) A B C := by
  constructor <;> simp [hA, hB, hC]

theorem of_ok (hA : ¬ A) (hB : ¬ B) (hC : ¬ C) : Ranked (.ok ()) A B C := by
  constructor <;> simp [hA, hB, hC]

/-- Where neither of the first two reasons holds, a test for the third one is left. -/
theorem of_test (hA : ¬ A) (hB : ¬ B) {test : Bool} (hC : test = true ↔ C) :
    Ranked (if test then .error .badChecksum else .ok ()) A B C := by
  cases test with
  | true => exact .of_badChecksum hA hB (hC.mp rfl)
  | false => exact .of_ok hA hB fun h => nomatch hC.mpr h

end Ranked

/-! ## What a checker sees -/

namespace Pool

/-- The bytes from a mark to the end of the data: none, if the mark is past it. -/
def fromMark (p : Pool) (h : Handle) (mark : Nat) : Bytes :=
  (p.bytes h.buffer).slice mark h.frame.stop

/-- The bytes from the network mark and from the transport mark on, if there are marks. -/
def marked (p : Pool) (h : Handle) : Option (Bytes × Bytes) :=
  h.frame.marks.map fun m => (p.fromMark h m.network, p.fromMark h m.transport)

theorem slice_min (b : Bytes) (first last : Nat) :
    b.slice (min first last) last = b.slice first last := by
  have hlen : (b.take last).length ≤ last := List.length_take_le _ _
  unfold Bytes.slice
  by_cases h : first ≤ last
  · rw [Nat.min_eq_left h]
  · rw [Nat.min_eq_right (by omega), List.drop_of_length_le (by omega),
      List.drop_of_length_le (by omega)]

theorem headerViews_eq (p : Pool) (h : Handle) : p.headerViews h = p.marked h := by
  cases hm : h.frame.marks with
  | none => simp only [headerViews, view?, Frame.span?, marked, hm, Option.map_none]
  | some m =>
      simp only [headerViews, view?, Frame.span?, marked, fromMark, hm, Option.map_some, slice_min]

end Pool

/-! ## Reasons -/

/-- No header is marked, or what is marked is no IPv4 header of the protocol with that number. -/
def NotCarried (number : UInt8) : Option (Bytes × Bytes) → Prop
  | none => True
  | some (nh, _) => nh.length < 20 ∨ (nh.byte 0).toNat / 16 ≠ 4 ∨ nh.byte 9 ≠ number

/-- What pseudo-header and segment sum to is no valid checksum. -/
def SumFails (number : UInt8) (nh l4 : Bytes) (length : Nat) : Prop :=
  ringSum (nh.slice 12 16 ++ nh.slice 16 20 ++ [0, number] ++ Bytes.be16Bytes length
    ++ l4.take length) ≠ 0xFFFF

/-- The length that an IPv4 header leaves for a segment; negative, if its length fields disagree. -/
def tcpLength (nh : Bytes) : Int := nh.be16 2 - 4 * ((nh.byte 0).toNat % 16)

/-- The length of a TCP header, as its data offset gives it. -/
def tcpOffset (l4 : Bytes) : Nat := 4 * ((l4.byte 12).toNat / 16)

def TcpBadLength : Option (Bytes × Bytes) → Prop
  | none => False
  | some (nh, l4) => tcpLength nh < 0 ∨ l4.length < 20 ∨ tcpOffset l4 < 20
    ∨ tcpLength nh < tcpOffset l4 ∨ l4.length < tcpLength nh

def TcpBadSum : Option (Bytes × Bytes) → Prop
  | none => False
  | some (nh, l4) => SumFails 6 nh l4 (tcpLength nh).toNat

def UdpBadLength : Option (Bytes × Bytes) → Prop
  | none => False
  | some (_, l4) => l4.length < 8 ∨ l4.be16 4 < 8 ∨ l4.length < l4.be16 4

/-- A checksum was sent, and it is wrong. -/
def UdpBadSum : Option (Bytes × Bytes) → Prop
  | none => False
  | some (nh, l4) => ¬ (l4.byte 6 = 0 ∧ l4.byte 7 = 0) ∧ SumFails 17 nh l4 (l4.be16 4)

instance (number : UInt8) : DecidablePred (NotCarried number)
  | none => isTrue trivial
  | some (nh, _) => inferInstanceAs
    (Decidable (nh.length < 20 ∨ (nh.byte 0).toNat / 16 ≠ 4 ∨ nh.byte 9 ≠ number))

instance (number : UInt8) (nh l4 : Bytes) (length : Nat) : Decidable (SumFails number nh l4 length) :=
  inferInstanceAs (Decidable (ringSum _ ≠ 0xFFFF))

instance : DecidablePred TcpBadLength
  | none => isFalse id
  | some (nh, l4) => inferInstanceAs (Decidable (tcpLength nh < 0 ∨ l4.length < 20
    ∨ tcpOffset l4 < 20 ∨ tcpLength nh < tcpOffset l4 ∨ l4.length < tcpLength nh))

instance : DecidablePred TcpBadSum
  | none => isFalse id
  | some (nh, l4) => inferInstanceAs (Decidable (SumFails 6 nh l4 (tcpLength nh).toNat))

instance : DecidablePred UdpBadLength
  | none => isFalse id
  | some (_, l4) =>
    inferInstanceAs (Decidable (l4.length < 8 ∨ l4.be16 4 < 8 ∨ l4.length < l4.be16 4))

instance : DecidablePred UdpBadSum
  | none => isFalse id
  | some (nh, l4) => inferInstanceAs
    (Decidable (¬ (l4.byte 6 = 0 ∧ l4.byte 7 = 0) ∧ SumFails 17 nh l4 (l4.be16 4)))

/-! ## The protocol -/

variable {t : Transport} {nh l4 : Bytes} {verify : Bool}

theorem classify_of_notCarried {views : Option (Bytes × Bytes)}
    (h : NotCarried t.protocol.number views) : t.classify verify views = .error .notProtocol := by
  cases views with
  | none => rfl
  | some v =>
      obtain ⟨nh, l4⟩ := v
      unfold Transport.classify
      by_cases hshort : nh.length < 20
      · simp only [Ipv4Header.read_of_lt hshort]
      · have hread := Ipv4Header.read_of_le (Nat.le_of_not_lt hshort)
        have hother : ¬ ((Ipv4Header.front nh).version = 4
            ∧ (Ipv4Header.front nh).protocol = t.protocol) := by
          rw [Ipv4Header.version_front, Ipv4Header.protocol_front]
          rintro ⟨hversion, hprotocol⟩
          rcases h with h | h | h
          · exact hshort h
          · exact h hversion
          · exact h hprotocol
        simp only [hread, if_neg hother]

theorem classify_of_carried (verify : Bool) (h : ¬ NotCarried t.protocol.number (some (nh, l4))) :
    20 ≤ nh.length ∧ nh.byte 9 = t.protocol.number
      ∧ t.classify verify (some (nh, l4)) = t.check (.front nh) l4 verify := by
  simp only [NotCarried, not_or, not_not, Nat.not_lt] at h
  obtain ⟨hlen, hversion, hprotocol⟩ := h
  have hthis : (Ipv4Header.front nh).version = 4 ∧ (Ipv4Header.front nh).protocol = t.protocol :=
    ⟨(Ipv4Header.version_front nh).mpr hversion, (Ipv4Header.protocol_front nh t).mpr hprotocol⟩
  refine ⟨hlen, hprotocol, ?_⟩
  simp only [Transport.classify, Ipv4Header.read_of_le hlen, if_pos hthis]

/-- The ranks of the reasons, once those of the check of a segment are known. -/
theorem classify_ranked {B C : Option (Bytes × Bytes) → Prop} (views : Option (Bytes × Bytes))
    (hcheck : ∀ nh l4, 20 ≤ nh.length → nh.byte 9 = t.protocol.number →
      ∀ A, ¬ A → Ranked (t.check (.front nh) l4 verify) A (B (some (nh, l4))) (C (some (nh, l4)))) :
    Ranked (t.classify verify views) (NotCarried t.protocol.number views) (B views) (C views) := by
  by_cases hA : NotCarried t.protocol.number views
  · rw [classify_of_notCarried hA]
    exact .of_notProtocol hA
  cases views with
  | none => exact absurd trivial hA
  | some v =>
      obtain ⟨nh, l4⟩ := v
      obtain ⟨hlen, hprotocol, hclassify⟩ := classify_of_carried verify hA
      rw [hclassify]
      exact hcheck nh l4 hlen hprotocol _ hA

/-! ## The sum -/

/-- The accumulator finds a segment valid if the sum of RFC 1071 over it is. -/
theorem sumVerifies_front (hlen : 20 ≤ nh.length) {number : UInt8} (hn : nh.byte 9 = number)
    {length : Nat} (hl : length ≤ l4.length) :
    Transport.sumVerifies (.front nh) (l4.take length) = true ↔ ¬ SumFails number nh l4 length := by
  have hpseudo := Ipv4Header.pseudoHeader_front hlen length
  have heven : ((Ipv4Header.front nh).pseudoHeader length).length % 2 = 0 := by
    rw [Ipv4Header.length_pseudoHeader]
  have hsegment : (l4.take length).length = length := List.length_take_of_le hl
  unfold Transport.sumVerifies Ipv4Header.pseudoSum
  rw [hsegment, Checksum.isValid_addBytes_compute heven, hpseudo, hn, SumFails, not_not]

/-! ## TCP -/

/-- The length of the segment, where the fields of the IPv4 header agree. -/
theorem toNat_tcpLength (h : 0 ≤ tcpLength nh) :
    ¬ (Ipv4Header.front nh).totalLength < (Ipv4Header.front nh).headerLength
      ∧ (Ipv4Header.front nh).totalLength - (Ipv4Header.front nh).headerLength
        = (tcpLength nh).toNat := by
  rw [Ipv4Header.totalLength_front, Ipv4Header.headerLength_front]
  rw [tcpLength] at h ⊢
  omega

theorem checkTcp_of_badLength (h : TcpBadLength (some (nh, l4))) :
    Transport.checkTcp (.front nh) l4 verify = .error .badLength := by
  unfold Transport.checkTcp
  by_cases hneg : tcpLength nh < 0
  · have hfields : (Ipv4Header.front nh).totalLength < (Ipv4Header.front nh).headerLength := by
      rw [Ipv4Header.totalLength_front, Ipv4Header.headerLength_front]
      rw [tcpLength] at hneg
      omega
    rw [if_pos hfields]
  obtain ⟨hfields, hlength⟩ := toNat_tcpLength (Int.not_lt.mp hneg)
  rw [if_neg hfields]
  simp only [hlength]
  by_cases hshort : l4.length < 20
  · rw [TcpHeader.read_of_lt hshort]
  · have hbad : (TcpHeader.front l4).headerLength < TcpHeader.size
        ∨ (tcpLength nh).toNat < (TcpHeader.front l4).headerLength
        ∨ l4.length < (tcpLength nh).toNat := by
      rw [TcpHeader.headerLength_front, TcpHeader.size, ← tcpOffset]
      rcases h with h | h | h | h | h <;> omega
    rw [TcpHeader.read_of_le (Nat.not_lt.mp hshort)]
    simp only [if_pos hbad]

theorem checkTcp_of_lengths (verify : Bool) (h : ¬ TcpBadLength (some (nh, l4))) :
    (tcpLength nh).toNat ≤ l4.length ∧ Transport.checkTcp (.front nh) l4 verify
      = if verify && !Transport.sumVerifies (.front nh) (l4.take (tcpLength nh).toNat) then
          .error .badChecksum
        else .ok () := by
  simp only [TcpBadLength, not_or, Int.not_lt, Nat.not_lt] at h
  obtain ⟨hneg, hshort, hsize, hoffset, hlen⟩ := h
  obtain ⟨hfields, hlength⟩ := toNat_tcpLength hneg
  have hgood : ¬ ((TcpHeader.front l4).headerLength < TcpHeader.size
      ∨ (tcpLength nh).toNat < (TcpHeader.front l4).headerLength
      ∨ l4.length < (tcpLength nh).toNat) := by
    rw [TcpHeader.headerLength_front, TcpHeader.size, ← tcpOffset]
    omega
  refine ⟨by omega, ?_⟩
  unfold Transport.checkTcp
  rw [if_neg hfields]
  simp only [hlength, TcpHeader.read_of_le hshort, if_neg hgood]

theorem classify_tcp (verify : Bool) (views : Option (Bytes × Bytes)) :
    Ranked (Transport.tcp.classify verify views) (NotCarried 6 views) (TcpBadLength views)
      (verify = true ∧ TcpBadSum views) := by
  refine classify_ranked (C := fun views => verify = true ∧ TcpBadSum views) views
    fun nh l4 hlen hprotocol A hA => ?_
  show Ranked (Transport.checkTcp (.front nh) l4 verify) _ _ _
  by_cases hB : TcpBadLength (some (nh, l4))
  · rw [checkTcp_of_badLength hB]
    exact .of_badLength hA hB
  · obtain ⟨hl, hcheck⟩ := checkTcp_of_lengths verify hB
    have hsum := sumVerifies_front hlen hprotocol hl
    rw [hcheck]
    refine .of_test hA hB ?_
    rw [Bool.and_eq_true, Bool.not_eq_true', ← Bool.not_eq_true, hsum, not_not]
    rfl

/-! ## UDP -/

theorem checkUdp_of_badLength (ip : Ipv4Header) (h : UdpBadLength (some (nh, l4))) :
    Transport.checkUdp ip l4 verify = .error .badLength := by
  unfold Transport.checkUdp
  by_cases hshort : l4.length < 8
  · rw [UdpHeader.read_of_lt hshort]
  · have hbad : (UdpHeader.front l4).length < UdpHeader.size
        ∨ l4.length < (UdpHeader.front l4).length := by
      rw [UdpHeader.length_field_front, UdpHeader.size]
      rcases h with h | h | h <;> omega
    rw [UdpHeader.read_of_le (Nat.not_lt.mp hshort)]
    simp only [if_pos hbad]

theorem checkUdp_of_lengths (ip : Ipv4Header) (verify : Bool)
    (h : ¬ UdpBadLength (some (nh, l4))) :
    l4.be16 4 ≤ l4.length ∧ Transport.checkUdp ip l4 verify
      = if (UdpHeader.front l4).hasChecksum && verify
            && !Transport.sumVerifies ip (l4.take (l4.be16 4)) then
          .error .badChecksum
        else .ok () := by
  simp only [UdpBadLength, not_or, Nat.not_lt] at h
  obtain ⟨hshort, hsize, hlen⟩ := h
  have hgood : ¬ ((UdpHeader.front l4).length < UdpHeader.size
      ∨ l4.length < (UdpHeader.front l4).length) := by
    rw [UdpHeader.length_field_front, UdpHeader.size]
    omega
  refine ⟨hlen, ?_⟩
  unfold Transport.checkUdp
  rw [UdpHeader.read_of_le hshort]
  simp only [if_neg hgood]
  rw [UdpHeader.length_field_front]

theorem classify_udp (verify : Bool) (views : Option (Bytes × Bytes)) :
    Ranked (Transport.udp.classify verify views) (NotCarried 17 views) (UdpBadLength views)
      (verify = true ∧ UdpBadSum views) := by
  refine classify_ranked (C := fun views => verify = true ∧ UdpBadSum views) views
    fun nh l4 hlen hprotocol A hA => ?_
  show Ranked (Transport.checkUdp (.front nh) l4 verify) _ _ _
  by_cases hB : UdpBadLength (some (nh, l4))
  · rw [checkUdp_of_badLength _ hB]
    exact .of_badLength hA hB
  · obtain ⟨hl, hcheck⟩ := checkUdp_of_lengths (.front nh) verify hB
    have hsum := sumVerifies_front hlen hprotocol hl
    rw [hcheck]
    refine .of_test hA hB ?_
    -- the check asks first whether a checksum was sent, then whether it is to be verified
    rw [Bool.and_eq_true, Bool.and_eq_true, Bool.not_eq_true', ← Bool.not_eq_true, hsum, not_not,
      UdpHeader.hasChecksum_front, and_comm (b := verify = true), and_assoc]
    rfl

/-! ## Checkers -/

theorem verdict_validate (c : Checker) (views : Option (Bytes × Bytes)) :
    (c.validate views).verdict = c.transport.classify c.config.checksum views := by
  unfold Checker.validate
  split
  · next h => rw [h]
  · next reason h => rw [h]

/-- **The verdict of a TCP checker** on any packet. If the data end inside the buffer, it is reached
without a read outside of a slice, a length that loses bits, or an overflow. -/
theorem tcp_verdict (c : Checker) (hc : c.transport = .tcp) (p : Pool) (h : Handle) :
    Ranked (c.validate (p.headerViews h)).verdict
        (NotCarried 6 (p.marked h)) (TcpBadLength (p.marked h))
        (c.config.checksum = true ∧ TcpBadSum (p.marked h))
      ∧ (h.frame.stop ≤ p.limit h → Guarded.verdict .tcp c.config.checksum p h
        = some (c.validate (p.headerViews h)).verdict) := by
  rw [verdict_validate, hc]
  constructor
  · rw [Pool.headerViews_eq]
    exact classify_tcp _ _
  · intro hstop
    exact Guarded.verdict_eq hstop .tcp _

/-- A checker with the default options that has seen no packet. -/
def freshChecker (t : Transport) : Checker where
  name := "c"
  transport := t
  config := {}
  stats :=
    ⟨"pktcheck", "c", Vector.ofFn fun i => ["count", "drops"].getD i.val "", Vector.replicate 2 0⟩
  reasons := none
  divert := none

/-- A pool with a packet, and the handle on it, which marks an IPv4 header without options. -/
def datagramPool (bytes : Bytes) : Pool := (({} : Pool).add bytes .heap).1

def datagramHandle (bytes : Bytes) : Handle :=
  { buffer := 0, frame := ⟨0, bytes.length, some ⟨0, 20⟩⟩ }

/-- A TCP segment with four bytes of payload. -/
def segmentBytes : Bytes :=
  [0x45, 0, 0, 44, 0, 1, 0x40, 0, 64, 6, 0, 0, 10, 0, 0, 5, 52, 10, 128, 69,
    0xAD, 0xCA, 0x01, 0xBB, 0, 0, 0x10, 0x80, 0, 0, 0x21, 0, 0x50, 0x18, 0xFA, 0xF0,
    0x11, 0x78, 0, 0, 1, 2, 3, 4]

theorem tcp_verdict_segmentBytes :
    (freshChecker .tcp).transport = .tcp
      ∧ (datagramHandle segmentBytes).frame.stop
        ≤ (datagramPool segmentBytes).limit (datagramHandle segmentBytes)
      ∧ ((freshChecker .tcp).validate
        ((datagramPool segmentBytes).headerViews (datagramHandle segmentBytes))).verdict = .ok ()
      ∧ Guarded.verdict .tcp true (datagramPool segmentBytes) (datagramHandle segmentBytes)
        = some (.ok ()) := by
  have hstop : (datagramHandle segmentBytes).frame.stop
      ≤ (datagramPool segmentBytes).limit (datagramHandle segmentBytes) := by decide
  obtain ⟨hranked, hguarded⟩ :=
    tcp_verdict (freshChecker .tcp) rfl (datagramPool segmentBytes) (datagramHandle segmentBytes)
  have hok := hranked.ok_iff.mpr (by decide)
  exact ⟨rfl, hstop, hok, hok ▸ hguarded hstop⟩

/-- **The verdict of a UDP checker** on any packet. Where no checksum was sent, none is bad. If the
data end inside the buffer, it is reached without a read outside of a slice, a length that loses
bits, or an overflow. -/
theorem udp_verdict (c : Checker) (hc : c.transport = .udp) (p : Pool) (h : Handle) :
    Ranked (c.validate (p.headerViews h)).verdict
        (NotCarried 17 (p.marked h)) (UdpBadLength (p.marked h))
        (c.config.checksum = true ∧ UdpBadSum (p.marked h))
      ∧ (∀ nh l4, p.marked h = some (nh, l4) → l4.byte 6 = 0 → l4.byte 7 = 0 →
        (c.validate (p.headerViews h)).verdict ≠ .error .badChecksum)
      ∧ (h.frame.stop ≤ p.limit h → Guarded.verdict .udp c.config.checksum p h
        = some (c.validate (p.headerViews h)).verdict) := by
  have hranked := classify_udp c.config.checksum (p.marked h)
  rw [verdict_validate, hc, Pool.headerViews_eq]
  refine ⟨hranked, fun nh l4 hviews h₆ h₇ hbad => ?_, fun hstop => ?_⟩
  · obtain ⟨-, -, -, hsum⟩ := hranked.badChecksum_iff.mp hbad
    rw [hviews] at hsum
    exact hsum.1 ⟨h₆, h₇⟩
  · rw [← Pool.headerViews_eq]
    exact Guarded.verdict_eq hstop .udp _

/-- A UDP datagram with three bytes of payload, sent without a checksum. -/
def unsummedBytes : Bytes :=
  [0x45, 0, 0, 31, 0, 1, 0x40, 0, 64, 17, 0, 0, 10, 0, 0, 5, 52, 10, 128, 69,
    0, 68, 0, 67, 0, 11, 0, 0, 1, 2, 3]

theorem udp_verdict_unsummedBytes :
    (freshChecker .udp).transport = .udp
      ∧ (datagramHandle unsummedBytes).frame.stop
        ≤ (datagramPool unsummedBytes).limit (datagramHandle unsummedBytes)
      ∧ ((freshChecker .udp).validate ((datagramPool unsummedBytes).headerViews
        (datagramHandle unsummedBytes))).verdict = .ok ()
      ∧ Guarded.verdict .udp true (datagramPool unsummedBytes) (datagramHandle unsummedBytes)
        = some (.ok ()) := by
  have hstop : (datagramHandle unsummedBytes).frame.stop
      ≤ (datagramPool unsummedBytes).limit (datagramHandle unsummedBytes) := by decide
  obtain ⟨hranked, -, hguarded⟩ :=
    udp_verdict (freshChecker .udp) rfl (datagramPool unsummedBytes) (datagramHandle unsummedBytes)
  have hok := hranked.ok_iff.mpr (by decide)
  exact ⟨rfl, hstop, hok, hok ▸ hguarded hstop⟩

/-- No guard stops a check in a session, whatever was done to its packets before. -/
theorem Session.guarded_run (cs : List Command) {packet : String} {h : Handle}
    (hf : (({} : Session).run cs).packets.find? packet = some h) (t : Transport) (verify : Bool) :
    (Guarded.verdict t verify (({} : Session).run cs).pool h).isSome := by
  have hfits := (Session.sound_empty.run cs).fits hf
  rw [Guarded.verdict_eq hfits.2.1]
  rfl

end PacketPath
