import PacketPath.Proofs.Check.Verdict
import PacketPath.Proofs.Checksum.BitErrors

set_option autoImplicit false

/-! # Single-bit errors in checked segments

What becomes of a segment that passes its check when one bit of it, or of the IPv4 header before it,
is flipped. Where the checksum covers the bit, the check fails; where neither the checksum nor a
length depends on it, the segment still passes.

Both follow from how the two things a check looks at change: the lengths, and the sum of what the
checksum covers (`covered`).
-/

namespace PacketPath

variable {nh nh' l4 l4' : Bytes} {i length : Nat} {bit : Fin 8}

/-! ## What the checksum covers -/

/-- The pseudo-header and the segment. -/
def covered (nh l4 : Bytes) (length : Nat) : Bytes :=
  nh.slice 12 16 ++ nh.slice 16 20 ++ [0, nh.byte 9] ++ Bytes.be16Bytes length ++ l4.take length

theorem wordSum_covered (hlen : nh.length = 20) (l4 : Bytes) (length : Nat) :
    wordSum (covered nh l4 length) = wordSum (nh.slice 12 16) + wordSum (nh.slice 16 20)
      + Bytes.word 0 (nh.byte 9) + wordSum (Bytes.be16Bytes length) + wordSum (l4.take length) := by
  have hsource : (nh.slice 12 16).length = 4 := Bytes.length_slice (by omega)
  have hdest : (nh.slice 16 20).length = 4 := Bytes.length_slice (by omega)
  have hfield : (Bytes.be16Bytes length).length = 2 := rfl
  have hnumber : wordSum [0, nh.byte 9] = Bytes.word 0 (nh.byte 9) := Nat.add_zero _
  rw [covered, wordSum_append, wordSum_append, wordSum_append, wordSum_append, hnumber]
  all_goals
    simp only [List.length_append, hsource, hdest, hfield, List.length_cons, List.length_nil]

/-- A flip in the segment changes the sum by the weight of the bit. -/
theorem differByBit_segment (hlen : nh.length = 20) (hi : i < length) (hl : length ≤ l4.length)
    (bit : Fin 8) :
    DifferByBit (wordSum (covered nh (l4.flipBit i bit) length))
      (wordSum (covered nh l4 length)) := by
  have hmem : i < (l4.take length).length := by
    rw [List.length_take_of_le hl]
    exact hi
  rw [wordSum_covered hlen, wordSum_covered hlen, Bytes.take_flipBit]
  exact (wordSum_flipBit hmem bit).add_left _

/-- So does a flip in the protocol number or an address. -/
theorem differByBit_header (hlen : nh.length = 20) (hi : i = 9 ∨ 12 ≤ i ∧ i < 20) (bit : Fin 8)
    (l4 : Bytes) (length : Nat) :
    DifferByBit (wordSum (covered (nh.flipBit i bit) l4 length))
      (wordSum (covered nh l4 length)) := by
  have hsource : (nh.slice 12 16).length = 4 := Bytes.length_slice (by omega)
  have hdest : (nh.slice 16 20).length = 4 := Bytes.length_slice (by omega)
  have hlen' : (nh.flipBit i bit).length = 20 := Bytes.length_flipBit.trans hlen
  rw [wordSum_covered hlen, wordSum_covered hlen']
  refine .add_right (.add_right ?_ _) _
  have hplace : i = 9 ∨ 12 ≤ i ∧ i < 16 ∨ 16 ≤ i ∧ i < 20 := by omega
  rcases hplace with rfl | ⟨hfirst, hlast⟩ | ⟨hfirst, hlast⟩
  · rw [Bytes.slice_flipBit_of_notMem (by omega), Bytes.slice_flipBit_of_notMem (by omega),
      Bytes.byte_flipBit_self (by omega)]
    exact (word_flip_low 0 _ bit).add_left _
  · rw [Bytes.slice_flipBit_of_mem hfirst, Bytes.slice_flipBit_of_notMem (by omega),
      Bytes.byte_flipBit_of_ne (by omega)]
    exact .add_right (.add_right (wordSum_flipBit (by omega) bit) _) _
  · rw [Bytes.slice_flipBit_of_notMem (by omega), Bytes.slice_flipBit_of_mem hfirst,
      Bytes.byte_flipBit_of_ne (by omega)]
    exact .add_right (.add_left (wordSum_flipBit (by omega) bit) _) _

/-! ## The checks as tests of these bytes -/

theorem Ipv4Header.front_eq (hlen : nh.length = 20) : Ipv4Header.front nh = ⟨nh⟩ :=
  congrArg Ipv4Header.mk (List.take_of_length_le (Nat.le_of_eq hlen))

theorem sumVerifies_covered (hlen : nh.length = 20) (hl : length ≤ l4.length) :
    Transport.sumVerifies (.front nh) (l4.take length)
      = decide (ringSum (covered nh l4 length) = 0xFFFF) := by
  have hverifies := (sumVerifies_front (Nat.le_of_eq hlen.symm) rfl hl).trans not_not
  rw [Bool.eq_iff_iff, decide_eq_true_iff]
  exact hverifies

/-- The lengths come first, then the sum. -/
theorem checkTcp_verify (hlen : nh.length = 20) (l4 : Bytes) :
    Transport.checkTcp ⟨nh⟩ l4 true
      = if TcpBadLength (some (nh, l4)) then .error .badLength
        else if ringSum (covered nh l4 (tcpLength nh).toNat) = 0xFFFF then .ok ()
        else .error .badChecksum := by
  rw [← Ipv4Header.front_eq hlen]
  split
  · next hbad => exact checkTcp_of_badLength hbad
  · next hgood =>
      obtain ⟨hl, hcheck⟩ := checkTcp_of_lengths true hgood
      rw [hcheck, sumVerifies_covered hlen hl]
      by_cases hvalid : ringSum (covered nh l4 (tcpLength nh).toNat) = 0xFFFF
      · simp [hvalid]
      · simp [hvalid]

/-- The lengths come first, then the sum, if one was sent. -/
theorem checkUdp_verify (hlen : nh.length = 20) (l4 : Bytes) :
    Transport.checkUdp ⟨nh⟩ l4 true
      = if UdpBadLength (some (nh, l4)) then .error .badLength
        else if (l4.byte 6 = 0 ∧ l4.byte 7 = 0) ∨ ringSum (covered nh l4 (l4.be16 4)) = 0xFFFF then
          .ok ()
        else .error .badChecksum := by
  rw [← Ipv4Header.front_eq hlen]
  split
  · next hbad => exact checkUdp_of_badLength _ hbad
  · next hgood =>
      obtain ⟨hl, hcheck⟩ := checkUdp_of_lengths (.front nh) true hgood
      have hsent := UdpHeader.hasChecksum_front l4
      rw [hcheck, sumVerifies_covered hlen hl]
      by_cases hzero : l4.byte 6 = 0 ∧ l4.byte 7 = 0
      · have hnone : (UdpHeader.front l4).hasChecksum = false :=
          Bool.eq_false_iff.mpr fun hsome => hsent.mp hsome hzero
        simp [hnone, hzero]
      · have hsome : (UdpHeader.front l4).hasChecksum = true := hsent.mpr hzero
        simp only [hsome, hzero, Bool.true_and, false_or]
        by_cases hvalid : ringSum (covered nh l4 (l4.be16 4)) = 0xFFFF
        · simp [hvalid]
        · simp [hvalid]

/-! ## Lengths -/

/-- A flip in the lower half of a byte leaves the upper half. -/
theorem high_xor_bitMask (x : UInt8) (hbit : bit.val < 4) :
    (x ^^^ bitMask bit).toNat / 16 = x.toNat / 16 := by
  have hweight : 2 ^ bit.val / 2 ^ 4 = 0 :=
    Nat.div_eq_of_lt (Nat.pow_lt_pow_right (by decide) hbit)
  calc (x ^^^ bitMask bit).toNat / 16
      _ = (x.toNat ^^^ 2 ^ bit.val) / 2 ^ 4 := by rw [toNat_xor_bitMask]; rfl
      _ = x.toNat / 2 ^ 4 ^^^ 2 ^ bit.val / 2 ^ 4 := Nat.xor_div_two_pow
      _ = x.toNat / 16 := by rw [hweight, Nat.xor_zero]

/-- Only the upper half of byte 12 gives the data offset. -/
theorem tcpOffset_flipBit (hlen : 20 ≤ l4.length) (h : ¬ (i = 12 ∧ 4 ≤ bit.val)) :
    tcpOffset (l4.flipBit i bit) = tcpOffset l4 := by
  unfold tcpOffset
  by_cases hi : i = 12
  · have hbit : bit.val < 4 := by omega
    subst hi
    rw [Bytes.byte_flipBit_self (by omega), high_xor_bitMask _ hbit]
  · rw [Bytes.byte_flipBit_of_ne hi]

theorem tcpLength_flipBit (h₀ : i ≠ 0) (h₂ : i ≠ 2) (h₃ : i ≠ 3) :
    tcpLength (nh.flipBit i bit) = tcpLength nh := by
  rw [tcpLength, tcpLength, Bytes.byte_flipBit_of_ne h₀, Bytes.be16_flipBit_of_ne h₂ h₃]

theorem tcpBadLength_congr (hclaimed : tcpLength nh' = tcpLength nh) (hlen : l4'.length = l4.length)
    (hoffset : tcpOffset l4' = tcpOffset l4) :
    TcpBadLength (some (nh', l4')) ↔ TcpBadLength (some (nh, l4)) := by
  simp only [TcpBadLength, hclaimed, hlen, hoffset]

theorem udpBadLength_congr (hlen : l4'.length = l4.length) (hfield : l4'.be16 4 = l4.be16 4) :
    UdpBadLength (some (nh', l4')) ↔ UdpBadLength (some (nh, l4)) := by
  simp only [UdpBadLength, hlen, hfield]

/-! ## Headers -/

namespace Ipv4Header

/-- The header with one bit flipped. -/
def flipBit (ip : Ipv4Header) (i : Nat) (bit : Fin 8) : Ipv4Header := ⟨ip.bytes.flipBit i bit⟩

/-- The length of the segment behind the header, as the header claims it. -/
def segmentLength (ip : Ipv4Header) : Nat := ip.totalLength - ip.headerLength

/-- The positions of the protocol number and of the addresses. -/
def Covered (i : Nat) : Prop := i = 9 ∨ 12 ≤ i ∧ i < 20

/-- The positions of the service byte, the identification, the fragment field, the time to live and
the checksum of the header itself. -/
def Uncovered (i : Nat) : Prop := i = 1 ∨ 4 ≤ i ∧ i ≤ 8 ∨ i = 10 ∨ i = 11

end Ipv4Header

/-- What a flipped bit does to a TCP segment that passes its check. -/
structure TcpProtected (ip : Ipv4Header) (l4 : Bytes) : Prop where
  segment : ∀ i < ip.segmentLength, ∀ bit : Fin 8, ¬ (i = 12 ∧ 4 ≤ bit.val) →
    Transport.check .tcp ip (l4.flipBit i bit) true = .error .badChecksum
  /-- A flip in the data offset fails with the lengths, if it makes them disagree. -/
  offset : ∀ bit : Fin 8, 4 ≤ bit.val →
    Transport.check .tcp ip (l4.flipBit 12 bit) true
      = if tcpOffset (l4.flipBit 12 bit) < 20
            ∨ ip.segmentLength < tcpOffset (l4.flipBit 12 bit) then
          .error .badLength
        else .error .badChecksum
  header : ∀ i, Ipv4Header.Covered i → ∀ bit,
    Transport.check .tcp (ip.flipBit i bit) l4 true = .error .badChecksum
  behind : ∀ i, ip.segmentLength ≤ i → ∀ bit,
    Transport.check .tcp ip (l4.flipBit i bit) true = .ok ()
  uncovered : ∀ i, Ipv4Header.Uncovered i → ∀ bit,
    Transport.check .tcp (ip.flipBit i bit) l4 true = .ok ()

/-- What a flipped bit does to a UDP datagram that passes its check and has a checksum. -/
structure UdpProtected (ip : Ipv4Header) (l4 : Bytes) : Prop where
  segment : ∀ i < l4.be16 4, i < 4 ∨ 8 ≤ i → ∀ bit,
    Transport.check .udp ip (l4.flipBit i bit) true = .error .badChecksum
  /-- A flip in the checksum may leave the field that says that none was sent. -/
  field : ∀ i, i = 6 ∨ i = 7 → ∀ bit,
    Transport.check .udp ip (l4.flipBit i bit) true
      = if (l4.flipBit i bit).byte 6 = 0 ∧ (l4.flipBit i bit).byte 7 = 0 then .ok ()
        else .error .badChecksum
  header : ∀ i, Ipv4Header.Covered i → ∀ bit,
    Transport.check .udp (ip.flipBit i bit) l4 true = .error .badChecksum

/-! ## TCP -/

theorem checkTcp_ok_iff (hlen : nh.length = 20) :
    Transport.checkTcp ⟨nh⟩ l4 true = .ok ()
      ↔ ¬ TcpBadLength (some (nh, l4)) ∧ ringSum (covered nh l4 (tcpLength nh).toNat) = 0xFFFF := by
  rw [checkTcp_verify hlen]
  by_cases hbad : TcpBadLength (some (nh, l4))
  · simp [hbad]
  · by_cases hvalid : ringSum (covered nh l4 (tcpLength nh).toNat) = 0xFFFF
    · simp [hbad, hvalid]
    · simp [hbad, hvalid]

theorem tcpProtected_of_ok (hlen : nh.length = 20)
    (hok : Transport.checkTcp ⟨nh⟩ l4 true = .ok ()) : TcpProtected ⟨nh⟩ l4 := by
  obtain ⟨hgood, hvalid⟩ := (checkTcp_ok_iff hlen).mp hok
  have hlengths := hgood
  simp only [TcpBadLength, not_or, Int.not_lt, Nat.not_lt] at hlengths
  obtain ⟨hneg, hshort, hsize, hoffset, hclaimed⟩ := hlengths
  have hsegment : (Ipv4Header.mk nh).segmentLength = (tcpLength nh).toNat := by
    rw [← Ipv4Header.front_eq hlen]
    exact (toNat_tcpLength hneg).2
  have hflipped : ∀ i bit, (nh.flipBit i bit).length = 20 := fun i bit =>
    Bytes.length_flipBit.trans hlen
  have hsum : ∀ i < (tcpLength nh).toNat, ∀ bit,
      ringSum (covered nh (l4.flipBit i bit) (tcpLength nh).toNat) ≠ 0xFFFF := fun i hi bit =>
    ringSum_ne_max (differByBit_segment hlen hi (by omega) bit) hvalid
  constructor
  case segment =>
    intro i hi bit hnibble
    rw [hsegment] at hi
    show Transport.checkTcp ⟨nh⟩ (l4.flipBit i bit) true = _
    have hsame : TcpBadLength (some (nh, l4.flipBit i bit)) ↔ TcpBadLength (some (nh, l4)) :=
      tcpBadLength_congr rfl Bytes.length_flipBit (tcpOffset_flipBit hshort hnibble)
    rw [checkTcp_verify hlen, if_neg (hsame.not.mpr hgood), if_neg (hsum i hi bit)]
  case offset =>
    intro bit hbit
    show Transport.checkTcp ⟨nh⟩ (l4.flipBit 12 bit) true = _
    have hbad : TcpBadLength (some (nh, l4.flipBit 12 bit))
        ↔ tcpOffset (l4.flipBit 12 bit) < 20
          ∨ (tcpLength nh).toNat < tcpOffset (l4.flipBit 12 bit) := by
      simp only [TcpBadLength, Bytes.length_flipBit]
      omega
    -- the sum fails whatever the offset says, but the lengths are looked at first
    rw [checkTcp_verify hlen, if_neg (hsum 12 (by omega) bit), hsegment]
    simp only [hbad]
  case header =>
    intro i hi bit
    show Transport.checkTcp ⟨nh.flipBit i bit⟩ l4 true = _
    have hplace : i = 9 ∨ 12 ≤ i ∧ i < 20 := hi
    have hlength : tcpLength (nh.flipBit i bit) = tcpLength nh :=
      tcpLength_flipBit (by omega) (by omega) (by omega)
    have hsame : TcpBadLength (some (nh.flipBit i bit, l4)) ↔ TcpBadLength (some (nh, l4)) :=
      tcpBadLength_congr hlength rfl rfl
    rw [checkTcp_verify (hflipped i bit), if_neg (hsame.not.mpr hgood), hlength,
      if_neg (ringSum_ne_max (differByBit_header hlen hi bit l4 _) hvalid)]
  case behind =>
    intro i hi bit
    rw [hsegment] at hi
    show Transport.checkTcp ⟨nh⟩ (l4.flipBit i bit) true = _
    have hsame : TcpBadLength (some (nh, l4.flipBit i bit)) ↔ TcpBadLength (some (nh, l4)) :=
      tcpBadLength_congr rfl Bytes.length_flipBit (tcpOffset_flipBit hshort (by omega))
    rw [checkTcp_verify hlen, if_neg (hsame.not.mpr hgood), covered, Bytes.take_flipBit_of_le hi,
      ← covered, if_pos hvalid]
  case uncovered =>
    intro i hi bit
    show Transport.checkTcp ⟨nh.flipBit i bit⟩ l4 true = _
    have hplace : i = 1 ∨ 4 ≤ i ∧ i ≤ 8 ∨ i = 10 ∨ i = 11 := hi
    have hlength : tcpLength (nh.flipBit i bit) = tcpLength nh :=
      tcpLength_flipBit (by omega) (by omega) (by omega)
    have hsame : TcpBadLength (some (nh.flipBit i bit, l4)) ↔ TcpBadLength (some (nh, l4)) :=
      tcpBadLength_congr hlength rfl rfl
    have hcovered : covered (nh.flipBit i bit) l4 (tcpLength nh).toNat
        = covered nh l4 (tcpLength nh).toNat := by
      rw [covered, covered, Bytes.slice_flipBit_of_notMem (by omega),
        Bytes.slice_flipBit_of_notMem (by omega), Bytes.byte_flipBit_of_ne (by omega)]
    rw [checkTcp_verify (hflipped i bit), if_neg (hsame.not.mpr hgood), hlength, hcovered,
      if_pos hvalid]

/-! ## UDP -/

theorem checkUdp_ok_iff (hlen : nh.length = 20) (hsent : ¬ (l4.byte 6 = 0 ∧ l4.byte 7 = 0)) :
    Transport.checkUdp ⟨nh⟩ l4 true = .ok ()
      ↔ ¬ UdpBadLength (some (nh, l4)) ∧ ringSum (covered nh l4 (l4.be16 4)) = 0xFFFF := by
  rw [checkUdp_verify hlen]
  by_cases hbad : UdpBadLength (some (nh, l4))
  · simp [hbad]
  · by_cases hvalid : ringSum (covered nh l4 (l4.be16 4)) = 0xFFFF
    · simp [hbad, hvalid]
    · simp [hbad, hvalid, hsent]

theorem udpProtected_of_ok (hlen : nh.length = 20) (hsent : ¬ (l4.byte 6 = 0 ∧ l4.byte 7 = 0))
    (hok : Transport.checkUdp ⟨nh⟩ l4 true = .ok ()) : UdpProtected ⟨nh⟩ l4 := by
  obtain ⟨hgood, hvalid⟩ := (checkUdp_ok_iff hlen hsent).mp hok
  have hlengths := hgood
  simp only [UdpBadLength, not_or, Nat.not_lt] at hlengths
  obtain ⟨hshort, hsize, hclaimed⟩ := hlengths
  have hsum : ∀ i < l4.be16 4, ∀ bit,
      ringSum (covered nh (l4.flipBit i bit) (l4.be16 4)) ≠ 0xFFFF := fun i hi bit =>
    ringSum_ne_max (differByBit_segment hlen hi hclaimed bit) hvalid
  -- the length field is only in bytes 4 and 5
  have hfield : ∀ i bit, i ≠ 4 → i ≠ 5 → (l4.flipBit i bit).be16 4 = l4.be16 4 := fun i bit h₄ h₅ =>
    Bytes.be16_flipBit_of_ne h₄ h₅
  have hsame : ∀ i bit, i ≠ 4 → i ≠ 5 →
      (UdpBadLength (some (nh, l4.flipBit i bit)) ↔ UdpBadLength (some (nh, l4))) :=
    fun i bit h₄ h₅ => udpBadLength_congr Bytes.length_flipBit (hfield i bit h₄ h₅)
  constructor
  case segment =>
    intro i hi hplace bit
    show Transport.checkUdp ⟨nh⟩ (l4.flipBit i bit) true = _
    have hstill : ¬ ((l4.flipBit i bit).byte 6 = 0 ∧ (l4.flipBit i bit).byte 7 = 0) := by
      rwa [Bytes.byte_flipBit_of_ne (by omega), Bytes.byte_flipBit_of_ne (by omega)]
    rw [checkUdp_verify hlen, if_neg ((hsame i bit (by omega) (by omega)).not.mpr hgood),
      hfield i bit (by omega) (by omega), if_neg (not_or.mpr ⟨hstill, hsum i hi bit⟩)]
  case field =>
    intro i hi bit
    show Transport.checkUdp ⟨nh⟩ (l4.flipBit i bit) true = _
    rw [checkUdp_verify hlen, if_neg ((hsame i bit (by omega) (by omega)).not.mpr hgood),
      hfield i bit (by omega) (by omega)]
    simp only [hsum i (by omega) bit, or_false]
  case header =>
    intro i hi bit
    show Transport.checkUdp ⟨nh.flipBit i bit⟩ l4 true = _
    have hgood' : ¬ UdpBadLength (some (nh.flipBit i bit, l4)) := hgood
    have hfails := ringSum_ne_max (differByBit_header hlen hi bit l4 _) hvalid
    rw [checkUdp_verify (Bytes.length_flipBit.trans hlen), if_neg hgood',
      if_neg (not_or.mpr ⟨hsent, hfails⟩)]

/-- **Single-bit errors.** Of a segment that passes with its checksum verified, every bit of the
segment, of the addresses and of the protocol number is protected: with it flipped the check fails,
and with the reason that the checksum is bad, but for the fields from which the length or the
absence of a checksum is read. The bits behind a TCP segment, and the rest of the IPv4 header but
for its lengths, may flip unnoticed. -/
theorem single_bit_errors (ip : Ipv4Header) (hip : ip.bytes.length = Ipv4Header.size) (l4 : Bytes) :
    (Transport.check .tcp ip l4 true = .ok () → TcpProtected ip l4)
      ∧ (Transport.check .udp ip l4 true = .ok () → ¬ (l4.byte 6 = 0 ∧ l4.byte 7 = 0) →
        UdpProtected ip l4) :=
  ⟨tcpProtected_of_ok hip, fun hok hsent => udpProtected_of_ok hip hsent hok⟩

/-! The segment with four bytes of payload and the datagram with three, the latter with its
checksum, each behind its IPv4 header. -/

def segmentHeader : Ipv4Header := ⟨segmentBytes.take 20⟩

def segmentRest : Bytes := segmentBytes.drop 20

def datagramHeader : Ipv4Header := ⟨unsummedBytes.take 20⟩

def datagramRest : Bytes := Bytes.overlay (unsummedBytes.drop 20) 6 [0x3C, 0xFB]

theorem single_bit_errors_segmentBytes :
    segmentHeader.bytes.length = Ipv4Header.size ∧ datagramHeader.bytes.length = Ipv4Header.size
      ∧ Transport.check .tcp segmentHeader segmentRest true = .ok ()
      ∧ Transport.check .udp datagramHeader datagramRest true = .ok ()
      ∧ ¬ (datagramRest.byte 6 = 0 ∧ datagramRest.byte 7 = 0)
      ∧ TcpProtected segmentHeader segmentRest ∧ UdpProtected datagramHeader datagramRest := by
  have hsegment : segmentHeader.bytes.length = Ipv4Header.size := by decide
  have hdatagram : datagramHeader.bytes.length = Ipv4Header.size := by decide
  have hsent : ¬ (datagramRest.byte 6 = 0 ∧ datagramRest.byte 7 = 0) := by decide
  have htcp : Transport.check .tcp segmentHeader segmentRest true = .ok () := by
    show Transport.checkTcp ⟨segmentHeader.bytes⟩ segmentRest true = .ok ()
    exact (checkTcp_ok_iff hsegment).mpr (by decide)
  have hudp : Transport.check .udp datagramHeader datagramRest true = .ok () := by
    show Transport.checkUdp ⟨datagramHeader.bytes⟩ datagramRest true = .ok ()
    exact (checkUdp_ok_iff hdatagram hsent).mpr (by decide)
  exact ⟨hsegment, hdatagram, htcp, hudp, hsent, (single_bit_errors _ hsegment _).1 htcp,
    (single_bit_errors _ hdatagram _).2 hudp hsent⟩

end PacketPath
