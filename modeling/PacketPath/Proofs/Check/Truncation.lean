import PacketPath.Proofs.Bytes
import PacketPath.Proofs.Check.Datagram

set_option autoImplicit false

/-! # Verdicts on more or fewer bytes

The headers of a datagram claim a length for its segment (`Transport.claimedLength`). A verdict that
finds the lengths in order is told from that many bytes, so it stays when more bytes come behind
them (`Transport.Complete`). When the end is cut off, it stays as long as the network header and the
claimed bytes are there, and is lost in one of two ways otherwise (`classify_truncated`).
-/

namespace PacketPath

/-- Verdicts for the same ranked reasons are the same. -/
theorem Ranked.eq_of_iff {v v' : Except DropReason Unit} {A B C A' B' C' : Prop}
    (h : Ranked v A B C) (h' : Ranked v' A' B' C') (hA : A ↔ A') (hB : B ↔ B') (hC : C ↔ C') :
    v = v' := by
  by_cases hA₀ : A
  · rw [h.notProtocol_iff.mpr hA₀, h'.notProtocol_iff.mpr (hA.mp hA₀)]
  by_cases hB₀ : B
  · rw [h.badLength_iff.mpr ⟨hA₀, hB₀⟩, h'.badLength_iff.mpr ⟨hA.not.mp hA₀, hB.mp hB₀⟩]
  by_cases hC₀ : C
  · rw [h.badChecksum_iff.mpr ⟨hA₀, hB₀, hC₀⟩,
      h'.badChecksum_iff.mpr ⟨hA.not.mp hA₀, hB.not.mp hB₀, hC.mp hC₀⟩]
  · rw [h.ok_iff.mpr ⟨hA₀, hB₀, hC₀⟩,
      h'.ok_iff.mpr ⟨hA.not.mp hA₀, hB.not.mp hB₀, hC.not.mp hC₀⟩]

namespace Transport

/-! ## Either protocol -/

/-- The length that the headers claim for a segment: a TCP segment is what the IPv4 header leaves
for it, and a UDP datagram has a length field of its own. -/
def claimedLength : Transport → Bytes → Bytes → Int
  | tcp, nh, _ => tcpLength nh
  | udp, _, l4 => l4.be16 4

def BadLength : Transport → Option (Bytes × Bytes) → Prop
  | tcp => TcpBadLength
  | udp => UdpBadLength

def BadSum : Transport → Option (Bytes × Bytes) → Prop
  | tcp => TcpBadSum
  | udp => UdpBadSum

theorem ranked (t : Transport) (verify : Bool) (views : Option (Bytes × Bytes)) :
    Ranked (t.classify verify views) (NotCarried t.protocol.number views) (t.BadLength views)
      (verify = true ∧ t.BadSum views) := by
  cases t with
  | tcp => exact classify_tcp verify views
  | udp => exact classify_udp verify views

/-- The bytes are there that a verdict on the contents of a datagram is told from. -/
structure Complete (t : Transport) (nh l4 : Bytes) : Prop where
  network : 20 ≤ nh.length
  header : (t.headerSize : Int) ≤ t.claimedLength nh l4
  claimed : t.claimedLength nh l4 ≤ l4.length

variable {t : Transport} {nh nh' l4 l4' : Bytes} {verify : Bool}

theorem complete_of_lengths (hcarried : ¬ NotCarried t.protocol.number (some (nh, l4)))
    (hlengths : ¬ t.BadLength (some (nh, l4))) : t.Complete nh l4 := by
  have hnetwork : 20 ≤ nh.length := (classify_of_carried false hcarried).1
  cases t with
  | tcp =>
      simp only [BadLength, TcpBadLength, not_or, Int.not_lt, Nat.not_lt] at hlengths
      obtain ⟨-, -, hsize, hoffset, hclaimed⟩ := hlengths
      have hheader : ((20 : Nat) : Int) ≤ tcpLength nh := by omega
      exact ⟨hnetwork, hheader, hclaimed⟩
  | udp =>
      simp only [BadLength, UdpBadLength, not_or, Nat.not_lt] at hlengths
      obtain ⟨-, hheader, hclaimed⟩ := hlengths
      exact ⟨hnetwork, Int.ofNat_le.mpr hheader, Int.ofNat_le.mpr hclaimed⟩

/-- The verdicts on the contents of a datagram. -/
def OnContents (v : Except DropReason Unit) : Prop := v = .ok () ∨ v = .error .badChecksum

/-- Such a verdict is reached with the lengths in order. -/
theorem lengths_of_onContents {views : Option (Bytes × Bytes)}
    (h : OnContents (t.classify verify views)) :
    ¬ NotCarried t.protocol.number views ∧ ¬ t.BadLength views := by
  rcases h with h | h
  · obtain ⟨hcarried, hlengths, -⟩ := (t.ranked verify views).ok_iff.mp h
    exact ⟨hcarried, hlengths⟩
  · obtain ⟨hcarried, hlengths, -⟩ := (t.ranked verify views).badChecksum_iff.mp h
    exact ⟨hcarried, hlengths⟩

theorem complete_of_onContents {views : Option (Bytes × Bytes)}
    (h : OnContents (t.classify verify views)) :
    ∃ nh l4, views = some (nh, l4) ∧ t.Complete nh l4 := by
  obtain ⟨hcarried, hlengths⟩ := lengths_of_onContents h
  cases views with
  | none => exact absurd trivial hcarried
  | some v => exact ⟨v.1, v.2, rfl, complete_of_lengths hcarried hlengths⟩

/-! ## Bytes behind -/

section

variable (hnh : nh <+: nh') (hl4 : l4 <+: l4')

include hnh

theorem tcpLength_of_isPrefix (hlen : 20 ≤ nh.length) : tcpLength nh' = tcpLength nh := by
  rw [tcpLength, tcpLength, Bytes.be16_of_isPrefix hnh (by omega),
    Bytes.byte_of_isPrefix hnh (by omega)]

theorem notCarried_of_isPrefix {number : UInt8} (hlen : 20 ≤ nh.length) :
    NotCarried number (some (nh', l4')) ↔ NotCarried number (some (nh, l4)) := by
  have hlen' : 20 ≤ nh'.length := hlen.trans hnh.length_le
  simp only [NotCarried, Bytes.byte_of_isPrefix hnh (show 0 < nh.length by omega),
    Bytes.byte_of_isPrefix hnh (show 9 < nh.length by omega), Nat.not_lt.mpr hlen,
    Nat.not_lt.mpr hlen', false_or]

include hl4

theorem claimedLength_of_isPrefix (hlen : 20 ≤ nh.length) (hheader : t.headerSize ≤ l4.length) :
    t.claimedLength nh' l4' = t.claimedLength nh l4 := by
  cases t with
  | tcp => exact tcpLength_of_isPrefix hnh hlen
  | udp =>
      have hfield : 4 + 1 < l4.length := Nat.lt_of_lt_of_le (by decide) hheader
      exact congrArg Nat.cast (Bytes.be16_of_isPrefix hl4 hfield)

theorem sumFails_of_isPrefix {number : UInt8} {length : Nat} (hlen : 20 ≤ nh.length)
    (hl : length ≤ l4.length) :
    SumFails number nh' l4' length ↔ SumFails number nh l4 length := by
  rw [SumFails, SumFails, Bytes.slice_of_isPrefix hnh (show 16 ≤ nh.length by omega),
    Bytes.slice_of_isPrefix hnh hlen, Bytes.take_of_isPrefix hl4 hl]

/-- More bytes behind a complete datagram do not change the verdict on it. -/
theorem Complete.classify_of_isPrefix (h : t.Complete nh l4) :
    t.classify verify (some (nh', l4')) = t.classify verify (some (nh, l4)) := by
  obtain ⟨hlen, hheader, hclaimed⟩ := h
  have hlonger := hl4.length_le
  cases t with
  | tcp =>
      have hsize : (20 : Int) ≤ tcpLength nh := hheader
      have hclaimed : tcpLength nh ≤ l4.length := hclaimed
      have hlength := tcpLength_of_isPrefix hnh hlen
      have hoffset : tcpOffset l4' = tcpOffset l4 := by
        rw [tcpOffset, tcpOffset, Bytes.byte_of_isPrefix hl4 (by omega)]
      refine (classify_tcp verify _).eq_of_iff (classify_tcp verify _)
        (notCarried_of_isPrefix hnh hlen) ?_ ?_
      · simp only [TcpBadLength, hlength, hoffset]
        omega
      · simp only [TcpBadSum, hlength]
        rw [sumFails_of_isPrefix hnh hl4 hlen (by omega)]
  | udp =>
      have hsize : ((8 : Nat) : Int) ≤ (l4.be16 4 : Nat) := hheader
      have hclaimed : ((l4.be16 4 : Nat) : Int) ≤ l4.length := hclaimed
      have hlength : l4'.be16 4 = l4.be16 4 := Bytes.be16_of_isPrefix hl4 (by omega)
      have hsent : ∀ i, i < 8 → l4'.byte i = l4.byte i := fun i hi =>
        Bytes.byte_of_isPrefix hl4 (by omega)
      refine (classify_udp verify _).eq_of_iff (classify_udp verify _)
        (notCarried_of_isPrefix hnh hlen) ?_ ?_
      · simp only [UdpBadLength, hlength]
        omega
      · simp only [UdpBadSum, hlength, hsent 6 (by omega), hsent 7 (by omega)]
        rw [sumFails_of_isPrefix hnh hl4 hlen (by omega)]

/-! ## Bytes cut off -/

/-- Where fewer bytes than are claimed are left, the length is bad. -/
theorem badLength_of_claimed (hlen : 20 ≤ nh.length)
    (hclaimed : ¬ t.claimedLength nh' l4' ≤ l4.length) : t.BadLength (some (nh, l4)) := by
  cases t with
  | tcp =>
      have hshort : (l4.length : Int) < tcpLength nh := by
        rw [← tcpLength_of_isPrefix hnh hlen]
        exact Int.not_le.mp hclaimed
      exact .inr (.inr (.inr (.inr hshort)))
  | udp =>
      by_cases hheader : l4.length < 8
      · exact .inl hheader
      · have hshort : l4.length < l4.be16 4 := by
          rw [← Bytes.be16_of_isPrefix hl4 (by omega)]
          exact Nat.not_le.mp fun hle => hclaimed (Int.ofNat_le.mpr hle)
        exact .inr (.inr hshort)

/-- The verdict on what is left of a datagram after bytes were cut off behind it. -/
theorem classify_truncated (h : OnContents (t.classify verify (some (nh', l4')))) :
    t.classify verify (some (nh, l4))
      = if nh.length < 20 then .error .notProtocol
        else if t.claimedLength nh' l4' ≤ l4.length then t.classify verify (some (nh', l4'))
        else .error .badLength := by
  obtain ⟨hcarried, hlengths⟩ := lengths_of_onContents h
  obtain ⟨-, hheader, -⟩ := complete_of_lengths hcarried hlengths
  by_cases hshort : nh.length < 20
  · rw [if_pos hshort]
    exact classify_of_notCarried (.inl hshort)
  have hlen : 20 ≤ nh.length := Nat.not_lt.mp hshort
  rw [if_neg hshort]
  by_cases hclaimed : t.claimedLength nh' l4' ≤ l4.length
  · -- what is claimed is left, and is claimed as before
    have hsame := claimedLength_of_isPrefix (t := t) hnh hl4 hlen (by omega)
    have hcomplete : t.Complete nh l4 := ⟨hlen, hsame ▸ hheader, hsame ▸ hclaimed⟩
    rw [if_pos hclaimed, hcomplete.classify_of_isPrefix hnh hl4]
  · rw [if_neg hclaimed]
    have hbad : t.BadLength (some (nh, l4)) := badLength_of_claimed hnh hl4 hlen hclaimed
    exact (t.ranked verify _).badLength_iff.mpr
      ⟨(notCarried_of_isPrefix hnh hlen).not.mp hcarried, hbad⟩

end

end Transport

end PacketPath
