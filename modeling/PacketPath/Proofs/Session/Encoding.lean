import PacketPath.Proofs.Header.Encoding
import PacketPath.Proofs.Session.Sound

set_option autoImplicit false

/-! # Sessions with other encoders

Nothing in a session depends on the encoder, as long as that is a documented one: a run with it is the
run with the standard encoder. So what is known of sessions in the standard environment is known of
those with any documented encoder (`Session.run_ofEncoder`).
-/

namespace PacketPath

variable {e : Encoder}

namespace Pool

variable {p q : Pool} {h g : Handle} {others : List Handle} {r : Resized}

theorem make_ofEncoder (he : e.Documented) (p : Pool) (source : Source) :
    p.make source (.ofEncoder e) = p.make source := by
  cases source with
  | tcp flow payload =>
      show make.orFault ((flow.tcpPacket payload e).bind _) = _
      rw [flow.tcpPacket_standard he]
      rfl
  | udp flow payload =>
      show make.orFault ((flow.udpPacket payload e).bind _) = _
      rw [flow.udpPacket_standard he]
      rfl
  | _ => rfl

/-! ## Encapsulation -/

theorem reframe_eq_ok {f : Pool → Handle → Option Frame} (hr : reframe r f = (q, .ok g)) :
    ∃ k frame, r = (q, .ok k) ∧ f q k = some frame ∧ g = { k with frame := frame } := by
  obtain ⟨q', e | k⟩ := r
  · cases hr
  · unfold reframe at hr
    simp only at hr
    split at hr
    · next frame hframe =>
      cases hr
      exact ⟨k, frame, rfl, hframe, rfl⟩
    · cases hr

/-- A window that was moved to the front by `n` spans `n` bytes at least. -/
theorem le_length_of_expandFront {n : Nat} (hr : r.Leaves p h others)
    (hg : expandFront n r = (q, .ok g)) : n ≤ g.frame.stop - g.frame.start := by
  obtain ⟨k, frame, rfl, hframe, rfl⟩ := reframe_eq_ok hg
  have hk : k.frame.Fits (q.limit k) := hr.sound.fits k List.mem_cons_self
  have hordered := hk.1
  unfold Frame.expandFront? at hframe
  split at hframe
  · next hroom =>
    cases hframe
    simp only
    omega
  · cases hframe

/-- Where room was made in front, the data starts with as many bytes. -/
theorem length_dataFront_push (hs : p.Sound (h :: others)) {n : Nat}
    (hr : p.push h n = (q, .ok g)) : (dataFront (p.push h n) n).length = n := by
  have hleaves := push_leaves hs n
  rw [hr] at hleaves
  have hfits : g.frame.Fits (q.limit g) := hleaves.sound.fits g List.mem_cons_self
  have hmoved : n ≤ g.frame.stop - g.frame.start := by
    unfold push at hr
    split at hr
    · exact le_length_of_expandFront (uniqueify_leaves hs) hr
    · exact le_length_of_expandFront (relocate_leaves hs (growth n) 0) hr
  have hview : (q.view? g .data).getD [] = (q.bytes g.buffer).slice g.frame.start g.frame.stop := rfl
  rw [hr]
  show (((q.view? g .data).getD []).take n).length = n
  rw [hview, List.length_take, Bytes.length_slice hfits.2.1, Nat.min_eq_left hmoved]

theorem encapsulate_ofEncoder (he : e.Documented) (hs : p.Sound (h :: others)) :
    p.encapsulate h (.ofEncoder e) = p.encapsulate h := by
  show overwriteData (p.push h ethernetHeaderSize) 0
    (setEthernetHeader e (dataFront (p.push h ethernetHeaderSize) ethernetHeaderSize)) = _
  cases hr : p.push h ethernetHeaderSize with
  | mk q outcome =>
    cases outcome with
    | error cause =>
        rw [encapsulate_eq]
        show _ = overwriteData (p.push h ethernetHeaderSize) 0 ethernetHeader
        rw [hr]
        rfl
    | ok g =>
        have hlen := length_dataFront_push hs hr
        rw [← hr, (he.setEthernetHeader_alike _ (Nat.le_of_eq hlen.symm)).1]
        rfl

end Pool

theorem Resizing.apply_ofEncoder {p : Pool} {h : Handle} {others : List Handle}
    (he : e.Documented) (hs : p.Sound (h :: others)) (how : Resizing) :
    how.apply p h (.ofEncoder e) = how.apply p h := by
  cases how with
  | encapsulate => exact Pool.encapsulate_ofEncoder he hs
  | _ => rfl

namespace Session

variable {s : Session}

theorem resize_ofEncoder (he : e.Documented) (hs : s.Sound) (packet : String) (how : Resizing) :
    s.resize packet how (.ofEncoder e) = s.resize packet how := by
  unfold resize
  cases hf : s.packets.find? packet with
  | none => rw [withPacket_none hf, withPacket_none hf]
  | some h =>
      rw [withPacket_some hf, withPacket_some hf]
      simp only [how.apply_ofEncoder he (hs.focus hf)]

/-- **No step depends on the encoder**, if it is a documented one. -/
theorem step_ofEncoder (he : e.Documented) (hs : s.Sound) (c : Command) :
    s.step c (.ofEncoder e) = s.step c := by
  cases c with
  | make target source =>
      show s.make target source (.ofEncoder e) = s.make target source
      unfold make
      rw [Pool.make_ofEncoder he]
  | resize packet how => exact resize_ofEncoder he hs packet how
  | _ => rfl

theorem run_ofEncoder (he : e.Documented) (hs : s.Sound) (cs : List Command) :
    s.run cs (.ofEncoder e) = s.run cs := by
  induction cs generalizing s with
  | nil => rfl
  | cons c cs ih =>
      rw [run, run, step_ofEncoder he hs]
      exact ih (hs.step c)

end Session

end PacketPath
