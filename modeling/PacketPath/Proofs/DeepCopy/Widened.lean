import PacketPath.Proofs.Bytes
import PacketPath.Proofs.DeepCopy.Standing

set_option autoImplicit false

/-! # Wider buffers

A buffer that is copied keeps its bytes and gets zeros around them (`Owned.widened`). What a packet
becomes when room is made for it can be told without asking whether there was a copy: zeros were put
around its bytes, possibly none.

Whatever the size of its buffer, what is done to a packet with success is what is done to one with a
buffer of its own (`Resizing.resize_eq_ok`).
-/

namespace PacketPath

namespace Owned

variable {o o' : Owned} {front back n pos : Nat} {patch : Bytes}

/-- The packet in a wider buffer, with zeros around the bytes that there were. -/
def widened (o : Owned) (front back : Nat) : Owned :=
  { o with
    bytes := Bytes.zeros front ++ o.bytes ++ Bytes.zeros back
    frame := o.frame.shift front }

/-- A buffer is widened exactly if its size is permitted then, and refused with that size
otherwise. -/
theorem grow_eq (o : Owned) (front back : Nat) :
    o.grow front back
      = if front + o.bytes.length + back ≤ maxBuffer then .ok (o.widened front back)
        else .error (.alloc (.tooLarge (saturate (front + o.bytes.length + back)))) := by
  rw [grow, allocationSize_three]
  by_cases h : front + o.bytes.length + back ≤ maxBuffer
  · simp only [if_pos h]
    rfl
  · simp only [if_neg h]

theorem eq_widened_of_grow (hg : o.grow front back = .ok o') : o' = o.widened front back := by
  rw [grow_eq] at hg
  split at hg
  · exact (Except.ok.inj hg).symm
  · cases hg

@[simp] theorem widened_zero (o : Owned) : o.widened 0 0 = o := by
  simp only [widened, Frame.shift_zero, Bytes.zeros, List.replicate_zero, List.nil_append,
    List.append_nil]

/-! ## Room that was made -/

theorem push_eq_ok (ho : o.push n = .ok o') :
    ∃ extra, n ≤ o.frame.start + extra ∧ o' = (o.widened extra 0).openFront n := by
  unfold push at ho
  split at ho
  · next hn =>
    cases ho
    exact ⟨0, hn, by rw [widened_zero]⟩
  · obtain ⟨grown, hg, rfl⟩ := map_eq_ok ho
    have hroom : n ≤ grown.frame.start := le_start_of_grow hg
    obtain rfl := eq_widened_of_grow hg
    exact ⟨growth n, hroom, rfl⟩

theorem put_eq_ok (ho : o.put n = .ok o') : ∃ extra, o' = (o.widened 0 extra).openBack n := by
  unfold put at ho
  split at ho
  · cases ho
    exact ⟨0, by rw [widened_zero]⟩
  · obtain ⟨grown, hg, rfl⟩ := map_eq_ok ho
    obtain rfl := eq_widened_of_grow hg
    exact ⟨growth n, rfl⟩

/-! ## Bytes that were written -/

theorem write_data_eq_ok (hw : o.write .data pos patch = .ok o') :
    pos + patch.length ≤ o.frame.stop - o.frame.start
      ∧ o' = { o with bytes := o.bytes.overlay (o.frame.start + pos) patch } := by
  unfold write at hw
  split at hw
  · cases hw
  · simp only [Frame.span?] at hw
    split at hw
    · next hroom => exact ⟨hroom, (Except.ok.inj hw).symm⟩
    · cases hw

theorem patched_eq_ok {r : Except ResizeError Owned} (ho : patched r pos patch = .ok o') :
    ∃ o, r = .ok o ∧ pos + patch.length ≤ o.frame.stop - o.frame.start
      ∧ o' = { o with
        bytes := o.bytes.overlay (o.frame.start + pos) patch
        writable := false } := by
  unfold patched at ho
  split at ho
  · cases ho
  · next o =>
    split at ho
    · next written hwrite =>
      obtain ⟨hroom, rfl⟩ := write_data_eq_ok hwrite
      exact ⟨o, rfl, hroom, (Except.ok.inj ho).symm⟩
    · cases ho

end Owned

/-! ## Operations that succeeded -/

section

variable {p : Pool} {h : Handle} {others : List Handle} {o : Owned}

/-- What is written into a packet is written into it as if it had a buffer of its own, where the
memory for a copy was not refused. -/
theorem Pool.patched_of_ok {r : Resized} {expected : Except ResizeError Owned} {pos : Nat}
    {patch : Bytes} (hs : r.1.Sound (Resized.survivors r others))
    (hr : Resized.owned r = expected ∨ Pool.Refused r)
    (ho : Resized.owned (Pool.overwriteData r pos patch) = .ok o) :
    Owned.patched expected pos patch = .ok o := by
  rw [Pool.overwriteData_owned hs] at ho
  rcases hr with hr | ⟨e, hr⟩
  · rwa [hr] at ho
  · rw [hr] at ho
    cases ho

/-- Room that was made is what would have been made for a packet with a buffer of its own. -/
theorem Resizing.makesRoom_eq_ok (hs : p.Sound (h :: others)) {how : Resizing}
    (hr : how.makesRoom = true) (ho : Resized.owned (how.apply p h) = .ok o) :
    (p.owned h).resize how = .ok o := by
  rcases Resizing.makesRoom_owned hs hr with hown | ⟨e, he⟩
  · rwa [← hown]
  · rw [he] at ho
    cases ho

theorem Pool.overwrite_eq_ok (hs : p.Sound (h :: others)) {pos : Nat} {patch : Bytes}
    (ho : Resized.owned (p.overwrite h pos patch) = .ok o) :
    Owned.patched (.ok ((p.owned h).setWritable true)) pos patch = .ok o := by
  have hroom : Resizing.uniqueify.makesRoom = true := rfl
  have howned := Resizing.makesRoom_owned hs hroom
  have hown := uniqueify_leaves hs
  exact patched_of_ok hown.sound howned ho

/-- In a buffer of any size, an operation that succeeds does what it does to a packet with a buffer
of its own. -/
theorem Resizing.resize_eq_ok (hs : p.Sound (h :: others)) {how : Resizing}
    (ho : Resized.owned (how.apply p h) = .ok o) : (p.owned h).resize how = .ok o := by
  cases how with
  | encapsulate =>
      have hroom : (Resizing.push ethernetHeader.length).makesRoom = true := rfl
      have howned := Resizing.makesRoom_owned hs hroom
      have hpush := Pool.push_leaves hs ethernetHeader.length
      rw [Resizing.apply, Pool.encapsulate_eq] at ho
      exact Pool.patched_of_ok hpush.sound howned ho
  | flipBit offset bit =>
      rw [Resizing.apply, Pool.flipBit] at ho
      rw [Owned.resize]
      by_cases hbit : bit < 8
      · rw [if_pos hbit] at ho ⊢
        exact Pool.overwrite_eq_ok hs ho
      · rw [if_neg hbit] at ho
        cases hr : p.uniqueify h with
        | mk q r =>
          rw [hr] at ho
          cases r <;> cases ho
  | overwrite position bytes => exact Pool.overwrite_eq_ok hs ho
  | _ => exact Resizing.makesRoom_eq_ok hs rfl ho

end

namespace Session

variable {s : Session} {packet : String} {o : Owned}

/-- An operation that succeeded, on what the packet stands for. -/
theorem StandsFor.resize_of_moved (hp : s.StandsFor packet o) (hs : s.Sound) {how : Resizing}
    {elsewhere : Option Bool} (hmoved : (s.step (.resize packet how)).2 = .moved elsewhere) :
    ∃ o', o.resize how = .ok o' ∧ (s.step (.resize packet how)).1.StandsFor packet o' := by
  obtain ⟨h, hf, rfl⟩ := hp
  rcases happly : how.apply s.pool h with ⟨q, e | g⟩
  · simp only [Session.step, Session.resize, withPacket_some hf, happly] at hmoved
    cases e <;> cases hmoved
  · have ho : Resized.owned (how.apply s.pool h) = .ok (q.owned g) := by rw [happly]; rfl
    exact ⟨q.owned g, how.resize_eq_ok (hs.focus hf) ho, standsFor_resize hf ho⟩

end Session

end PacketPath
