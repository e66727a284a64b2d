import PacketPath.Proofs.Pool.Sound
import PacketPath.Session.Command

set_option autoImplicit false

/-! # Resizing keeps the account

An operation that takes a handle gives back another one, or none if it fails. Either way the pool
accounts for what is left, and the handles that the operation was not given see no difference
(`Resized.Leaves`). The operations are composed of a few steps (`relocate`, `reframe`, `demote`,
`overwriteData`), and so are the proofs.
-/

namespace PacketPath

/-- The live handles after an operation has taken one handle out of the others. -/
def Resized.survivors (r : Resized) (others : List Handle) : List Handle :=
  match r.2 with
  | .ok h => h :: others
  | .error _ => others

/-- What becomes of the handle `h` among others in the pool `p`. -/
structure Resized.Leaves (r : Resized) (p : Pool) (h : Handle) (others : List Handle) : Prop where
  sound : r.1.Sound (Resized.survivors r others)
  keeps : p.Keeps r.1 others
  /-- The handle is on its buffer as it was, or an original on the next one. -/
  placed : ∀ g, r.2 = .ok g →
    (g.buffer = h.buffer ∧ g.cloned = h.cloned) ∨ (g.buffer = p.next ∧ g.cloned = false)
  /-- A buffer that has grown is still of a permitted size. -/
  limit_le : ∀ g, r.2 = .ok g → r.1.limit g ≤ max (p.limit h) maxBuffer

namespace Pool

variable {p q : Pool} {h g : Handle} {others : List Handle} {r : Resized}

theorem leaves_self (hs : p.Sound (g :: others)) (hb : g.buffer = h.buffer)
    (hc : g.cloned = h.cloned) : Resized.Leaves (p, .ok g) p h others := by
  refine ⟨hs, Keeps.refl p others, fun k hk => ?_, fun k hk => ?_⟩
  · cases hk
    exact .inl ⟨hb, hc⟩
  · cases hk
    rw [Pool.limit, hb]
    exact Nat.le_max_left _ _

/-- A handle that is given up in the middle of an operation. -/
theorem leaves_release {e : ResizeError} (hs : q.Sound (g :: others)) (hk : p.Keeps q others) :
    Resized.Leaves (q.release g.buffer, .error e) p h others := by
  refine ⟨hs.release, hk.trans hs.keeps_release, fun k he => ?_, fun k he => ?_⟩
  · cases he
  · cases he

/-! ## The steps -/

theorem relocate_leaves (hs : p.Sound (h :: others)) (front back : Nat) :
    Resized.Leaves (p.relocate h front back) p h others := by
  have hfits : h.frame.Fits (p.bytes h.buffer).length := hs.fits h List.mem_cons_self
  unfold relocate
  simp only
  split
  · exact leaves_release hs (Keeps.refl p others)
  · next size hsize =>
    obtain ⟨-, hle⟩ := Environment.room_eq_ok hsize
    simp only [total] at hle
    set bytes := Bytes.zeros front ++ p.bytes h.buffer ++ Bytes.zeros back with hbytes
    have hlen : bytes.length = front + (p.bytes h.buffer).length + back := by
      simp only [hbytes, List.length_append, Bytes.length_zeros]
    -- the handle is on both buffers for a moment
    have hboth : (p.add bytes .heap).1.Sound
        ({ h with
            buffer := p.next, frame := h.frame.shift front, cloned := false, writable := true }
          :: h :: others) := by
      refine hs.add rfl rfl ?_ fun _ => ?_
      · rw [hlen]
        exact hfits.shift
      · rw [hlen]
        omega
    have hold : (p.add bytes .heap).1.Sound (h :: _ :: others) := hboth.perm (.swap _ _ _)
    refine ⟨hold.release, fun g hg => ?_, fun g hg => ?_, fun g hg => ?_⟩
    · rw [hold.keeps_release g (List.mem_cons_of_mem _ hg)]
      exact hs.keeps_add _ _ g (List.mem_cons_of_mem _ hg)
    · cases hg
      exact .inr ⟨rfl, rfl⟩
    · cases hg
      have hnew : ((p.add bytes .heap).1.release h.buffer).bytes p.next = bytes := by
        rw [hold.keeps_release _ List.mem_cons_self, bytes_add, if_pos rfl]
      refine Nat.le_trans ?_ (Nat.le_max_right _ _)
      show (((p.add bytes .heap).1.release h.buffer).bytes p.next).length ≤ maxBuffer
      rw [hnew, hlen]
      omega

theorem reframe_leaves {f : Pool → Handle → Option Frame} (hr : Resized.Leaves r p h others)
    (hf : ∀ q h g, f q h = some g → h.frame.Fits (q.limit h) → g.Fits (q.limit h)) :
    Resized.Leaves (reframe r f) p h others := by
  obtain ⟨q, e | g⟩ := r
  · exact hr
  · obtain ⟨hs, hk, hp, hl⟩ := hr
    replace hs : q.Sound (g :: others) := hs
    unfold reframe
    simp only
    split
    · next frame hframe =>
      have hfits := hf q g frame hframe (hs.fits g List.mem_cons_self)
      have hex := hs.exclusive g List.mem_cons_self
      refine ⟨hs.exchange rfl rfl hex hfits, hk, fun k he => ?_, fun k he => ?_⟩
      · cases he
        exact hp g rfl
      · cases he
        exact hl g rfl
    · exact leaves_release hs hk

theorem expandFront_leaves (hr : Resized.Leaves r p h others) (n : Nat) :
    Resized.Leaves (expandFront n r) p h others :=
  reframe_leaves hr fun _ _ _ hg hfits => hfits.expandFront hg

theorem expandBack_leaves (hr : Resized.Leaves r p h others) (n : Nat) :
    Resized.Leaves (expandBack n r) p h others :=
  reframe_leaves hr fun _ _ _ hg hfits => hfits.expandBack hg

/-- Giving up the right to write is always possible. -/
theorem Sound.toShared (hs : p.Sound (h :: others)) : p.Sound (h.toShared :: others) :=
  hs.exchange rfl rfl (fun hw => nomatch hw) (hs.fits h List.mem_cons_self)

theorem demote_leaves (hr : Resized.Leaves r p h others) : Resized.Leaves (demote r) p h others := by
  obtain ⟨q, e | g⟩ := r
  · exact hr
  · refine ⟨Sound.toShared hr.sound, hr.keeps, fun k he => ?_, fun k he => ?_⟩
    · cases he
      exact hr.placed g rfl
    · cases he
      exact hr.limit_le g rfl

/-- A write succeeds only through an exclusive handle and inside its buffer. -/
theorem write_eq_ok {region : Region} {pos : Nat} {patch : Bytes}
    (hq : p.write h region pos patch = .ok q) :
    p.exclusive h = true ∧ ∃ first last, h.frame.span? (p.limit h) region = some (first, last)
      ∧ first ≤ last ∧ last ≤ p.limit h ∧ pos + patch.length ≤ last - first
      ∧ q = p.setBytes h.buffer ((p.bytes h.buffer).overlay (first + pos) patch) := by
  unfold Pool.write at hq
  split at hq
  · cases hq
  split at hq
  · cases hq
  · next first last hspan =>
    split at hq
    · cases hq
    · next hmay =>
      split at hq
      · next hroom =>
        simp only [mayChange, Bool.not_eq_true', Bool.not_eq_false, Bool.and_eq_true,
          decide_eq_true_eq] at hmay
        obtain ⟨hex, hle, hlim⟩ := hmay
        exact ⟨hex, first, last, hspan, hle, hlim, hroom, (Except.ok.inj hq).symm⟩
      · cases hq

theorem write_leaves {region : Region} {pos : Nat} {patch : Bytes} (hs : p.Sound (h :: others))
    (hq : p.write h region pos patch = .ok q) :
    q.Sound (h :: others) ∧ p.Keeps q others ∧ q.limit h = p.limit h := by
  obtain ⟨hex, first, last, -, hle, hlim, hroom, rfl⟩ := write_eq_ok hq
  obtain ⟨b, hb⟩ := hs.found List.mem_cons_self
  have hlen : ((p.bytes h.buffer).overlay (first + pos) patch).length = p.limit h :=
    Bytes.length_overlay (by rw [Pool.limit] at hlim; omega)
  exact ⟨hs.setBytes hlen, hs.keeps_setBytes hex _, limit_setBytes hb hlen h⟩

/-- A writable handle may change all regions of its frame: it is alone, and inside its buffer. -/
theorem Sound.mayChange {region : Region} {first last : Nat} (hs : p.Sound (h :: others))
    (hw : h.writable = true) (hspan : h.frame.span? (p.limit h) region = some (first, last)) :
    p.mayChange h first last = true := by
  have hex : p.exclusive h = true := hs.exclusive h List.mem_cons_self hw
  have hin := (hs.fits h List.mem_cons_self).span hspan
  rw [Pool.mayChange, hex, decide_eq_true hin, Bool.and_self]

/-- A writable handle is never found to share its buffer, nor to reach beyond it. -/
theorem write_ne_fault (hs : p.Sound (h :: others)) (region : Region) (pos : Nat) (patch : Bytes) :
    p.write h region pos patch ≠ .error .fault := by
  unfold Pool.write
  split
  · nofun
  · next hw =>
    split
    · nofun
    · next first last hspan =>
      have hmay := hs.mayChange (by simpa using hw) hspan
      rw [if_neg (by simp [hmay])]
      split <;> nofun

theorem overwriteData_leaves (hr : Resized.Leaves r p h others) (pos : Nat) (patch : Bytes) :
    Resized.Leaves (overwriteData r pos patch) p h others := by
  obtain ⟨q, e | g⟩ := r
  · refine ⟨hr.sound, hr.keeps, fun k he => ?_, fun k he => ?_⟩
    · cases he
    · cases he
  · obtain ⟨hs, hk, hp, hl⟩ := hr
    replace hs : q.Sound (g :: others) := hs
    unfold overwriteData
    simp only
    split
    · next q' hq' =>
      obtain ⟨hs', hk', hl'⟩ := write_leaves hs hq'
      refine ⟨hs'.toShared, hk.trans hk', fun k he => ?_, fun k he => ?_⟩
      · cases he
        exact hp g rfl
      · cases he
        show q'.limit g ≤ _
        rw [hl']
        exact hl g rfl
    · exact leaves_release hs hk

/-! ## The operations -/

theorem uniqueify_leaves (hs : p.Sound (h :: others)) :
    Resized.Leaves (p.uniqueify h) p h others := by
  unfold uniqueify
  split
  · next hex =>
    have hfits := hs.fits h List.mem_cons_self
    exact leaves_self (hs.exchange rfl rfl (fun _ => hex) hfits) rfl rfl
  · exact relocate_leaves hs 0 0

theorem push_leaves (hs : p.Sound (h :: others)) (n : Nat) :
    Resized.Leaves (p.push h n) p h others := by
  unfold push
  split
  · exact expandFront_leaves (uniqueify_leaves hs) n
  · exact expandFront_leaves (relocate_leaves hs (growth n) 0) n

theorem put_leaves (hs : p.Sound (h :: others)) (n : Nat) :
    Resized.Leaves (p.put h n) p h others := by
  unfold put
  split
  · exact expandBack_leaves (uniqueify_leaves hs) n
  · exact expandBack_leaves (relocate_leaves hs 0 (growth n)) n

theorem pushShared_leaves (hs : p.Sound (h :: others)) (n : Nat) :
    Resized.Leaves (p.pushShared h n) p h others := by
  unfold pushShared
  refine demote_leaves ?_
  split
  · exact expandFront_leaves (leaves_self hs rfl rfl) n
  · exact push_leaves hs n

theorem putShared_leaves (hs : p.Sound (h :: others)) (n : Nat) :
    Resized.Leaves (p.putShared h n) p h others := by
  unfold putShared
  refine demote_leaves ?_
  split
  · exact expandBack_leaves (leaves_self hs rfl rfl) n
  · exact put_leaves hs n

theorem overwrite_leaves (hs : p.Sound (h :: others)) (pos : Nat) (patch : Bytes) :
    Resized.Leaves (p.overwrite h pos patch) p h others :=
  overwriteData_leaves (uniqueify_leaves hs) pos patch

theorem flipBit_leaves (hs : p.Sound (h :: others)) (offset : Nat) (bit : UInt8) :
    Resized.Leaves (p.flipBit h offset bit) p h others := by
  unfold flipBit
  simp only
  split
  · exact overwrite_leaves hs offset _
  · refine overwriteData_leaves (reframe_leaves (uniqueify_leaves hs) fun _ _ _ hg => ?_) offset []
    cases hg

end Pool

/-- **Resizing keeps the account.** Whatever is done to one handle, and however it ends. -/
theorem Resizing.apply_leaves {p : Pool} {h : Handle} {others : List Handle}
    (hs : p.Sound (h :: others)) (how : Resizing) :
    Resized.Leaves (how.apply p h) p h others := by
  cases how with
  | uniqueify => exact Pool.uniqueify_leaves hs
  | push n => exact Pool.push_leaves hs n
  | put n => exact Pool.put_leaves hs n
  | pushShared n => exact Pool.pushShared_leaves hs n
  | putShared n => exact Pool.putShared_leaves hs n
  | encapsulate => exact Pool.overwriteData_leaves (Pool.push_leaves hs _) 0 _
  | flipBit offset bit => exact Pool.flipBit_leaves hs offset bit
  | overwrite position bytes => exact Pool.overwrite_leaves hs position bytes

/-! ## Operations that give a writable packet -/

/-- The operations that establish ownership of the buffer. -/
def Resizing.owns : Resizing → Bool
  | uniqueify | push _ | put _ => true
  | _ => false

namespace Pool

variable {p : Pool} {h g : Handle} {r : Resized}

theorem relocate_writable {front back : Nat} (hg : (p.relocate h front back).2 = .ok g) :
    g.writable = true := by
  unfold relocate at hg
  simp only at hg
  split at hg
  · cases hg
  · cases hg
    rfl

theorem reframe_writable {f : Pool → Handle → Option Frame}
    (hr : ∀ k, r.2 = .ok k → k.writable = true) (hg : (reframe r f).2 = .ok g) :
    g.writable = true := by
  obtain ⟨q, e | k⟩ := r
  · cases hg
  · unfold reframe at hg
    simp only at hg
    split at hg
    · cases hg
      exact hr k rfl
    · cases hg

theorem uniqueify_writable (hg : (p.uniqueify h).2 = .ok g) : g.writable = true := by
  unfold uniqueify at hg
  split at hg
  · cases hg
    rfl
  · exact relocate_writable hg

end Pool

theorem Resizing.writable_of_owns {p : Pool} {h g : Handle} {how : Resizing}
    (ho : how.owns = true) (hg : (how.apply p h).2 = .ok g) : g.writable = true := by
  cases how with
  | uniqueify => exact Pool.uniqueify_writable hg
  | push n =>
      simp only [Resizing.apply, Pool.push] at hg
      split at hg
      · exact Pool.reframe_writable (fun _ => Pool.uniqueify_writable) hg
      · exact Pool.reframe_writable (fun _ => Pool.relocate_writable) hg
  | put n =>
      simp only [Resizing.apply, Pool.put] at hg
      split at hg
      · exact Pool.reframe_writable (fun _ => Pool.uniqueify_writable) hg
      · exact Pool.reframe_writable (fun _ => Pool.relocate_writable) hg
  | _ => cases ho

/-- Who gets a writable packet back owns its buffer alone. -/
theorem Resizing.exclusive_of_owns {p q : Pool} {h g : Handle} {others : List Handle}
    {how : Resizing} (hs : p.Sound (h :: others)) (ho : how.owns = true)
    (happly : how.apply p h = (q, .ok g)) : q.exclusive g = true := by
  have hleaves := how.apply_leaves hs
  have hw : g.writable = true := Resizing.writable_of_owns ho (p := p) (by rw [happly])
  rw [happly] at hleaves
  exact hleaves.sound.exclusive g List.mem_cons_self hw

/-- A clone that becomes writable has been copied, even if nobody else was on its buffer. -/
theorem Resizing.buffer_of_cloned {p q : Pool} {h g : Handle} {others : List Handle}
    {how : Resizing} (hs : p.Sound (h :: others)) (hc : h.cloned = true) (ho : how.owns = true)
    (happly : how.apply p h = (q, .ok g)) : g.buffer = p.next := by
  have hleaves := how.apply_leaves hs
  have hg := (Pool.exclusive_iff.mp (Resizing.exclusive_of_owns hs ho happly)).1
  rw [happly] at hleaves
  -- a handle that stayed where it was would still be a clone, and that is not exclusive
  rcases hleaves.placed g rfl with ⟨-, hgc⟩ | ⟨hb, -⟩
  · rw [hgc, hc] at hg
    cases hg
  · exact hb

end PacketPath
