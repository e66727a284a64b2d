import PacketPath.Proofs.Check.Truncation
import PacketPath.Proofs.DeepCopy.Widened
import PacketPath.Proofs.Session.Marks

set_option autoImplicit false

/-! # Verdicts do not depend on placement

A checker looks at the bytes from each mark to the end of the data (`Owned.headers`), and not at
where the data start, where in a buffer these bytes lie, or who else is on it. Whatever leaves them
alone keeps its verdict, and what moves the end of the data adds bytes behind them or cuts some off.
-/

namespace PacketPath

/-! ## What a checker looks at -/

namespace Owned

variable {o o' : Owned} {last n pos : Nat} {patch nh l4 : Bytes}

/-- The bytes from each mark to a position in the buffer. -/
def headersTo (o : Owned) (last : Nat) : Option (Bytes × Bytes) :=
  o.frame.marks.map fun m => (o.bytes.slice m.network last, o.bytes.slice m.transport last)

theorem headersTo_eq_some (hv : o.headersTo last = some (nh, l4)) : ∃ m, o.frame.marks = some m
    ∧ nh = o.bytes.slice m.network last ∧ l4 = o.bytes.slice m.transport last := by
  obtain ⟨m, hm, hviews⟩ := Option.map_eq_some_iff.mp hv
  obtain ⟨hnh, hl4⟩ := Prod.mk.inj hviews
  exact ⟨m, hm, hnh.symm, hl4.symm⟩

theorem headersTo_of_marks {m : Marks} (hm : o.frame.marks = some m) (last : Nat) :
    o.headersTo last = some (o.bytes.slice m.network last, o.bytes.slice m.transport last) := by
  rw [headersTo, hm, Option.map_some]

/-- Zeros around the buffer do not show. -/
theorem headersTo_widened (hl : last ≤ o.bytes.length) (front back : Nat) :
    (o.widened front back).headersTo (last + front) = o.headersTo last := by
  have hview : ∀ mark, (o.widened front back).bytes.slice (mark + front) (last + front)
      = o.bytes.slice mark last := fun mark => Bytes.slice_widened hl _
  show (o.frame.marks.map _).map _ = _
  rw [Option.map_map]
  simp only [Function.comp_def, hview]
  rfl

/-- Bytes that are written before the marks do not show. -/
theorem headers_overlay (hfit : pos + patch.length ≤ o.bytes.length)
    (hmarks : ∀ m ∈ o.frame.marks, pos + patch.length ≤ m.network ∧ m.network ≤ m.transport) :
    { o with bytes := o.bytes.overlay pos patch }.headers = o.headers := by
  refine Option.map_congr fun m hm => ?_
  obtain ⟨hnetwork, htransport⟩ := hmarks m hm
  rw [Bytes.slice_overlay_of_disjoint hfit (.inl hnetwork),
    Bytes.slice_overlay_of_disjoint hfit (.inl (hnetwork.trans htransport))]

/-! ## Operations before the marks -/

theorem headers_push (hf : o.frame.Fits o.bytes.length) (ho : o.push n = .ok o') :
    o'.headers = o.headers := by
  obtain ⟨extra, -, rfl⟩ := push_eq_ok ho
  exact headersTo_widened hf.2.1 extra 0

/-- A link-layer header is written over bytes that lie before the data, or were put there. -/
theorem headers_encapsulate (hf : o.frame.Fits o.bytes.length)
    (hmarks : ∀ m ∈ o.frame.marks, o.frame.start ≤ m.network)
    (ho : o.resize .encapsulate = .ok o') : o'.headers = o.headers := by
  obtain ⟨o₁, hpushed, -, rfl⟩ := patched_eq_ok ho
  obtain ⟨o₂, hpush, rfl⟩ := map_eq_ok hpushed
  obtain ⟨extra, hroom, rfl⟩ := push_eq_ok hpush
  obtain ⟨hwindow, hstop, hordered⟩ := hf
  set o₁ := ((o.widened extra 0).openFront ethernetHeader.length).setWritable true
  have hend : o₁.frame.start + 0 + ethernetHeader.length = o.frame.start + extra :=
    Nat.sub_add_cancel hroom
  have hlength : o₁.bytes.length = extra + o.bytes.length := by
    show (Bytes.zeros extra ++ o.bytes ++ Bytes.zeros 0).length = _
    simp only [List.length_append, Bytes.length_zeros, Nat.add_zero]
  calc Owned.headers { o₁ with
        bytes := o₁.bytes.overlay (o₁.frame.start + 0) ethernetHeader
        writable := false }
      _ = o₁.headers := by
          refine headers_overlay (o := o₁) (by omega) fun m hm => ?_
          obtain ⟨m₀, hm₀, rfl⟩ := Option.map_eq_some_iff.mp hm
          have hbefore := hmarks m₀ hm₀
          have hle := (hordered m₀ hm₀).1
          show _ ≤ m₀.network + extra ∧ m₀.network + extra ≤ m₀.transport + extra
          omega
      _ = o.headers := headersTo_widened hstop extra 0

end Owned

/-- The operations that leave alone what lies from the marks to the end of the data. A link-layer
header is written before the data, and no mark may have been left there. -/
def Resizing.SparesHeaders (f : Frame) : Resizing → Prop
  | uniqueify | push _ | pushShared _ => True
  | encapsulate => ∀ offset, f.networkOffset = some offset → 0 ≤ offset
  | _ => False

theorem Owned.headers_of_sparesHeaders {o o' : Owned} {how : Resizing}
    (hf : o.frame.Fits o.bytes.length) (hspares : how.SparesHeaders o.frame)
    (ho : o.resize how = .ok o') : o'.headers = o.headers := by
  cases how with
  | uniqueify =>
      cases ho
      rfl
  | push n | pushShared n =>
      obtain ⟨pushed, hpush, rfl⟩ := map_eq_ok ho
      show pushed.headers = _
      exact Owned.headers_push hf hpush
  | encapsulate =>
      refine Owned.headers_encapsulate hf (fun m hm => ?_) ho
      have hoffset : o.frame.networkOffset = some ((m.network : Int) - o.frame.start) := by
        rw [Frame.networkOffset, hm, Option.map_some]
      have := hspares _ hoffset
      omega
  | _ => exact hspares.elim

/-! ## More or fewer data -/

namespace Owned

variable {o o' : Owned} {n : Nat} {nh l4 : Bytes}

/-- Behind the data there may be any bytes. -/
theorem headers_put (hf : o.frame.Fits o.bytes.length) (ho : o.put n = .ok o')
    (hv : o.headers = some (nh, l4)) :
    ∃ nh' l4', o'.headers = some (nh', l4') ∧ nh <+: nh' ∧ l4 <+: l4' := by
  obtain ⟨extra, rfl⟩ := put_eq_ok ho
  have hold := (headersTo_widened hf.2.1 0 extra).trans hv
  obtain ⟨m, hm, rfl, rfl⟩ := headersTo_eq_some hold
  refine ⟨_, _, headersTo_of_marks hm (o.frame.stop + n), ?_, ?_⟩
  · exact Bytes.slice_prefix_slice (Nat.le_add_right _ n) _
  · exact Bytes.slice_prefix_slice (Nat.le_add_right _ n) _

theorem headers_take (hf : o.frame.Fits o.bytes.length) (ho : o.adjust (.take n) = .ok o')
    (hv : o.headers = some (nh, l4)) :
    ∃ nh' l4', o'.headers = some (nh', l4') ∧ nh' <+: nh ∧ l4' <+: l4
      ∧ nh'.length = nh.length - n ∧ l4'.length = l4.length - n := by
  obtain ⟨frame, hframe, rfl⟩ := map_eq_ok ho
  obtain rfl := eq_of_ite_ok (mapError_eq_ok hframe)
  obtain ⟨m, hm, rfl, rfl⟩ := headersTo_eq_some hv
  have hstop : o.frame.stop - n ≤ o.frame.stop := Nat.sub_le _ _
  have hlength : ∀ mark, (o.bytes.slice mark (o.frame.stop - n)).length
      = (o.bytes.slice mark o.frame.stop).length - n := fun mark => by
    rw [Bytes.length_slice hf.2.1, Bytes.length_slice (hstop.trans hf.2.1)]
    omega
  exact ⟨_, _, headersTo_of_marks hm _, Bytes.slice_prefix_slice hstop _,
    Bytes.slice_prefix_slice hstop _, hlength _, hlength _⟩

theorem headers_pull (ho : o.adjust (.pull n) = .ok o') : o'.headers = o.headers := by
  obtain ⟨frame, hframe, rfl⟩ := map_eq_ok ho
  obtain rfl := eq_of_ite_ok (mapError_eq_ok hframe)
  rfl

/-- The data may start anywhere, if they end where they did. -/
theorem adjust_reposition (hf : o.frame.Fits o.bytes.length) {headroom length : Nat}
    (hend : headroom + length = o.frame.stop) :
    o.adjust (.reposition headroom length)
      = .ok { o with frame := { o.frame with start := headroom } } := by
  show ((o.frame.reposition o.bytes.length headroom length).mapError _).map _ = _
  rw [Frame.reposition, hend, if_pos hf.2.1]
  rfl

end Owned

/-- No reason for which an adjustment is refused reads like success. -/
theorem Adjustment.apply_ne_done (how : Adjustment) (f : Frame) (limit : Nat) :
    how.apply f limit ≠ .error .done := by
  have hrenamed : ∀ {ε : Type} (r : Except ε Frame) {rename : ε → Reply},
      (∀ e, rename e ≠ .done) → r.mapError rename ≠ .error .done := by
    intro ε r rename hne h
    cases r with
    | ok f => cases h
    | error e => exact hne e (Except.error.inj h)
  cases how with
  | clearMarks => exact fun h => nomatch h
  | _ => exact hrenamed _ fun _ h => nomatch h

/-! ## Packets in a session -/

namespace Session

variable {s : Session} {packet : String} {o o' : Owned} {c : Checker}

/-- The verdict of a checker on the packet under a name, if there is one. -/
def verdict (s : Session) (c : Checker) (packet : String) : Option (Except DropReason Unit) :=
  (s.packets.find? packet).map fun h => (c.validate (s.pool.headerViews h)).verdict

theorem StandsFor.verdict (hp : s.StandsFor packet o) (c : Checker) :
    s.verdict c packet = some (c.transport.classify c.config.checksum o.headers) := by
  obtain ⟨h, hf, rfl⟩ := hp
  have hviews : s.pool.headerViews h = (s.pool.owned h).headers := s.pool.headerViews_eq h
  rw [Session.verdict, hf, Option.map_some, verdict_validate, hviews]

/-- An adjustment that succeeded, on what the packet stands for. -/
theorem StandsFor.adjust_of_done (hp : s.StandsFor packet o) {how : Adjustment}
    (hdone : (s.step (.adjust packet how)).2 = .done) :
    ∃ o', o.adjust how = .ok o' ∧ (s.step (.adjust packet how)).1.StandsFor packet o' := by
  cases ho : o.adjust how with
  | ok o' => exact ⟨o', rfl, hp.adjust ho⟩
  | error reply =>
      rw [adjust_refused hp ho] at hdone
      obtain rfl : reply = .done := hdone
      exact absurd (map_eq_error ho) (how.apply_ne_done _ _)

/-- A packet that shows the same bytes is judged in the same way. -/
theorem StandsFor.verdict_congr (hp : s.StandsFor packet o) {after : Session} {name : String}
    (hafter : after.StandsFor name o') (hheaders : o'.headers = o.headers) (c : Checker) :
    after.verdict c name = s.verdict c packet := by
  rw [hp.verdict, hafter.verdict, hheaders]

theorem StandsFor.verdict_put (hp : s.StandsFor packet o) (hs : s.Sound)
    (hcontents : Transport.OnContents (c.transport.classify c.config.checksum o.headers))
    {how : Resizing} {n : Nat} (hput : how = .put n ∨ how = .putShared n)
    {elsewhere : Option Bool} (hmoved : (s.step (.resize packet how)).2 = .moved elsewhere) :
    (s.step (.resize packet how)).1.verdict c packet = s.verdict c packet := by
  obtain ⟨nh, l4, hviews, hcomplete⟩ := Transport.complete_of_onContents hcontents
  obtain ⟨o', ho', hafter⟩ := hp.resize_of_moved hs hmoved
  -- it does not matter who may write to the packet then
  obtain ⟨opened, hopen, hheaders⟩ : ∃ opened, o.put n = .ok opened
      ∧ o'.headers = opened.headers := by
    rcases hput with rfl | rfl
    · obtain ⟨opened, hopen, rfl⟩ := map_eq_ok ho'
      exact ⟨opened, hopen, rfl⟩
    · obtain ⟨opened, hopen, rfl⟩ := map_eq_ok ho'
      exact ⟨opened, hopen, rfl⟩
  obtain ⟨nh', l4', hviews', hnh, hl4⟩ := Owned.headers_put (hp.fits hs) hopen hviews
  rw [hp.verdict, hafter.verdict, hheaders, hviews, hviews', hcomplete.classify_of_isPrefix hnh hl4]

theorem StandsFor.verdict_take (hp : s.StandsFor packet o) (hs : s.Sound) {nh l4 : Bytes}
    (hviews : o.headers = some (nh, l4))
    (hcontents : Transport.OnContents (c.transport.classify c.config.checksum o.headers)) {n : Nat}
    (hdone : (s.step (.adjust packet (.take n))).2 = .done) :
    (s.step (.adjust packet (.take n))).1.verdict c packet = some (
      if nh.length - n < 20 then .error .notProtocol
      else if c.transport.claimedLength nh l4 ≤ (l4.length - n : Nat) then
        c.transport.classify c.config.checksum o.headers
      else .error .badLength) := by
  obtain ⟨o', ho', hafter⟩ := hp.adjust_of_done hdone
  obtain ⟨nh', l4', hviews', hnh, hl4, hnhlen, hl4len⟩ :=
    Owned.headers_take (hp.fits hs) ho' hviews
  rw [hviews] at hcontents ⊢
  rw [hafter.verdict, hviews', Transport.classify_truncated hnh hl4 hcontents, hnhlen, hl4len]

/-- What becomes of the verdict `v` of a checker on a packet, with the handle `h`, when the packet
is framed, placed or shared in another way. -/
structure VerdictFollows (s : Session) (c : Checker) (packet : String) (h : Handle)
    (v : Except DropReason Unit) : Prop where
  /-- Both handles of a clone are judged as the packet was. -/
  clone : ∀ target, (s.step (.clone packet target)).1.verdict c packet = some v
    ∧ (s.step (.clone packet target)).1.verdict c target = some v
  resize : ∀ how elsewhere, how.SparesHeaders h.frame →
    (s.step (.resize packet how)).2 = .moved elsewhere →
    (s.step (.resize packet how)).1.verdict c packet = some v
  /-- It does not matter whether headers are pulled off the data. -/
  pull : ∀ n, (s.step (.adjust packet (.pull n))).2 = .done →
    (s.step (.adjust packet (.pull n))).1.verdict c packet = some v
  reposition : ∀ headroom length, headroom + length = h.frame.stop →
    (s.step (.adjust packet (.reposition headroom length))).1.verdict c packet = some v
  /-- What is added behind a complete datagram is not looked at. -/
  put : Transport.OnContents v → ∀ n how elsewhere, how = .put n ∨ how = .putShared n →
    (s.step (.resize packet how)).2 = .moved elsewhere →
    (s.step (.resize packet how)).1.verdict c packet = some v
  /-- What is taken away from a complete datagram is missed if it was claimed. -/
  take : Transport.OnContents v → ∃ nh l4, s.pool.headerViews h = some (nh, l4) ∧
    ∀ n, (s.step (.adjust packet (.take n))).2 = .done →
      (s.step (.adjust packet (.take n))).1.verdict c packet = some (
        if nh.length - n < 20 then .error .notProtocol
        else if c.transport.claimedLength nh l4 ≤ (l4.length - n : Nat) then v
        else .error .badLength)

end Session

/-- **Verdicts do not depend on placement.** Whatever was done to a packet before, the verdict of a
checker on it stays when the packet is cloned, made writable, given room in front or a link-layer
header before its network header, or when its data start elsewhere, even behind its headers. If the
lengths were in order it stays when data are added, and when data are taken away it can be told from
how many bytes are left of those that were claimed. -/
theorem verdict_follows (cs : List Command) (packet : String) (h : Handle) (c : Checker)
    (hf : (({} : Session).run cs).packets.find? packet = some h) :
    let s := ({} : Session).run cs
    s.VerdictFollows c packet h (c.validate (s.pool.headerViews h)).verdict := by
  intro s
  have hs : s.Sound := Session.sound_empty.run cs
  have hp : s.StandsFor packet (s.pool.owned h) := ⟨h, hf, rfl⟩
  have hfits := hp.fits hs
  have hviews : s.pool.headerViews h = (s.pool.owned h).headers := s.pool.headerViews_eq h
  have hverdict : (c.validate (s.pool.headerViews h)).verdict
      = c.transport.classify c.config.checksum (s.pool.owned h).headers := by
    rw [verdict_validate, hviews]
  have hbefore : s.verdict c packet = some (c.validate (s.pool.headerViews h)).verdict := by
    rw [Session.verdict, hf, Option.map_some]
  constructor
  case clone =>
    intro target
    obtain ⟨hself, hother⟩ := hp.clone hs target
    rw [← hbefore]
    exact ⟨hp.verdict_congr hself rfl c, hp.verdict_congr hother rfl c⟩
  case resize =>
    intro how elsewhere hspares hmoved
    obtain ⟨o', ho', hafter⟩ := hp.resize_of_moved hs hmoved
    have hheaders := Owned.headers_of_sparesHeaders hfits hspares ho'
    rw [← hbefore]
    exact hp.verdict_congr hafter hheaders c
  case pull =>
    intro n hdone
    obtain ⟨o', ho', hafter⟩ := hp.adjust_of_done hdone
    rw [← hbefore]
    exact hp.verdict_congr hafter (Owned.headers_pull ho') c
  case reposition =>
    intro headroom length hend
    have hafter := hp.adjust (Owned.adjust_reposition hfits hend)
    rw [← hbefore]
    exact hp.verdict_congr hafter rfl c
  case put =>
    intro hcontents n how elsewhere hput hmoved
    rw [← hbefore]
    exact hp.verdict_put hs (hverdict ▸ hcontents) hput hmoved
  case take =>
    intro hcontents
    rw [hverdict] at hcontents
    obtain ⟨nh, l4, hsome, -⟩ := Transport.complete_of_onContents hcontents
    refine ⟨nh, l4, hviews.trans hsome, fun n hdone => ?_⟩
    rw [hverdict]
    exact hp.verdict_take hs hsome hcontents hdone

set_option maxRecDepth 2000 in
/-- A clone of a datagram of 31 bytes that is moved to a larger buffer, or cut off. -/
theorem verdict_follows_udpClone :
    let cs : List Command := [.make "p" (.udp {} [1, 2, 3]), .clone "p" "q"]
    let s := ({} : Session).run cs
    let c := freshChecker .udp
    ∃ h, s.packets.find? "q" = some h
      ∧ (s.step (.resize "q" (.push 40))).1.verdict c "q" = some (.ok ())
      ∧ (s.step (.resize "q" (.put 8))).1.verdict c "q" = some (.ok ())
      ∧ (s.step (.adjust "q" (.take 1))).1.verdict c "q" = some (.error .badLength)
      ∧ (s.step (.adjust "q" (.take 12))).1.verdict c "q" = some (.error .notProtocol) := by
  intro cs s c
  obtain ⟨h, hf⟩ : ∃ h, s.packets.find? "q" = some h := ⟨_, rfl⟩
  have hok : (c.validate (s.pool.headerViews h)).verdict = .ok () := by
    have hverdict : s.verdict c "q" = some (.ok ()) := by decide +kernel
    rw [Session.verdict, hf, Option.map_some] at hverdict
    exact Option.some.inj hverdict
  have hlengths : (s.packets.find? "q").map (fun h => (s.pool.headerViews h).map fun v =>
      (v.1.length, v.2.length, c.transport.claimedLength v.1 v.2)) = some (some (31, 11, 11)) := by
    decide +kernel
  have hfollows : s.VerdictFollows c "q" h (.ok ()) := hok ▸ verdict_follows cs "q" h c hf
  obtain ⟨nh, l4, hviews, htake⟩ := hfollows.take (.inl rfl)
  rw [hf, Option.map_some, hviews] at hlengths
  obtain ⟨hnh, hl4, hclaimed⟩ : nh.length = 31 ∧ l4.length = 11
      ∧ c.transport.claimedLength nh l4 = 11 := by
    simpa using hlengths
  refine ⟨h, hf, hfollows.resize (.push 40) (some true) trivial rfl,
    hfollows.put (.inl rfl) 8 (.put 8) (some true) (.inl rfl) rfl, ?_, ?_⟩
  · rw [htake 1 rfl, hnh, hl4, hclaimed]
    rfl
  · rw [htake 12 rfl, hnh]
    rfl

end PacketPath
