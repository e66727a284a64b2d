import Mathlib.Data.List.Perm.Basic
import PacketPath.Proofs.Session.Sound

set_option autoImplicit false

/-! # Places of handles

A live handle is under a name or at a position of a sink. A place tells handles apart that look the
same, so that "another live handle" can be said: the handle at another place. `elsewhere` lists the
handles at the other places, in the sense of `mem_elsewhere_iff`.
-/

namespace PacketPath

/-- Where a live handle can be. -/
inductive Place
  | packet (name : String)
  | queued (sink : String) (position : Nat)
deriving DecidableEq

namespace Session

open scoped List

/-- The packets queued in a sink; a sink that does not exist has none. -/
def queueOf (s : Session) (sink : String) : List Handle := (s.sinks.find? sink).getD []

/-- The live handle at a place. -/
def handleAt (s : Session) : Place → Option Handle
  | .packet name => s.packets.find? name
  | .queued sink position => (s.queueOf sink)[position]?

/-- The live handles at other places. -/
def elsewhere (s : Session) : Place → List Handle
  | .packet name => s.others name
  | .queued sink position => (s.queueOf sink).eraseIdx position ++ s.otherQueues sink

variable {s : Session} {h g : Handle} {a b : Place} {sink : String}

theorem queueOf_perm (s : Session) (sink : String) :
    s.handles ~ s.queueOf sink ++ s.otherQueues sink := by
  rw [queueOf]
  cases hq : s.sinks.find? sink with
  | none =>
      rw [handles_of_no_queue hq]
      exact .refl _
  | some queue => exact handles_of_queue hq

theorem handles_perm_elsewhere (ha : s.handleAt a = some h) : s.handles ~ h :: s.elsewhere a := by
  cases a with
  | packet name => exact handles_perm ha
  | queued sink position =>
      obtain ⟨hlt, hget⟩ := List.getElem?_eq_some_iff.mp ha
      have hqueue : s.queueOf sink ~ h :: (s.queueOf sink).eraseIdx position := by
        rw [← hget]
        exact (List.getElem_cons_eraseIdx_perm hlt).symm
      exact (s.queueOf_perm sink).trans (hqueue.append_right _)

/-! ## The handles at other places -/

theorem mem_queues_iff (s : Session) (g : Handle) :
    g ∈ s.sinks.values.flatten ↔ ∃ sink position, s.handleAt (.queued sink position) = some g := by
  simp only [List.mem_flatten, Registry.mem_values_iff, handleAt]
  constructor
  · rintro ⟨queue, ⟨sink, hq⟩, hg⟩
    obtain ⟨i, hi⟩ := List.mem_iff_getElem?.mp hg
    exact ⟨sink, i, by rwa [queueOf, hq]⟩
  · rintro ⟨sink, i, hi⟩
    rw [queueOf] at hi
    cases hq : s.sinks.find? sink with
    | none =>
        rw [hq] at hi
        cases hi
    | some queue =>
        rw [hq] at hi
        exact ⟨queue, ⟨sink, hq⟩, List.mem_of_getElem? hi⟩

theorem queueOf_erase (s : Session) (sink sink' : String) :
    ({ s with sinks := s.sinks.erase sink } : Session).queueOf sink'
      = if sink = sink' then [] else s.queueOf sink' := by
  rw [queueOf, Registry.find?_erase]
  split <;> rfl

theorem mem_others_iff {name : String} :
    g ∈ s.others name ↔ ∃ b, b ≠ .packet name ∧ s.handleAt b = some g := by
  rw [others, List.mem_append, mem_queues_iff, Registry.mem_values_iff]
  constructor
  · rintro (⟨name', hg⟩ | ⟨sink, i, hg⟩)
    · rw [Registry.find?_erase] at hg
      split at hg
      · cases hg
      · next hne => exact ⟨.packet name', fun he => hne (Place.packet.inj he).symm, hg⟩
    · refine ⟨.queued sink i, fun he => ?_, hg⟩
      cases he
  · rintro ⟨b, hb, hg⟩
    cases b with
    | packet name' =>
        have hne : name ≠ name' := fun he => hb (congrArg Place.packet he.symm)
        exact .inl ⟨name', by rwa [Registry.find?_erase, if_neg hne]⟩
    | queued sink i => exact .inr ⟨sink, i, hg⟩

theorem mem_otherQueues_iff :
    g ∈ s.otherQueues sink ↔ ∃ b, (∀ i, b ≠ .queued sink i) ∧ s.handleAt b = some g := by
  have hq := mem_queues_iff ({ s with sinks := s.sinks.erase sink } : Session) g
  simp only [handleAt, queueOf_erase] at hq
  rw [otherQueues, List.mem_append, hq, Registry.mem_values_iff]
  constructor
  · rintro (⟨name, hg⟩ | ⟨sink', i, hg⟩)
    · refine ⟨.packet name, fun i he => ?_, hg⟩
      cases he
    · split at hg
      · cases hg
      · next hne => exact ⟨.queued sink' i, fun j he => hne (Place.queued.inj he).1.symm, hg⟩
  · rintro ⟨b, hb, hg⟩
    cases b with
    | packet name => exact .inl ⟨name, hg⟩
    | queued sink' i =>
        have hne : sink ≠ sink' := fun he => hb i (by rw [he])
        exact .inr ⟨sink', i, by rwa [if_neg hne]⟩

theorem mem_elsewhere_iff : g ∈ s.elsewhere a ↔ ∃ b, b ≠ a ∧ s.handleAt b = some g := by
  cases a with
  | packet name => exact mem_others_iff
  | queued sink position =>
      rw [elsewhere, List.mem_append, mem_otherQueues_iff, List.mem_eraseIdx_iff_getElem?]
      constructor
      · rintro (⟨i, hne, hg⟩ | ⟨b, hb, hg⟩)
        · exact ⟨.queued sink i, fun he => hne (Place.queued.inj he).2, hg⟩
        · exact ⟨b, hb position, hg⟩
      · rintro ⟨b, hb, hg⟩
        by_cases hsame : ∃ i, b = .queued sink i
        · obtain ⟨i, rfl⟩ := hsame
          exact .inl ⟨i, fun he => hb (by rw [he]), hg⟩
        · exact .inr ⟨b, fun i he => hsame ⟨i, he⟩, hg⟩

theorem mem_handles_iff : g ∈ s.handles ↔ ∃ b, s.handleAt b = some g := by
  rw [handles, List.mem_append, mem_queues_iff, Registry.mem_values_iff]
  constructor
  · rintro (⟨name, hg⟩ | ⟨sink, i, hg⟩)
    · exact ⟨.packet name, hg⟩
    · exact ⟨.queued sink i, hg⟩
  · rintro ⟨b, hg⟩
    cases b with
    | packet name => exact .inl ⟨name, hg⟩
    | queued sink i => exact .inr ⟨sink, i, hg⟩

/-! ## Changing what is under a name -/

theorem handleAt_update (s : Session) (name : String) (g : Handle) (place : Place) :
    (s.update name g).handleAt place
      = if place = .packet name then some g else s.handleAt place := by
  cases place with
  | packet name' =>
      simp only [handleAt, update, Registry.find?_insert, Place.packet.injEq, eq_comm]
  | queued sink position =>
      rw [if_neg (by simp only [reduceCtorEq, not_false_eq_true])]
      rfl

theorem handleAt_remove (s : Session) (name : String) (place : Place) :
    (s.remove name).handleAt place = if place = .packet name then none else s.handleAt place := by
  cases place with
  | packet name' =>
      simp only [handleAt, remove, Registry.find?_erase, Place.packet.injEq, eq_comm]
  | queued sink position =>
      rw [if_neg (by simp only [reduceCtorEq, not_false_eq_true])]
      rfl

/-! ## Changing one packet -/

/-- The packet under a name has changed, and nothing else. -/
structure Becomes (s : Session) (name : String) (g : Handle) (after : Session) : Prop where
  pool : after.pool = s.pool
  checkers : after.checkers = s.checkers
  sinks : after.sinks = s.sinks
  handles : ∀ a, after.handleAt a = if a = .packet name then some g else s.handleAt a

variable {after : Session} {name : String}

theorem becomes_refl (hf : s.packets.find? name = some h) : s.Becomes name h s := by
  refine ⟨rfl, rfl, rfl, fun a => ?_⟩
  split
  · next ha =>
    subst ha
    exact hf
  · rfl

theorem Becomes.find? (hb : s.Becomes name g after) : after.packets.find? name = some g :=
  (hb.handles (.packet name)).trans (if_pos rfl)

theorem Becomes.update (hb : s.Becomes name h after) (g : Handle) :
    s.Becomes name g (after.update name g) := by
  refine ⟨hb.pool, hb.checkers, hb.sinks, fun a => ?_⟩
  rw [handleAt_update, hb.handles]
  split <;> rfl

end Session

end PacketPath
