import CompiledRules.Proofs.Slots.Once
import Mathlib

/-!
# Slots that are left behind

A failed caller removes its slot only if nobody else refers to it. It counts on the others to do so, but one that is
about to leave or that only looks will not. So an empty slot may stay in the map when everyone is done. This is the only
way: at some time a failed caller came to remove the slot while such another still referred to it.
-/

namespace CompiledRules.Slots

/-! ## Who still deals with a slot -/

/-- The slot that a caller has not yet done with. -/
def Phase.pending? : Phase → Option Nat
  | .waiting slot | .looking slot | .producing slot | .produced slot _ | .discarding slot => some slot
  | _ => none

/-- The caller will fill the slot or come to remove it. -/
structure Settles (caller : Caller) (slot : Nat) : Prop where
  request : caller.request = .evaluate
  pending : caller.phase.pending? = some slot

/-- The caller refers to the slot, but will neither fill nor remove it: it only looks, or it has failed and leaves. -/
structure Lingers (caller : Caller) (slot : Nat) : Prop where
  refers : caller.phase.slot? = some slot
  passive : caller.request = .get ∨ caller.phase = .leaving slot none

/-- Who refers to an empty slot settles it or lingers. -/
theorem settles_or_lingers {caller : Caller} {slot : Nat} (h : caller.phase.slot? = some slot)
    (hempty : ∀ text, caller.phase.full? ≠ some (slot, text)) : Settles caller slot ∨ Lingers caller slot := by
  cases hrequest : caller.request with
  | get => exact .inr ⟨h, .inl hrequest⟩
  | evaluate =>
      cases hp : caller.phase with
      | waiting k | looking k | producing k | produced k text | discarding k =>
          rw [hp] at h
          exact .inl ⟨hrequest, by rw [hp]; exact h⟩
      | filled k text | counted k text =>
          rw [hp] at h hempty
          cases h
          exact absurd rfl (hempty text)
      | leaving k answer =>
          rw [hp] at h hempty
          cases h
          cases answer with
          | none => exact .inr ⟨by rw [hp]; rfl, .inr hp⟩
          | some text => exact absurd rfl (hempty text)
      | arriving | done answer =>
          rw [hp] at h
          cases h

/-- A failed caller came to remove the slot of the identifier and left it there, since another referred to it who would
not remove it either. -/
def Forsaken (s : State) (identifier : String) (slot : Nat) : Prop :=
  ∃ (t t' : State) (number other : Nat) (outcome : Option String) (caller lingering : Caller),
    Reachable t ∧ t.step number outcome = some t' ∧ Relation.ReflTransGen Step t' s ∧
    t.callers[number]? = some caller ∧ caller.identifier = identifier ∧ caller.phase = .discarding slot ∧
    t'.map.find? identifier = some slot ∧
    other ≠ number ∧ t.callers[other]? = some lingering ∧ Lingers lingering slot

theorem Forsaken.step {s s' : State} {identifier : String} {slot : Nat} (h : Forsaken s identifier slot)
    (hstep : Step s s') : Forsaken s' identifier slot := by
  obtain ⟨t, t', number, other, outcome, caller, lingering, ht, hact, hsteps, hrest⟩ := h
  exact ⟨t, t', number, other, outcome, caller, lingering, ht, hact, hsteps.tail hstep, hrest⟩

/-! ## Locks have holders -/

theorem Phase.slot?_of_lock? {phase : Phase} {slot : Nat} (h : phase.lock? = some slot) : phase.slot? = some slot := by
  unfold lock? at h
  split at h <;> simp_all [slot?]

/-- A slot that is empty but not as new is locked. -/
theorem State.lockedAt_of_ne {s : State} {slot : Nat} (hlt : slot < s.slots.length) (hempty : s.textAt slot = none)
    (hne : s.slots[slot]? ≠ some {}) : s.LockedAt slot := by
  obtain ⟨x, hx⟩ : ∃ x, s.slots[slot]? = some x := ⟨_, List.getElem?_eq_getElem hlt⟩
  refine ⟨x, hx, ?_⟩
  obtain ⟨text, locked⟩ := x
  have htext : text = none := by simpa [textAt, hx] using hempty
  cases locked with
  | true => rfl
  | false => exact absurd (htext ▸ hx) hne

/-- A slot that is locked after a step was locked before it, and not by the caller unless it keeps the lock, or the caller
has locked it. -/
theorem Acts.lockedAt_before {s s' : State} {caller : Caller} {phase : Phase} (h : Acts s caller phase s') {slot : Nat}
    (hlocked : s'.LockedAt slot) :
    phase.lock? = some slot ∨ s.LockedAt slot ∧ caller.phase.lock? ≠ some slot := by
  cases h with
  | make hp =>
      obtain ⟨x, hx, hlocked⟩ := hlocked
      refine .inr ⟨⟨x, ?_, hlocked⟩, by simp [hp, Phase.lock?]⟩
      rcases List.getElem?_concat_cases hx with hx | rfl
      · exact hx
      · cases hlocked
  | @lock k x hp hx hfree =>
      by_cases hk : k = slot
      · exact .inl (congrArg some hk)
      · rw [State.lockedAt_setSlot_locked, if_neg hk] at hlocked
        exact .inr ⟨hlocked, by simp [hp, Phase.lock?]⟩
  | @read k hp | @release k hp | @finish k text hp =>
      rw [State.unlock, State.lockedAt_setSlot_locked] at hlocked
      split at hlocked
      · cases hlocked.2
      · rename_i hk
        exact .inr ⟨hlocked, by rw [hp]; exact fun h => hk (Option.some.inj h)⟩
  | @fill k text hp =>
      rw [State.lockedAt_setSlot_text] at hlocked
      by_cases hk : k = slot
      · exact .inl (congrArg some hk)
      · exact .inr ⟨hlocked, by rw [hp]; exact fun h => hk (Option.some.inj h)⟩
  | @begin k hp | @succeed k text hp | @fail k hp | @count k text hp =>
      by_cases hk : k = slot
      · exact .inl (congrArg some hk)
      · exact .inr ⟨hlocked, by rw [hp]; exact fun h => hk (Option.some.inj h)⟩
  | find hp | miss hp | remove hp | keep hp | leave hp => exact .inr ⟨hlocked, by simp [hp, Phase.lock?]⟩

/-- A locked slot is locked by a caller. -/
theorem exists_lock? {s : State} (h : Reachable s) {slot : Nat} (hlocked : s.LockedAt slot) :
    ∃ (number : Nat) (caller : Caller), s.callers[number]? = some caller ∧ caller.phase.lock? = some slot := by
  induction h with
  | start =>
      obtain ⟨x, hx, -⟩ := hlocked
      cases hx
  | step _ hstep ih =>
      cases hstep with
      | arrive identifier request =>
          obtain ⟨number, caller, hc, hlock⟩ := ih hlocked
          exact ⟨number, caller, List.getElem?_concat_of hc, hlock⟩
      | act number outcome h =>
          obtain ⟨caller, phase, s₁, hc, hacts, rfl⟩ := acts_of_step h
          rcases hacts.lockedAt_before hlocked with hlock | ⟨hbefore, hnot⟩
          · exact ⟨number, _, List.getElem?_set_same hc _, hlock⟩
          · obtain ⟨m, d, hd, hlock⟩ := ih hbefore
            have hne : number ≠ m := by
              rintro rfl
              obtain rfl := Option.some.inj (hc.symm.trans hd)
              exact hnot hlock
            exact ⟨m, d, (List.getElem?_set_ne hne).trans hd, hlock⟩

/-! ## Who else refers to a slot -/

/-- Of two callers that refer to a slot, one is not the given one. -/
theorem exists_other_of_countP {s : State} {number slot : Nat} {caller : Caller}
    (hc : s.callers[number]? = some caller)
    (hcount : 2 ≤ s.callers.countP fun caller => caller.phase.slot? == some slot) :
    ∃ (other : Nat) (d : Caller), other ≠ number ∧ s.callers[other]? = some d ∧ d.phase.slot? = some slot := by
  -- Without the given caller there is still one to be counted.
  have hset := List.countP_set_add (fun caller => caller.phase.slot? == some slot) hc { caller with phase := .arriving }
  have hpos : 0 < (s.callers.set number { caller with phase := .arriving }).countP
      fun caller => caller.phase.slot? == some slot := by
    have := Bool.toNat_le (caller.phase.slot? == some slot)
    omega
  obtain ⟨d, hmem, hd⟩ := List.countP_pos_iff.mp hpos
  obtain ⟨other, hother⟩ := List.mem_iff_getElem?.mp hmem
  rcases List.getElem?_set_cases hother with ⟨-, rfl⟩ | ⟨hne, hother⟩
  · cases hd
  · exact ⟨other, d, hne, hother, by simpa using hd⟩

namespace Invariant

variable {s : State}

/-- The map refers to a slot once. -/
theorem count_values (hi : Invariant s) {identifier : String} {slot : Nat}
    (hmap : s.map.find? identifier = some slot) : s.map.values.count slot = 1 := by
  have hentry := (s.map.find?_eq_some_iff identifier slot).mp hmap
  refine List.count_eq_one_of_mem ?_ (List.mem_map.mpr ⟨_, hentry, rfl⟩)
  refine s.map.nodup_entries.map_on fun x hx y hy heq => ?_
  have hx' := (s.map.find?_eq_some_iff x.1 x.2).mpr hx
  have hy' := (s.map.find?_eq_some_iff y.1 y.2).mpr hy
  exact Prod.ext (hi.injective hx' (heq ▸ hy')) heq

/-- Who comes to remove an empty slot and leaves it there saw another that refers to it. -/
theorem exists_other_of_kept (hi : Invariant s) (hr : Reachable s) {caller : Caller} {number slot : Nat}
    (hc : s.callers[number]? = some caller) (hp : caller.phase = .discarding slot) (hempty : s.textAt slot = none)
    (hkept : ¬ (s.map.find? caller.identifier = some slot ∧ s.references slot = 2 ∧ s.slots[slot]? = some {})) :
    ∃ (other : Nat) (d : Caller), other ≠ number ∧ s.callers[other]? = some d ∧ d.phase.slot? = some slot := by
  have hmap : s.map.find? caller.identifier = some slot := (hi.fits hc).owned (by rw [hp]; rfl)
  by_cases hreferences : s.references slot = 2
  · -- The slot is there and empty, so somebody has locked it.
    have hne : s.slots[slot]? ≠ some {} := fun hslot => hkept ⟨hmap, hreferences, hslot⟩
    obtain ⟨other, d, hd, hlock⟩ := exists_lock? hr (State.lockedAt_of_ne (hi.made hmap) hempty hne)
    refine ⟨other, d, ?_, hd, Phase.slot?_of_lock? hlock⟩
    rintro rfl
    obtain rfl := Option.some.inj (hc.symm.trans hd)
    rw [hp] at hlock
    cases hlock
  · refine exists_other_of_countP hc ?_
    have hself : 0 < s.callers.countP fun caller => caller.phase.slot? == some slot :=
      List.countP_pos_iff.mpr ⟨caller, List.mem_of_getElem? hc, by simp [hp, Phase.slot?]⟩
    have hvalues := hi.count_values hmap
    unfold State.references at hreferences
    omega

end Invariant

/-! ## Every empty slot is accounted for -/

/-- Who settles an empty slot goes on to settle it, as long as it is empty, until it comes to remove it. -/
theorem Acts.pending_after {s s' : State} {caller : Caller} {phase : Phase} {slot : Nat} (h : Acts s caller phase s')
    (hs : Settles caller slot) (hlt : slot < s.slots.length) (hempty : s.textAt slot = none)
    (hempty' : s'.textAt slot = none) :
    phase.pending? = some slot ∨ caller.phase = .discarding slot ∧
      (s'.map.find? caller.identifier = none ∨
        ¬ (s.map.find? caller.identifier = some slot ∧ s.references slot = 2 ∧ s.slots[slot]? = some {})) := by
  have hpending := hs.pending
  cases h with
  | lock hp | begin hp | succeed hp | fail hp | release hp =>
      rw [hp] at hpending
      exact .inl hpending
  | read hp hget =>
      rw [hp] at hpending
      cases hpending
      have := (hget hempty).symm.trans hs.request
      cases this
  | @fill k text hp =>
      rw [hp] at hpending
      cases hpending
      rw [State.textAt_setSlot_text, if_pos ⟨rfl, hlt⟩] at hempty'
      cases hempty'
  | remove hp =>
      rw [hp] at hpending
      cases hpending
      exact .inr ⟨hp, .inl (by simp)⟩
  | keep hp hkept =>
      rw [hp] at hpending
      cases hpending
      exact .inr ⟨hp, .inr hkept⟩
  | find hp | make hp | miss hp | count hp | finish hp | leave hp =>
      rw [hp] at hpending
      cases hpending

/-- Only a caller that wants a text at any cost makes a slot, and then it waits for it. -/
theorem Acts.settles_of_length_lt {s s' : State} {caller : Caller} {phase : Phase} (h : Acts s caller phase s')
    (hlt : s.slots.length < s'.slots.length) : Settles { caller with phase } s.slots.length := by
  cases h with
  | make _ _ hrequest => exact ⟨hrequest, rfl⟩
  | lock | read | fill | release | finish => simp [State.unlock, State.setSlot] at hlt
  | _ => exact absurd hlt (Nat.lt_irrefl _)

/-- An empty slot in the map will be settled by a caller, or it was forsaken. -/
def Accounted (s : State) : Prop :=
  ∀ identifier slot, s.map.find? identifier = some slot → s.textAt slot = none →
    (∃ (number : Nat) (caller : Caller), s.callers[number]? = some caller ∧ Settles caller slot) ∨
      Forsaken s identifier slot

namespace Accounted

variable {s s' : State}

theorem arrive (h : Accounted s) (identifier : String) (request : Request) :
    Accounted { s with callers := s.callers ++ [{ identifier, request }] } := by
  intro id slot hmap hempty
  rcases h id slot hmap hempty with ⟨number, caller, hc, hs⟩ | hforsaken
  · exact .inl ⟨number, caller, List.getElem?_concat_of hc, hs⟩
  · exact .inr (hforsaken.step (.arrive s identifier request))

/-- If the slot is left there by who came to remove it, another settles it or it is forsaken. -/
theorem of_kept (hr : Reachable s) {number : Nat} {outcome : Option String} {caller : Caller} {phase : Phase}
    {slot : Nat} (hstep : s.step number outcome = some s') (hcallers : s'.callers = s.callers.set number { caller with phase })
    (hc : s.callers[number]? = some caller) (hp : caller.phase = .discarding slot) (hempty : s.textAt slot = none)
    (hkept : ¬ (s.map.find? caller.identifier = some slot ∧ s.references slot = 2 ∧ s.slots[slot]? = some {}))
    (hmap : s'.map.find? caller.identifier = some slot) :
    (∃ (m : Nat) (d : Caller), s'.callers[m]? = some d ∧ Settles d slot) ∨ Forsaken s' caller.identifier slot := by
  have hi := invariant_of_reachable hr
  obtain ⟨other, d, hne, hd, hrefers⟩ := hi.exists_other_of_kept hr hc hp hempty hkept
  have hfull : ∀ text, d.phase.full? ≠ some (slot, text) := by
    intro text htext
    have := (hi.fits hd).full htext
    rw [hempty] at this
    cases this
  rcases settles_or_lingers hrefers hfull with hsettles | hlingers
  · refine .inl ⟨other, d, ?_, hsettles⟩
    rw [hcallers, List.getElem?_set_ne (Ne.symm hne), hd]
  · exact .inr ⟨s, s', number, other, outcome, caller, d, hr, hstep, .refl, hc, rfl, hp, hmap, hne, hd, hlingers⟩

theorem act (h : Accounted s) (hr : Reachable s) {number : Nat} {outcome : Option String}
    (hstep : s.step number outcome = some s') : Accounted s' := by
  have hi := invariant_of_reachable hr
  obtain ⟨caller, phase, s₁, hc, hacts, rfl⟩ := acts_of_step hstep
  have hown := List.getElem?_set_same hc { caller with phase }
  intro identifier slot hmap hempty
  rcases hacts.find?_of_find?_after hmap with hold | ⟨rfl, rfl, hlt⟩
  · have hempty₀ : s.textAt slot = none := by
      cases htext : s.textAt slot with
      | none => rfl
      | some text => exact (hi.textAt_mono hc hacts htext).symm.trans hempty
    rcases h identifier slot hold hempty₀ with ⟨m, d, hd, hs⟩ | hforsaken
    · by_cases hm : m = number
      · subst hm
        obtain rfl := Option.some.inj (hc.symm.trans hd)
        -- Who was to settle the slot acts itself: it goes on, or it has come to remove the slot.
        rcases hacts.pending_after hs (hi.made hold) hempty₀ hempty with hpending | ⟨hp, hend⟩
        · exact .inl ⟨m, _, hown, hs.request, hpending⟩
        · obtain rfl := hi.injective hold ((hi.fits hc).owned (by rw [hp]; rfl))
          rcases hend with hgone | hkept
          · cases hgone.symm.trans hmap
          · exact of_kept hr hstep rfl hc hp hempty₀ hkept hmap
      · exact .inl ⟨m, d, (List.getElem?_set_ne (Ne.symm hm)).trans hd, hs⟩
    · exact .inr (hforsaken.step (.act number outcome hstep))
  · exact .inl ⟨number, _, hown, hacts.settles_of_length_lt hlt⟩

end Accounted

theorem accounted_of_reachable {s : State} (h : Reachable s) : Accounted s := by
  induction h with
  | start =>
      intro identifier slot hmap
      cases hmap
  | step hr hstep ih =>
      cases hstep with
      | arrive identifier request => exact ih.arrive identifier request
      | act number outcome hact => exact ih.act hr hact

/-! ## When everyone is done -/

def Phase.isDone : Phase → Bool
  | .done _ => true
  | _ => false

/-- No call is in flight. -/
def State.Quiet (s : State) : Prop := ∀ caller ∈ s.callers, caller.phase.isDone = true

instance (s : State) : Decidable s.Quiet := List.decidableBAll _ s.callers

theorem Phase.pending?_of_isDone {phase : Phase} (h : phase.isDone = true) : phase.pending? = none := by
  cases phase with
  | done answer => rfl
  | _ => cases h

/-- When no call is in flight, a slot in the map is filled, unless a failed caller came to remove it while another referred
to it who would not remove it either. -/
theorem filled_or_forsaken {s : State} (h : Reachable s) (hquiet : s.Quiet) {identifier : String} {slot : Nat}
    (hmap : s.map.find? identifier = some slot) :
    (∃ text, s.textAt slot = some text) ∨ Forsaken s identifier slot := by
  cases htext : s.textAt slot with
  | some text => exact .inl ⟨text, rfl⟩
  | none =>
      rcases accounted_of_reachable h identifier slot hmap htext with ⟨number, caller, hc, hs⟩ | hforsaken
      · have hpending := hs.pending
        rw [Phase.pending?_of_isDone (hquiet caller (List.mem_of_getElem? hc))] at hpending
        cases hpending
      · exact .inr hforsaken

/-- Two callers fail, and the first still refers to the slot when the second comes to remove it. -/
def bothFail : List Event :=
  [.arrive ("a", .evaluate), .arrive ("a", .evaluate), .act 0 none, .act 1 none, .act 0 none, .act 0 none, .act 0 none,
    .act 0 none, .act 0 none, .act 1 none, .act 1 none, .act 1 none, .act 1 none, .act 1 none, .act 0 none, .act 1 none]

/-- A caller fails while another waits to look. -/
def failsWatched : List Event :=
  [.arrive ("a", .evaluate), .arrive ("a", .get), .act 0 none, .act 1 none, .act 0 none, .act 0 none, .act 0 none,
    .act 0 none, .act 0 none, .act 0 none, .act 1 none, .act 1 none, .act 1 none]

def abandoned : State := (State.play {} bothFail).getD {}

theorem filled_or_forsaken_bothFail :
    Reachable abandoned ∧ abandoned.Quiet ∧ abandoned.map.find? "a" = some 0 ∧ Forsaken abandoned "a" 0 := by
  have hreach : Reachable abandoned := Reachable.start.play (show State.play {} bothFail = some abandoned from rfl)
  have hquiet : abandoned.Quiet := by decide
  have hmap : abandoned.map.find? "a" = some 0 := rfl
  refine ⟨hreach, hquiet, hmap, (filled_or_forsaken hreach hquiet hmap).resolve_left ?_⟩
  rintro ⟨text, htext⟩
  cases htext

/-- After the schedule no call is in flight, and the map holds an empty slot. -/
def LeavesEmpty (schedule : List Event) : Prop :=
  ∃ s, State.play {} schedule = some s ∧ Reachable s ∧ s.Quiet ∧ s.map.find? "a" = some 0 ∧ s.textAt 0 = none

theorem leavesEmpty_of_play {schedule : List Event} {s : State} (hplay : State.play {} schedule = some s)
    (hquiet : s.Quiet) (hmap : s.map.find? "a" = some 0) (hempty : s.textAt 0 = none) : LeavesEmpty schedule :=
  ⟨s, hplay, Reachable.start.play hplay, hquiet, hmap, hempty⟩

theorem slot_left_empty : LeavesEmpty bothFail ∧ LeavesEmpty failsWatched := by
  constructor
  · have hplay : State.play {} bothFail = some abandoned := rfl
    exact leavesEmpty_of_play hplay (by decide) rfl rfl
  · have hplay : State.play {} failsWatched = some ((State.play {} failsWatched).getD {}) := rfl
    exact leavesEmpty_of_play hplay (by decide) rfl rfl

end CompiledRules.Slots
