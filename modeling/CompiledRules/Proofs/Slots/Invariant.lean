import CompiledRules.Proofs.List
import CompiledRules.Proofs.Slots.Steps

/-!
# The invariant of the shared store

`Fits` is what one caller relies on, and `Invariant` adds what holds of the store. Both are preserved by every step,
so they hold of every state that can be reached.
-/

namespace CompiledRules.Slots

/-- What a caller relies on in its phase. -/
structure Fits (s : State) (caller : Caller) : Prop where
  owned : ∀ {slot}, caller.phase.owned? = some slot → s.map.find? caller.identifier = some slot
  empty : ∀ {slot}, caller.phase.empty? = some slot → s.textAt slot = none
  full : ∀ {slot text}, caller.phase.full? = some (slot, text) → s.textAt slot = some text
  answer : ∀ {text}, caller.phase.answer? = some text → s.productionsOf caller.identifier = [text]

namespace State

/-- How many slots hold a text. -/
def filledSlots (s : State) : Nat := s.slots.countP fun slot => slot.text.isSome

/-- How many callers have filled their slot and not yet counted it. -/
def uncounted (s : State) : Nat := s.callers.countP fun caller => caller.phase.isFilled

end State

structure Invariant (s : State) : Prop where
  made : ∀ {identifier slot}, s.map.find? identifier = some slot → slot < s.slots.length
  injective : ∀ {identifier identifier' slot}, s.map.find? identifier = some slot →
    s.map.find? identifier' = some slot → identifier = identifier'
  mapped : ∀ {slot text}, s.textAt slot = some text → ∃ identifier, s.map.find? identifier = some slot
  filled : ∀ {identifier slot text}, s.map.find? identifier = some slot → s.textAt slot = some text →
    s.productionsOf identifier = [text]
  /-- What was produced is in the slot, or its producer is about to put it there. -/
  produced : ∀ identifier, s.productionsOf identifier = [] ∨
    (∃ slot text, s.map.find? identifier = some slot ∧ s.textAt slot = some text) ∨
    ∃ (number : Nat) (caller : Caller) (slot : Nat) (text : String), s.callers[number]? = some caller ∧
      caller.identifier = identifier ∧ caller.phase = .produced slot (some text)
  fits : ∀ {number : Nat} {caller : Caller}, s.callers[number]? = some caller → Fits s caller
  locked : ∀ {number : Nat} {caller : Caller} {slot : Nat}, s.callers[number]? = some caller →
    caller.phase.lock? = some slot → s.LockedAt slot
  /-- A lock is had by one caller. -/
  exclusive : ∀ {number number' : Nat} {caller caller' : Caller} {slot : Nat},
    s.callers[number]? = some caller → s.callers[number']? = some caller' →
    caller.phase.lock? = some slot → caller'.phase.lock? = some slot → number = number'
  counted : s.counter + s.uncounted = s.filledSlots

namespace Invariant

variable {s s' : State} {caller : Caller} {phase : Phase} {number : Nat}

/-- Nothing has been produced for the identifier of a caller that produces. -/
theorem productionsOf_producing (hi : Invariant s) (hc : s.callers[number]? = some caller) {slot : Nat}
    (hp : caller.phase = .producing slot) : s.productionsOf caller.identifier = [] := by
  have howned : s.map.find? caller.identifier = some slot := (hi.fits hc).owned (by simp [hp, Phase.owned?])
  have hempty : s.textAt slot = none := (hi.fits hc).empty (by simp [hp, Phase.empty?])
  rcases hi.produced caller.identifier with h | ⟨k, text, hk, htext⟩ | ⟨m, d, k, text, hd, hid, hdp⟩
  · exact h
  · obtain rfl := Option.some.inj (howned.symm.trans hk)
    simp [hempty] at htext
  · -- the other caller has the lock of the same slot
    have hk : s.map.find? d.identifier = some k := (hi.fits hd).owned (by simp [hdp, Phase.owned?])
    obtain rfl := Option.some.inj (howned.symm.trans (hid ▸ hk))
    have hlock : caller.phase.lock? = some slot := by simp [hp, Phase.lock?]
    obtain rfl := hi.exclusive hc hd hlock (by simp [hdp, Phase.lock?])
    obtain rfl := Option.some.inj (hc.symm.trans hd)
    simp [hp] at hdp

/-- A slot of the map that two callers refer to has three references. -/
theorem three_le_references {identifier : String} {slot m n : Nat} {c d : Caller} (hmn : m ≠ n)
    (hmap : s.map.find? identifier = some slot) (hc : s.callers[m]? = some c) (hd : s.callers[n]? = some d)
    (hcs : c.phase.slot? = some slot) (hds : d.phase.slot? = some slot) :
    3 ≤ s.references slot := by
  have hvalue : slot ∈ s.map.values :=
    List.mem_map.mpr ⟨(identifier, slot), (s.map.find?_eq_some_iff identifier slot).mp hmap, rfl⟩
  have hcount : 0 < s.map.values.count slot := List.count_pos_iff.mpr hvalue
  have hcallers : 2 ≤ s.callers.countP fun caller => caller.phase.slot? == some slot :=
    List.two_le_countP hmn hc hd (by simp [hcs]) (by simp [hds])
  unfold State.references
  omega

/-- A text stays as it is. -/
theorem textAt_mono (hi : Invariant s) (hc : s.callers[number]? = some caller) (h : Acts s caller phase s')
    {slot : Nat} {text : String} (htext : s.textAt slot = some text) : s'.textAt slot = some text := by
  rcases h.textAt_eq slot with heq | ⟨t, hp, -⟩
  · exact heq.trans htext
  · have hempty : s.textAt slot = none := (hi.fits hc).empty (by simp [hp, Phase.empty?])
    rw [htext] at hempty
    cases hempty

/-- A slot with a text stays the one of its identifier. -/
theorem find?_mono (h : Acts s caller phase s') {identifier : String} {slot : Nat} {text : String}
    (hmap : s.map.find? identifier = some slot) (htext : s.textAt slot = some text) :
    s'.map.find? identifier = some slot := by
  rcases h.find?_of_find? hmap with hk | ⟨-, -, -, -, hnone⟩
  · exact hk
  · rw [htext] at hnone
    cases hnone

/-- After one production there is no other. -/
theorem productionsOf_mono (hi : Invariant s) (hc : s.callers[number]? = some caller) (h : Acts s caller phase s')
    {identifier text : String} (hone : s.productionsOf identifier = [text]) :
    s'.productionsOf identifier = [text] := by
  rcases h.productionsOf_eq identifier with heq | ⟨rfl, slot, t, hp, -⟩
  · exact heq.trans hone
  · have hnone := hi.productionsOf_producing hc hp
    rw [hone] at hnone
    cases hnone

/-- A step leaves the other callers what they rely on. -/
theorem fits_other (hi : Invariant s) (hc : s.callers[number]? = some caller) (h : Acts s caller phase s')
    {m : Nat} {d : Caller} (hne : m ≠ number) (hd : s.callers[m]? = some d) : Fits s' d := by
  have hfits := hi.fits hd
  refine ⟨fun {slot} ho => ?_, fun {slot} he => ?_, fun {slot text} hf => ?_, fun {text} ha => ?_⟩
  · rcases h.find?_of_find? (hfits.owned ho) with hk | ⟨-, hp, -, hrefs, -⟩
    · exact hk
    · have := three_le_references hne (hfits.owned ho) hd hc (Phase.slot?_of_owned? ho) (by simp [hp, Phase.slot?])
      omega
  · rcases h.textAt_eq slot with heq | ⟨text, hp, -⟩
    · exact heq.trans (hfits.empty he)
    · exact absurd (hi.exclusive hd hc (Phase.lock?_of_empty? he) (by simp [hp, Phase.lock?])) hne
  · exact hi.textAt_mono hc h (hfits.full hf)
  · exact hi.productionsOf_mono hc h (hfits.answer ha)

/-- A step gives the caller what it relies on next. -/
theorem fits_self (hi : Invariant s) (hc : s.callers[number]? = some caller) (h : Acts s caller phase s') :
    Fits s' { caller with phase } := by
  have hfits := hi.fits hc
  refine ⟨fun {slot} ho => ?_, fun {slot} he => ?_, fun {slot text} hf => ?_, fun {text} ha => ?_⟩
  · rcases h.owned?_before ho with hold | hnew
    · rcases h.find?_of_find? (hfits.owned hold) with hk | ⟨-, -, rfl, -⟩
      · exact hk
      · cases ho
    · exact hnew
  · have hnone : s.textAt slot = none := (h.empty?_before he).elim hfits.empty id
    rcases h.textAt_eq slot with heq | ⟨text, -, rfl, -⟩
    · exact heq.trans hnone
    · cases he
  · rcases h.full?_before hf with hold | hold | hp
    · exact hi.textAt_mono hc h (hfits.full hold)
    · exact hi.textAt_mono hc h hold
    · exact h.textAt_of_produced hp (hi.made (hfits.owned (by simp [hp, Phase.owned?])))
  · rcases h.answer?_before ha with ⟨slot, hf⟩ | ⟨⟨slot, hp⟩, hnew⟩
    · have hone := hi.filled (hfits.owned (Phase.owned?_of_full? hf)) (hfits.full hf)
      exact hi.productionsOf_mono hc h hone
    · exact hnew.trans (by rw [hi.productionsOf_producing hc hp, List.nil_append])

/-! ### The store after a step -/

theorem made_after (hi : Invariant s) (h : Acts s caller phase s') {identifier : String} {slot : Nat}
    (hmap : s'.map.find? identifier = some slot) : slot < s'.slots.length := by
  rcases h.find?_of_find?_after hmap with hold | ⟨-, -, hlt⟩
  · exact Nat.lt_of_lt_of_le (hi.made hold) h.length_le
  · exact hlt

theorem injective_after (hi : Invariant s) (h : Acts s caller phase s') {identifier identifier' : String} {slot : Nat}
    (hmap : s'.map.find? identifier = some slot) (hmap' : s'.map.find? identifier' = some slot) :
    identifier = identifier' := by
  rcases h.find?_of_find?_after hmap with hold | ⟨hid, hslot, -⟩ <;>
    rcases h.find?_of_find?_after hmap' with hold' | ⟨hid', hslot', -⟩
  · exact hi.injective hold hold'
  · exact absurd (hi.made hold) (by omega)
  · exact absurd (hi.made hold') (by omega)
  · exact hid.trans hid'.symm

theorem mapped_after (hi : Invariant s) (hc : s.callers[number]? = some caller) (h : Acts s caller phase s')
    {slot : Nat} {text : String} (htext : s'.textAt slot = some text) :
    ∃ identifier, s'.map.find? identifier = some slot := by
  rcases h.textAt_eq slot with heq | ⟨t, hp, rfl, -⟩
  · rw [heq] at htext
    obtain ⟨identifier, hmap⟩ := hi.mapped htext
    exact ⟨identifier, find?_mono h hmap htext⟩
  · exact ⟨caller.identifier, (hi.fits_self hc h).owned rfl⟩

theorem filled_after (hi : Invariant s) (hc : s.callers[number]? = some caller) (h : Acts s caller phase s')
    {identifier : String} {slot : Nat} {text : String} (hmap : s'.map.find? identifier = some slot)
    (htext : s'.textAt slot = some text) : s'.productionsOf identifier = [text] := by
  refine hi.productionsOf_mono hc h ?_
  rcases h.textAt_eq slot with heq | ⟨t, hp, rfl, ht⟩
  · rw [heq] at htext
    rcases h.find?_of_find?_after hmap with hold | ⟨-, rfl, -⟩
    · exact hi.filled hold htext
    · rw [State.textAt_eq_none_of_le (Nat.le_refl _)] at htext
      cases htext
  · obtain rfl := Option.some.inj (ht.symm.trans htext)
    obtain rfl := hi.injective_after h hmap ((hi.fits_self hc h).owned rfl)
    exact (hi.fits hc).answer (by simp [hp, Phase.answer?])

end Invariant

/-! ## Steps preserve the invariant -/

theorem Fits.of_callers {s : State} {caller : Caller} (h : Fits s caller) (callers : List Caller) :
    Fits { s with callers } caller :=
  ⟨h.owned, h.empty, h.full, h.answer⟩

namespace State

@[simp] theorem counter_setSlot (s : State) (slot : Nat) (change : Slot → Slot) :
    (s.setSlot slot change).counter = s.counter := rfl

@[simp] theorem filledSlots_setSlot_locked (s : State) (slot : Nat) (locked : Bool) :
    (s.setSlot slot fun x => { x with locked }).filledSlots = s.filledSlots := by
  cases hx : s.slots[slot]? with
  | none => rw [filledSlots, setSlot, List.modify_eq_self (List.getElem?_eq_none_iff.mp hx), filledSlots]
  | some x => exact Nat.add_right_cancel (List.countP_modify_add _ hx _)

theorem filledSlots_setSlot_text {s : State} {slot : Nat} (text : String) (hlt : slot < s.slots.length)
    (hempty : s.textAt slot = none) :
    (s.setSlot slot fun x => { x with text := some text }).filledSlots = s.filledSlots + 1 := by
  have hx : s.slots[slot]? = some s.slots[slot] := List.getElem?_eq_getElem hlt
  have hnone : s.slots[slot].text = none := by simpa [textAt, hx] using hempty
  have hcount := List.countP_modify_add (fun slot => slot.text.isSome) hx fun x => { x with text := some text }
  simpa [hnone, filledSlots, setSlot] using hcount

end State

namespace Invariant

variable {s s' : State} {caller : Caller} {phase : Phase} {number : Nat}

/-- The caller that fills a slot counts it later. -/
theorem counted_step (hi : Invariant s) (hc : s.callers[number]? = some caller) (h : Acts s caller phase s') :
    s'.counter + phase.isFilled.toNat + s.filledSlots = s.counter + caller.phase.isFilled.toNat + s'.filledSlots := by
  cases h with
  | make hp => simp [hp, Phase.isFilled, State.filledSlots]
  | fill hp =>
      have hlt := hi.made ((hi.fits hc).owned (by rw [hp]; rfl))
      have hempty := (hi.fits hc).empty (by rw [hp]; rfl)
      rw [State.filledSlots_setSlot_text _ hlt hempty]
      simp only [hp, Phase.isFilled, State.setSlot, Bool.toNat_true, Bool.toNat_false]
      omega
  | lock hp | read hp | release hp | finish hp => simp [hp, Phase.isFilled, State.unlock]
  | _ => simp_all [Phase.isFilled, State.filledSlots]

theorem produced_after (hi : Invariant s) (hc : s.callers[number]? = some caller) (h : Acts s caller phase s')
    (identifier : String) : s'.productionsOf identifier = [] ∨
      (∃ slot text, s'.map.find? identifier = some slot ∧ s'.textAt slot = some text) ∨
      ∃ (m : Nat) (d : Caller) (slot : Nat) (text : String),
        (s.callers.set number { caller with phase })[m]? = some d ∧ d.identifier = identifier ∧
        d.phase = .produced slot (some text) := by
  rcases h.productionsOf_eq identifier with heq | ⟨rfl, slot, text, -, rfl, -⟩
  · rcases hi.produced identifier with hnone | ⟨slot, text, hmap, htext⟩ | ⟨m, d, slot, text, hd, rfl, hdp⟩
    · exact .inl (heq.trans hnone)
    · exact .inr (.inl ⟨slot, text, find?_mono h hmap htext, hi.textAt_mono hc h htext⟩)
    · right
      by_cases hm : m = number
      · subst hm
        obtain rfl := Option.some.inj (hc.symm.trans hd)
        have howned : s.map.find? caller.identifier = some slot := (hi.fits hc).owned (by rw [hdp]; rfl)
        rcases h.find?_of_find? howned with hmap | ⟨-, hp, -⟩
        · exact .inl ⟨slot, text, hmap, h.textAt_of_produced hdp (hi.made howned)⟩
        · rw [hdp] at hp
          cases hp
      · exact .inr ⟨m, d, slot, text, (List.getElem?_set_ne (Ne.symm hm)).trans hd, rfl, hdp⟩
  · exact .inr (.inr ⟨number, _, slot, text, List.getElem?_set_same hc _, rfl, rfl⟩)

theorem locked_after (hi : Invariant s) (hc : s.callers[number]? = some caller) (h : Acts s caller phase s')
    {m : Nat} {d : Caller} {slot : Nat} (hd : (s.callers.set number { caller with phase })[m]? = some d)
    (hlock : d.phase.lock? = some slot) : s'.LockedAt slot := by
  rcases List.getElem?_set_cases hd with ⟨rfl, rfl⟩ | ⟨hne, hd⟩
  · rcases h.lock?_before hlock with hold | ⟨-, hnew⟩
    · rcases h.lockedAt (hi.locked hc hold) with hl | ⟨-, hnone⟩
      · exact hl
      · rw [hnone] at hlock
        cases hlock
    · exact hnew
  · rcases h.lockedAt (hi.locked hd hlock) with hl | ⟨hcl, -⟩
    · exact hl
    · exact absurd (hi.exclusive hd hc hlock hcl) hne

/-- What the caller locks is locked by no other. -/
theorem exclusive_after (hi : Invariant s) (hc : s.callers[number]? = some caller) (h : Acts s caller phase s')
    {m : Nat} {d : Caller} {slot : Nat} (hd : s.callers[m]? = some d) (hlock : phase.lock? = some slot)
    (hdlock : d.phase.lock? = some slot) : m = number := by
  rcases h.lock?_before hlock with hold | ⟨hfree, -⟩
  · exact hi.exclusive hd hc hdlock hold
  · exact absurd (hi.locked hd hdlock) hfree

theorem act (hi : Invariant s) (hc : s.callers[number]? = some caller) (h : Acts s caller phase s') :
    Invariant { s' with callers := s.callers.set number { caller with phase } } where
  made := hi.made_after h
  injective := hi.injective_after h
  mapped := hi.mapped_after hc h
  filled := hi.filled_after hc h
  produced := by
    have hproduced := hi.produced_after hc h
    exact hproduced
  fits hd := by
    refine Fits.of_callers ?_ _
    rcases List.getElem?_set_cases hd with ⟨rfl, rfl⟩ | ⟨hne, hd⟩
    · exact hi.fits_self hc h
    · exact hi.fits_other hc h hne hd
  locked := hi.locked_after hc h
  exclusive hd he hdl hel := by
    rcases List.getElem?_set_cases hd with ⟨rfl, rfl⟩ | ⟨-, hd'⟩ <;>
      rcases List.getElem?_set_cases he with ⟨rfl, rfl⟩ | ⟨-, he'⟩
    · rfl
    · exact (hi.exclusive_after hc h he' hdl hel).symm
    · exact hi.exclusive_after hc h hd' hel hdl
    · exact hi.exclusive hd' he' hdl hel
  counted := by
    have hcallers := List.countP_set_add (fun caller => caller.phase.isFilled) hc { caller with phase }
    have hstep := hi.counted_step hc h
    have hcounted := hi.counted
    simp only [State.uncounted, State.filledSlots] at *
    omega

theorem arrive (hi : Invariant s) (identifier : String) (request : Request) :
    Invariant { s with callers := s.callers ++ [{ identifier, request }] } where
  made := hi.made
  injective := hi.injective
  mapped := hi.mapped
  filled := hi.filled
  produced id := by
    rcases hi.produced id with hnone | hmap | ⟨m, d, slot, text, hd, hrest⟩
    · exact .inl hnone
    · exact .inr (.inl hmap)
    · exact .inr (.inr ⟨m, d, slot, text, List.getElem?_concat_of hd, hrest⟩)
  fits hd := by
    refine Fits.of_callers ?_ _
    rcases List.getElem?_concat_cases hd with hd | rfl
    · exact hi.fits hd
    · exact ⟨nofun, nofun, nofun, nofun⟩
  locked hd hlock := by
    rcases List.getElem?_concat_cases hd with hd | rfl
    · exact hi.locked hd hlock
    · cases hlock
  exclusive hd he hdl hel := by
    rcases List.getElem?_concat_cases hd with hd | rfl <;> rcases List.getElem?_concat_cases he with he | rfl
    · exact hi.exclusive hd he hdl hel
    · cases hel
    · cases hdl
    · cases hdl
  counted := by
    simpa [State.uncounted, State.filledSlots, Phase.isFilled] using hi.counted

theorem step (hi : Invariant s) (h : Step s s') : Invariant s' := by
  cases h with
  | arrive identifier request => exact hi.arrive identifier request
  | act number outcome h =>
      obtain ⟨caller, phase, s₁, hc, hacts, rfl⟩ := acts_of_step h
      exact hi.act hc hacts

end Invariant

theorem invariant_of_reachable {s : State} (h : Reachable s) : Invariant s := by
  induction h with
  | start => exact ⟨nofun, nofun, nofun, nofun, fun _ => .inl rfl, nofun, nofun, nofun, rfl⟩
  | step _ hstep ih => exact ih.step hstep

end CompiledRules.Slots
