import CompiledRules.Proofs.Table
import CompiledRules.Store.Slots

/-!
# What a step of a caller can do

`Acts` lists the steps of a caller with what each asks of the store and does to it. From it follows once for all how
the texts, the map, the locks and the productions may change.
-/

namespace CompiledRules.Slots

/-! ## What callers rely on -/

namespace Phase

/-- The slot whose lock the caller has. -/
def lock? : Phase → Option Nat
  | .looking slot | .producing slot | .produced slot _ | .filled slot _ | .counted slot _ => some slot
  | _ => none

/-- The slot that must still be the one of the caller's identifier. -/
def owned? : Phase → Option Nat
  | .waiting slot | .looking slot | .producing slot | .produced slot _ | .filled slot _ | .counted slot _
  | .discarding slot | .leaving slot (some _) => some slot
  | _ => none

/-- The slot that must still be empty. -/
def empty? : Phase → Option Nat
  | .producing slot | .produced slot _ => some slot
  | _ => none

/-- The slot that must hold the text. -/
def full? : Phase → Option (Nat × String)
  | .filled slot text | .counted slot text | .leaving slot (some text) => some (slot, text)
  | _ => none

/-- The text that must be the one production of the caller's identifier. -/
def answer? : Phase → Option String
  | .produced _ (some text) | .done (some text) => some text
  | _ => none

def isFilled : Phase → Bool
  | .filled _ _ => true
  | _ => false

theorem slot?_of_owned? {phase : Phase} {slot : Nat} (h : phase.owned? = some slot) : phase.slot? = some slot := by
  unfold owned? at h
  split at h <;> simp_all [slot?]

theorem lock?_of_empty? {phase : Phase} {slot : Nat} (h : phase.empty? = some slot) : phase.lock? = some slot := by
  unfold empty? at h
  split at h <;> simp_all [lock?]

theorem owned?_of_full? {phase : Phase} {slot : Nat} {text : String} (h : phase.full? = some (slot, text)) :
    phase.owned? = some slot := by
  unfold full? at h
  split at h <;> simp_all [owned?]

end Phase

namespace State

/-- The text in a slot. -/
def textAt (s : State) (slot : Nat) : Option String := s.slots[slot]?.bind Slot.text

/-- The slot has been made and is locked. -/
def LockedAt (s : State) (slot : Nat) : Prop := ∃ x, s.slots[slot]? = some x ∧ x.locked = true

/-- The texts that were produced for an identifier. -/
def productionsOf (s : State) (identifier : String) : List String :=
  (s.productions.filter fun production => production.1 = identifier).map Prod.snd

@[simp] theorem textAt_setSlot_locked (s : State) (slot : Nat) (locked : Bool) (k : Nat) :
    (s.setSlot slot fun x => { x with locked }).textAt k = s.textAt k := by
  simp only [textAt, setSlot, List.getElem?_modify]
  cases s.slots[k]? with
  | none => rfl
  | some x => by_cases h : slot = k <;> simp [h]

theorem textAt_setSlot_text (s : State) (slot : Nat) (text : String) (k : Nat) :
    (s.setSlot slot fun x => { x with text := some text }).textAt k =
      if slot = k ∧ k < s.slots.length then some text else s.textAt k := by
  simp only [textAt, setSlot, List.getElem?_modify]
  by_cases hk : k < s.slots.length
  · by_cases h : slot = k <;> simp [h, hk]
  · simp [hk]

theorem textAt_eq_none_of_le {s : State} {slot : Nat} (h : s.slots.length ≤ slot) : s.textAt slot = none := by
  simp [textAt, h]

theorem lockedAt_setSlot_text (s : State) (slot : Nat) (text : String) (k : Nat) :
    (s.setSlot slot fun x => { x with text := some text }).LockedAt k ↔ s.LockedAt k := by
  simp only [LockedAt, setSlot, List.getElem?_modify]
  cases s.slots[k]? with
  | none => simp
  | some x => by_cases h : slot = k <;> simp [h]

theorem lockedAt_setSlot_locked (s : State) (slot : Nat) (locked : Bool) (k : Nat) :
    (s.setSlot slot fun x => { x with locked }).LockedAt k ↔
      if slot = k then k < s.slots.length ∧ locked = true else s.LockedAt k := by
  simp only [LockedAt, setSlot, List.getElem?_modify]
  by_cases hk : k < s.slots.length
  · by_cases h : slot = k <;> simp [h, hk]
  · by_cases h : slot = k <;> simp [h, hk]

end State

/-! ## Steps -/

/-- The caller takes a step that leads to the phase and to the state, apart from the caller itself. -/
inductive Acts (s : State) (caller : Caller) : Phase → State → Prop where
  | find {slot} : caller.phase = .arriving → s.map.find? caller.identifier = some slot → Acts s caller (.waiting slot) s
  | make : caller.phase = .arriving → s.map.find? caller.identifier = none → caller.request = .evaluate →
      Acts s caller (.waiting s.slots.length)
        { s with slots := s.slots ++ [{}], map := s.map.insert caller.identifier s.slots.length }
  | miss : caller.phase = .arriving → s.map.find? caller.identifier = none → caller.request = .get →
      Acts s caller (.done none) s
  | lock {slot x} : caller.phase = .waiting slot → s.slots[slot]? = some x → x.locked = false →
      Acts s caller (.looking slot) (s.setSlot slot fun x => { x with locked := true })
  | begin {slot} : caller.phase = .looking slot → s.textAt slot = none → caller.request = .evaluate →
      Acts s caller (.producing slot) s
  | read {slot} : caller.phase = .looking slot → (s.textAt slot = none → caller.request = .get) →
      Acts s caller (.leaving slot (s.textAt slot)) (s.unlock slot)
  | succeed {slot text} : caller.phase = .producing slot →
      Acts s caller (.produced slot (some text)) { s with productions := s.productions ++ [(caller.identifier, text)] }
  | fail {slot} : caller.phase = .producing slot → Acts s caller (.produced slot none) s
  | fill {slot text} : caller.phase = .produced slot (some text) →
      Acts s caller (.filled slot text) (s.setSlot slot fun x => { x with text := some text })
  | release {slot} : caller.phase = .produced slot none → Acts s caller (.discarding slot) (s.unlock slot)
  | count {slot text} : caller.phase = .filled slot text →
      Acts s caller (.counted slot text) { s with counter := s.counter + 1 }
  | finish {slot text} : caller.phase = .counted slot text → Acts s caller (.leaving slot (some text)) (s.unlock slot)
  | remove {slot} : caller.phase = .discarding slot → s.map.find? caller.identifier = some slot →
      s.references slot = 2 → s.slots[slot]? = some {} →
      Acts s caller (.leaving slot none) { s with map := s.map.erase caller.identifier }
  | keep {slot} : caller.phase = .discarding slot →
      ¬ (s.map.find? caller.identifier = some slot ∧ s.references slot = 2 ∧ s.slots[slot]? = some {}) →
      Acts s caller (.leaving slot none) s
  | leave {slot answer} : caller.phase = .leaving slot answer → Acts s caller (.done answer) s

theorem acts_of_advance {s s' : State} {caller : Caller} {outcome : Option String} {phase : Phase}
    (h : s.advance caller outcome = some (phase, s')) : Acts s caller phase s' := by
  unfold State.advance at h
  split at h
  case h_1 hp =>
      split at h
      case h_1 hrequest =>
          cases hmap : s.map.find? caller.identifier <;> simp only [State.claim, hmap] at h <;> cases h
          · exact .make hp hmap hrequest
          · exact .find hp hmap
      case h_2 hrequest =>
          split at h <;> cases h
          · exact .find hp ‹_›
          · exact .miss hp ‹_› hrequest
  case h_2 hp =>
      split at h <;> cases h
      exact .lock hp ‹_› rfl
  case h_3 hp =>
      split at h <;> cases h
      case h_1 htext hrequest => exact .begin hp htext hrequest
      case h_2 hother =>
          refine .read hp fun htext => ?_
          cases hrequest : caller.request with
          | evaluate => exact absurd hrequest (hother htext)
          | get => rfl
  case h_4 hp =>
      split at h <;> cases h
      · exact .succeed hp
      · exact .fail hp
  case h_5 hp => cases h; exact .fill hp
  case h_6 hp => cases h; exact .release hp
  case h_7 hp => cases h; exact .count hp
  case h_8 hp => cases h; exact .finish hp
  case h_9 hp =>
      cases h
      unfold State.discard
      split
      case isTrue hs => exact .remove hp hs.1 hs.2.1 hs.2.2
      case isFalse hs => exact .keep hp hs
  case h_10 hp => cases h; exact .leave hp
  case h_11 => cases h

/-! ## What a step does to each part -/

namespace Acts

variable {s s' : State} {caller : Caller} {phase : Phase}

theorem callers_eq (h : Acts s caller phase s') : s'.callers = s.callers := by
  cases h <;> rfl

theorem length_le (h : Acts s caller phase s') : s.slots.length ≤ s'.slots.length := by
  cases h <;> simp [State.unlock, State.setSlot]

/-- An entry of the map stays unless the caller removes it, and then the slot is empty and only this caller's. -/
theorem find?_of_find? (h : Acts s caller phase s') {identifier : String} {slot : Nat}
    (hfind : s.map.find? identifier = some slot) :
    s'.map.find? identifier = some slot ∨
      identifier = caller.identifier ∧ caller.phase = .discarding slot ∧ phase = .leaving slot none ∧
        s.references slot = 2 ∧ s.textAt slot = none := by
  cases h with
  | make _ hnone =>
      left
      have hne : identifier ≠ caller.identifier := by
        rintro rfl
        simp [hnone] at hfind
      simp [hne, hfind]
  | remove hp hmap hrefs hslot =>
      by_cases hid : identifier = caller.identifier
      · subst hid
        obtain rfl := Option.some.inj (hmap.symm.trans hfind)
        exact .inr ⟨rfl, hp, rfl, hrefs, by simp [State.textAt, hslot]⟩
      · left
        simp [hid, hfind]
  | _ => exact .inl hfind

/-- A new entry of the map is the caller's own and leads to a new slot. -/
theorem find?_of_find?_after (h : Acts s caller phase s') {identifier : String} {slot : Nat}
    (hfind : s'.map.find? identifier = some slot) :
    s.map.find? identifier = some slot ∨
      identifier = caller.identifier ∧ slot = s.slots.length ∧ slot < s'.slots.length := by
  cases h with
  | make _ hnone =>
      simp only [Table.find?_insert] at hfind
      split at hfind
      · cases hfind
        exact .inr ⟨‹_›, rfl, by simp⟩
      · exact .inl hfind
  | remove =>
      simp only [Table.find?_erase] at hfind
      split at hfind
      · cases hfind
      · exact .inl hfind
  | _ => exact .inl hfind

/-- A text changes only when the caller fills the slot with what it produced. -/
theorem textAt_eq (h : Acts s caller phase s') (slot : Nat) :
    s'.textAt slot = s.textAt slot ∨
      ∃ text, caller.phase = .produced slot (some text) ∧ phase = .filled slot text ∧
        s'.textAt slot = some text := by
  cases h with
  | make =>
      left
      simp only [State.textAt, List.getElem?_append]
      split
      · rfl
      · rename_i hlt
        rw [List.getElem?_eq_none (Nat.le_of_not_lt hlt)]
        cases slot - s.slots.length <;> simp
  | lock | read | release | finish => exact .inl (State.textAt_setSlot_locked s _ _ slot)
  | @fill k text hp =>
      rw [State.textAt_setSlot_text]
      split
      · rename_i hk
        obtain ⟨rfl, -⟩ := hk
        exact .inr ⟨text, hp, rfl, rfl⟩
      · exact .inl rfl
  | _ => exact .inl rfl

theorem textAt_of_produced (h : Acts s caller phase s') {slot : Nat} {text : String}
    (hp : caller.phase = .produced slot (some text)) (hlt : slot < s.slots.length) : s'.textAt slot = some text := by
  cases h with
  | fill hp' =>
      obtain ⟨rfl, rfl⟩ : _ = slot ∧ _ = text := by simpa using hp'.symm.trans hp
      simp [State.textAt_setSlot_text, hlt]
  | _ => simp_all

/-- A production is the caller's own. -/
theorem productionsOf_eq (h : Acts s caller phase s') (identifier : String) :
    s'.productionsOf identifier = s.productionsOf identifier ∨
      identifier = caller.identifier ∧ ∃ slot text, caller.phase = .producing slot ∧
        phase = .produced slot (some text) ∧ s'.productionsOf identifier = s.productionsOf identifier ++ [text] := by
  cases h with
  | @succeed slot text hp =>
      by_cases hid : identifier = caller.identifier
      · subst hid
        exact .inr ⟨rfl, slot, text, hp, rfl, by simp [State.productionsOf]⟩
      · left
        simp [State.productionsOf, Ne.symm hid]
  | _ => exact .inl rfl

theorem owned?_before (h : Acts s caller phase s') {slot : Nat} (ho : phase.owned? = some slot) :
    caller.phase.owned? = some slot ∨ s'.map.find? caller.identifier = some slot := by
  cases h with
  | @read k hp => cases htext : s.textAt k <;> simp_all [Phase.owned?]
  | @leave k answer hp => cases answer <;> simp_all [Phase.owned?]
  | _ => simp_all [Phase.owned?]

theorem empty?_before (h : Acts s caller phase s') {slot : Nat} (he : phase.empty? = some slot) :
    caller.phase.empty? = some slot ∨ s.textAt slot = none := by
  cases h <;> simp_all [Phase.empty?]

theorem full?_before (h : Acts s caller phase s') {slot : Nat} {text : String}
    (hf : phase.full? = some (slot, text)) :
    caller.phase.full? = some (slot, text) ∨ s.textAt slot = some text ∨
      caller.phase = .produced slot (some text) := by
  cases h with
  | @read k hp => cases htext : s.textAt k <;> simp_all [Phase.full?]
  | @leave k answer hp => cases answer <;> simp_all [Phase.full?]
  | _ => simp_all [Phase.full?]

theorem answer?_before (h : Acts s caller phase s') {text : String} (ha : phase.answer? = some text) :
    (∃ slot, caller.phase.full? = some (slot, text)) ∨
      (∃ slot, caller.phase = .producing slot) ∧
        s'.productionsOf caller.identifier = s.productionsOf caller.identifier ++ [text] := by
  cases h with
  | @leave k answer hp => cases answer <;> simp_all [Phase.answer?, Phase.full?]
  | _ => simp_all [Phase.answer?, Phase.full?, State.productionsOf]

/-- A lock that the caller has after the step it had before or takes from nobody. -/
theorem lock?_before (h : Acts s caller phase s') {slot : Nat} (hlock : phase.lock? = some slot) :
    caller.phase.lock? = some slot ∨ ¬ s.LockedAt slot ∧ s'.LockedAt slot := by
  cases h with
  | @lock k x hp hx hfree =>
      cases hlock
      refine .inr ⟨?_, ?_⟩
      · rintro ⟨y, hy, hlocked⟩
        obtain rfl := Option.some.inj (hx.symm.trans hy)
        simp [hfree] at hlocked
      · have hlt := (List.getElem?_eq_some_iff.mp hx).1
        simpa [State.lockedAt_setSlot_locked] using hlt
  | _ => simp_all [Phase.lock?]

/-- A lock is given up by the caller that has it. -/
theorem lockedAt (h : Acts s caller phase s') {slot : Nat} (hlocked : s.LockedAt slot) :
    s'.LockedAt slot ∨ caller.phase.lock? = some slot ∧ phase.lock? = none := by
  have hlt : slot < s.slots.length := by
    obtain ⟨x, hx, -⟩ := hlocked
    exact (List.getElem?_eq_some_iff.mp hx).1
  cases h with
  | make =>
      obtain ⟨x, hx, hlocked⟩ := hlocked
      exact .inl ⟨x, (List.getElem?_append_left hlt).trans hx, hlocked⟩
  | lock => simp_all [State.lockedAt_setSlot_locked]
  | @read k hp | @release k hp | @finish k text hp =>
      by_cases hk : k = slot
      · exact .inr ⟨by simp [hp, hk, Phase.lock?], rfl⟩
      · left
        simp [State.unlock, State.lockedAt_setSlot_locked, hk, hlocked]
  | fill => exact .inl ((State.lockedAt_setSlot_text s _ _ slot).mpr hlocked)
  | _ => exact .inl hlocked

end Acts

theorem acts_of_step {s s' : State} {number : Nat} {outcome : Option String} (h : s.step number outcome = some s') :
    ∃ caller phase s₁, s.callers[number]? = some caller ∧ Acts s caller phase s₁ ∧
      s' = { s₁ with callers := s.callers.set number { caller with phase } } := by
  obtain ⟨caller, hc, h⟩ := Option.bind_eq_some_iff.mp h
  obtain ⟨⟨phase, s₁⟩, ha, h⟩ := Option.bind_eq_some_iff.mp h
  have hacts := acts_of_advance ha
  cases h
  exact ⟨caller, phase, s₁, hc, hacts, by rw [hacts.callers_eq]⟩

end CompiledRules.Slots
