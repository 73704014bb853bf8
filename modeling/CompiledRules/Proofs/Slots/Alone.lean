import CompiledRules.Proofs.List
import CompiledRules.Proofs.Slots.Steps
import CompiledRules.Proofs.Table
import CompiledRules.Store.Basic
import Mathlib

/-!
# One caller at a time

A caller that takes its steps before anyone else comes to what the store in memory comes to. If its production fails,
the slot that was made for it is gone when it is done.
-/

namespace CompiledRules

namespace Slots

/-! ## The steps of one caller -/

namespace State

/-- The state with one more caller, who wants a text at any cost. -/
def joined (s : State) (identifier : String) (phase : Phase) : State :=
  { s with callers := s.callers ++ [{ identifier, request := .evaluate, phase }] }

/-- One step after another of the caller with this number leads there, its production coming to the outcome. -/
def Alone (number : Nat) (outcome : Option String) : State → State → Prop :=
  Relation.ReflTransGen fun s s' => s.step number outcome = some s'

/-- A caller arrives, takes its steps before anyone else and is done with the answer. -/
structure Finishes (s : State) (identifier : String) (outcome answer : Option String) (s' : State) : Prop where
  alone : Alone s.callers.length outcome (s.joined identifier .arriving) s'
  callers : s'.callers = s.callers ++ [{ identifier, request := .evaluate, phase := .done answer }]

variable {s : State} {identifier : String}

theorem alone_joined {s₁ s' : State} {phase phase₁ : Phase} {outcome : Option String}
    (h : (s.joined identifier phase).advance { identifier, request := .evaluate, phase } outcome =
      some (phase₁, s₁.joined identifier phase))
    (hcallers : s₁.callers = s.callers)
    (hrest : Alone s₁.callers.length outcome (s₁.joined identifier phase₁) s') :
    Alone s.callers.length outcome (s.joined identifier phase) s' := by
  rw [hcallers] at hrest
  refine .head ?_ hrest
  have hcaller : (s.joined identifier phase).callers[s.callers.length]? =
      some { identifier, request := .evaluate, phase } := List.getElem?_concat_length
  simp only [step, hcaller, Option.bind_eq_bind, Option.bind_some, h]
  simp [joined, hcallers, List.set_append_right]

/-- Who finds a text leaves the state as it was. -/
theorem finishes_of_text {text : String} {slot : Nat} (hmap : s.map.find? identifier = some slot)
    (hslot : s.slots[slot]? = some ⟨some text, false⟩) (outcome : Option String) :
    s.Finishes identifier outcome (some text) (s.joined identifier (.done (some text))) := by
  let locked := s.setSlot slot fun x => { x with locked := true }
  have hlocked : locked.slots[slot]? = some ⟨some text, true⟩ := by simp [locked, setSlot, hslot]
  have hback : locked.unlock slot = s := by
    have hslots : (s.slots.modify slot fun x => { x with locked := true }).modify slot
        (fun x => { x with locked := false }) = s.slots := by
      rw [List.modify_modify_eq]
      exact List.modify_of_fixed hslot rfl
    exact congrArg (fun slots => { s with slots }) hslots
  have hfinds : (s.joined identifier .arriving).advance ⟨identifier, .evaluate, .arriving⟩ outcome =
      some (.waiting slot, s.joined identifier .arriving) := by
    simp [advance, claim, joined, hmap]
  have hlocks : (s.joined identifier (.waiting slot)).advance ⟨identifier, .evaluate, .waiting slot⟩ outcome =
      some (.looking slot, locked.joined identifier (.waiting slot)) := by
    simp [advance, joined, hslot, setSlot, locked]
  have hreads : (locked.joined identifier (.looking slot)).advance ⟨identifier, .evaluate, .looking slot⟩ outcome =
      some (.leaving slot (some text), s.joined identifier (.looking slot)) := by
    have hjoined : (locked.joined identifier (.looking slot)).slots[slot]? = some ⟨some text, true⟩ := hlocked
    simp only [advance, hjoined, Option.bind_some]
    exact congrArg (fun t : State => some (_, t.joined identifier _)) hback
  exact ⟨alone_joined hfinds rfl (alone_joined hlocks rfl (alone_joined hreads rfl (alone_joined rfl rfl .refl))), rfl⟩

/-- The state with a new slot for the identifier. -/
def made (s : State) (identifier : String) (slot : Slot) : State :=
  { s with slots := s.slots ++ [slot], map := s.map.insert identifier s.slots.length }

theorem setSlot_made (slot : Slot) (change : Slot → Slot) :
    (s.made identifier slot).setSlot s.slots.length change = s.made identifier (change slot) :=
  congrArg (fun slots => { s.made identifier slot with slots }) (List.modify_concat s.slots slot change)

theorem getElem?_made (identifier : String) (slot : Slot) :
    (s.made identifier slot).slots[s.slots.length]? = some slot := List.getElem?_concat_length

/-- Who finds no slot comes to its production, with the lock of a new one. -/
theorem alone_of_missing {s' : State} {outcome : Option String} (hmap : s.map.find? identifier = none)
    (hrest : Alone s.callers.length outcome
      ((s.made identifier ⟨none, true⟩).joined identifier (.producing s.slots.length)) s') :
    Alone s.callers.length outcome (s.joined identifier .arriving) s' := by
  have hmakes : (s.joined identifier .arriving).advance ⟨identifier, .evaluate, .arriving⟩ outcome =
      some (.waiting s.slots.length, (s.made identifier {}).joined identifier .arriving) := by
    simp [advance, claim, joined, made, hmap]
  have hlocks : ((s.made identifier {}).joined identifier (.waiting s.slots.length)).advance
      ⟨identifier, .evaluate, .waiting s.slots.length⟩ outcome =
        some (.looking s.slots.length,
          (s.made identifier ⟨none, true⟩).joined identifier (.waiting s.slots.length)) := by
    have hslot : ((s.made identifier {}).joined identifier (.waiting s.slots.length)).slots[s.slots.length]? =
        some {} := getElem?_made identifier {}
    simp only [advance, hslot]
    exact congrArg (fun t : State => some (_, t.joined identifier _)) (setSlot_made {} _)
  have hlooks : ((s.made identifier ⟨none, true⟩).joined identifier (.looking s.slots.length)).advance
      ⟨identifier, .evaluate, .looking s.slots.length⟩ outcome =
        some (.producing s.slots.length,
          (s.made identifier ⟨none, true⟩).joined identifier (.looking s.slots.length)) := by
    have hslot : ((s.made identifier ⟨none, true⟩).joined identifier (.looking s.slots.length)).slots[s.slots.length]? =
        some ⟨none, true⟩ := getElem?_made identifier ⟨none, true⟩
    simp only [advance, hslot, Option.bind_some]
  exact alone_joined hmakes rfl (alone_joined hlocks rfl (alone_joined hlooks rfl hrest))

/-- Nobody is at work, and the map leads to slots that there are. -/
structure Idle (s : State) : Prop where
  callers : ∀ caller ∈ s.callers, caller.phase.slot? = none
  made : ∀ identifier slot, s.map.find? identifier = some slot → slot < s.slots.length

/-- Only the map and the caller refer to its new slot. -/
theorem references_made (h : s.Idle) (hmap : s.map.find? identifier = none) (slot : Slot) {phase : Phase}
    (hphase : phase.slot? = some s.slots.length) :
    ((s.made identifier slot).joined identifier phase).references s.slots.length = 2 := by
  have hvalues : s.map.values.count s.slots.length = 0 := by
    refine List.count_eq_zero.mpr fun hmem => ?_
    obtain ⟨⟨key, n⟩, hentry, rfl⟩ := List.mem_map.mp hmem
    exact Nat.lt_irrefl _ (h.made key _ ((s.map.find?_eq_some_iff key _).mpr hentry))
  have hcallers : (s.callers.countP fun caller => caller.phase.slot? == some s.slots.length) = 0 := by
    refine List.countP_eq_zero.mpr fun caller hmem => ?_
    simp [h.callers caller hmem]
  have hmade : (s.map.insert identifier s.slots.length).values.count s.slots.length = 1 := by
    rw [Table.values, ((Table.insert_perm hmap s.slots.length).map Prod.snd).count_eq, List.map_cons,
      List.count_cons_self, ← Table.values, hvalues]
  rw [references, joined, made, hmade, List.countP_append, hcallers]
  simp [hphase]

/-- Who fails leaves no entry of the map. -/
theorem finishes_of_failure (h : s.Idle) (hmap : s.map.find? identifier = none) :
    s.Finishes identifier none none
      (State.joined
        { s with slots := s.slots ++ [{}], map := (s.map.insert identifier s.slots.length).erase identifier }
        identifier (.done none)) := by
  have hreleases : ((s.made identifier ⟨none, true⟩).joined identifier (.produced s.slots.length none)).advance
      ⟨identifier, .evaluate, .produced s.slots.length none⟩ none =
        some (.discarding s.slots.length,
          (s.made identifier {}).joined identifier (.produced s.slots.length none)) :=
    congrArg (fun t : State => some (_, t.joined identifier _)) (setSlot_made ⟨none, true⟩ _)
  have hdiscards : ((s.made identifier {}).joined identifier (.discarding s.slots.length)).advance
      ⟨identifier, .evaluate, .discarding s.slots.length⟩ none =
        some (.leaving s.slots.length none,
          State.joined { s with
            slots := s.slots ++ [{}], map := (s.map.insert identifier s.slots.length).erase identifier }
            identifier (.discarding s.slots.length)) := by
    have hfind : ((s.made identifier {}).joined identifier (.discarding s.slots.length)).map.find? identifier =
        some s.slots.length := by simp [made, joined]
    have hslot : ((s.made identifier {}).joined identifier (.discarding s.slots.length)).slots[s.slots.length]? =
        some {} := getElem?_made identifier {}
    -- The map and the caller itself are the two that still refer to the slot, so that its entry goes.
    have hreferences := references_made h hmap {} (show (Phase.discarding s.slots.length).slot? = _ from rfl)
    simp only [advance, discard, hfind, hslot, hreferences, and_self, ↓reduceIte]
    rfl
  exact ⟨alone_of_missing hmap (alone_joined rfl rfl (alone_joined hreleases rfl (alone_joined hdiscards rfl
    (alone_joined rfl rfl .refl)))), rfl⟩

/-- Who produces a text leaves it in a slot of its own. -/
theorem finishes_of_success (hmap : s.map.find? identifier = none) (text : String) :
    s.Finishes identifier (some text) (some text)
      (State.joined { s.made identifier ⟨some text, false⟩ with
        counter := s.counter + 1, productions := s.productions ++ [(identifier, text)] }
        identifier (.done (some text))) := by
  let produced : State :=
    { s.made identifier ⟨none, true⟩ with productions := s.productions ++ [(identifier, text)] }
  let filled : State :=
    { s.made identifier ⟨some text, true⟩ with productions := s.productions ++ [(identifier, text)] }
  have hproduces : ((s.made identifier ⟨none, true⟩).joined identifier (.producing s.slots.length)).advance
      ⟨identifier, .evaluate, .producing s.slots.length⟩ (some text) =
        some (.produced s.slots.length (some text), produced.joined identifier (.producing s.slots.length)) := rfl
  have hfills : (produced.joined identifier (.produced s.slots.length (some text))).advance
      ⟨identifier, .evaluate, .produced s.slots.length (some text)⟩ (some text) =
        some (.filled s.slots.length text,
          filled.joined identifier (.produced s.slots.length (some text))) :=
    congrArg (fun t : State => some (_, State.joined
      { t with productions := s.productions ++ [(identifier, text)] } identifier _)) (setSlot_made ⟨none, true⟩ _)
  have hcounts : (filled.joined identifier (.filled s.slots.length text)).advance
      ⟨identifier, .evaluate, .filled s.slots.length text⟩ (some text) =
        some (.counted s.slots.length text,
          State.joined { filled with counter := s.counter + 1 } identifier (.filled s.slots.length text)) := rfl
  have hfinishes : (State.joined { filled with counter := s.counter + 1 } identifier
      (.counted s.slots.length text)).advance ⟨identifier, .evaluate, .counted s.slots.length text⟩ (some text) =
        some (.leaving s.slots.length (some text), State.joined { s.made identifier ⟨some text, false⟩ with
          counter := s.counter + 1, productions := s.productions ++ [(identifier, text)] }
          identifier (.counted s.slots.length text)) :=
    congrArg (fun t : State => some (_, State.joined
      { t with counter := s.counter + 1, productions := s.productions ++ [(identifier, text)] } identifier _))
      (setSlot_made ⟨some text, true⟩ _)
  exact ⟨alone_of_missing hmap (alone_joined hproduces rfl (alone_joined hfills rfl (alone_joined hcounts rfl
    (alone_joined hfinishes rfl (alone_joined rfl rfl .refl))))), rfl⟩

end State

/-! ## The store that the slots keep -/

/-- Nobody is at work, and the slots in the map hold the texts of the store. -/
structure Keeps (s : State) (store : MemoryStore) : Prop where
  idle : ∀ caller ∈ s.callers, caller.phase.slot? = none
  filled : ∀ {identifier slot}, s.map.find? identifier = some slot →
    ∃ text, s.slots[slot]? = some ⟨some text, false⟩ ∧ store.get? identifier = some text
  missing : ∀ {identifier}, s.map.find? identifier = none → store.get? identifier = none
  counted : s.counter = store.size

namespace Keeps

variable {s : State} {store : MemoryStore}

theorem empty : Keeps {} {} := ⟨nofun, nofun, fun _ => rfl, rfl⟩

theorem toIdle (h : Keeps s store) : s.Idle :=
  ⟨h.idle, fun _ _ hmap => (List.getElem?_eq_some_iff.mp (h.filled hmap).choose_spec.1).1⟩

theorem joined (h : Keeps s store) (identifier : String) (answer : Option String) :
    Keeps (s.joined identifier (.done answer)) store := by
  refine ⟨fun caller hmem => ?_, h.filled, h.missing, h.counted⟩
  rcases List.mem_append.mp hmem with hmem | hmem
  · exact h.idle caller hmem
  · cases List.mem_singleton.mp hmem
    rfl

/-- There is a slot for every text of the store, and for no other identifier. -/
theorem has_eq (h : Keeps s store) (identifier : String) : s.map.has identifier = (store.get? identifier).isSome := by
  cases hmap : s.map.find? identifier with
  | none =>
      rw [Table.has, hmap, h.missing hmap]
      rfl
  | some slot =>
      obtain ⟨text, -, hget⟩ := h.filled hmap
      rw [Table.has, hmap, hget]
      rfl

theorem failed (h : Keeps s store) {identifier : String} (hmap : s.map.find? identifier = none) :
    Keeps { s with slots := s.slots ++ [{}], map := (s.map.insert identifier s.slots.length).erase identifier }
      store := by
  have hfind (key : String) :
      ((s.map.insert identifier s.slots.length).erase identifier).find? key = s.map.find? key := by
    rw [Table.find?_erase, Table.find?_insert]
    split
    · subst_vars
      exact hmap.symm
    · rfl
  refine ⟨h.idle, fun {key slot} hkey => ?_, fun {key} hkey => h.missing (hfind key ▸ hkey), h.counted⟩
  obtain ⟨text, hslot, hget⟩ := h.filled (hfind key ▸ hkey)
  exact ⟨text, (List.getElem?_append_left (List.getElem?_eq_some_iff.mp hslot).1).trans hslot, hget⟩

theorem succeeded (h : Keeps s store) {identifier : String} (hmap : s.map.find? identifier = none) (text : String) :
    Keeps { s.made identifier ⟨some text, false⟩ with
      counter := s.counter + 1, productions := s.productions ++ [(identifier, text)] }
      ⟨store.texts.insert identifier text⟩ := by
  refine ⟨h.idle, fun {key slot} hkey => ?_, fun {key} hkey => ?_, ?_⟩
  · simp only [State.made, Table.find?_insert, MemoryStore.get?] at hkey ⊢
    split at hkey
    · cases hkey
      exact ⟨text, List.getElem?_concat_length, if_pos ‹_›⟩
    · obtain ⟨found, hslot, hget⟩ := h.filled hkey
      rw [if_neg ‹_›]
      exact ⟨found, (List.getElem?_append_left (List.getElem?_eq_some_iff.mp hslot).1).trans hslot, hget⟩
  · simp only [State.made, Table.find?_insert, MemoryStore.get?] at hkey ⊢
    split at hkey
    · cases hkey
    · rw [if_neg ‹_›]
      exact h.missing hkey
  · rw [MemoryStore.size, Table.size_insert (h.missing hmap), h.counted]
    rfl

/-- A caller by itself gets the answer of the store, and the slots then keep the store as it is after the call. -/
theorem finishes (h : Keeps s store) (identifier : String) (produce : Unit → Production) :
    ∃ s', s.Finishes identifier (produce ()).result.toOption (store.evaluate identifier produce).result.toOption s' ∧
      Keeps s' (store.evaluate identifier produce).state := by
  cases hmap : s.map.find? identifier with
  | some slot =>
      obtain ⟨text, hslot, hget⟩ := h.filled hmap
      simp only [MemoryStore.evaluate, hget]
      exact ⟨_, State.finishes_of_text hmap hslot _, h.joined identifier _⟩
  | none =>
      simp only [MemoryStore.evaluate, h.missing hmap]
      cases hresult : (produce ()).result with
      | ok text => exact ⟨_, State.finishes_of_success hmap text, (h.succeeded hmap text).joined identifier _⟩
      | error error => exact ⟨_, State.finishes_of_failure h.toIdle hmap, (h.failed hmap).joined identifier _⟩

end Keeps

/-- Callers who take their steps one after the other, and the store that is asked the same. -/
inductive Turns : State → MemoryStore → Prop where
  | start : Turns {} {}
  | turn {s s' : State} {store : MemoryStore} {identifier : String} {produce : Unit → Production}
      {answer : Option String} : Turns s store → s.Finishes identifier (produce ()).result.toOption answer s' →
      Turns s' (store.evaluate identifier produce).state

theorem State.Finishes.step_eq_none {s s' : State} {identifier : String} {outcome answer : Option String}
    (h : s.Finishes identifier outcome answer s') : s'.step s.callers.length outcome = none := by
  have hdone : s'.callers[s.callers.length]? = some { identifier, request := .evaluate, phase := .done answer } := by
    rw [h.callers, List.getElem?_concat_length]
  simp only [State.step, hdone]
  rfl

/-- A caller who is done takes no step, so that there is one way for it to finish. -/
theorem State.Finishes.unique {s s₁ s₂ : State} {identifier : String} {outcome answer₁ answer₂ : Option String}
    (h₁ : s.Finishes identifier outcome answer₁ s₁) (h₂ : s.Finishes identifier outcome answer₂ s₂) : s₁ = s₂ := by
  have hunique : Relator.RightUnique fun t t' : State => t.step s.callers.length outcome = some t' :=
    fun _ _ _ h h' => Option.some.inj (h.symm.trans h')
  have hstays {t u : State} {answer : Option String} (ht : s.Finishes identifier outcome answer t)
      (hsteps : State.Alone s.callers.length outcome t u) : t = u := by
    rcases Relation.ReflTransGen.cases_head hsteps with heq | ⟨t', hstep, -⟩
    · exact heq
    · rw [ht.step_eq_none] at hstep
      cases hstep
  rcases Relation.ReflTransGen.total_of_right_unique hunique h₁.alone h₂.alone with hsteps | hsteps
  · exact hstays h₁ hsteps
  · exact (hstays h₂ hsteps).symm

theorem Turns.keeps {s : State} {store : MemoryStore} (h : Turns s store) : Keeps s store := by
  induction h with
  | start => exact .empty
  | @turn s s' store identifier produce answer _ hfinishes ih =>
      obtain ⟨s'', hfinishes', hkeeps⟩ := ih.finishes identifier produce
      rwa [hfinishes.unique hfinishes']

end Slots

end CompiledRules
