import CompiledRules.Table

/-!
# Many callers of one store in memory

Callers that arrive at the same time take turns step by step. Each identifier has a slot, found or made under
the lock of the map; a caller locks the slot before it looks at the text and until it has filled it. A caller
whose production failed gives up its lock and then removes the slot, if nobody else refers to it. The last step
of every caller is to drop its reference.
-/

namespace CompiledRules.Slots

/-- A place for one text. -/
structure Slot where
  text : Option String := none
  locked : Bool := false
deriving DecidableEq

/-- What a caller wants: a text at any cost, or a text that is there. -/
inductive Request where
  | evaluate
  | get
deriving DecidableEq

/-- How far a caller has come. From `waiting` to `leaving` it refers to its slot. -/
inductive Phase where
  | arriving
  /-- Refers to the slot and waits for its lock. -/
  | waiting (slot : Nat)
  /-- Has the lock and looks at the text. -/
  | looking (slot : Nat)
  /-- Found no text and produces one, with the lock. -/
  | producing (slot : Nat)
  /-- Has produced a text or failed, with the lock. -/
  | produced (slot : Nat) (text : Option String)
  /-- Has filled the slot but not yet counted it, with the lock. -/
  | filled (slot : Nat) (text : String)
  /-- Has filled and counted the slot, with the lock. -/
  | counted (slot : Nat) (text : String)
  /-- Has failed and given up the lock. -/
  | discarding (slot : Nat)
  /-- Has its answer and still refers to the slot. -/
  | leaving (slot : Nat) (answer : Option String)
  | done (answer : Option String)
deriving DecidableEq

/-- The slot that a caller refers to. -/
def Phase.slot? : Phase → Option Nat
  | .waiting slot | .looking slot | .producing slot | .produced slot _ | .filled slot _ | .counted slot _
  | .discarding slot | .leaving slot _ => some slot
  | .arriving | .done _ => none

/-- A caller, what it wants, and how far it has come. -/
structure Caller where
  identifier : String
  request : Request
  phase : Phase := .arriving
deriving DecidableEq

/-- The store as its callers share it. -/
structure State where
  /-- Every slot that was ever made, by number. -/
  slots : List Slot := []
  /-- The number of the slot of each identifier. -/
  map : Table Nat := .empty
  /-- How many slots were counted as filled. -/
  counter : Nat := 0
  callers : List Caller := []
  /-- The texts that were produced, each with its identifier. -/
  productions : List (String × String) := []

namespace State

/-- How many refer to a slot: the map and callers. -/
def references (s : State) (slot : Nat) : Nat :=
  s.map.values.count slot + s.callers.countP fun caller => caller.phase.slot? == some slot

/-- The state with one slot changed. -/
def setSlot (s : State) (slot : Nat) (change : Slot → Slot) : State :=
  { s with slots := s.slots.modify slot change }

/-- The state with the lock of a slot given up. -/
def unlock (s : State) (slot : Nat) : State := s.setSlot slot fun x => { x with locked := false }

/-- Finds the slot of an identifier, or makes one. -/
def claim (s : State) (identifier : String) : Nat × State :=
  match s.map.find? identifier with
  | some slot => (slot, s)
  | none =>
      let slot := s.slots.length
      (slot, { s with slots := s.slots ++ [{}], map := s.map.insert identifier slot })

/-- Removes the slot of an identifier if it is this one, nobody but the map and the caller refers to it, and it is
unlocked and empty. -/
def discard (s : State) (identifier : String) (slot : Nat) : State :=
  if s.map.find? identifier = some slot ∧ s.references slot = 2 ∧ s.slots[slot]? = some {} then
    { s with map := s.map.erase identifier }
  else s

/-- The next step of a caller, if it need not wait. The outcome is what its production comes to, should that be the
step. -/
def advance (s : State) (caller : Caller) (outcome : Option String) : Option (Phase × State) :=
  match caller.phase with
  | .arriving =>
      match caller.request with
      | .evaluate =>
          let (slot, s) := s.claim caller.identifier
          some (.waiting slot, s)
      | .get =>
          match s.map.find? caller.identifier with
          | some slot => some (.waiting slot, s)
          | none => some (.done none, s)
  | .waiting slot =>
      match s.slots[slot]? with
      | some { locked := false, .. } => some (.looking slot, s.setSlot slot fun x => { x with locked := true })
      | _ => none
  | .looking slot =>
      match s.slots[slot]?.bind Slot.text, caller.request with
      | none, .evaluate => some (.producing slot, s)
      | text, _ => some (.leaving slot text, s.unlock slot)
  | .producing slot =>
      match outcome with
      | some text =>
          some (.produced slot (some text), { s with productions := s.productions ++ [(caller.identifier, text)] })
      | none => some (.produced slot none, s)
  | .produced slot (some text) => some (.filled slot text, s.setSlot slot fun x => { x with text := some text })
  | .produced slot none => some (.discarding slot, s.unlock slot)
  | .filled slot text => some (.counted slot text, { s with counter := s.counter + 1 })
  | .counted slot text => some (.leaving slot (some text), s.unlock slot)
  | .discarding slot => some (.leaving slot none, s.discard caller.identifier slot)
  | .leaving _ answer => some (.done answer, s)
  | .done _ => none

/-- The state after the next step of the caller with the given number. -/
def step (s : State) (number : Nat) (outcome : Option String) : Option State := do
  let caller ← s.callers[number]?
  let (phase, s) ← s.advance caller outcome
  return { s with callers := s.callers.set number { caller with phase } }

end State

/-- One step of the whole: a caller arrives, or one of them takes its next step. -/
inductive Step : State → State → Prop where
  | arrive (s : State) (identifier : String) (request : Request) :
      Step s { s with callers := s.callers ++ [{ identifier, request }] }
  | act {s s' : State} (number : Nat) (outcome : Option String) : s.step number outcome = some s' → Step s s'

/-- The states that steps lead to from the empty store. -/
inductive Reachable : State → Prop where
  | start : Reachable {}
  | step {s s' : State} : Reachable s → Step s s' → Reachable s'

end CompiledRules.Slots
