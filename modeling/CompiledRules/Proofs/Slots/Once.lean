import Mathlib.Logic.Relation
import CompiledRules.Proofs.Slots.Invariant
import CompiledRules.Schedule

/-!
# One production for each identifier

However the steps of the callers follow each other, at most one text is produced for an identifier, every caller is
answered with it, and the slot that holds it stays.
-/

namespace CompiledRules.Slots

/-! ## Texts stay -/

theorem Invariant.textAt_step {s s' : State} (hi : Invariant s) (h : Step s s') {slot : Nat} {text : String}
    (htext : s.textAt slot = some text) :
    s'.textAt slot = some text ∧
      ∀ identifier, s.map.find? identifier = some slot → s'.map.find? identifier = some slot := by
  cases h with
  | arrive => exact ⟨htext, fun _ hmap => hmap⟩
  | act number outcome h =>
      obtain ⟨caller, phase, s₁, hc, hacts, rfl⟩ := acts_of_step h
      exact ⟨hi.textAt_mono hc hacts htext, fun _ hmap => find?_mono hacts hmap htext⟩

theorem Invariant.textAt_steps {s s' : State} (hi : Invariant s) (h : Relation.ReflTransGen Step s s') {slot : Nat}
    {text : String} (htext : s.textAt slot = some text) :
    s'.textAt slot = some text ∧
      ∀ identifier, s.map.find? identifier = some slot → s'.map.find? identifier = some slot := by
  have hall : Invariant s' ∧ s'.textAt slot = some text ∧
      ∀ identifier, s.map.find? identifier = some slot → s'.map.find? identifier = some slot := by
    induction h with
    | refl => exact ⟨hi, htext, fun _ hmap => hmap⟩
    | tail _ hstep ih =>
        obtain ⟨hinv, htext', hmaps⟩ := ih
        obtain ⟨hnext, hkept⟩ := hinv.textAt_step hstep htext'
        exact ⟨hinv.step hstep, hnext, fun identifier hmap => hkept identifier (hmaps identifier hmap)⟩
  exact hall.2

/-! ## At most one production -/

theorem Invariant.length_productionsOf_le {s : State} (hi : Invariant s) (identifier : String) :
    (s.productionsOf identifier).length ≤ 1 := by
  rcases hi.produced identifier with hnone | ⟨slot, text, hmap, htext⟩ | ⟨number, caller, slot, text, hc, rfl, hp⟩
  · simp [hnone]
  · simp [hi.filled hmap htext]
  · have hone : s.productionsOf caller.identifier = [text] := (hi.fits hc).answer (by rw [hp]; rfl)
    simp [hone]

/-- In every state that the callers can reach, whatever the order of their steps: at most one text was produced for an
identifier; who was answered got that text; a filled slot is in the map, and it and its place there stay; who produces
has the empty slot of an identifier for which nothing was produced; and the counter lags behind the filled slots by the
callers that are about to count. -/
theorem produced_once {s : State} (h : Reachable s) :
    (∀ identifier, (s.productionsOf identifier).length ≤ 1) ∧
      (∀ caller ∈ s.callers, ∀ text, caller.phase = .done (some text) → s.productionsOf caller.identifier = [text]) ∧
      (∀ slot text, s.textAt slot = some text → (∃ identifier, s.map.find? identifier = some slot) ∧
        ∀ s', Relation.ReflTransGen Step s s' → s'.textAt slot = some text ∧
          ∀ identifier, s.map.find? identifier = some slot → s'.map.find? identifier = some slot) ∧
      (∀ caller ∈ s.callers, ∀ slot, caller.phase = .producing slot →
        s.map.find? caller.identifier = some slot ∧ s.textAt slot = none ∧ s.productionsOf caller.identifier = []) ∧
      s.counter + s.uncounted = s.filledSlots := by
  have hi := invariant_of_reachable h
  refine ⟨hi.length_productionsOf_le, fun caller hmem text hp => ?_, fun slot text htext => ?_,
    fun caller hmem slot hp => ?_, hi.counted⟩
  · obtain ⟨number, hc⟩ := List.mem_iff_getElem?.mp hmem
    exact (hi.fits hc).answer (by rw [hp]; rfl)
  · exact ⟨hi.mapped htext, fun s' hsteps => hi.textAt_steps hsteps htext⟩
  · obtain ⟨number, hc⟩ := List.mem_iff_getElem?.mp hmem
    exact ⟨(hi.fits hc).owned (by rw [hp]; rfl), (hi.fits hc).empty (by rw [hp]; rfl),
      hi.productionsOf_producing hc hp⟩

/-! ## A run -/

/-- What happens next: a caller arrives for an identifier with its request, or one takes its next step. -/
abbrev Event := Turn (String × Request) (Option String)

/-- The state after the event, if it can happen. -/
def State.next (s : State) : Event → Option State
  | .arrive (identifier, request) => some { s with callers := s.callers ++ [{ identifier, request }] }
  | .act number outcome => s.step number outcome

/-- The state after the events, if none of them has to wait. -/
def State.play : State → List Event → Option State := Schedule.play State.next

theorem step_of_next {s s' : State} {event : Event} (h : s.next event = some s') : Step s s' := by
  cases event with
  | arrive request =>
      cases h
      exact .arrive s request.1 request.2
  | act number outcome => exact .act number outcome h

theorem Reachable.play {s s' : State} {events : List Event} (hs : Reachable s) (h : s.play events = some s') :
    Reachable s' :=
  Schedule.play_preserves (fun _ hs hnext => hs.step (step_of_next hnext)) hs h

/-- The first caller fails while the second waits for the same slot and then fills it; a third finds the text. -/
def sharing : List Event :=
  [.arrive ("a", .evaluate), .arrive ("a", .evaluate), .act 0 none, .act 1 none, .act 0 none, .act 0 none, .act 0 none,
    .act 0 none, .act 1 none, .act 0 none, .act 1 none, .act 1 (some "text"), .act 0 none, .act 1 none,
    .arrive ("a", .get), .act 2 none, .act 1 none, .act 1 none, .act 2 none, .act 2 none, .act 2 none]

def shared : State := (State.play {} sharing).getD {}

theorem produced_once_sharing :
    shared.callers.map Caller.phase = [.done none, .leaving 0 (some "text"), .done (some "text")] ∧
      shared.productionsOf "a" = ["text"] ∧
      shared.counter + shared.uncounted = shared.filledSlots := by
  have hreach : Reachable shared := Reachable.start.play (show State.play {} sharing = some shared from rfl)
  have hsome : ({ identifier := "a", request := .get, phase := .done (some "text") } : Caller) ∈ shared.callers := by
    decide
  exact ⟨rfl, (produced_once hreach).2.1 _ hsome "text" rfl, (produced_once hreach).2.2.2.2⟩

end CompiledRules.Slots
