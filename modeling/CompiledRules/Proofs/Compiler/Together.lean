import CompiledRules.Proofs.Compiler.Registry
import Mathlib

/-!
# Calls at the same time

Calls for one pair that take their steps by turns are all done after four rounds, and the executors that they return
are one object. A call that is made alone comes to what `Compiler.compile` comes to.
-/

namespace CompiledRules.Registry

variable {s s' : State} {number : Nat} {answer : Except CompileError String}

/-! ## Objects -/

/-- Two calls of one compiler return the same object exactly if they are for one identifier. -/
theorem Handle.isSame_iff (h : Reachable s) {a b : Handle} (hcompiler : a.compiler = b.compiler) {call call' : Call}
    (hcall : call ∈ s.calls) (hcall' : call' ∈ s.calls) (ha : call.phase = .done (.ok a.object))
    (hb : call'.phase = .done (.ok b.object)) : a.isSame b = true ↔ call.identifier = call'.identifier := by
  have hi := invariant_of_reachable h
  have hfind := hi.returned hcall ha
  have hfind' := hi.returned hcall' hb
  simp only [isSame, hcompiler, beq_self_eq_true, Bool.true_and, beq_iff_eq]
  constructor
  · intro hsame
    -- Both objects were made by the call that they name.
    obtain ⟨maker, hmaker, hid, -⟩ := hi.made hfind
    obtain ⟨maker', hmaker', hid', -⟩ := hi.made hfind'
    rw [hsame, hmaker'] at hmaker
    cases hmaker
    exact hid.symm.trans hid'
  · intro hid
    rw [hid, hfind'] at hfind
    rw [Option.some.inj hfind]

/-! ## Pairs -/

/-- The variant and the rule of each call. -/
def State.pairs (s : State) : List (String × String) := s.calls.map fun call => (call.variant, call.rule)

theorem State.length_pairs (s : State) : s.pairs.length = s.calls.length := List.length_map ..

theorem pairs_step (h : s.step number answer = some s') : s'.pairs = s.pairs := by
  obtain ⟨call, phase, registry, hcall, -, rfl⟩ := acts_of_step h
  have hpair : s.pairs[number]? = some (call.variant, call.rule) := by rw [State.pairs, List.getElem?_map, hcall]; rfl
  rw [State.pairs, List.map_set]
  exact List.set_of_getElem? hpair

/-! ## Rounds -/

/-- How many steps a call has before it, at most. -/
def Phase.rest : Phase → Nat
  | .arriving => 4
  | .asking => 3
  | .answered _ => 2
  | .loaded _ => 1
  | .done _ => 0

def State.rest (s : State) (number : Nat) : Nat := (s.calls[number]?.map fun call => call.phase.rest).getD 0

theorem State.rest_le (s : State) (number : Nat) : s.rest number ≤ 4 := by
  unfold rest
  cases s.calls[number]? with
  | none => exact Nat.zero_le 4
  | some call => cases hphase : call.phase <;> simp [Phase.rest, hphase]

theorem Acts.rest_lt {call : Call} {phase : Phase} {registry : Table Object} (h : Acts s number call phase registry) :
    phase.rest < call.phase.rest := by
  cases h <;> simp_all [Phase.rest]

theorem rest_step (h : s.step number answer = some s') :
    s'.rest number < s.rest number ∧ ∀ other, other ≠ number → s'.rest other = s.rest other := by
  obtain ⟨call, phase, registry, hcall, hacts, rfl⟩ := acts_of_step h
  refine ⟨?_, fun other hother => ?_⟩
  · simp only [State.rest, List.getElem?_set_same hcall, hcall]
    exact hacts.rest_lt
  · simp only [State.rest, List.getElem?_set_ne hother.symm]

/-- Only a call that is done has no step to take. -/
theorem advance_eq_none_iff {call : Call} : s.advance number call answer = none ↔ call.phase.rest = 0 := by
  unfold State.advance
  split
  case h_1 hphase => split <;> simp [Phase.rest, hphase]
  case h_2 hphase => simp [Phase.rest, hphase]
  case h_3 hphase => split <;> simp [Phase.rest, hphase]
  case h_4 hphase => split <;> simp [Phase.rest, hphase]
  case h_5 hphase => simp [Phase.rest, hphase]

theorem step_eq_none_iff : s.step number answer = none ↔ s.rest number = 0 := by
  unfold State.step State.rest
  cases s.calls[number]? with
  | none => exact ⟨fun _ => rfl, fun _ => rfl⟩
  | some call =>
      have hadvance : s.advance number call answer = none ↔ call.phase.rest = 0 := advance_eq_none_iff
      simp only [Option.bind_eq_bind, Option.bind_some, Option.map_some, Option.getD_some, ← hadvance]
      cases s.advance number call answer <;> simp

theorem rest_act (s : State) (number : Nat) (answer : Except CompileError String) :
    let s' := (s.step number answer).getD s
    s'.rest number ≤ s.rest number - 1 ∧ ∀ other, s'.rest other ≤ s.rest other := by
  cases hstep : s.step number answer with
  | none =>
      have hzero := step_eq_none_iff.mp hstep
      exact ⟨by simp [hzero], fun other => Nat.le_refl _⟩
  | some s' =>
      obtain ⟨hlt, hothers⟩ := rest_step hstep
      refine ⟨Nat.le_sub_one_of_lt hlt, fun other => ?_⟩
      by_cases hother : other = number
      · rw [hother]
        exact Nat.le_of_lt hlt
      · exact Nat.le_of_eq (hothers other hother)

theorem rest_round (entries : List (Except CompileError String × Nat)) (s : State) :
    (∀ number, (Schedule.run State.next s (round entries)).rest number ≤ s.rest number) ∧
      ∀ entry ∈ entries, (Schedule.run State.next s (round entries)).rest entry.2 ≤ s.rest entry.2 - 1 := by
  induction entries generalizing s with
  | nil => exact ⟨fun number => Nat.le_refl _, nofun⟩
  | cons first entries ih =>
      obtain ⟨hact, hmono⟩ := rest_act s first.2 first.1
      obtain ⟨hle, hless⟩ := ih ((s.step first.2 first.1).getD s)
      refine ⟨fun number => (hle number).trans (hmono number), fun entry hentry => ?_⟩
      rcases List.mem_cons.mp hentry with rfl | hentry
      · exact (hle entry.2).trans hact
      · exact (hless entry hentry).trans (Nat.sub_le_sub_right (hmono entry.2) 1)

theorem rest_rounds (entries : List (Except CompileError String × Nat)) (rounds : Nat) (s : State)
    {entry : Except CompileError String × Nat} (hentry : entry ∈ entries) :
    (Schedule.run State.next s (List.replicate rounds (round entries)).flatten).rest entry.2 ≤
      s.rest entry.2 - rounds := by
  induction rounds generalizing s with
  | zero => exact Nat.le_refl _
  | succ rounds ih =>
      rw [List.replicate_succ, List.flatten_cons, Schedule.run_append]
      have hround := (rest_round entries s).2 entry hentry
      have hrest := ih (Schedule.run State.next s (round entries))
      omega

/-! ## Calls for one pair -/

/-- The state with so many more calls for the pair. -/
def State.joined (s : State) (variant rule : String) (count : Nat) : State :=
  { s with calls := s.calls ++ List.replicate count { variant, rule } }

theorem mem_rounds {entries : List (Except CompileError String × Nat)} {event : Event} {rounds : Nat}
    (h : event ∈ (List.replicate rounds (round entries)).flatten) : ∃ number answer, event = .act number answer := by
  obtain ⟨turns, hturns, hevent⟩ := List.mem_flatten.mp h
  obtain ⟨-, rfl⟩ := List.mem_replicate.mp hturns
  obtain ⟨entry, -, rfl⟩ := List.mem_map.mp hevent
  exact ⟨entry.2, entry.1, rfl⟩

section

variable (s : State) (variant rule : String) (answers : List (Except CompileError String))

theorem run_arrivals : Schedule.run State.next s (answers.map fun _ => .arrive (variant, rule)) =
    s.joined variant rule answers.length := by
  induction answers generalizing s with
  | nil => simp [State.joined]
  | cons answer answers ih =>
      rw [List.map_cons, Schedule.run_cons]
      refine (ih _).trans ?_
      simp [State.joined, State.next, List.replicate_succ]

theorem state_together : (s.together variant rule answers).2 =
    Schedule.run State.next (s.joined variant rule answers.length)
      (List.replicate 4 (round (answers.zipIdx s.calls.length))).flatten := by
  rw [← run_arrivals, ← Schedule.run_append]
  rfl

theorem results_together : (s.together variant rule answers).1 =
    ((s.together variant rule answers).2.calls.drop s.calls.length).filterMap Call.result? := rfl

theorem pairs_together : (s.together variant rule answers).2.pairs =
    s.pairs ++ List.replicate answers.length (variant, rule) := by
  have hjoined : (s.joined variant rule answers.length).pairs =
      s.pairs ++ List.replicate answers.length (variant, rule) := by
    simp [State.pairs, State.joined]
  rw [state_together, ← hjoined]
  refine Schedule.run_preserves (P := fun t : State => t.pairs = _) (fun hmem hpairs hnext => ?_) rfl
  obtain ⟨number, answer, rfl⟩ := mem_rounds hmem
  exact (pairs_step hnext).trans hpairs

theorem length_calls_together :
    (s.together variant rule answers).2.calls.length = s.calls.length + answers.length := by
  rw [← State.length_pairs, pairs_together, List.length_append, State.length_pairs, List.length_replicate]

end

variable {variant rule : String} {answers : List (Except CompileError String)}

theorem Reachable.together (h : Reachable s) : Reachable (s.together variant rule answers).2 :=
  Schedule.run_preserves (fun _ hs hnext => hs.step (step_of_next hnext)) h

theorem rest_together (hle : s.calls.length ≤ number) : (s.together variant rule answers).2.rest number = 0 := by
  by_cases hlt : number < s.calls.length + answers.length
  · have hentry : (answers[number - s.calls.length], number) ∈ answers.zipIdx s.calls.length :=
      List.mk_mem_zipIdx_iff_le_and_getElem?_sub.mpr ⟨hle, List.getElem?_eq_getElem (by omega)⟩
    have hrest := rest_rounds _ 4 (s.joined variant rule answers.length) hentry
    rw [← state_together, Nat.sub_eq_zero_of_le (State.rest_le _ _)] at hrest
    exact Nat.le_zero.mp hrest
  · have hnone : (s.together variant rule answers).2.calls[number]? = none :=
      List.getElem?_eq_none (by rw [length_calls_together]; omega)
    rw [State.rest, hnone]
    rfl

theorem Call.result?_isSome {call : Call} (h : call.phase.rest = 0) : call.result?.isSome = true := by
  unfold result?
  cases hphase : call.phase <;> simp_all [Phase.rest]

theorem Call.result?_eq_some_iff {call : Call} {result : Except CompileError Object} :
    call.result? = some result ↔ call.phase = .done result := by
  unfold result?
  cases hphase : call.phase <;> simp

/-- Every call that is made is answered. -/
theorem length_together (s : State) (variant rule : String) (answers : List (Except CompileError String)) :
    (s.together variant rule answers).1.length = answers.length := by
  have hlength : ((s.together variant rule answers).2.calls.drop s.calls.length).length = answers.length := by
    rw [List.length_drop, length_calls_together]
    omega
  rw [results_together]
  refine (List.filterMap_length_eq_length.mpr fun call hcall => ?_).trans hlength
  obtain ⟨i, hi⟩ := List.mem_iff_getElem?.mp hcall
  rw [List.getElem?_drop] at hi
  have hrest : (s.together variant rule answers).2.rest (s.calls.length + i) = 0 := rest_together (Nat.le_add_right ..)
  rw [State.rest, hi] at hrest
  exact Call.result?_isSome hrest

theorem mem_together {result : Except CompileError Object} (h : result ∈ (s.together variant rule answers).1) :
    ∃ call ∈ (s.together variant rule answers).2.calls, call.phase = .done result ∧
      call.identifier = Identifier.derive variant rule := by
  rw [results_together] at h
  obtain ⟨call, hcall, hresult⟩ := List.mem_filterMap.mp h
  have hpair : (call.variant, call.rule) ∈ (s.together variant rule answers).2.pairs.drop s.calls.length := by
    rw [State.pairs, ← List.map_drop]
    exact List.mem_map_of_mem hcall
  rw [pairs_together, ← State.length_pairs, List.drop_left] at hpair
  cases List.eq_of_mem_replicate hpair
  exact ⟨call, List.mem_of_mem_drop hcall, Call.result?_eq_some_iff.mp hresult, rfl⟩

/-- Whatever the calls hear, all executors that they return are one object. -/
theorem areSame_together (h : Reachable s) {compiler : Nat} {handles : List Handle}
    (hhandles : ∀ handle ∈ handles, handle.compiler = compiler ∧
      .ok handle.object ∈ (s.together variant rule answers).1) : Handle.areSame handles = true := by
  refine List.all_eq_true.mpr fun a ha => List.all_eq_true.mpr fun b hb => ?_
  obtain ⟨rfl, ha⟩ := hhandles a ha
  obtain ⟨hcompiler, hb⟩ := hhandles b hb
  obtain ⟨call, hcall, hphase, hid⟩ := mem_together ha
  obtain ⟨call', hcall', hphase', hid'⟩ := mem_together hb
  exact (Handle.isSame_iff h.together hcompiler.symm hcall hcall' hphase hphase').mpr (hid.trans hid'.symm)

/-! ## One call -/

theorem State.Alone.eq_of_stopped (h : State.Alone number answer s s') (hstop : s.step number answer = none) :
    s = s' := by
  rcases h.cases_head with heq | ⟨next, hstep, -⟩
  · exact heq
  · rw [hstop] at hstep
    cases hstep

/-- Steps that cannot be gone on with lead to one state. -/
theorem State.Alone.unique {a b : State} (ha : State.Alone number answer s a) (hb : State.Alone number answer s b)
    (hstop : a.step number answer = none) (hstop' : b.step number answer = none) : a = b := by
  have hunique : Relator.RightUnique fun s s' : State => s.step number answer = some s' :=
    fun _ _ _ hstep hstep' => Option.some.inj (hstep.symm.trans hstep')
  rcases ha.total_of_right_unique hunique hb with hsteps | hsteps
  · exact State.Alone.eq_of_stopped hsteps hstop
  · exact (State.Alone.eq_of_stopped hsteps hstop').symm

theorem alone_run (s : State) (number : Nat) (answer : Except CompileError String) (steps : Nat) :
    State.Alone number answer s (Schedule.run State.next s (List.replicate steps (.act number answer))) := by
  induction steps generalizing s with
  | zero => exact .refl
  | succ steps ih =>
      rw [List.replicate_succ, Schedule.run_cons]
      cases hstep : s.step number answer with
      | none =>
          have hnext : s.next (.act number answer) = none := hstep
          rw [hnext]
          exact ih s
      | some s' =>
          have hnext : s.next (.act number answer) = some s' := hstep
          rw [hnext]
          exact .head hstep (ih s')

/-- A call that is made alone ends where its steps by itself end. -/
theorem state_together_of_alone (h : State.Alone s.calls.length answer (s.joined variant rule 1) s')
    (hstop : s'.step s.calls.length answer = none) : (s.together variant rule [answer]).2 = s' := by
  have hrun : State.Alone s.calls.length answer (s.joined variant rule 1) (s.together variant rule [answer]).2 := by
    rw [state_together]
    exact alone_run _ _ _ 4
  exact hrun.unique h (step_eq_none_iff.mpr (rest_together (Nat.le_refl _))) hstop

theorem results_together_of_done {call : Call} {result : Except CompileError Object}
    (hcall : (s.together variant rule [answer]).2.calls[s.calls.length]? = some call)
    (hdone : call.phase = .done result) : (s.together variant rule [answer]).1 = [result] := by
  obtain ⟨hlt, hget⟩ := List.getElem?_eq_some_iff.mp hcall
  have hlength : (s.together variant rule [answer]).2.calls.length = s.calls.length + 1 := length_calls_together ..
  rw [results_together, List.drop_eq_getElem_cons hlt, List.drop_of_length_le (Nat.le_of_eq hlength), hget,
    List.filterMap_cons_some (Call.result?_eq_some_iff.mpr hdone), List.filterMap_nil]

section

variable {compiler : Compiler} {σ : Type} {evaluate : Evaluator σ} {state : σ} {target : Target} {context : Context}

/-- The text of the executor that a compilation returned leads to the same executor. -/
theorem accept_source_compile (h : compiler.loaded? (Identifier.derive target.variant rule) = none) :
    let compilation := compiler.compile evaluate state rule target context
    ((compilation.result.map Executor.source).bind fun source => Compiler.accept source target.variant rule) =
      compilation.result := by
  intro compilation
  cases hresult : compilation.result with
  | error error => rfl
  | ok executor =>
      have haccepted := hresult
      simp only [compilation, Compiler.result_compile context evaluate state h] at haccepted
      obtain ⟨source, -, haccept⟩ := Except.bind_eq_ok_iff.mp haccepted
      obtain ⟨hsource, -⟩ := Executor.loaded_of_load (Compiler.load_of_accept haccept)
      show Compiler.accept executor.source target.variant rule = _
      rw [hsource, haccept]

/-- A call that is made alone, and may hear what the compilation came to, returns its executor and leaves the same ones
registered. -/
theorem together_compile (hmirrors : s.Mirrors compiler) :
    let compilation := compiler.compile evaluate state rule target context
    let answered := s.together target.variant rule [compilation.result.map Executor.source]
    ∃ result, answered.1 = [result] ∧ result.map Object.executor = compilation.result ∧
      answered.2.Mirrors compilation.compiler := by
  intro compilation answered
  have hcall : (s.joined target.variant rule 1).calls[s.calls.length]? = some { variant := target.variant, rule } :=
    List.getElem?_concat_length
  obtain ⟨s', result, halone, hdone, hresult, hmirrors'⟩ :=
    comesTo_compile (s := s.joined target.variant rule 1) hmirrors hcall accept_source_compile
  have hstop : s'.step s.calls.length (compilation.result.map Executor.source) = none := by
    rw [step_eq_none_iff, State.rest, hdone]
    rfl
  obtain rfl : answered.2 = s' := state_together_of_alone halone hstop
  exact ⟨result, results_together_of_done hdone rfl, hresult, hmirrors'⟩

end

end CompiledRules.Registry
