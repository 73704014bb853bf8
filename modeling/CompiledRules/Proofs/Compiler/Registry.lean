import CompiledRules.Compiler.Registry
import CompiledRules.Proofs.Compiler.Compile
import CompiledRules.Proofs.List
import CompiledRules.Proofs.Table
import Mathlib

/-!
# One executor for each identifier

However the steps of the calls follow each other, an entry of the registry stays as it was made, and who is answered
with an executor gets the registered one. A call that takes its steps without the others in between comes to what
`Compiler.compile` comes to.
-/

namespace CompiledRules.Registry

/-! ## Steps -/

/-- What a call that finds a registered executor comes to. -/
def Call.verdict (call : Call) (object : Object) : Except CompileError Object :=
  (Compiler.checkOwner object.executor call.variant call.rule).map fun _ => object

/-- The call with the given number takes a step that leads to the phase and to the registry. -/
inductive Acts (s : State) (number : Nat) (call : Call) : Phase → Table Object → Prop where
  | find {object} : call.phase = .arriving → s.registry.find? call.identifier = some object →
      Acts s number call (.done (call.verdict object)) s.registry
  | miss : call.phase = .arriving → s.registry.find? call.identifier = none → Acts s number call .asking s.registry
  | hear {answer} : call.phase = .asking → Acts s number call (.answered answer) s.registry
  | load {source executor} : call.phase = .answered (.ok source) →
      Compiler.accept source call.variant call.rule = .ok executor → Acts s number call (.loaded executor) s.registry
  | refuse {answer error} : call.phase = .answered answer → Acts s number call (.done (.error error)) s.registry
  | yield {executor object} : call.phase = .loaded executor → s.registry.find? call.identifier = some object →
      Acts s number call (.done (.ok object)) s.registry
  | register {executor} : call.phase = .loaded executor → s.registry.find? call.identifier = none →
      Acts s number call (.done (.ok ⟨number, executor⟩)) (s.registry.insert call.identifier ⟨number, executor⟩)

theorem acts_of_advance {s s' : State} {number : Nat} {call : Call} {answer : Except CompileError String}
    {phase : Phase} (h : s.advance number call answer = some (phase, s')) :
    Acts s number call phase s'.registry ∧ s'.calls = s.calls := by
  unfold State.advance at h
  split at h
  case h_1 hphase =>
    split at h <;> cases h
    · exact ⟨.miss hphase ‹_›, rfl⟩
    · exact ⟨.find hphase ‹_›, rfl⟩
  case h_2 hphase =>
    cases h
    exact ⟨.hear hphase, rfl⟩
  case h_3 hphase =>
    split at h <;> cases h
    · obtain ⟨source, rfl, haccept⟩ := Except.bind_eq_ok_iff.mp ‹_›
      exact ⟨.load hphase haccept, rfl⟩
    · exact ⟨.refuse hphase, rfl⟩
  case h_4 hphase =>
    split at h <;> cases h
    · exact ⟨.yield hphase ‹_›, rfl⟩
    · exact ⟨.register hphase ‹_›, rfl⟩
  case h_5 => cases h

theorem acts_of_step {s s' : State} {number : Nat} {answer : Except CompileError String}
    (h : s.step number answer = some s') : ∃ call phase registry, s.calls[number]? = some call ∧
      Acts s number call phase registry ∧ s' = ⟨registry, s.calls.set number { call with phase }⟩ := by
  obtain ⟨call, hcall, h⟩ := Option.bind_eq_some_iff.mp h
  obtain ⟨⟨phase, s₁⟩, hadvance, h⟩ := Option.bind_eq_some_iff.mp h
  cases h
  obtain ⟨hacts, hcalls⟩ := acts_of_advance hadvance
  exact ⟨call, phase, s₁.registry, hcall, hacts, by rw [hcalls]⟩

section

variable {s : State} {number : Nat} {call : Call} {phase : Phase} {registry : Table Object}

/-- A step keeps the entries. -/
theorem Acts.find?_of_find? (h : Acts s number call phase registry) {identifier : String} {object : Object}
    (hfind : s.registry.find? identifier = some object) : registry.find? identifier = some object := by
  cases h with
  | register _ hnone =>
      rw [Table.find?_insert, if_neg, hfind]
      rintro rfl
      rw [hnone] at hfind
      cases hfind
  | _ => exact hfind

/-- A step makes an entry only for the call itself, which then has the object. -/
theorem Acts.find?_cases (h : Acts s number call phase registry) {identifier : String} {object : Object}
    (hfind : registry.find? identifier = some object) :
    s.registry.find? identifier = some object ∨
      identifier = call.identifier ∧ object.call = number ∧ call.phase = .loaded object.executor ∧
        phase = .done (.ok object) := by
  cases h with
  | register hphase _ =>
      rw [Table.find?_insert] at hfind
      split at hfind
      · cases hfind
        exact .inr ⟨‹_›, rfl, hphase, rfl⟩
      · exact .inl hfind
  | _ => exact .inl hfind

/-- Who returns an object has it from the registry. -/
theorem Acts.find?_of_done (h : Acts s number call phase registry) {object : Object}
    (hdone : phase = .done (.ok object)) : registry.find? call.identifier = some object := by
  cases h with
  | find _ hfind =>
      rw [Call.verdict] at hdone
      cases howner : Compiler.checkOwner _ call.variant call.rule with
      | error e =>
          rw [howner] at hdone
          cases hdone
      | ok u =>
          rw [howner] at hdone
          cases hdone
          exact hfind
  | yield _ hfind =>
      cases hdone
      exact hfind
  | register =>
      cases hdone
      rw [Table.find?_insert, if_pos rfl]
  | _ => cases hdone

theorem Acts.not_done (h : Acts s number call phase registry) {result : Except CompileError Object} :
    call.phase ≠ .done result := by
  intro hdone
  cases h <;> simp_all

end

/-! ## What holds of every state -/

/-- What the registry and the calls promise each other. -/
structure Invariant (s : State) : Prop where
  derived : ∀ {identifier object}, s.registry.find? identifier = some object →
    Identifier.derive object.executor.header.variant object.executor.header.rule = identifier
  loaded : ∀ {call executor}, call ∈ s.calls → call.phase = .loaded executor →
    executor.header.variant = call.variant ∧ executor.header.rule = call.rule
  returned : ∀ {call object}, call ∈ s.calls → call.phase = .done (.ok object) →
    s.registry.find? call.identifier = some object
  made : ∀ {identifier object}, s.registry.find? identifier = some object →
    ∃ call, s.calls[object.call]? = some call ∧ call.identifier = identifier ∧ call.phase = .done (.ok object)

theorem Invariant.act {s : State} (hi : Invariant s) {number : Nat} {call : Call} {phase : Phase}
    {registry : Table Object} (hcall : s.calls[number]? = some call) (h : Acts s number call phase registry) :
    Invariant ⟨registry, s.calls.set number { call with phase }⟩ := by
  have hmem := List.mem_of_getElem? hcall
  have hlt := (List.getElem?_eq_some_iff.mp hcall).1
  refine ⟨fun {identifier object} hfind => ?_, fun {c executor} hc hphase => ?_, fun {c object} hc hphase => ?_,
    fun {identifier object} hfind => ?_⟩
  · rcases h.find?_cases hfind with hfind | ⟨rfl, -, hphase, -⟩
    · exact hi.derived hfind
    · rw [(hi.loaded hmem hphase).1, (hi.loaded hmem hphase).2]
      rfl
  · rcases List.mem_or_eq_of_mem_set hc with hc | rfl
    · exact hi.loaded hc hphase
    · cases h with
      | load _ haccept =>
          cases hphase
          exact Compiler.owner_of_accept haccept
      | _ => cases hphase
  · rcases List.mem_or_eq_of_mem_set hc with hc | rfl
    · exact h.find?_of_find? (hi.returned hc hphase)
    · exact h.find?_of_done hphase
  · rcases h.find?_cases hfind with hfind | ⟨rfl, rfl, -, hdone⟩
    · obtain ⟨c, hc, hid, hphase⟩ := hi.made hfind
      refine ⟨c, ?_, hid, hphase⟩
      -- Who made the entry is done, so that it is not the call that acts.
      have hne : number ≠ object.call := by
        rintro rfl
        rw [hcall] at hc
        cases hc
        exact h.not_done hphase
      rw [List.getElem?_set_ne hne, hc]
    · exact ⟨_, List.getElem?_set_self hlt, rfl, hdone⟩

theorem Invariant.step {s s' : State} (hi : Invariant s) (h : Step s s') : Invariant s' := by
  cases h with
  | arrive variant rule =>
      refine ⟨hi.derived, fun {c executor} hc hphase => ?_, fun {c object} hc hphase => ?_, fun hfind => ?_⟩
      · rcases List.mem_append.mp hc with hc | hc
        · exact hi.loaded hc hphase
        · cases List.mem_singleton.mp hc
          cases hphase
      · rcases List.mem_append.mp hc with hc | hc
        · exact hi.returned hc hphase
        · cases List.mem_singleton.mp hc
          cases hphase
      · obtain ⟨c, hc, hrest⟩ := hi.made hfind
        exact ⟨c, by rw [List.getElem?_append_left (List.getElem?_eq_some_iff.mp hc).1, hc], hrest⟩
  | act number answer h =>
      obtain ⟨call, phase, registry, hcall, hacts, rfl⟩ := acts_of_step h
      exact hi.act hcall hacts

theorem invariant_of_reachable {s : State} (h : Reachable s) : Invariant s := by
  induction h with
  | start => exact ⟨nofun, nofun, nofun, nofun⟩
  | step _ hstep ih => exact ih.step hstep

/-! ## Entries stay -/

theorem find?_step {s s' : State} (h : Step s s') {identifier : String} {object : Object}
    (hfind : s.registry.find? identifier = some object) : s'.registry.find? identifier = some object := by
  cases h with
  | arrive => exact hfind
  | act number answer h =>
      obtain ⟨call, phase, registry, -, hacts, rfl⟩ := acts_of_step h
      exact hacts.find?_of_find? hfind

theorem find?_steps {s s' : State} (h : Relation.ReflTransGen Step s s') {identifier : String} {object : Object}
    (hfind : s.registry.find? identifier = some object) : s'.registry.find? identifier = some object := by
  induction h with
  | refl => exact hfind
  | tail _ hstep ih => exact find?_step hstep ih

/-! ## Who comes after the entry -/

/-- The call with this number has not begun: it has yet to look at the registry, or to be made. -/
def State.Unbegun (s : State) (number : Nat) : Prop := ∀ call, s.calls[number]? = some call → call.phase = .arriving

/-- The call with this number, if it is for the identifier, goes from its arrival straight to the registered object. -/
def State.Serves (s : State) (number : Nat) (identifier : String) (object : Object) : Prop :=
  ∀ call, s.calls[number]? = some call → call.identifier = identifier →
    call.phase = .arriving ∨ call.phase = .done (call.verdict object)

theorem Acts.serves {s : State} {number : Nat} {call : Call} {phase : Phase} {registry : Table Object}
    (h : Acts s number call phase registry) {identifier : String} {object : Object}
    (hfind : s.registry.find? identifier = some object) (hid : call.identifier = identifier)
    (hserved : call.phase = .arriving ∨ call.phase = .done (call.verdict object)) :
    phase = .done (call.verdict object) := by
  have harriving := hserved.resolve_right h.not_done
  subst hid
  cases h with
  | find _ hfound =>
      rw [hfind] at hfound
      cases hfound
      rfl
  | miss _ hnone =>
      rw [hfind] at hnone
      cases hnone
  | _ hphase =>
      rw [harriving] at hphase
      cases hphase

theorem serves_step {s s' : State} (h : Step s s') {identifier : String} {object : Object} {number : Nat}
    (hfind : s.registry.find? identifier = some object) (hserves : s.Serves number identifier object) :
    s'.Serves number identifier object := by
  intro call hcall hid
  cases h with
  | arrive variant rule =>
      rw [List.getElem?_append] at hcall
      split at hcall
      · exact hserves call hcall hid
      · cases List.mem_singleton.mp (List.mem_of_getElem? hcall)
        exact .inl rfl
  | act other answer h =>
      obtain ⟨c, phase, registry, hc, hacts, rfl⟩ := acts_of_step h
      by_cases hother : other = number
      · subst hother
        rw [List.getElem?_set_self (List.getElem?_eq_some_iff.mp hc).1] at hcall
        cases hcall
        exact .inr (hacts.serves hfind hid (hserves c hc hid))
      · rw [List.getElem?_set_ne hother] at hcall
        exact hserves call hcall hid

theorem serves_steps {s s' : State} (h : Relation.ReflTransGen Step s s') {identifier : String} {object : Object}
    {number : Nat} (hfind : s.registry.find? identifier = some object) (hbegun : s.Unbegun number) :
    s'.Serves number identifier object := by
  induction h with
  | refl => exact fun call hcall _ => .inl (hbegun call hcall)
  | tail hsteps hstep ih => exact serves_step hstep (find?_steps hsteps hfind) ih

/-! ## How many there are -/

/-- The call has returned an executor. -/
def Phase.returned : Phase → Bool
  | .done (.ok _) => true
  | _ => false

/-- The identifiers for which an executor was returned. -/
def State.returned (s : State) : Finset String :=
  ((s.calls.filter fun call => call.phase.returned).map Call.identifier).toFinset

theorem Phase.returned_iff {phase : Phase} : phase.returned = true ↔ ∃ object, phase = .done (.ok object) := by
  unfold returned
  split <;> simp_all

theorem mem_returned {s : State} {identifier : String} : identifier ∈ s.returned ↔
    ∃ call ∈ s.calls, ∃ object, call.phase = .done (.ok object) ∧ call.identifier = identifier := by
  simp only [State.returned, List.mem_toFinset, List.mem_map, List.mem_filter, Phase.returned_iff]
  grind

theorem Invariant.size_eq {s : State} (hi : Invariant s) : s.registry.size = s.returned.card := by
  have hsame : s.registry.keys.toFinset = s.returned := by
    ext identifier
    rw [List.mem_toFinset, ← Table.has_iff_mem_keys, mem_returned, Table.has, Option.isSome_iff_exists]
    constructor
    · rintro ⟨object, hfind⟩
      obtain ⟨call, hcall, hid, hphase⟩ := hi.made hfind
      exact ⟨call, List.mem_of_getElem? hcall, object, hphase, hid⟩
    · rintro ⟨call, hcall, object, hphase, rfl⟩
      exact ⟨object, hi.returned hcall hphase⟩
  rw [← hsame, List.toFinset_card_of_nodup s.registry.nodup_keys, Table.keys, List.length_map, Table.size]

/-! ## A call by itself -/

/-- The compiler has registered the same executors. -/
def State.Mirrors (s : State) (compiler : Compiler) : Prop :=
  ∀ identifier, compiler.loaded? identifier = (s.registry.find? identifier).map Object.executor

/-- One step after another of the call with this number leads there, the evaluator answering so if it is asked. -/
def State.Alone (number : Nat) (answer : Except CompileError String) : State → State → Prop :=
  Relation.ReflTransGen fun s s' => s.step number answer = some s'

/-- The state with another call under the number. -/
def State.put (s : State) (number : Nat) (call : Call) : State := { s with calls := s.calls.set number call }

theorem alone_put {s s' : State} {number : Nat} (hlt : number < s.calls.length) {call : Call}
    {answer : Except CompileError String} {phase : Phase} {registry : Table Object}
    (h : ∀ calls, State.advance ⟨s.registry, calls⟩ number call answer = some (phase, ⟨registry, calls⟩))
    (hrest : State.Alone number answer (State.put ⟨registry, s.calls⟩ number { call with phase }) s') :
    State.Alone number answer (s.put number call) s' := by
  refine .head ?_ hrest
  simp only [State.step, State.put, List.getElem?_set_self hlt, Option.bind_eq_bind, Option.bind_some, h,
    List.set_set]
  rfl

theorem State.Mirrors.insert {s : State} {compiler : Compiler} (hmirrors : s.Mirrors compiler) (identifier : String)
    (object : Object) (calls : List Call) :
    State.Mirrors ⟨s.registry.insert identifier object, calls⟩
      { compiler with registry := compiler.registry.insert identifier object.executor } := by
  intro other
  rw [Compiler.loaded?, Table.find?_insert, Table.find?_insert]
  split
  · rfl
  · exact hmirrors other

/-- The call under the number, by itself and with this answer of the evaluator, returns the executor of the compilation
and leaves the same ones registered. -/
def State.ComesTo {σ : Type} (s : State) (number : Nat) (call : Call) (answer : Except CompileError String)
    (compilation : Compilation σ) : Prop :=
  ∃ s' result, State.Alone number answer s s' ∧ s'.calls[number]? = some { call with phase := .done result } ∧
    result.map Object.executor = compilation.result ∧ s'.Mirrors compilation.compiler

section

variable {s : State} {compiler : Compiler} {σ : Type} {evaluate : Evaluator σ} {state : σ} {rule : String}
  {target : Target} {context : Context} {number : Nat}

theorem comesTo_of_done (hlt : number < s.calls.length) {call : Call} {answer : Except CompileError String}
    {registry : Table Object} {result : Except CompileError Object} {compilation : Compilation σ}
    (halone : State.Alone number answer s
      (State.put ⟨registry, s.calls⟩ number { call with phase := .done result }))
    (hresult : result.map Object.executor = compilation.result)
    (hmirrors : State.Mirrors ⟨registry, s.calls.set number { call with phase := .done result }⟩ compilation.compiler) :
    s.ComesTo number call answer compilation :=
  ⟨_, result, halone, List.getElem?_set_self hlt, hresult, hmirrors⟩

theorem comesTo_of_found (hmirrors : s.Mirrors compiler) (hlt : number < s.calls.length) {object : Object}
    (hput : s.put number { variant := target.variant, rule } = s)
    (hfind : s.registry.find? (Identifier.derive target.variant rule) = some object)
    (answer : Except CompileError String) :
    s.ComesTo number { variant := target.variant, rule } answer
      (compiler.compile evaluate state rule target context) := by
  have hloaded := hmirrors (Identifier.derive target.variant rule)
  rw [hfind] at hloaded
  rw [Compiler.compile_of_loaded context evaluate state hloaded]
  have hserved (calls : List Call) :
      State.advance ⟨s.registry, calls⟩ number { variant := target.variant, rule } answer =
        some (.done (Call.verdict { variant := target.variant, rule } object), ⟨s.registry, calls⟩) := by
    simp only [State.advance, Call.identifier, hfind, Call.verdict]
  have halone := alone_put hlt hserved .refl
  rw [hput] at halone
  refine comesTo_of_done hlt halone ?_ hmirrors
  rw [Call.verdict]
  cases Compiler.checkOwner object.executor target.variant rule <;> rfl

/-- A call that finds nothing asks the evaluator and comes to its answer. -/
theorem alone_answered (hlt : number < s.calls.length) (hput : s.put number { variant := target.variant, rule } = s)
    (hfind : s.registry.find? (Identifier.derive target.variant rule) = none) {answer : Except CompileError String}
    {s' : State}
    (h : State.Alone number answer (s.put number { variant := target.variant, rule, phase := .answered answer }) s') :
    State.Alone number answer s s' := by
  have hmisses (calls : List Call) :
      State.advance ⟨s.registry, calls⟩ number { variant := target.variant, rule } answer =
        some (.asking, ⟨s.registry, calls⟩) := by
    simp only [State.advance, Call.identifier, hfind]
  have halone := alone_put hlt hmisses (alone_put hlt (fun _ => rfl) h)
  rwa [hput] at halone

theorem comesTo_of_missing (hmirrors : s.Mirrors compiler) (hlt : number < s.calls.length)
    (hput : s.put number { variant := target.variant, rule } = s)
    (hfind : s.registry.find? (Identifier.derive target.variant rule) = none) {answer : Except CompileError String}
    (hanswer : (answer.bind fun source => Compiler.accept source target.variant rule) =
      (compiler.compile evaluate state rule target context).result) :
    s.ComesTo number { variant := target.variant, rule } answer
      (compiler.compile evaluate state rule target context) := by
  have hloaded := hmirrors (Identifier.derive target.variant rule)
  rw [hfind] at hloaded
  rw [Compiler.result_compile context evaluate state hloaded] at hanswer
  rw [Compiler.compile_of_not_loaded context evaluate state hloaded]
  dsimp only
  generalize (evaluate state (Identifier.derive target.variant rule) fun _ =>
    compiler.productionFor rule target context) = given at hanswer ⊢
  cases haccept : given.result.bind fun source => Compiler.accept source target.variant rule with
  | error error =>
      rw [haccept] at hanswer
      have hrefuses (calls : List Call) :
          State.advance ⟨s.registry, calls⟩ number
            { variant := target.variant, rule, phase := .answered answer } answer =
            some (.done (.error error), ⟨s.registry, calls⟩) := by
        simp only [State.advance, hanswer]
      exact comesTo_of_done hlt (alone_answered hlt hput hfind (alone_put hlt hrefuses .refl)) rfl hmirrors
  | ok executor =>
      rw [haccept] at hanswer
      have hloads (calls : List Call) :
          State.advance ⟨s.registry, calls⟩ number
            { variant := target.variant, rule, phase := .answered answer } answer =
            some (.loaded executor, ⟨s.registry, calls⟩) := by
        simp only [State.advance, hanswer]
      have hregisters (calls : List Call) :
          State.advance ⟨s.registry, calls⟩ number
            { variant := target.variant, rule, phase := .loaded executor } answer =
            some (.done (.ok ⟨number, executor⟩),
              ⟨s.registry.insert (Identifier.derive target.variant rule) ⟨number, executor⟩, calls⟩) := by
        simp only [State.advance, Call.identifier, hfind]
      exact comesTo_of_done hlt
        (alone_answered hlt hput hfind (alone_put hlt hloads (alone_put hlt hregisters .refl))) rfl
        (hmirrors.insert _ _ _)

/-- A call by itself comes to what `Compiler.compile` comes to, if the answer that it may hear leads there. -/
theorem comesTo_compile (hmirrors : s.Mirrors compiler)
    (hcall : s.calls[number]? = some { variant := target.variant, rule }) {answer : Except CompileError String}
    (hanswer : compiler.loaded? (Identifier.derive target.variant rule) = none →
      (answer.bind fun source => Compiler.accept source target.variant rule) =
        (compiler.compile evaluate state rule target context).result) :
    s.ComesTo number { variant := target.variant, rule } answer
      (compiler.compile evaluate state rule target context) := by
  have hlt := (List.getElem?_eq_some_iff.mp hcall).1
  have hput : s.put number { variant := target.variant, rule } = s := by rw [State.put, List.set_of_getElem? hcall]
  have hloaded := hmirrors (Identifier.derive target.variant rule)
  cases hfind : s.registry.find? (Identifier.derive target.variant rule) with
  | some object => exact comesTo_of_found hmirrors hlt hput hfind _
  | none =>
      rw [hfind] at hloaded
      exact comesTo_of_missing hmirrors hlt hput hfind (hanswer hloaded)

end

/-! ## One object for each identifier -/

/-- In every state that the calls can reach, whatever the order of their steps and the answers of the evaluator: a
registered executor is of a pair that has the identifier, its entry stays as it is, and a call for the identifier that
begins later goes straight to it, without a question to the evaluator; who returned an executor returned the registered
object; there are as many entries as identifiers for which an executor was returned. A call by itself comes to what
`Compiler.compile` comes to, and this leaves evaluator and target alone if there is an entry. -/
theorem registered_once {s : State} (h : Reachable s) :
    (∀ identifier object, s.registry.find? identifier = some object →
      Identifier.derive object.executor.header.variant object.executor.header.rule = identifier ∧
      ∀ s', Relation.ReflTransGen Step s s' → s'.registry.find? identifier = some object ∧
        ∀ number, s.Unbegun number → s'.Serves number identifier object) ∧
    (∀ call ∈ s.calls, ∀ object, call.phase = .done (.ok object) →
      s.registry.find? call.identifier = some object) ∧
    s.registry.size = s.returned.card ∧
    ∀ compiler, s.Mirrors compiler → ∀ {σ : Type} (evaluate : Evaluator σ) (state : σ) rule target context number,
      s.calls[number]? = some { variant := target.variant, rule } →
      let compilation := compiler.compile evaluate state rule target context
      (∃ s' result, State.Alone number (evaluate state (Identifier.derive target.variant rule) fun _ =>
          compiler.productionFor rule target context).result s s' ∧
        s'.calls[number]? = some { variant := target.variant, rule, phase := .done result } ∧
        result.map Object.executor = compilation.result ∧ s'.Mirrors compilation.compiler) ∧
      ((s.registry.find? (Identifier.derive target.variant rule)).isSome → compilation.state = state ∧
        compilation.activity.productions = 0 ∧ compilation.activity.targetCalls = 0) := by
  have hi := invariant_of_reachable h
  refine ⟨fun identifier object hfind => ⟨hi.derived hfind, fun s' hsteps => ?_⟩,
    fun call hcall object hphase => hi.returned hcall hphase, hi.size_eq,
    fun compiler hmirrors σ evaluate state rule target context number hcall => ⟨?_, fun hsome => ?_⟩⟩
  · exact ⟨find?_steps hsteps hfind, fun number hbegun => serves_steps hsteps hfind hbegun⟩
  · exact comesTo_compile hmirrors hcall fun hnone => (Compiler.result_compile context evaluate state hnone).symm
  · obtain ⟨object, hfind⟩ := Option.isSome_iff_exists.mp hsome
    have hloaded := hmirrors (Identifier.derive target.variant rule)
    rw [hfind] at hloaded
    rw [Compiler.compile_of_loaded context evaluate state hloaded]
    exact ⟨rfl, rfl, rfl⟩

/-! ## A race -/

/-- The state after the events, if all of them can happen. -/
def State.play : State → List Event → Option State := Schedule.play State.next

theorem step_of_next {s s' : State} {event : Event} (h : s.next event = some s') : Step s s' := by
  cases event with
  | arrive pair =>
      cases h
      exact .arrive s pair.1 pair.2
  | act number answer => exact .act number answer h

theorem Reachable.play {s s' : State} {events : List Event} (hs : Reachable s) (h : s.play events = some s') :
    Reachable s' :=
  Schedule.play_preserves (fun _ hs hnext => hs.step (step_of_next hnext)) hs h

/-- Two calls find nothing and both load a unit; the second is the first to register it. A third call comes later. -/
def race (variant rule : String) (answer : Except CompileError String) : List Event :=
  [.arrive (variant, rule), .arrive (variant, rule), .act 0 answer, .act 1 answer, .act 1 answer, .act 0 answer,
    .act 0 answer, .act 1 answer, .act 1 answer, .arrive (variant, rule), .act 0 answer, .act 2 answer]

theorem play_race {variant rule source : String} {executor : Executor}
    (h : Compiler.accept source variant rule = .ok executor) :
    State.play {} (race variant rule (.ok source)) =
      some ⟨Table.empty.insert (Identifier.derive variant rule) ⟨1, executor⟩,
        List.replicate 3 ⟨variant, rule, .done (.ok ⟨1, executor⟩)⟩⟩ := by
  have howner : Compiler.checkOwner executor variant rule = .ok () := by
    obtain ⟨rfl, rfl⟩ := Compiler.owner_of_accept h
    exact Compiler.checkOwner_eq_ok executor
  simp [race, State.play, State.next, State.step, State.advance, Call.identifier, h, howner, Except.bind, Except.map]

theorem registered_once_race : ∃ s executor, Reachable s ∧
    s.calls = List.replicate 3 ⟨"always", "a = 1", .done (.ok ⟨1, executor⟩)⟩ ∧ s.returned.card = 1 ∧
    ∀ s', Relation.ReflTransGen Step s s' →
      s'.registry.find? (Identifier.derive "always" "a = 1") = some ⟨1, executor⟩ := by
  have haccept := Compiler.accept_unitText (Identifier.isIdentifier_derive "always" "a = 1")
    (show GeneratedCode.Writable { body := "true" } from ⟨nofun, nofun, nofun⟩) nofun
    (show Node.ofText "true" = .ok (.literal (.bool true)) from rfl) nofun
    (rfl : _ = String.ofList (Assembly.unitText (.ofNames _ "always" "a = 1") _))
  have hreach := Reachable.start.play (play_race haccept)
  obtain ⟨hentries, -, hsize, -⟩ := registered_once hreach
  refine ⟨_, _, hreach, rfl, hsize.symm, fun s' hsteps => ?_⟩
  exact ((hentries _ ⟨1, _⟩ (by simp)).2 s' hsteps).1

end CompiledRules.Registry
