import CompiledRules.Compiler.Basic
import CompiledRules.Proofs.Except
import CompiledRules.Proofs.Executor.Load
import CompiledRules.Proofs.Identifier
import Mathlib

/-!
# What a call of a compiler comes to

The unit that a compiler produces for a pair of variant and rule loads and belongs to this pair. A unit that belongs to
the identifier of the pair is accepted, unless it belongs to another pair with the same identifier.
-/

namespace CompiledRules

/-- The executor carries the identifier, and its own pair has it. -/
structure Executor.BelongsTo (executor : Executor) (identifier : String) : Prop where
  carries : executor.header.identifier = identifier
  derived : identifier = Identifier.derive executor.header.variant executor.header.rule

/-- The text loads to an executor that belongs to the identifier. -/
def UnitOf (identifier text : String) : Prop :=
  ∃ executor, Executor.load text = .ok executor ∧ executor.BelongsTo identifier

/-- The error is one of reading the rule, of the target or of the unit, and not of a store or an owner. -/
def CompileError.isProduced : CompileError → Bool
  | .rule _ | .target _ | .assembly _ | .load _ => true
  | .unwritable _ | .conflict _ => false

/-- The pair is refused for another one with the same identifier. -/
structure Conflict.Collides (clash : Conflict) (variant rule : String) : Prop where
  variant_eq : clash.variant = variant
  rule_eq : clash.rule = rule
  other : (clash.existingVariant, clash.existingRule) ≠ (variant, rule)
  same : Identifier.derive clash.existingVariant clash.existingRule = Identifier.derive variant rule

/-- The pair gets an executor of its own, or there is a collision. -/
def Settles (variant rule : String) (result : Except CompileError Executor) : Prop :=
  (∃ executor, result = .ok executor ∧ executor.header.variant = variant ∧ executor.header.rule = rule) ∨
    ∃ clash, result = .error (.conflict clash) ∧ clash.Collides variant rule

theorem Settles.collides {variant rule : String} {result : Except CompileError Executor}
    (h : Settles variant rule result) {clash : Conflict} (hclash : result = .error (.conflict clash)) :
    clash.Collides variant rule := by
  rcases h with ⟨executor, hok, -⟩ | ⟨clash', herror, hcollides⟩
  · rw [hok] at hclash
    cases hclash
  · rw [herror] at hclash
    cases hclash
    exact hcollides

namespace Compiler

variable {compiler : Compiler} {target : Target} {context : Context} {variant rule identifier source : String}

/-! ## Owners -/

theorem checkOwner_eq_ok (executor : Executor) :
    checkOwner executor executor.header.variant executor.header.rule = .ok () := by
  simp [checkOwner]

theorem settles_checkOwner {executor : Executor} (h : executor.BelongsTo (Identifier.derive variant rule)) :
    Settles variant rule ((checkOwner executor variant rule).map fun _ => executor) := by
  unfold checkOwner
  split
  case isTrue hsame => exact .inl ⟨executor, rfl, hsame.1, hsame.2⟩
  case isFalse hdiffers =>
      exact .inr ⟨_, rfl, rfl, rfl, fun heq => hdiffers (Prod.mk.inj heq), h.derived.symm⟩

theorem accept_of_load {executor : Executor} (h : Executor.load source = .ok executor) (variant rule : String) :
    accept source variant rule = (checkOwner executor variant rule).map fun _ => executor := by
  rw [accept, h]
  show (checkOwner executor variant rule >>= fun _ => pure executor) = _
  cases checkOwner executor variant rule <;> rfl

theorem settles_accept (h : UnitOf (Identifier.derive variant rule) source) :
    Settles variant rule (accept source variant rule) := by
  obtain ⟨executor, hload, hbelongs⟩ := h
  rw [accept_of_load hload]
  exact settles_checkOwner hbelongs

theorem belongsTo_of_accept {executor : Executor} (h : UnitOf identifier source)
    (haccept : accept source variant rule = .ok executor) : executor.BelongsTo identifier := by
  obtain ⟨loaded, hload, hbelongs⟩ := h
  rw [accept_of_load hload] at haccept
  cases howner : checkOwner loaded variant rule <;> rw [howner] at haccept <;> cases haccept
  exact hbelongs

theorem load_of_accept {executor : Executor} (h : accept source variant rule = .ok executor) :
    Executor.load source = .ok executor := by
  obtain ⟨loaded, hload, h⟩ := Except.bind_eq_ok_iff.mp h
  obtain ⟨owned, -, h⟩ := Except.bind_eq_ok_iff.mp h
  cases h
  exact Except.mapError_eq_ok_iff.mp hload

/-- What is accepted is of the variant and rule. -/
theorem owner_of_accept {executor : Executor} (h : accept source variant rule = .ok executor) :
    executor.header.variant = variant ∧ executor.header.rule = rule := by
  obtain ⟨loaded, -, h⟩ := Except.bind_eq_ok_iff.mp h
  obtain ⟨owned, howner, h⟩ := Except.bind_eq_ok_iff.mp h
  cases h
  unfold checkOwner at howner
  split at howner
  · assumption
  · cases howner

/-- An assembled unit is accepted for its variant and rule, whatever the identifier that it is named for. -/
theorem accept_unitText (hid : Identifier.isIdentifier identifier = true) {code : GeneratedCode} (hw : code.Writable)
    (hmixins : ∀ mixin ∈ code.mixins, mixin ∈ Executor.knownMixins) {node : Node}
    (hnode : Node.ofText code.body = .ok node) (hconstants : ∀ name ∈ node.constants, code.data.has name = true)
    (hsource : source = String.ofList (Assembly.unitText (.ofNames (.ofIdentifier identifier) variant rule) code)) :
    accept source variant rule =
      .ok ⟨.ofNames (.ofIdentifier identifier) variant rule, code.mixins, code.data, node, source⟩ := by
  have hload := (Executor.load_unitText hid variant rule hw hsource).mpr ⟨hmixins, node, hnode, hconstants, rfl⟩
  rw [accept_of_load hload]
  exact congrArg (Except.map _) (checkOwner_eq_ok ⟨.ofNames (.ofIdentifier identifier) variant rule, _, _, _, _⟩)

/-! ## Production -/

/-- A unit is written exactly if the code is writable and the unit loads. -/
theorem writeUnit_eq_ok (hid : Identifier.isIdentifier identifier = true) {e : Expr} :
    writeUnit target (.ofNames (.ofIdentifier identifier) variant rule) context e = .ok source ↔
      ∃ code, target.compile e context = .ok code ∧ code.Writable ∧
        source = String.ofList (Assembly.unitText (.ofNames (.ofIdentifier identifier) variant rule) code) ∧
        (∀ mixin ∈ code.mixins, mixin ∈ Executor.knownMixins) ∧
        ∃ node, Node.ofText code.body = .ok node ∧ ∀ name ∈ node.constants, code.data.has name = true := by
  constructor
  · intro h
    obtain ⟨code, hcode, h⟩ := Except.bind_eq_ok_iff.mp h
    obtain ⟨text, htext, h⟩ := Except.bind_eq_ok_iff.mp h
    obtain ⟨executor, hload, h⟩ := Except.bind_eq_ok_iff.mp h
    cases h
    rw [Except.mapError_eq_ok_iff] at hcode htext hload
    obtain ⟨hwritable, htext⟩ := (Assembly.assemble_eq_ok (Executor.isWord_name hid variant rule)).mp htext
    obtain ⟨hmixins, node, hnode, hconstants, -⟩ :=
      (Executor.load_unitText hid variant rule hwritable htext).mp hload
    exact ⟨code, hcode, hwritable, htext, hmixins, node, hnode, hconstants⟩
  · rintro ⟨code, hcode, hwritable, htext, hmixins, node, hnode, hconstants⟩
    have hassemble := (Assembly.assemble_eq_ok (Executor.isWord_name hid variant rule)).mpr ⟨hwritable, htext⟩
    have hload := (Executor.load_unitText hid variant rule hwritable htext).mpr
      ⟨hmixins, node, hnode, hconstants, rfl⟩
    refine Except.bind_eq_ok_iff.mpr ⟨code, Except.mapError_eq_ok_iff.mpr hcode, ?_⟩
    refine Except.bind_eq_ok_iff.mpr ⟨source, Except.mapError_eq_ok_iff.mpr hassemble, ?_⟩
    exact Except.bind_eq_ok_iff.mpr ⟨_, Except.mapError_eq_ok_iff.mpr hload, rfl⟩

/-- What was written loads, with the header that it was written with. -/
theorem load_of_writeUnit (hid : Identifier.isIdentifier identifier = true) {e : Expr}
    (h : writeUnit target (.ofNames (.ofIdentifier identifier) variant rule) context e = .ok source) :
    ∃ executor, Executor.load source = .ok executor ∧
      executor.header = .ofNames (.ofIdentifier identifier) variant rule ∧ executor.source = source := by
  obtain ⟨code, -, hwritable, htext, hmixins, node, hnode, hconstants⟩ := (writeUnit_eq_ok hid).mp h
  exact ⟨_, (Executor.load_unitText hid variant rule hwritable htext).mpr ⟨hmixins, node, hnode, hconstants, rfl⟩,
    rfl, rfl⟩

theorem writeUnit_of_refused {header : Header} {e : Expr} {error : TargetError}
    (h : target.compile e context = .error error) : writeUnit target header context e = .error (.target error) := by
  rw [writeUnit, h]
  rfl

theorem writeUnit_of_not_assembled {header : Header} {e : Expr} {code : GeneratedCode} {error : AssemblyError}
    (hcode : target.compile e context = .ok code) (h : assemble header code = .error error) :
    writeUnit target header context e = .error (.assembly error) := by
  simp only [writeUnit, hcode, Except.mapError, bind, Except.bind, h]

/-- What a compiler produces for a rule and a target, should it come to that. -/
def productionFor (compiler : Compiler) (rule : String) (target : Target) (context : Context) : Production :=
  let names := Names.ofIdentifier (Identifier.derive target.variant rule)
  compiler.produce target (.ofNames names target.variant rule) (context.identify names)

theorem productionFor_of_error {error : RuleError} (h : compiler.parse rule = .error error) :
    (compiler.productionFor rule target context).result = .error (.rule error) := by
  unfold productionFor produce
  dsimp only [Header.ofNames]
  rw [h]

theorem productionFor_of_ok {e : Expr} (h : compiler.parse rule = .ok e) :
    (compiler.productionFor rule target context).result =
      writeUnit target (.ofNames (.ofIdentifier (Identifier.derive target.variant rule)) target.variant rule)
        (context.identify (.ofIdentifier (Identifier.derive target.variant rule))) e := by
  unfold productionFor produce
  dsimp only [Header.ofNames]
  rw [h]

theorem productions_productionFor : (compiler.productionFor rule target context).activity.productions = 1 := by
  unfold productionFor produce
  dsimp only
  split <;> rfl

/-- The target is asked exactly if the rule is read. -/
theorem targetCalls_productionFor :
    (compiler.productionFor rule target context).activity.targetCalls = (compiler.parse rule).isOk.toNat := by
  unfold productionFor produce
  dsimp only [Header.ofNames]
  cases compiler.parse rule <;> rfl

theorem isProduced_of_writeUnit {header : Header} {e : Expr} {error : CompileError}
    (h : writeUnit target header context e = .error error) : error.isProduced = true := by
  have hmapped {ε α : Type} {x : Except ε α} {f : ε → CompileError} (hf : ∀ e, (f e).isProduced = true)
      (hx : x.mapError f = .error error) : error.isProduced = true := by
    obtain ⟨e, -, rfl⟩ := Except.mapError_eq_error_iff.mp hx
    exact hf e
  rcases Except.bind_eq_error_iff.mp h with h | ⟨code, -, h⟩
  · exact hmapped (fun _ => rfl) h
  rcases Except.bind_eq_error_iff.mp h with h | ⟨source, -, h⟩
  · exact hmapped (fun _ => rfl) h
  rcases Except.bind_eq_error_iff.mp h with h | ⟨executor, -, h⟩
  · exact hmapped (fun _ => rfl) h
  · cases h

theorem isProduced_of_productionFor {error : CompileError}
    (h : (compiler.productionFor rule target context).result = .error error) : error.isProduced = true := by
  unfold productionFor produce at h
  dsimp only at h
  split at h
  · cases h
    rfl
  · exact isProduced_of_writeUnit h

theorem productionFor_ne_conflict {clash : Conflict} :
    (compiler.productionFor rule target context).result ≠ .error (.conflict clash) := by
  intro h
  cases isProduced_of_productionFor h

theorem load_of_productionFor (h : (compiler.productionFor rule target context).result = .ok source) :
    ∃ executor, Executor.load source = .ok executor ∧ executor.BelongsTo (Identifier.derive target.variant rule) ∧
      executor.header.variant = target.variant ∧ executor.header.rule = rule ∧ executor.source = source := by
  unfold productionFor produce at h
  dsimp only at h
  split at h
  · cases h
  · obtain ⟨executor, hload, hheader, hsource⟩ := load_of_writeUnit (Identifier.isIdentifier_derive _ _) h
    rw [Header.ofNames] at hheader
    refine ⟨executor, hload, ⟨by rw [hheader]; rfl, by rw [hheader]⟩, by rw [hheader], by rw [hheader], hsource⟩

/-- The compiler accepts what it produced. -/
theorem accept_of_productionFor (h : (compiler.productionFor rule target context).result = .ok source) :
    ∃ executor, accept source target.variant rule = .ok executor ∧ executor.header.variant = target.variant ∧
      executor.header.rule = rule ∧ executor.source = source := by
  obtain ⟨executor, hload, -, hvariant, hrule, hsource⟩ := load_of_productionFor h
  refine ⟨executor, ?_, hvariant, hrule, hsource⟩
  rw [accept_of_load hload, ← hvariant, ← hrule, checkOwner_eq_ok]
  rfl

theorem accept_productionFor_ne_conflict {clash : Conflict} :
    (compiler.productionFor rule target context).result.bind (fun source => accept source target.variant rule) ≠
      .error (.conflict clash) := by
  intro h
  rcases Except.bind_eq_error_iff.mp h with h | ⟨source, hsource, h⟩
  · exact productionFor_ne_conflict h
  · obtain ⟨executor, haccept, -⟩ := accept_of_productionFor hsource
    rw [haccept] at h
    cases h

/-! ## Calls -/

/-- What is registered belongs to the identifier under which it is registered. -/
def Sound (compiler : Compiler) : Prop :=
  ∀ identifier executor, compiler.loaded? identifier = some executor → executor.BelongsTo identifier

variable {σ : Type} (evaluate : Evaluator σ) (state : σ) (context)

theorem compile_of_loaded {executor : Executor}
    (h : compiler.loaded? (Identifier.derive target.variant rule) = some executor) :
    compiler.compile evaluate state rule target context =
      ⟨(checkOwner executor target.variant rule).map fun _ => executor, compiler, state,
        context.identify (.ofIdentifier (Identifier.derive target.variant rule)),
        .event (.alreadyLoaded (Identifier.derive target.variant rule) target.variant)⟩ := by
  simp only [compile, Names.ofIdentifier, h]
  cases checkOwner executor target.variant rule <;> rfl

theorem compile_of_not_loaded (h : compiler.loaded? (Identifier.derive target.variant rule) = none) :
    compiler.compile evaluate state rule target context =
      let identifier := Identifier.derive target.variant rule
      let answer := evaluate state identifier fun _ => compiler.productionFor rule target context
      let context := context.identify (.ofIdentifier identifier)
      match answer.result.bind fun source => accept source target.variant rule with
      | .error error => ⟨.error error, compiler, answer.state, context, answer.activity⟩
      | .ok executor =>
          ⟨.ok executor, { compiler with registry := compiler.registry.insert identifier executor }, answer.state,
            context, answer.activity ++ .event (.executorRegistered identifier target.variant)⟩ := by
  simp only [compile, Names.ofIdentifier, register, h]
  rfl

theorem result_compile (h : compiler.loaded? (Identifier.derive target.variant rule) = none) :
    (compiler.compile evaluate state rule target context).result =
      (evaluate state (Identifier.derive target.variant rule) fun _ =>
        compiler.productionFor rule target context).result.bind fun source => accept source target.variant rule := by
  rw [compile_of_not_loaded context evaluate state h]
  dsimp only
  split <;> exact Eq.symm ‹_›

theorem state_compile (h : compiler.loaded? (Identifier.derive target.variant rule) = none) :
    (compiler.compile evaluate state rule target context).state =
      (evaluate state (Identifier.derive target.variant rule) fun _ =>
        compiler.productionFor rule target context).state := by
  rw [compile_of_not_loaded context evaluate state h]
  dsimp only
  split <;> rfl

theorem productions_compile (h : compiler.loaded? (Identifier.derive target.variant rule) = none) :
    (compiler.compile evaluate state rule target context).activity.productions =
      (evaluate state (Identifier.derive target.variant rule) fun _ =>
        compiler.productionFor rule target context).activity.productions := by
  rw [compile_of_not_loaded context evaluate state h]
  dsimp only
  split <;> rfl

/-- What holds of every registered executor still does, if it holds of the one that the evaluator answers with. -/
theorem registered_compile {P : String → Executor → Prop}
    (hregistry : ∀ identifier executor, compiler.loaded? identifier = some executor → P identifier executor)
    (hanswer : ∀ source executor, (evaluate state (Identifier.derive target.variant rule) fun _ =>
        compiler.productionFor rule target context).result = .ok source →
      accept source target.variant rule = .ok executor → P (Identifier.derive target.variant rule) executor)
    (identifier : String) (executor : Executor)
    (h : (compiler.compile evaluate state rule target context).compiler.loaded? identifier = some executor) :
    P identifier executor := by
  cases hloaded : compiler.loaded? (Identifier.derive target.variant rule) with
  | some found =>
      rw [compile_of_loaded context evaluate state hloaded] at h
      exact hregistry identifier executor h
  | none =>
      rw [compile_of_not_loaded context evaluate state hloaded] at h
      dsimp only at h
      split at h
      · exact hregistry identifier executor h
      · rename_i hresult
        simp only [loaded?, Table.find?_insert] at h
        split at h
        · subst_vars
          cases h
          obtain ⟨source, hsource, haccept⟩ := Except.bind_eq_ok_iff.mp hresult
          exact hanswer source _ hsource haccept
        · exact hregistry identifier executor h

/-- A compiler stays sound if the evaluator answers with units of the identifier. -/
theorem Sound.compile (hsound : compiler.Sound)
    (hanswer : ∀ text, (evaluate state (Identifier.derive target.variant rule) fun _ =>
        compiler.productionFor rule target context).result = .ok text →
      UnitOf (Identifier.derive target.variant rule) text) :
    (compiler.compile evaluate state rule target context).compiler.Sound :=
  registered_compile context evaluate state hsound fun source _ hsource haccept =>
    belongsTo_of_accept (hanswer source hsource) haccept

variable {evaluate state context}

theorem parse_compile : (compiler.compile evaluate state rule target context).compiler.parse = compiler.parse := by
  cases hloaded : compiler.loaded? (Identifier.derive target.variant rule) with
  | some executor => rw [compile_of_loaded context evaluate state hloaded]
  | none =>
      rw [compile_of_not_loaded context evaluate state hloaded]
      dsimp only
      split <;> rfl

/-- The names of the pair are written into the context, whatever the call comes to. -/
theorem context_compile : (compiler.compile evaluate state rule target context).context =
    context.identify (.ofIdentifier (Identifier.derive target.variant rule)) := by
  cases hloaded : compiler.loaded? (Identifier.derive target.variant rule) with
  | some found => rw [compile_of_loaded context evaluate state hloaded]
  | none =>
      rw [compile_of_not_loaded context evaluate state hloaded]
      dsimp only
      split <;> rfl

theorem compiler_compile_of_error {error : CompileError}
    (h : (compiler.compile evaluate state rule target context).result = .error error) :
    (compiler.compile evaluate state rule target context).compiler = compiler := by
  cases hloaded : compiler.loaded? (Identifier.derive target.variant rule) with
  | some executor => rw [compile_of_loaded context evaluate state hloaded]
  | none =>
      rw [compile_of_not_loaded context evaluate state hloaded] at h ⊢
      dsimp only at h ⊢
      split
      · rfl
      · rename_i executor hresult
        simp only [hresult] at h
        cases h

/-- A failed call has no answer from the evaluator, or one that was not produced for it. -/
theorem answer_of_error (hloaded : compiler.loaded? (Identifier.derive target.variant rule) = none)
    {error : CompileError} (h : (compiler.compile evaluate state rule target context).result = .error error)
    (text : String) (hanswer : (evaluate state (Identifier.derive target.variant rule) fun _ =>
      compiler.productionFor rule target context).result = .ok text) :
    (compiler.productionFor rule target context).result ≠ .ok text := by
  intro hproduced
  obtain ⟨executor, haccept, -⟩ := accept_of_productionFor hproduced
  rw [result_compile context evaluate state hloaded, hanswer, Except.bind, haccept] at h
  cases h

theorem loaded?_compile {identifier : String} {executor : Executor} (h : compiler.loaded? identifier = some executor) :
    (compiler.compile evaluate state rule target context).compiler.loaded? identifier = some executor := by
  cases hloaded : compiler.loaded? (Identifier.derive target.variant rule) with
  | some found => rw [compile_of_loaded context evaluate state hloaded]; exact h
  | none =>
      rw [compile_of_not_loaded context evaluate state hloaded]
      dsimp only
      split
      · exact h
      · simp only [loaded?, Table.find?_insert]
        split
        · subst_vars
          rw [hloaded] at h
          cases h
        · exact h

end Compiler

end CompiledRules
