import CompiledRules.Proofs.Node.Operand
import Mathlib

/-!
# Written bodies

`Written` says which texts stand for a body at each tightness: parentheses may stand anywhere, and must stand where a
looser operation is an operand of a tighter one. Every such text is read as that body.
-/

namespace CompiledRules

/-- The comparison has a symbol of its own in bodies. -/
def CompareOp.HasSymbol : CompareOp → Prop
  | .like => False
  | .custom _ => False
  | _ => True

namespace Node

mutual

/-- The text stands for the node where something of this tightness may stand. -/
inductive Written : Tightness → Node → Text → Prop where
  | literal {v : Value} : v.isFinite = true → Written .primary (.literal v) v.literal
  | target {segments : List String} : segments ≠ [] → Written .primary (.target segments) (targetText segments)
  | parameter {p : Parameter} : p.InRange → Written .primary (.parameter p) (parameterText p)
  | this {name : String} : Text.isWord name.toList = true → Written .primary (.this name) (thisText name)
  | call {name : String} {args : List Node} {texts : List Text} :
      WrittenAll args texts → Written .primary (.call name args) (callText name texts)
  | parenthesised {n : Node} {text : Text} : Written .disjunction n text → Written .primary n (inParentheses text)
  | not {n : Node} {text : Text} : Written .negation n text → Written .negation (.not n) ('!' :: text)
  | compare {op : CompareOp} {l r : Node} {a b : Text} : op.HasSymbol → Written .negation l a → Written .negation r b →
      Written .comparison (.compare op l r) (binaryText a (compareSymbol op) b)
  | and {l r : Node} {a b : Text} : Written .conjunction l a → Written .comparison r b →
      Written .conjunction (.and l r) (binaryText a "&&" b)
  | xor {l r : Node} {a b : Text} : Written .exclusion l a → Written .conjunction r b →
      Written .exclusion (.xor l r) (binaryText a "xor" b)
  | or {l r : Node} {a b : Text} : Written .disjunction l a → Written .exclusion r b →
      Written .disjunction (.or l r) (binaryText a "||" b)
  /-- What binds tighter may stand as well. -/
  | looser {t t' : Tightness} {n : Node} {text : Text} : t.rank = t'.rank + 1 → Written t n text → Written t' n text

/-- The texts stand for the nodes, one by one, as arguments. -/
inductive WrittenAll : List Node → List Text → Prop where
  | nil : WrittenAll [] []
  | cons {n : Node} {ns : List Node} {text : Text} {texts : List Text} :
      Written .disjunction n text → WrittenAll ns texts → WrittenAll (n :: ns) (text :: texts)

end

namespace Grammar

open CompiledRules.Parser

/-! ## What may follow -/

/-- The sign of a conjunction, after blanks. -/
def andSign : Parser Unit := do
  blanks
  exactly "&&".toList

/-- The sign of an exclusive disjunction, after blanks. -/
def xorSign : Parser Unit := do
  blanks
  keyword "xor"

/-- The sign of a disjunction, after blanks. -/
def orSign : Parser Unit := do
  blanks
  exactly "||".toList

/-- A text that does not go on with a comparison. -/
structure EndsComparison (r : Text) : Prop where
  operand : EndsOperand r
  compareOp : Refuses compareOp r

/-- A text that does not go on with a conjunction. -/
structure EndsConjunction (r : Text) : Prop extends EndsComparison r where
  andSign : Refuses andSign r

/-- A text that does not go on with an exclusive disjunction. -/
structure EndsExclusion (r : Text) : Prop extends EndsConjunction r where
  xorSign : Refuses xorSign r

/-- A text that does not go on with a body. -/
structure EndsBody (r : Text) : Prop extends EndsExclusion r where
  orSign : Refuses orSign r

theorem compareOp_append {op : CompareOp} (h : op.HasSymbol) (s : Text) :
    compareOp (' ' :: ((compareSymbol op).toList ++ ' ' :: s)) = .ok (op, ' ' :: s) := by
  cases op with
  | like => exact h.elim
  | custom _ => exact h.elim
  | _ => rfl

theorem endsComparison_andSign (s : Text) : EndsComparison (' ' :: ("&&".toList ++ ' ' :: s)) :=
  ⟨.cons (by decide) _, ⟨_, rfl, rfl⟩⟩

theorem endsConjunction_xorSign (s : Text) : EndsConjunction (' ' :: ("xor".toList ++ ' ' :: s)) :=
  ⟨⟨.cons (by decide) _, ⟨_, rfl, rfl⟩⟩, ⟨_, rfl, rfl⟩⟩

theorem endsExclusion_orSign (s : Text) : EndsExclusion (' ' :: ("||".toList ++ ' ' :: s)) :=
  ⟨⟨⟨.cons (by decide) _, ⟨_, rfl, rfl⟩⟩, ⟨_, rfl, rfl⟩⟩, ⟨_, rfl, rfl⟩⟩

theorem endsBody_parenthesis (s : Text) : EndsBody (')' :: s) :=
  ⟨⟨⟨⟨.cons (by decide) _, ⟨_, rfl, rfl⟩⟩, ⟨_, rfl, rfl⟩⟩, ⟨_, rfl, rfl⟩⟩, ⟨_, rfl, rfl⟩⟩

theorem endsBody_comma (s : Text) : EndsBody (',' :: s) :=
  ⟨⟨⟨⟨.cons (by decide) _, ⟨_, rfl, rfl⟩⟩, ⟨_, rfl, rfl⟩⟩, ⟨_, rfl, rfl⟩⟩, ⟨_, rfl, rfl⟩⟩

theorem endsBody_nil : EndsBody [] :=
  ⟨⟨⟨⟨.nil _, ⟨_, rfl, rfl⟩⟩, ⟨_, rfl, rfl⟩⟩, ⟨_, rfl, rfl⟩⟩, ⟨_, rfl, rfl⟩⟩

/-- Blanks in front do not change what a text goes on with. -/
theorem EndsBody.afterBlanks {u r : Text} (hu : Blanks u) (h : EndsBody r) : EndsBody (u ++ r) where
  operand := hu.ends (fun _ => goesOn_of_isBlank) h.operand
  compareOp := SkipsBlanks.refuses (blanks_skipsBlanks.bind _) hu h.compareOp
  andSign := SkipsBlanks.refuses (blanks_skipsBlanks.bind _) hu h.andSign
  xorSign := SkipsBlanks.refuses (blanks_skipsBlanks.bind _) hu h.xorSign
  orSign := SkipsBlanks.refuses (blanks_skipsBlanks.bind _) hu h.orSign

/-! ## Reading what is written -/

/-- How the text is read at this tightness. A chain is read up to its end, from where it may go on. -/
def Reads : Tightness → Node → Text → Prop
  | .primary, n, text => ∀ r, EndsOperand r → primary body (text ++ r) = .ok (n, r)
  | .negation, n, text => ∀ r, EndsOperand r → ∃ marks s m, many exclamation (text ++ r) = .ok (marks, s) ∧
      primary body s = .ok (m, r) ∧ n = marks.foldr (fun _ m => .not m) m
  | .comparison, n, text => ∀ r, EndsComparison r → comparison body (text ++ r) = .ok (n, r)
  | .conjunction, n, text => ∀ r, EndsComparison r →
      conjunction body (text ++ r) = chainFrom (comparison body) andSign .and n r
  | .exclusion, n, text => ∀ r, EndsConjunction r →
      exclusion body (text ++ r) = chainFrom (conjunction body) xorSign .xor n r
  | .disjunction, n, text => ∀ r, EndsExclusion r →
      disjunction body (text ++ r) = chainFrom (exclusion body) orSign .or n r

theorem Reads.negation_eq {n : Node} {text r : Text} (h : Reads .negation n text) (hr : EndsOperand r) :
    negation body (text ++ r) = .ok (n, r) := by
  obtain ⟨marks, s, m, hmarks, hm, rfl⟩ := h r hr
  rw [negation, bind_ok hmarks]
  cases marks with
  | nil => exact hm
  | cons mark marks => exact bind_ok (commit_ok hm)

theorem Reads.body_eq {n : Node} {text r : Text} (h : Reads .disjunction n text) (hr : EndsBody r) :
    body (text ++ r) = .ok (n, r) := by
  rw [Grammar.body_eq, h r hr.toEndsExclusion, chainFrom_end hr.orSign]

/-! ### Looser levels -/

theorem Reads.toNegation {n : Node} {text : Text} (h : Reads .primary n text)
    (hstart : ∀ r, Ends (fun c => Text.isBlank c || c == '!') (text ++ r)) : Reads .negation n text := by
  intro r hr
  have hblank : Ends Text.isBlank (text ++ r) := (hstart r).mono (by simp +contextual)
  have hmark : Refuses (char '!') (text ++ r) := char_refuses ((hstart r).mono (by simp +contextual))
  have hnone : Refuses exclamation (text ++ r) := .bind_ok (blanks_self hblank) hmark
  exact ⟨[], text ++ r, n, hnone.many, h r hr, rfl⟩

theorem Reads.toComparison {n : Node} {text : Text} (h : Reads .negation n text) : Reads .comparison n text := by
  intro r hr
  rw [comparison, bind_ok (h.negation_eq hr.operand), bind_ok hr.compareOp.optional]
  rfl

theorem Reads.toConjunction {n : Node} {text : Text} (h : Reads .comparison n text) : Reads .conjunction n text :=
  fun r hr => chain_operand (h r hr)

theorem Reads.toExclusion {n : Node} {text : Text} (h : Reads .conjunction n text) : Reads .exclusion n text := by
  intro r hr
  refine chain_operand ?_
  rw [h r hr.toEndsComparison, chainFrom_end hr.andSign]

theorem Reads.toDisjunction {n : Node} {text : Text} (h : Reads .exclusion n text) : Reads .disjunction n text := by
  intro r hr
  refine chain_operand ?_
  rw [h r hr.toEndsConjunction, chainFrom_end hr.xorSign]

/-! ### Operations -/

theorem binaryText_append (left : Text) (operator : String) (right r : Text) :
    binaryText left operator right ++ r = left ++ (' ' :: (operator.toList ++ ' ' :: (right ++ r))) := by
  simp [binaryText]

theorem Reads.not {n : Node} {text : Text} (h : Reads .negation n text) : Reads .negation (.not n) ('!' :: text) := by
  intro r hr
  obtain ⟨marks, s, m, hmarks, hm, rfl⟩ := h r hr
  refine ⟨() :: marks, s, m, ?_, hm, rfl⟩
  exact exclamation_consumes.many_cons ((bind_ok (blanks_self (.cons (by decide) _))).trans (char_self _ _)) hmarks

theorem Reads.compare {op : CompareOp} (hop : op.HasSymbol) {m n : Node} {a b : Text} (ha : Reads .negation m a)
    (hb : Reads .negation n b) : Reads .comparison (.compare op m n) (binaryText a (compareSymbol op) b) := by
  intro r hr
  have hright : negation body (' ' :: (b ++ r)) = .ok (n, r) := by
    rw [negation_skipsBlanks.cons (by decide), hb.negation_eq hr.operand]
  rw [binaryText_append, comparison, bind_ok (ha.negation_eq (.cons (by decide) _)),
    bind_ok (optional_ok (compareOp_append hop _))]
  exact bind_ok (commit_ok hright)

theorem tracks_comparison_body (n : Nat) : Tracks [] 0 n (comparison body) (comparison body) :=
  (tracks_comparison .nil (tracks_body .nil)).taking (by omega)

theorem tracks_conjunction_body (n : Nat) : Tracks [] 0 n (conjunction body) (conjunction body) :=
  .chain _ (tracks_comparison_body n)
    (.taking (by omega) (.bind (.blanks .nil) fun _ => .exactly (Ends.nil _) (by decide)))

theorem tracks_exclusion_body (n : Nat) : Tracks [] 0 n (exclusion body) (exclusion body) :=
  .chain _ (tracks_conjunction_body n) (.taking (by omega) (.bind (.blanks .nil) fun _ => .keyword .nil _))

theorem andSign_consumes : Consumes andSign :=
  Tracks.consumes (t := []) fun _ =>
    .taking (by omega) (.bind (.blanks .nil) fun _ => .exactly (Ends.nil _) (by decide))

theorem xorSign_consumes : Consumes xorSign :=
  Tracks.consumes (t := []) fun _ => .taking (by omega) (.bind (.blanks .nil) fun _ => .keyword .nil _)

theorem orSign_consumes : Consumes orSign :=
  Tracks.consumes (t := []) fun _ =>
    .taking (by omega) (.bind (.blanks .nil) fun _ => .exactly (Ends.nil _) (by decide))

theorem comparison_skipsBlanks : SkipsBlanks (comparison body) := negation_skipsBlanks.bind _

theorem conjunction_skipsBlanks : SkipsBlanks (conjunction body) := .chain comparison_skipsBlanks _ _

theorem exclusion_skipsBlanks : SkipsBlanks (exclusion body) := .chain conjunction_skipsBlanks _ _

theorem Reads.and {m n : Node} {a b : Text} (ha : Reads .conjunction m a) (hb : Reads .comparison n b) :
    Reads .conjunction (.and m n) (binaryText a "&&" b) := by
  intro r hr
  have hright : comparison body (' ' :: (b ++ r)) = .ok (n, r) := by
    rw [comparison_skipsBlanks.cons (by decide), hb r hr]
  rw [binaryText_append, ha _ (endsComparison_andSign _)]
  exact chainFrom_step andSign_consumes tracks_comparison_body rfl hright

theorem Reads.xor {m n : Node} {a b : Text} (ha : Reads .exclusion m a) (hb : Reads .conjunction n b) :
    Reads .exclusion (.xor m n) (binaryText a "xor" b) := by
  intro r hr
  have hright : conjunction body (' ' :: (b ++ r)) = .ok (n, r) := by
    rw [conjunction_skipsBlanks.cons (by decide), hb r hr.toEndsComparison, chainFrom_end hr.andSign]
  rw [binaryText_append, ha _ (endsConjunction_xorSign _)]
  exact chainFrom_step xorSign_consumes tracks_conjunction_body rfl hright

theorem Reads.or {m n : Node} {a b : Text} (ha : Reads .disjunction m a) (hb : Reads .exclusion n b) :
    Reads .disjunction (.or m n) (binaryText a "||" b) := by
  intro r hr
  have hright : exclusion body (' ' :: (b ++ r)) = .ok (n, r) := by
    rw [exclusion_skipsBlanks.cons (by decide), hb r hr.toEndsConjunction, chainFrom_end hr.xorSign]
  rw [binaryText_append, ha _ (endsExclusion_orSign _)]
  exact chainFrom_step orSign_consumes tracks_exclusion_body rfl hright

/-! ### Calls -/

theorem body_refuses_parenthesis (s : Text) : Refuses body (')' :: s) := by
  rw [body_eq]
  exact ⟨_, rfl, rfl⟩

theorem arguments_append {args : List (Node × Text)} {r : Text} (h : ∀ x ∈ args, Reads .disjunction x.1 x.2) :
    arguments body ('(' :: (Text.commaJoined (args.map Prod.snd) ++ ')' :: r)) = .ok (args.map Prod.fst, r) := by
  have hcomma {u : Text} (hu : Blanks u) (s : Text) :
      (do (do blanks; char ',' : Parser Unit); body) (u ++ ',' :: s) = body s := by
    rw [bind_ok ((bind_ok ((blanks_append hu).trans (blanks_self (.cons (by decide) _)))).trans (char_self _ _))]
  have hclose : Refuses (do blanks; char ',' : Parser Unit) (')' :: r) :=
    .bind_ok (blanks_self (.cons (by decide) _)) (char_refuses (.cons (by decide) _))
  have hconsumes : Consumes (do (do blanks; char ',' : Parser Unit); body) :=
    Tracks.consumes (t := []) fun n =>
      .taking (by omega) (.bind (.bind (.blanks .nil) fun _ => .char (Ends.nil _)) fun _ => tracks_body .nil)
  have hlisted : Listed (fun n text => ∀ r, EndsBody r → body (text ++ r) = .ok (n, r)) (args.map Prod.fst)
      (Text.commaJoined (args.map Prod.snd)) := by
    refine .commaJoined (fun hread hu r hr => ?_) fun x hx r hr => (h x hx).body_eq hr
    rw [List.append_assoc, body_skipsBlanks.append hu, hread r hr]
  obtain ⟨s, hargs, hblanks⟩ := separated_listed hconsumes hcomma
    (fun hu s => (endsBody_comma s).afterBlanks hu) (fun hread hr => hread _ hr) body_skipsBlanks hlisted .nil
    (by decide) (endsBody_parenthesis r) (hclose.bind _) (body_refuses_parenthesis r)
  rw [List.nil_append] at hargs
  rw [arguments, bind_ok (blanks_self (.cons (by decide) _)), bind_ok (char_self _ _), bind_ok (blanks_apply _),
    bind_ok hargs, bind_ok hblanks, bind_ok (char_self _ _), pure_apply]

theorem Reads.call {name : String} {args : List (Node × Text)} (h : ∀ x ∈ args, Reads .disjunction x.1 x.2) :
    Reads .primary (.call name (args.map Prod.fst)) (callText name (args.map Prod.snd)) := by
  intro r hr
  have htext : callText name (args.map Prod.snd) ++ r = "$operators".toList ++ ('[' :: Text.quoted name.toList ++
      ']' :: '(' :: (Text.commaJoined (args.map Prod.snd) ++ ')' :: r)) := by
    unfold callText
    simp only [List.append_assoc]
    rfl
  rw [htext]
  exact primary_call (arguments_append h)

theorem Reads.parenthesised {n : Node} {text : Text} (h : Reads .disjunction n text) :
    Reads .primary n (inParentheses text) :=
  fun r _ => primary_parenthesised (h.body_eq (endsBody_parenthesis r))

end Grammar

open Grammar CompiledRules.Parser

/-- The text of an operand starts neither with a blank nor with a `!`. -/
theorem Written.starts_primary {n : Node} {text : Text} (h : Written .primary n text) (r : Text) :
    Ends (fun c => Text.isBlank c || c == '!') (text ++ r) := by
  cases h with
  | literal hv =>
      refine (StartsValue.literal hv r).ends fun c hc => ?_
      simp only [Bool.or_eq_false_iff, beq_eq_false_iff_ne]
      exact ⟨isBlank_of_startsValue hc, by rintro rfl; cases hc⟩
  | target _ => exact .cons (by decide) _
  | parameter _ => rename_i p _; cases p <;> exact .cons (by decide) _
  | this _ => exact .cons (by decide) _
  | call _ => exact .cons (by decide) _
  | parenthesised _ => exact .cons (by decide) _
  | looser ht _ => rename_i t _; cases t <;> cases ht

theorem Reads.looser {t t' : Tightness} (ht : t.rank = t'.rank + 1) {n : Node} {text : Text} (hw : Written t n text)
    (h : Reads t n text) : Reads t' n text := by
  cases t' <;> cases t <;> cases ht
  · exact h.toDisjunction
  · exact h.toExclusion
  · exact h.toConjunction
  · exact h.toComparison
  · exact h.toNegation hw.starts_primary

mutual

theorem Written.reads : {t : Tightness} → {n : Node} → {text : Text} → Written t n text → Reads t n text
  | _, _, _, .literal hv => fun _ hr => primary_literal hv hr
  | _, _, _, .target hne => fun _ hr => primary_target hne hr
  | _, _, _, .parameter hp => fun _ _ => primary_parameter hp
  | _, _, _, .this hname => fun _ hr => primary_this hname hr
  | _, _, _, .call hargs => by
      obtain ⟨args, rfl, rfl, hread⟩ := hargs.reads
      exact Reads.call hread
  | _, _, _, .parenthesised h => Reads.parenthesised h.reads
  | _, _, _, .not h => Reads.not h.reads
  | _, _, _, .compare hop ha hb => Reads.compare hop ha.reads hb.reads
  | _, _, _, .and ha hb => Reads.and ha.reads hb.reads
  | _, _, _, .xor ha hb => Reads.xor ha.reads hb.reads
  | _, _, _, .or ha hb => Reads.or ha.reads hb.reads
  | _, _, _, .looser ht h => Reads.looser ht h h.reads

theorem WrittenAll.reads : {ns : List Node} → {texts : List Text} → WrittenAll ns texts →
    ∃ args : List (Node × Text), args.map Prod.fst = ns ∧ args.map Prod.snd = texts ∧
      ∀ x ∈ args, Reads .disjunction x.1 x.2
  | _, _, .nil => ⟨[], rfl, rfl, by simp⟩
  | _, _, .cons h hs => by
      obtain ⟨args, rfl, rfl, hread⟩ := hs.reads
      exact ⟨(_, _) :: args, rfl, rfl, List.forall_mem_cons.mpr ⟨h.reads, hread⟩⟩

end

/-- A written body is read as the body, where what follows does not go on with it. -/
theorem Written.body_eq {n : Node} {text r : Text} (h : Written .disjunction n text) (hr : EndsBody r) :
    Grammar.body (text ++ r) = .ok (n, r) :=
  h.reads.body_eq hr

end Node

end CompiledRules
