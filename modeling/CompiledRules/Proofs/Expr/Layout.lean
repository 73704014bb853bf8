import CompiledRules.Proofs.Expr.Image
import CompiledRules.Proofs.Value.Layout

/-!
# Displayed rules in any layout

A rule that is read is read again from its display, with any blanks between the pieces and with the keywords in either
case. Display puts every operation in parentheses, so each piece is read as an operand.
-/

namespace CompiledRules

open CompiledRules.Parser

/-- The piece of a displayed comparison operator. -/
def CompareOp.piece : CompareOp → Piece
  | .isIn => .keyword "in".toList
  | .like => .keyword "like".toList
  | op => .token op.symbol.toList

theorem CompareOp.text_piece (op : CompareOp) : op.piece.text = op.symbol.toList := by
  cases op <;> rfl

theorem CompareOp.spelled_of_shows {op : CompareOp} {w : Text} (h : op.piece.Shows w) : op.Spelled w := by
  cases op with
  | isIn => exact h.spells (by decide)
  | like => exact h.spells (by decide)
  | _ => exact h

namespace Expr

/-! ## Pieces -/

/-- Two operands around an operator, in parentheses. -/
def binaryPieces (left : List Piece) (operator : Piece) (right : List Piece) : List Piece :=
  .token ['('] :: ((left ++ .token [' '] :: operator :: .token [' '] :: right) ++ [.token [')']])

mutual

/-- The pieces of a displayed expression. -/
def pieces : Expr → List Piece
  | .literal value => value.pieces
  | .field path => [.token path.toList]
  | .parameter p => [.token p.display]
  | .call name args => .token (name.toList ++ ['(']) :: (Piece.commaJoined (piecesAll args) ++ [.token [')']])
  | .compare op left right => binaryPieces (pieces left) op.piece (pieces right)
  | .and left right => binaryPieces (pieces left) (.keyword "AND".toList) (pieces right)
  | .or left right => binaryPieces (pieces left) (.keyword "OR".toList) (pieces right)
  | .xor left right => binaryPieces (pieces left) (.keyword "XOR".toList) (pieces right)
  | .not operand => .token ['('] :: ((.keyword "NOT".toList :: .token [' '] :: pieces operand) ++ [.token [')']])

/-- The pieces of each displayed expression. -/
def piecesAll : List Expr → List (List Piece)
  | [] => []
  | e :: es => pieces e :: piecesAll es

end

theorem piecesAll_eq (es : List Expr) : piecesAll es = es.map pieces := by
  induction es with
  | nil => rfl
  | cons e es ih => rw [piecesAll, ih, List.map_cons]

theorem flatMap_binaryPieces (left : List Piece) (operator : Piece) (right : List Piece) :
    (binaryPieces left operator right).flatMap Piece.text =
      displayBinary (left.flatMap Piece.text) operator.text (right.flatMap Piece.text) := by
  simp [binaryPieces, displayBinary, Piece.text]

theorem display_call (name : String) (args : List Expr) :
    (call name args).display = name.toList ++ '(' :: Text.commaJoined (displayAll args) ++ [')'] := rfl

theorem display_not (operand : Expr) : (not operand).display = "(NOT ".toList ++ operand.display ++ [')'] := rfl

mutual

theorem flatMap_pieces : (e : Expr) → e.pieces.flatMap Piece.text = e.display
  | .literal v => v.flatMap_pieces
  | .field _ => List.append_nil _
  | .parameter _ => List.append_nil _
  | .call name args => by
      rw [display_call, ← flatMap_piecesAll args]
      simp [pieces, Piece.text, Piece.flatMap_commaJoined]
  | .compare op left right => by
      rw [pieces, flatMap_binaryPieces, flatMap_pieces left, flatMap_pieces right, op.text_piece]
      rfl
  | .and left right => by
      rw [pieces, flatMap_binaryPieces, flatMap_pieces left, flatMap_pieces right]
      rfl
  | .or left right => by
      rw [pieces, flatMap_binaryPieces, flatMap_pieces left, flatMap_pieces right]
      rfl
  | .xor left right => by
      rw [pieces, flatMap_binaryPieces, flatMap_pieces left, flatMap_pieces right]
      rfl
  | .not operand => by
      rw [display_not, ← flatMap_pieces operand]
      simp [pieces, Piece.text]

theorem flatMap_piecesAll : (es : List Expr) → (piecesAll es).map (List.flatMap Piece.text) = displayAll es
  | [] => rfl
  | e :: es => by rw [piecesAll, displayAll, List.map_cons, flatMap_pieces e, flatMap_piecesAll es]

end

/-! ## Reading every layout -/

namespace Grammar

variable {e : Expr} {text : Text}

/-- An operation is read in parentheses, if it is read with gaps around its operator. -/
theorem Reads.binary {t : Tightness} {left right : List Piece} {operator : Piece}
    (hlaid : Laid (binaryPieces left operator right) text)
    (h : ∀ {a g w g' b}, Laid left a → Gap g → operator.Shows w → Gap g' → Laid right b →
      Reads t e (a ++ (g ++ (w ++ (g' ++ b))))) : Reads .primary e text := by
  obtain ⟨u, inner, v, rfl, hu, hinner, hv⟩ := hlaid.of_bracketed
  obtain ⟨a, rest, rfl, ha, hrest⟩ := hinner.of_append
  obtain ⟨u₁, rest, rfl, hu₁, hrest⟩ := hrest.of_token
  obtain ⟨u₂, w, rest, rfl, hu₂, hw, hrest⟩ := hrest.of_cons
  obtain ⟨u₃, b, rfl, hu₃, hb⟩ := hrest.of_token
  have hinside := h ha (.append_left hu₁ (.append_right .space hu₂)) hw (.append_left hu₃ .space) hb
  simp only [List.append_assoc] at hinside
  exact .afterBlanks (.parenthesised (hinside.mono (Nat.zero_le _)) hv) hu

theorem Reads.laid_not {operand : List Piece}
    (hlaid : Laid (.token ['('] :: ((.keyword "NOT".toList :: .token [' '] :: operand) ++ [.token [')']])) text)
    (h : ∀ {a}, Laid operand a → Reads .negation e a) : Reads .primary (.not e) text := by
  obtain ⟨u, inner, v, rfl, hu, hinner, hv⟩ := hlaid.of_bracketed
  obtain ⟨u₁, w, rest, rfl, hu₁, hw, hrest⟩ := hinner.of_cons
  obtain ⟨u₂, a, rfl, hu₂, ha⟩ := hrest.of_token
  have hnot := (Reads.not (hw.spells (by decide)) (.append_left hu₂ .space) (h ha)).afterBlanks hu₁
  rw [List.append_assoc] at hnot
  exact .afterBlanks (.parenthesised (hnot.mono (Nat.zero_le _)) hv) hu

theorem Reads.laid_call {name : String} {args : List Expr} (hname : Text.isWord name.toList = true)
    (hreserved : isReserved name.toList = false)
    (h : ∀ e ∈ args, ∀ text, Laid e.pieces text → Reads .disjunction e.unnumbered text)
    (hlaid : Laid (Expr.call name args).pieces text) : Reads .primary (Expr.call name args).unnumbered text := by
  rw [pieces, piecesAll_eq] at hlaid
  obtain ⟨u, inner, v, rfl, hu, hargs, hv⟩ := hlaid.of_bracketed
  have hlisted : Listed (Reads .disjunction) (args.map unnumbered) inner :=
    Laid.listed (R := Reads .disjunction) Reads.afterBlanks (f := unnumbered) (g := pieces) h hargs
  have hcall := (Reads.call hname hreserved hlisted hv).afterBlanks hu
  rw [unnumbered, unnumberedAll_eq, List.append_assoc name.toList, List.singleton_append]
  exact hcall

/-- What may stand right after an operator is read there from every layout. -/
theorem ReadsOperand.laid (h : e.Readable true) (hlaid : Laid e.pieces text)
    (hreads : e.Readable false → Reads .primary e.unnumbered text) : ReadsOperand e.unnumbered text := by
  refine .of_readable h ?_ hreads
  rintro path rfl
  obtain ⟨u, rfl, hu⟩ := hlaid.of_only_token
  exact (ReadsOperand.field h).afterBlanks hu

end Grammar

open Grammar

mutual

/-- A readable expression with plain literals is read as an operand from every layout of its display. -/
theorem reads_laid : (e : Expr) → e.Readable false → (∀ v ∈ e.literals, v.isPlain = true) → (text : Text) →
    Laid e.pieces text → Reads .primary e.unnumbered text
  | .literal v, _, hv, text, hlaid => .literal (readsValue_laid v (hv v List.mem_cons_self) text hlaid)
  | .field path, h, _, _, hlaid => by
      obtain ⟨u, rfl, hu⟩ := hlaid.of_only_token
      exact Reads.afterBlanks (t := .primary) ⟨.field h, .field h⟩ hu
  | .parameter (.named name), h, _, _, hlaid => by
      obtain ⟨u, rfl, hu⟩ := hlaid.of_only_token
      exact (Reads.named h).afterBlanks hu
  | .parameter (.positional _), _, _, _, hlaid => by
      obtain ⟨u, rfl, hu⟩ := hlaid.of_only_token
      exact Reads.positional.afterBlanks hu
  | .call name args, h, hv, _, hlaid => .laid_call h.1 h.2.1 (readsAll_laid args h.2.2 hv) hlaid
  | .compare op left right, h, hv, _, hlaid => by
      obtain ⟨hvleft, hvright⟩ := List.forall_mem_append.1 hv
      refine .binary (t := .comparison) hlaid fun ha hg hw hg' hb => ?_
      exact .compare h.1 (CompareOp.spelled_of_shows hw) hg hg' (reads_laid left h.2.1 hvleft _ ha)
        (.laid h.2.2 hb fun hr => reads_laid right hr hvright _ hb)
  | .and left right, h, hv, _, hlaid => by
      obtain ⟨hvleft, hvright⟩ := List.forall_mem_append.1 hv
      refine .binary (t := .conjunction) hlaid fun ha hg hw hg' hb => ?_
      exact .and (hw.spells (by decide)) hg hg' ((reads_laid left h.1 hvleft _ ha).mono (by decide))
        ((reads_laid right h.2 hvright _ hb).mono (by decide))
  | .or left right, h, hv, _, hlaid => by
      obtain ⟨hvleft, hvright⟩ := List.forall_mem_append.1 hv
      refine .binary (t := .disjunction) hlaid fun ha hg hw hg' hb => ?_
      exact .or (hw.spells (by decide)) hg hg' ((reads_laid left h.1 hvleft _ ha).mono (by decide))
        ((reads_laid right h.2 hvright _ hb).mono (by decide))
  | .xor left right, h, hv, _, hlaid => by
      obtain ⟨hvleft, hvright⟩ := List.forall_mem_append.1 hv
      refine .binary (t := .exclusion) hlaid fun ha hg hw hg' hb => ?_
      exact .xor (hw.spells (by decide)) hg hg' ((reads_laid left h.1 hvleft _ ha).mono (by decide))
        ((reads_laid right h.2 hvright _ hb).mono (by decide))
  | .not operand, h, hv, _, hlaid => .laid_not hlaid fun ha => (reads_laid operand h hv _ ha).mono (by decide)

theorem readsAll_laid : (es : List Expr) → ReadableAll es → (∀ v ∈ literalsAll es, v.isPlain = true) →
    ∀ e ∈ es, ∀ text, Laid e.pieces text → Reads .disjunction e.unnumbered text
  | [], _, _ => nofun
  | e :: es, h, hv => by
      obtain ⟨hfirst, hothers⟩ := List.forall_mem_append.1 hv
      refine List.forall_mem_cons.2 ⟨fun text hlaid => ?_, readsAll_laid es h.2 hothers⟩
      exact (reads_laid e h.1 hfirst text hlaid).mono (by decide)

end

/-- What a rule reads as, with no float and no text that needs escapes, is read again from its display in every layout:
with any blanks around its pieces and with its keywords in either case. -/
theorem parse_display {rule : String} {e : Expr} (hparse : parse rule = .ok e)
    (hplain : ∀ v ∈ e.literals, v.isPlain = true) :
    e.pieces.flatMap Piece.text = e.display ∧ parse (String.ofList e.display) = .ok e ∧
      ∀ text u, Laid e.pieces text → Blanks u → parse (String.ofList (text ++ u)) = .ok e := by
  have hnumbered : (e.numbered 0).1 = e := by
    obtain ⟨e', -, -, -, rfl⟩ := parse_eq_ok.1 hparse
    rw [numbered_numbered]
  have hlayout (text u : Text) (hlaid : Laid e.pieces text) (hu : Blanks u) :
      parse (String.ofList (text ++ u)) = .ok e := by
    have hreads := reads_laid e (readable_of_parse hparse) hplain text hlaid
    rw [parse_of_reads (hreads.mono (Nat.zero_le _)) hu, hnumbered]
  have hdisplay := hlayout _ [] (.flatMap_text e.pieces) .nil
  rw [List.append_nil, flatMap_pieces] at hdisplay
  exact ⟨flatMap_pieces e, hdisplay, hlayout⟩

/-- The rule `f(?) like not.y or not null`. -/
def spacedRule : Expr :=
  .or (.compare .like (.call "f" [.parameter (.positional 0)]) (.field "not.y")) (.not (.literal .null))

/-- The blanks and the spellings of `\t((f( ?)\u3000 LiKe not.y) oR ( not  NULL) )`. -/
def spacedLayout : List (Text × Text) :=
  [("\t", "("), ("", "("), ("", "f("), (" ", "?"), ("", ")"), ("\u3000", " "), ("", "LiKe"), ("", " "), ("", "not.y"),
    ("", ")"), ("", " "), ("", "oR"), ("", " "), ("", "("), (" ", "not"), ("", " "), (" ", "NULL"), ("", ")"),
    (" ", ")")].map fun (u, t) => (u.toList, t.toList)

theorem parse_display_spacedRule :
    parse "f(?) like not.y or not null" = .ok spacedRule ∧ (∀ v ∈ spacedRule.literals, v.isPlain = true) ∧
      parse "((f(?) like not.y) OR (NOT null))" = .ok spacedRule ∧
      parse "\t((f( ?)\u3000 LiKe not.y) oR ( not  NULL) )\n" = .ok spacedRule := by
  have hparse : parse "f(?) like not.y or not null" = .ok spacedRule := by rfl
  have hplain : ∀ v ∈ spacedRule.literals, v.isPlain = true := by decide
  obtain ⟨-, hdisplay, hlayout⟩ := parse_display hparse hplain
  have hlaid : Laid spacedRule.pieces (spacedLayout.flatMap fun x => x.1 ++ x.2) := .of_zip (by decide) (by decide)
  exact ⟨hparse, hplain, hdisplay, hlayout _ ['\n'] hlaid (by decide)⟩

end Expr

end CompiledRules
