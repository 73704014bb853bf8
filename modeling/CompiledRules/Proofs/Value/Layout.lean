import CompiledRules.Proofs.Value.Literal

/-!
# Displayed values in any layout

A displayed text is a list of pieces. A layout of them may put blanks in front of each and write the keywords in either
case. Every layout of a plain value is read as the value.
-/

namespace CompiledRules

open CompiledRules.Parser

/-- A piece of a displayed text, which blanks do not divide. -/
inductive Piece where
  | token (text : Text)
  /-- May be written in either case. -/
  | keyword (text : Text)

namespace Piece

/-- The piece as it is displayed. -/
def text : Piece → Text
  | .token text => text
  | .keyword text => text

/-- The text is the piece, up to the case of a keyword. -/
def Shows : Piece → Text → Prop
  | .token text, t => t = text
  | .keyword text, t => t.map Char.toLower = text.map Char.toLower

instance : (piece : Piece) → (t : Text) → Decidable (piece.Shows t)
  | .token text, t => inferInstanceAs (Decidable (t = text))
  | .keyword text, t => inferInstanceAs (Decidable (t.map Char.toLower = text.map Char.toLower))

theorem shows_text (piece : Piece) : piece.Shows piece.text := by
  cases piece <;> rfl

theorem Shows.spells {s : String} {t w : Text} (h : (keyword t).Shows w) (ht : Spells s t) : Spells s w := h.trans ht

/-- The pieces of a list, with a comma and a space between neighbours. -/
def commaJoined : List (List Piece) → List Piece
  | [] => []
  | [pieces] => pieces
  | pieces :: next :: rest => pieces ++ .token [','] :: .token [' '] :: commaJoined (next :: rest)

theorem flatMap_commaJoined (items : List (List Piece)) :
    (commaJoined items).flatMap text = Text.commaJoined (items.map (List.flatMap text)) := by
  induction items with
  | nil => rfl
  | cons pieces items ih =>
      cases items with
      | nil => rfl
      | cons next rest => simp_all [commaJoined, Text.commaJoined, text]

end Piece

/-- The text is the pieces one after the other, with any blanks in front of each. -/
inductive Laid : List Piece → Text → Prop where
  | nil : Laid [] []
  | cons {piece : Piece} {pieces : List Piece} {u t rest : Text} : Blanks u → piece.Shows t → Laid pieces rest →
      Laid (piece :: pieces) (u ++ (t ++ rest))

namespace Laid

theorem flatMap_text (pieces : List Piece) : Laid pieces (pieces.flatMap Piece.text) := by
  induction pieces with
  | nil => exact .nil
  | cons piece pieces ih =>
      rw [List.flatMap_cons]
      exact .cons .nil piece.shows_text ih

/-- A layout is given by the blanks in front of each piece and its spelling. -/
theorem of_zip : {pieces : List Piece} → {layout : List (Text × Text)} → pieces.length = layout.length →
    (∀ x ∈ pieces.zip layout, Blanks x.2.1 ∧ x.1.Shows x.2.2) → Laid pieces (layout.flatMap fun x => x.1 ++ x.2)
  | [], [], _, _ => .nil
  | piece :: pieces, (u, t) :: layout, hlength, h => by
      obtain ⟨⟨hu, ht⟩, hothers⟩ := List.forall_mem_cons.1 h
      rw [List.flatMap_cons, List.append_assoc]
      exact .cons hu ht (of_zip (Nat.succ.inj hlength) hothers)

theorem of_append {ps qs : List Piece} {text : Text} (h : Laid (ps ++ qs) text) :
    ∃ a b, text = a ++ b ∧ Laid ps a ∧ Laid qs b := by
  induction ps generalizing text with
  | nil => exact ⟨[], text, rfl, .nil, h⟩
  | cons p ps ih =>
      cases h with
      | cons hu ht hrest =>
          obtain ⟨a, b, rfl, ha, hb⟩ := ih hrest
          exact ⟨_, b, by simp only [List.append_assoc], .cons hu ht ha, hb⟩

theorem of_cons {piece : Piece} {pieces : List Piece} {text : Text} (h : Laid (piece :: pieces) text) :
    ∃ u t rest, text = u ++ (t ++ rest) ∧ Blanks u ∧ piece.Shows t ∧ Laid pieces rest := by
  cases h with
  | cons hu ht hrest => exact ⟨_, _, _, rfl, hu, ht, hrest⟩

theorem of_token {t text : Text} {pieces : List Piece} (h : Laid (.token t :: pieces) text) :
    ∃ u rest, text = u ++ (t ++ rest) ∧ Blanks u ∧ Laid pieces rest := by
  obtain ⟨u, _, rest, rfl, hu, rfl, hrest⟩ := of_cons h
  exact ⟨u, rest, rfl, hu, hrest⟩

theorem of_nil {text : Text} (h : Laid [] text) : text = [] := by
  cases h
  rfl

theorem of_only_token {t text : Text} (h : Laid [.token t] text) : ∃ u, text = u ++ t ∧ Blanks u := by
  obtain ⟨u, rest, rfl, hu, hrest⟩ := of_token h
  exact ⟨u, by rw [of_nil hrest, List.append_nil], hu⟩

theorem of_only_keyword {s : String} {t text : Text} (h : Laid [.keyword t] text) (ht : Spells s t) :
    ∃ u w, text = u ++ w ∧ Blanks u ∧ Spells s w := by
  obtain ⟨u, w, rest, rfl, hu, hw, hrest⟩ := of_cons h
  exact ⟨u, w, by rw [of_nil hrest, List.append_nil], hu, hw.spells ht⟩

/-- Blanks may stand in front of both brackets. -/
theorem of_bracketed {left right text : Text} {pieces : List Piece}
    (h : Laid (.token left :: (pieces ++ [.token right])) text) :
    ∃ u inner v, text = u ++ (left ++ (inner ++ (v ++ right))) ∧ Blanks u ∧ Laid pieces inner ∧ Blanks v := by
  obtain ⟨u, rest, rfl, hu, hrest⟩ := of_token h
  obtain ⟨inner, close, rfl, hinner, hclose⟩ := of_append hrest
  obtain ⟨v, rfl, hv⟩ := of_only_token hclose
  exact ⟨u, inner, v, rfl, hu, hinner, hv⟩

/-- Items that are read in every layout are read as a list in every layout. -/
theorem listed {α β : Type} {R : α → Text → Prop} (hblanks : ∀ {a text u}, R a text → Blanks u → R a (u ++ text))
    {f : β → α} {g : β → List Piece} {items : List β} (h : ∀ x ∈ items, ∀ text, Laid (g x) text → R (f x) text)
    {text : Text} (hlaid : Laid (Piece.commaJoined (items.map g)) text) : Listed R (items.map f) text := by
  induction items generalizing text with
  | nil =>
      rw [of_nil hlaid]
      exact .nil
  | cons x items ih =>
      have hitem := h x List.mem_cons_self
      cases items with
      | nil => exact .single (hitem text hlaid)
      | cons y items =>
          obtain ⟨a, b, rfl, ha, hb⟩ := of_append hlaid
          obtain ⟨u, rest, rfl, hu, hrest⟩ := of_token hb
          obtain ⟨v, rest, rfl, hv, hrest⟩ := of_token hrest
          have hne : (y :: items).map f ≠ [] := List.cons_ne_nil _ _
          have hitems := ih (fun z hz => h z (List.mem_cons_of_mem _ hz)) hrest
          have hothers : Listed R ((y :: items).map f) (v ++ ([' '] ++ rest)) :=
            .afterBlanks hblanks (.afterBlanks hblanks hitems hne Gap.space.blanks) hne hv
          exact .cons (hitem a ha) hu hne hothers

end Laid

/-! ## Values -/

namespace Value

mutual

/-- The pieces of a displayed value. -/
def pieces : Value → List Piece
  | .null => [.keyword "null".toList]
  | .int n => [.token (Text.signedDecimal n.toInt)]
  | .float x => [.token x.plainText]
  | .bool true => [.keyword "true".toList]
  | .bool false => [.keyword "false".toList]
  | .string s => [.token ('"' :: s.toList ++ ['"'])]
  | .list items => .token ['['] :: (Piece.commaJoined (piecesAll items) ++ [.token [']']])

/-- The pieces of each displayed value. -/
def piecesAll : List Value → List (List Piece)
  | [] => []
  | v :: vs => pieces v :: piecesAll vs

end

theorem piecesAll_eq (vs : List Value) : piecesAll vs = vs.map pieces := by
  induction vs with
  | nil => rfl
  | cons v vs ih => rw [piecesAll, ih, List.map_cons]

theorem display_list (items : List Value) :
    (list items).display = '[' :: Text.commaJoined (displayAll items) ++ [']'] := rfl

mutual

theorem flatMap_pieces : (v : Value) → v.pieces.flatMap Piece.text = v.display
  | .null => rfl
  | .int _ => List.append_nil _
  | .float _ => List.append_nil _
  | .bool true => rfl
  | .bool false => rfl
  | .string _ => List.append_nil _
  | .list items => by
      rw [display_list, ← flatMap_piecesAll items]
      simp [pieces, Piece.text, Piece.flatMap_commaJoined]

theorem flatMap_piecesAll : (vs : List Value) → (piecesAll vs).map (List.flatMap Piece.text) = displayAll vs
  | [] => rfl
  | v :: vs => by rw [piecesAll, displayAll, List.map_cons, flatMap_pieces v, flatMap_piecesAll vs]

end

mutual

/-- Whether the value holds no float, and no text with a double quote or a backslash, at any depth. -/
def isPlain : Value → Bool
  | .float _ => false
  | .string s => s.toList.all fun c => c ≠ '"' && c ≠ '\\'
  | .list items => allPlain items
  | _ => true

/-- Whether every value is plain. -/
def allPlain : List Value → Bool
  | [] => true
  | v :: vs => isPlain v && allPlain vs

end

end Value

namespace Parser

theorem unquoted_plain {text : Text} (h : ∀ c ∈ text, c ≠ '"' ∧ c ≠ '\\') (r : Text) :
    unquoted '"' (text ++ '"' :: r) = .ok (text, r) := by
  induction text with
  | nil => exact unquoted_quote '"' r
  | cons c text ih =>
      obtain ⟨⟨hquote, hbackslash⟩, htext⟩ := List.forall_mem_cons.1 h
      rw [List.cons_append, unquoted_cons (by decide) hquote, bind_ok (quotedPiece_plain hquote hbackslash _),
        bind_ok (ih htext)]
      rfl

theorem readsValue_plainString {s : String} (h : ∀ c ∈ s.toList, c ≠ '"' ∧ c ≠ '\\') :
    ReadsValue (.string s) ('"' :: s.toList ++ ['"']) := by
  intro r _
  have htext : '"' :: s.toList ++ ['"'] ++ r = '"' :: (s.toList ++ '"' :: r) := by simp
  have hquoted : quotedText ('"' :: (s.toList ++ '"' :: r)) = .ok (s.toList, r) := by
    rw [quotedText_eq, bind_ok (charWhere_self (by decide) _), unquoted_plain h]
  rw [htext]
  refine value_ok (.cons (by decide) _) (orElse_ok ?_)
  rw [bind_ok hquoted, pure_apply, String.ofList_toList]

theorem readsValue_laid_list {items : List Value} (h : ∀ v ∈ items, ∀ text, Laid v.pieces text → ReadsValue v text)
    {text : Text} (hlaid : Laid (Value.list items).pieces text) : ReadsValue (.list items) text := by
  rw [Value.pieces, Value.piecesAll_eq] at hlaid
  obtain ⟨u, inner, v, rfl, hu, hitems, hv⟩ := hlaid.of_bracketed
  have hlisted : Listed ReadsValue (items.map id) inner :=
    Laid.listed (R := ReadsValue) ReadsValue.afterBlanks (f := id) (g := Value.pieces) h hitems
  rw [List.map_id] at hlisted
  have hlist : ReadsValue (.list items) ('[' :: (inner ++ (v ++ [']']))) := .list hlisted hv
  exact hlist.afterBlanks hu

mutual

/-- A plain value is read back from every layout of its display. -/
theorem readsValue_laid : (v : Value) → v.isPlain = true → (text : Text) → Laid v.pieces text → ReadsValue v text
  | .null, _, _, h => by
      obtain ⟨u, w, rfl, hu, hw⟩ := h.of_only_keyword (s := "null") (by decide)
      exact .afterBlanks (fun r hr => value_null hw hr.word) hu
  | .int n, _, _, h => by
      obtain ⟨u, rfl, hu⟩ := h.of_only_token
      exact .afterBlanks (value_literal (.int n) rfl) hu
  | .float _, hplain, _, _ => nomatch hplain
  | .bool true, _, _, h => by
      obtain ⟨u, w, rfl, hu, hw⟩ := h.of_only_keyword (s := "true") (by decide)
      exact .afterBlanks (fun r hr => value_true hw hr.word) hu
  | .bool false, _, _, h => by
      obtain ⟨u, w, rfl, hu, hw⟩ := h.of_only_keyword (s := "false") (by decide)
      exact .afterBlanks (fun r hr => value_false hw hr.word) hu
  | .string s, hplain, _, h => by
      obtain ⟨u, rfl, hu⟩ := h.of_only_token
      have hstring := readsValue_plainString (s := s) (by simpa [Value.isPlain] using hplain)
      exact hstring.afterBlanks hu
  | .list items, hplain, _, h => readsValue_laid_list (readsValue_laidAll items hplain) h

theorem readsValue_laidAll : (vs : List Value) → Value.allPlain vs = true → ∀ v ∈ vs, ∀ text, Laid v.pieces text →
    ReadsValue v text
  | [], _ => nofun
  | v :: vs, hplain => by
      obtain ⟨hfirst, hothers⟩ := Bool.and_eq_true_iff.1 hplain
      exact List.forall_mem_cons.2 ⟨readsValue_laid v hfirst, readsValue_laidAll vs hothers⟩

end

end Parser

end CompiledRules
