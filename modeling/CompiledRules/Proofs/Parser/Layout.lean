import CompiledRules.Proofs.Parser.Reading
import Mathlib

/-!
# Blanks and case

Most parsers skip blanks in front, so that the same is read with more of them. A keyword is read in either case. Items
between commas may have blanks on both sides of each comma.
-/

namespace CompiledRules.Parser

variable {α : Type}

/-! ## Blanks -/

/-- Nothing but blanks. -/
def Blanks (u : Text) : Prop := ∀ c ∈ u, Text.isBlank c = true

instance (u : Text) : Decidable (Blanks u) := List.decidableBAll _ u

/-- At least one blank, and nothing else. -/
structure Gap (u : Text) : Prop where
  nonempty : u ≠ []
  blanks : Blanks u

theorem Blanks.nil : Blanks [] := nofun

theorem Blanks.append {u v : Text} (hu : Blanks u) (hv : Blanks v) : Blanks (u ++ v) := by
  intro c hc
  rcases List.mem_append.1 hc with hc | hc
  · exact hu c hc
  · exact hv c hc

theorem Gap.space : Gap [' '] := ⟨nofun, by simp [Blanks, Text.isBlank]⟩

theorem Gap.append_left {u v : Text} (hu : Blanks u) (hv : Gap v) : Gap (u ++ v) :=
  ⟨fun h => hv.nonempty (List.append_eq_nil_iff.1 h).2, hu.append hv.blanks⟩

theorem Gap.append_right {u v : Text} (hu : Gap u) (hv : Blanks v) : Gap (u ++ v) :=
  ⟨fun h => hu.nonempty (List.append_eq_nil_iff.1 h).1, hu.blanks.append hv⟩

/-- A class without blanks does not go on into a gap. -/
theorem Gap.ends {u : Text} (h : Gap u) {accepts : Char → Bool} (ha : ∀ c, Text.isBlank c = true → accepts c = false)
    (s : Text) : Ends accepts (u ++ s) := by
  obtain ⟨hne, hu⟩ := h
  cases u with
  | nil => exact absurd rfl hne
  | cons c u => exact .cons (ha c (hu c List.mem_cons_self)) _

theorem Blanks.ends {u : Text} (hu : Blanks u) {accepts : Char → Bool}
    (ha : ∀ c, Text.isBlank c = true → accepts c = false) {s : Text} (hs : Ends accepts s) : Ends accepts (u ++ s) := by
  cases u with
  | nil => exact hs
  | cons c u => exact .cons (ha c (hu c List.mem_cons_self)) _

theorem Blanks.dropWhile {u : Text} (hu : Blanks u) (s : Text) :
    (u ++ s).dropWhile Text.isBlank = s.dropWhile Text.isBlank :=
  List.dropWhile_append_of_pos hu

theorem blanks_apply (s : Text) : blanks s = .ok ((), s.dropWhile Text.isBlank) := rfl

theorem SkipsBlanks.append {p : Parser α} (h : SkipsBlanks p) {u : Text} (hu : Blanks u) (s : Text) :
    p (u ++ s) = p s := by
  rw [← h (u ++ s), hu.dropWhile, h s]

theorem SkipsBlanks.refuses {p : Parser α} (h : SkipsBlanks p) {u : Text} (hu : Blanks u) {s : Text}
    (hs : Refuses p s) : Refuses p (u ++ s) := by
  rw [Refuses, h.append hu]
  exact hs

/-! ## Words in either case -/

theorem toLower_of_not_isUpper {c : Char} (h : c.isUpper = false) : c.toLower = c := by
  unfold Char.toLower
  rw [dif_neg]
  simpa [Char.isUpper] using h

theorem isLower_toLower {c : Char} (h : c.isUpper = true) : c.toLower.isLower = true := by
  have hrange : 65 ≤ c.toNat ∧ c.toNat ≤ 90 := by simpa [Char.isUpper, UInt32.le_iff_toNat_le] using h
  have hlower : c.toLower.toNat = c.toNat + 32 := by
    unfold Char.toLower
    rw [dif_pos (by simpa [Char.isUpper] using h)]
    change (c.val + 32).toNat = c.toNat + 32
    rw [UInt32.toNat_add]
    change (c.toNat + 32) % _ = c.toNat + 32
    omega
  simp [Char.isLower, UInt32.le_iff_toNat_le]
  omega

theorem isWordStart_toLower (c : Char) : Text.isWordStart c.toLower = Text.isWordStart c := by
  cases h : c.isUpper with
  | false => rw [toLower_of_not_isUpper h]
  | true => simp [Text.isWordStart, Char.isAlpha, h, isLower_toLower h]

theorem isWordChar_toLower (c : Char) : Text.isWordChar c.toLower = Text.isWordChar c := by
  cases h : c.isUpper with
  | false => rw [toLower_of_not_isUpper h]
  | true => simp [Text.isWordChar, Text.isWordStart, Char.isAlpha, h, isLower_toLower h]

/-- The text is the keyword, in either case. -/
def Spells (spelling : String) (w : Text) : Prop := w.map Char.toLower = spelling.toList

instance (spelling : String) (w : Text) : Decidable (Spells spelling w) :=
  inferInstanceAs (Decidable (w.map Char.toLower = spelling.toList))

theorem Spells.isWord {spelling : String} {w : Text} (h : Spells spelling w)
    (hs : Text.isWord spelling.toList = true) : Text.isWord w = true := by
  rw [← h] at hs
  cases w with
  | nil => exact hs
  | cons c w =>
      simpa [Text.isWord, isWordStart_toLower, isWordChar_toLower] using hs

theorem Spells.keyword {spelling : String} {w r : Text} (h : Spells spelling w)
    (hs : Text.isWord spelling.toList = true) (hr : Ends Text.isWordChar r) :
    Parser.keyword spelling (w ++ r) = .ok ((), r) :=
  keyword_append (h.isWord hs) h hr

/-- A keyword is not another one. -/
theorem Spells.keyword_refuses {spelling other : String} {w r : Text} (h : Spells spelling w)
    (hs : Text.isWord spelling.toList = true) (hne : spelling ≠ other) (hr : Ends Text.isWordChar r) :
    Refuses (Parser.keyword other) (w ++ r) :=
  keyword_refuses_word (h.isWord hs) (fun heq => hne (String.toList_inj.1 (h.symm.trans heq))) hr

/-! ## Items between commas -/

/-- The items as they stand between the brackets of a list, given how each may stand. -/
inductive Listed (R : α → Text → Prop) : List α → Text → Prop where
  | nil : Listed R [] []
  | single {a : α} {text : Text} : R a text → Listed R [a] text
  | cons {a : α} {as : List α} {text u rest : Text} : R a text → Blanks u → as ≠ [] → Listed R as rest →
      Listed R (a :: as) (text ++ (u ++ ',' :: rest))

section

variable {β : Type} {R : α → Text → Prop} (hblanks : ∀ {a text u}, R a text → Blanks u → R a (u ++ text))
include hblanks

theorem Listed.afterBlanks {as : List α} {text u : Text} (h : Listed R as text) (hne : as ≠ []) (hu : Blanks u) :
    Listed R as (u ++ text) := by
  cases h with
  | nil => exact absurd rfl hne
  | single hitem => exact .single (hblanks hitem hu)
  | cons hitem hv hne' hitems =>
      rw [← List.append_assoc]
      exact .cons (hblanks hitem hu) hv hne' hitems

theorem Listed.commaJoined {f : β → α} {g : β → Text} {items : List β} (h : ∀ x ∈ items, R (f x) (g x)) :
    Listed R (items.map f) (Text.commaJoined (items.map g)) := by
  induction items with
  | nil => exact .nil
  | cons x items ih =>
      have hitems := ih fun y hy => h y (List.mem_cons_of_mem _ hy)
      have hitem := h x List.mem_cons_self
      cases items with
      | nil => exact .single hitem
      | cons y items =>
          have htext : Text.commaJoined ((x :: y :: items).map g) =
              g x ++ ([] ++ ',' :: ([' '] ++ Text.commaJoined ((y :: items).map g))) := by
            simp [Text.commaJoined]
          have hne : (y :: items).map f ≠ [] := List.cons_ne_nil _ _
          rw [htext]
          exact .cons hitem .nil hne (.afterBlanks hblanks hitems hne Gap.space.blanks)

end

section

variable {p : Parser α} {separator : Parser Unit} {R : α → Text → Prop} {follow : Text → Prop}
  (hconsumes : Consumes (do separator; p)) (hcomma : ∀ {u}, Blanks u → ∀ s, (do separator; p) (u ++ ',' :: s) = p s)
  (hfollow : ∀ {u}, Blanks u → ∀ s, follow (u ++ ',' :: s))
  (hread : ∀ {a text r}, R a text → follow r → p (text ++ r) = .ok (a, r))
include hconsumes hcomma hfollow hread

theorem many_listed {as : List α} {text u rest : Text} (h : Listed R as text) (hne : as ≠ []) (hu : Blanks u)
    (hrest : follow rest) (hend : Refuses (do separator; p) rest) :
    many (do separator; p) (u ++ ',' :: (text ++ rest)) = .ok (as, rest) := by
  induction h generalizing u with
  | nil => exact absurd rfl hne
  | single hitem => exact hconsumes.many_cons ((hcomma hu _).trans (hread hitem hrest)) hend.many
  | cons hitem hv hne' _ ih =>
      rw [List.append_assoc, List.append_assoc, List.cons_append]
      exact hconsumes.many_cons ((hcomma hu _).trans (hread hitem (hfollow hv _))) (ih hne' hv)

theorem separatedSome_listed {as : List α} {text rest : Text} (h : Listed R as text) (hne : as ≠ [])
    (hrest : follow rest) (hend : Refuses (do separator; p) rest) :
    separatedSome p separator (text ++ rest) = .ok (as, rest) := by
  cases h with
  | nil => exact absurd rfl hne
  | single hitem => exact (bind_ok (hread hitem hrest)).trans (bind_ok hend.many)
  | cons hitem hu hne' hitems =>
      rw [List.append_assoc, List.append_assoc, List.cons_append]
      exact (bind_ok (hread hitem (hfollow hu _))).trans
        (bind_ok (many_listed hconsumes hcomma hfollow hread hitems hne' hu hrest hend))

/-- Items between commas are read up to the closing bracket, whatever blanks stand around them. -/
theorem separated_listed (hskip : SkipsBlanks p) {as : List α} {text u r : Text} {close : Char} (h : Listed R as text)
    (hu : Blanks u) (hclose : Text.isBlank close = false) (hrest : follow (u ++ close :: r))
    (hend : Refuses (do separator; p) (u ++ close :: r)) (hnone : Refuses p (close :: r)) :
    ∃ s, separated p separator ((text ++ (u ++ close :: r)).dropWhile Text.isBlank) = .ok (as, s) ∧
      blanks s = .ok ((), close :: r) := by
  by_cases hne : as = []
  · subst hne
    cases h
    have hnothing : Refuses (separatedSome p separator) (close :: r) := hnone.bind _
    refine ⟨close :: r, ?_, blanks_self (.cons hclose r)⟩
    rw [List.nil_append, hu.dropWhile, List.dropWhile_cons_of_neg (by simp [hclose]), separated,
      bind_ok hnothing.optional]
    rfl
  · refine ⟨u ++ close :: r, ?_, ?_⟩
    · have hsome : separatedSome p separator ((text ++ (u ++ close :: r)).dropWhile Text.isBlank) =
          .ok (as, u ++ close :: r) := by
        have hskipSome : SkipsBlanks (separatedSome p separator) := hskip.bind _
        rw [hskipSome, separatedSome_listed hconsumes hcomma hfollow hread h hne hrest hend]
      rw [separated, bind_ok (optional_ok hsome)]
      rfl
    · rw [blanks_append hu, blanks_self (.cons hclose r)]

end

end CompiledRules.Parser
