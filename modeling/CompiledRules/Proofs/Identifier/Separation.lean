import CompiledRules.Proofs.Bytes.Utf8
import CompiledRules.Proofs.Executor.Load
import CompiledRules.Proofs.Identifier
import Mathlib

/-!
# Identifiers separate pairs up to collisions

What is hashed for a pair of variant and rule determines the pair, and an identifier determines the sixteen bytes that
it writes. So two pairs share an identifier only where the digests of two different byte strings start alike. A unit
that is assembled under the names of an identifier is never refused for its name or its path.
-/

namespace CompiledRules

namespace Bytes

theorem digitChar_injective : ∀ m < 16, ∀ n < 16, Nat.digitChar m = Nat.digitChar n → m = n := by decide

theorem toHex_cons (byte : UInt8) (bytes : Bytes) :
    toHex (byte :: bytes) = Nat.digitChar (byte.toNat / 16) :: Nat.digitChar (byte.toNat % 16) :: toHex bytes := rfl

/-- The two digits of a byte determine it. -/
theorem toHex_injective {a b : Bytes} (h : toHex a = toHex b) : a = b := by
  induction a generalizing b with
  | nil =>
      cases b with
      | nil => rfl
      | cons y b => cases h
  | cons x a ih =>
      cases b with
      | nil => cases h
      | cons y b =>
          simp only [toHex_cons, List.cons.injEq] at h
          obtain ⟨hhigh, hlow, hrest⟩ := h
          have hx : x.toNat < 256 := x.toNat_lt
          have hy : y.toNat < 256 := y.toNat_lt
          have hquotient := digitChar_injective _ (by omega) _ (by omega) hhigh
          have hremainder := digitChar_injective _ (by omega) _ (by omega) hlow
          have hbyte : x = y := UInt8.toNat_inj.mp (by omega)
          rw [hbyte, ih hrest]

theorem littleEndian_injective {count m n : Nat} (hm : m < 256 ^ count) (hn : n < 256 ^ count)
    (h : littleEndian count m = littleEndian count n) : m = n := by
  rw [← ofLittleEndian_littleEndian hm, h, ofLittleEndian_littleEndian hn]

theorem ofText_injective {a b : Text} (h : ofText a = ofText b) : a = b :=
  Except.ok.inj ((Utf8.decode_ofText a).symm.trans (h ▸ Utf8.decode_ofText b))

theorem ofText_toList_injective {a b : String} (h : ofText a.toList = ofText b.toList) : a = b :=
  String.toList_inj.mp (ofText_injective h)

end Bytes

namespace Identifier

/-- The length in front says where the variant ends, so text cannot move from it to the rule. -/
theorem preimage_injective {v₁ v₂ r₁ r₂ : String} (hv₁ : (Bytes.ofText v₁.toList).length < 2 ^ 64)
    (hv₂ : (Bytes.ofText v₂.toList).length < 2 ^ 64) (h : preimage v₁ r₁ = preimage v₂ r₂) : v₁ = v₂ ∧ r₁ = r₂ := by
  simp only [preimage, List.append_assoc] at h
  obtain ⟨hlengths, hrest⟩ := List.append_inj h (by rw [Bytes.length_littleEndian, Bytes.length_littleEndian])
  have hlength := Bytes.littleEndian_injective (by omega) (by omega) hlengths
  obtain ⟨hvariant, hrule⟩ := List.append_inj hrest hlength
  exact ⟨Bytes.ofText_toList_injective hvariant, Bytes.ofText_toList_injective hrule⟩

theorem derive_eq_iff {v₁ v₂ r₁ r₂ : String} : derive v₁ r₁ = derive v₂ r₂ ↔
    (Blake3.digest (preimage v₁ r₁)).take 16 = (Blake3.digest (preimage v₂ r₂)).take 16 := by
  constructor
  · intro h
    exact Bytes.toHex_injective (String.ofList_injective h)
  · intro h
    rw [derive, h, derive]

end Identifier

namespace Executor

theorem declaration_error {source : String} {e : LoadError} (h : declaration source = .error e) :
    ∃ detail, e = .malformed detail := by
  unfold declaration at h
  split at h
  · cases h
  · cases h
    exact ⟨_, rfl⟩

theorem collectConstants_error {entries : List (String × Value)} {data : Table Value} {e : LoadError}
    (h : collectConstants entries data = .error e) : ∃ name, e = .duplicateConstant name := by
  induction entries generalizing data with
  | nil => cases h
  | cons entry entries ih =>
      rw [collectConstants] at h
      split at h
      · cases h
        exact ⟨_, rfl⟩
      · exact ih h

/-- If the text is a unit, its name and path are those that belong to the identifier. -/
structure DeclaredFor (identifier source : String) : Prop where
  name : ∀ unit, declaration source = .ok unit → identifierOf? unit.name = some identifier
  path : ∀ unit, declaration source = .ok unit → unit.path = executorPath identifier

/-- What is assembled under the names of an identifier declares them, whatever its code is. -/
theorem declaredFor_assemble {identifier variant rule source : String} {code : GeneratedCode}
    (hid : Identifier.isIdentifier identifier = true)
    (h : assemble (.ofNames (.ofIdentifier identifier) variant rule) code = .ok source) :
    DeclaredFor identifier source := by
  have hname := isWord_name hid variant rule
  obtain ⟨hw, rfl⟩ := (Assembly.assemble_eq_ok hname).mp h
  constructor
  · intro unit hunit
    obtain ⟨node, -, rfl⟩ := (declaration_unitText hname hw).mp hunit
    exact identifierOf?_executorName hid
  · intro unit hunit
    obtain ⟨node, -, rfl⟩ := (declaration_unitText hname hw).mp hunit
    rfl

/-- Such a text may be no unit, or fail the checks that come later. -/
theorem DeclaredFor.load_error {identifier source : String} {e : LoadError} (h : DeclaredFor identifier source)
    (he : load source = .error e) : (∃ detail, e = .malformed detail) ∨ (∃ mixin, e = .unknownMixin mixin) ∨
      (∃ name, e = .duplicateConstant name) ∨ ∃ name, e = .undefinedConstant name := by
  rcases Except.bind_eq_error_iff.mp he with hmalformed | ⟨unit, hunit, he⟩
  · exact .inl (declaration_error hmalformed)
  · rw [h.name unit hunit] at he
    simp only [h.path unit hunit, ne_eq, not_true_eq_false, ↓reduceIte] at he
    split at he
    · cases he
      exact .inr (.inl ⟨_, rfl⟩)
    · rcases Except.bind_eq_error_iff.mp he with hduplicate | ⟨data, -, he⟩
      · exact .inr (.inr (.inl (collectConstants_error hduplicate)))
      · split at he
        · cases he
          exact .inr (.inr (.inr ⟨_, rfl⟩))
        · cases he

theorem DeclaredFor.load_ne_badName {identifier source : String} (h : DeclaredFor identifier source) (name : String) :
    load source ≠ .error (.badName name) := by
  intro he
  rcases h.load_error he with ⟨_, h⟩ | ⟨_, h⟩ | ⟨_, h⟩ | ⟨_, h⟩ <;> cases h

theorem DeclaredFor.load_ne_wrongPath {identifier source : String} (h : DeclaredFor identifier source)
    (name path : String) : load source ≠ .error (.wrongPath name path) := by
  intro he
  rcases h.load_error he with ⟨_, h⟩ | ⟨_, h⟩ | ⟨_, h⟩ | ⟨_, h⟩ <;> cases h

end Executor

namespace Identifier

/-- Different pairs are hashed as different bytes, and share an identifier exactly if the digests of these start with
the same sixteen bytes. Every identifier has the shape of one, and what is assembled under its names is refused neither by
the check of the name before nor by those of name and path after. -/
theorem derive_separates :
    (∀ v₁ r₁ v₂ r₂ : String, (Bytes.ofText v₁.toList).length < 2 ^ 64 → (Bytes.ofText v₂.toList).length < 2 ^ 64 →
      (v₁, r₁) ≠ (v₂, r₂) → preimage v₁ r₁ ≠ preimage v₂ r₂ ∧
        (derive v₁ r₁ = derive v₂ r₂ ↔
          (Blake3.digest (preimage v₁ r₁)).take 16 = (Blake3.digest (preimage v₂ r₂)).take 16)) ∧
    ∀ v r : String, isIdentifier (derive v r) = true ∧
      Assembly.checkName "unit" (executorName (derive v r)) = .ok () ∧
      ∀ (variant rule : String) (code : GeneratedCode) (source : String),
        assemble (.ofNames (.ofIdentifier (derive v r)) variant rule) code = .ok source →
          Executor.DeclaredFor (derive v r) source ∧ (∀ name, Executor.load source ≠ .error (.badName name)) ∧
            ∀ name path, Executor.load source ≠ .error (.wrongPath name path) := by
  constructor
  · intro v₁ r₁ v₂ r₂ hv₁ hv₂ hne
    refine ⟨fun h => hne ?_, derive_eq_iff⟩
    obtain ⟨rfl, rfl⟩ := preimage_injective hv₁ hv₂ h
    rfl
  · intro v r
    have hid := isIdentifier_derive v r
    refine ⟨hid, Assembly.checkName_of_isWord (Executor.isWord_executorName hid), ?_⟩
    intro variant rule code source h
    have hdeclared := Executor.declaredFor_assemble hid h
    exact ⟨hdeclared, hdeclared.load_ne_badName, hdeclared.load_ne_wrongPath⟩

/-- A character that moves from the variant to the rule, and a unit with the identifier of one of the pairs. -/
theorem derive_separates_movedText : preimage "ab" "c" ≠ preimage "a" "bc" ∧
    (derive "ab" "c" = derive "a" "bc" ↔
      (Blake3.digest (preimage "ab" "c")).take 16 = (Blake3.digest (preimage "a" "bc")).take 16) ∧
    ∃ source unit, assemble (.ofNames (.ofIdentifier (derive "ab" "c")) "ab" "c") ⟨"true", [], .empty⟩ = .ok source ∧
      Executor.declaration source = .ok unit ∧ Executor.identifierOf? unit.name = some (derive "ab" "c") := by
  obtain ⟨hbytes, hidentifier⟩ := derive_separates.1 "ab" "c" "a" "bc" (by decide) (by decide) (by decide)
  obtain ⟨hid, -, hunit⟩ := derive_separates.2 "ab" "c"
  have hname := Executor.isWord_name hid "ab" "c"
  have hw : GeneratedCode.Writable ⟨"true", [], .empty⟩ := ⟨nofun, nofun, nofun⟩
  have hassemble := (Assembly.assemble_eq_ok hname).mpr ⟨hw, rfl⟩
  have hbody : Node.ofText "true" = .ok (.literal (.bool true)) := rfl
  have hdeclaration := (Executor.declaration_unitText hname hw).mpr ⟨_, hbody, rfl⟩
  exact ⟨hbytes, hidentifier, _, _, hassemble, hdeclaration, (hunit _ _ _ _ hassemble).1.name _ hdeclaration⟩

end Identifier

end CompiledRules
