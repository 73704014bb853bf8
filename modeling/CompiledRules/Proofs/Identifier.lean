import CompiledRules.Identifier

/-!
# Identifiers have the shape of identifiers

The digest has 32 bytes, of which 16 are written with two hexadecimal digits each.
-/

namespace CompiledRules

namespace Bytes

theorem length_littleEndian (count n : Nat) : (littleEndian count n).length = count := by
  induction count generalizing n with
  | zero => rfl
  | succ count ih => simp [littleEndian, ih]

theorem length_toHex (bytes : Bytes) : (toHex bytes).length = 2 * bytes.length := by
  simp [toHex, List.length_flatMap, List.map_const', Nat.mul_comm]

/-- Hexadecimal digits are in lower case. -/
theorem isHex_of_mem_toHex {bytes : Bytes} {c : Char} (h : c ∈ toHex bytes) :
    (c.isDigit || ('a' ≤ c && c ≤ 'f')) = true := by
  have hdigit : ∀ n < 16, ((Nat.digitChar n).isDigit || ('a' ≤ Nat.digitChar n && Nat.digitChar n ≤ 'f')) = true := by
    decide
  obtain ⟨byte, -, hc⟩ := List.mem_flatMap.mp h
  have hlt : byte.toNat < 256 := byte.toNat_lt
  simp only [List.mem_cons, List.not_mem_nil, or_false] at hc
  rcases hc with rfl | rfl
  · exact hdigit _ (by omega)
  · exact hdigit _ (by omega)

end Bytes

theorem Blake3.length_digest (bytes : Bytes) : (digest bytes).length = 32 := by
  simp [digest, List.length_flatMap, Bytes.length_littleEndian, List.map_const']

theorem Identifier.isIdentifier_derive (variant rule : String) : isIdentifier (derive variant rule) = true := by
  unfold isIdentifier derive
  rw [String.toList_ofList, Bool.and_eq_true, beq_iff_eq, List.all_eq_true]
  refine ⟨?_, fun c hc => Bytes.isHex_of_mem_toHex hc⟩
  rw [Bytes.length_toHex, List.length_take, Blake3.length_digest]
  rfl

end CompiledRules
