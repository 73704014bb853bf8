import CompiledRules.Proofs.Executor.Load
import Mathlib

/-!
# From code to executor and back

What is assembled comes back from the text of the unit, and the body, which stands in the text as it is, cannot change
anything else.
-/

namespace CompiledRules.Executor

/-- For the header of an identifier: code is assembled exactly if its names are words and its constants finite. What was
assembled loads exactly if its mixins are known and its body, taken alone, is one body that reads constants of the code
only. What was loaded is what was assembled, with the body that the body text is. -/
theorem load_assemble (identifier : String) (hid : Identifier.isIdentifier identifier = true) (variant rule : String)
    (code : GeneratedCode) :
    ((∃ source, assemble (.ofNames (.ofIdentifier identifier) variant rule) code = .ok source) ↔
      (∀ mixin ∈ code.mixins, Text.isWord mixin.toList = true) ∧
      ∀ entry ∈ code.data.entries, Text.isWord entry.1.toList = true ∧ entry.2.isFinite = true) ∧
    ∀ source, assemble (.ofNames (.ofIdentifier identifier) variant rule) code = .ok source →
      ((∃ executor, load source = .ok executor) ↔
        (∀ mixin ∈ code.mixins, mixin ∈ knownMixins) ∧
        ∃ node, Node.ofText code.body = .ok node ∧ ∀ name ∈ node.constants, name ∈ code.data.keys) ∧
      ∀ executor, load source = .ok executor →
        executor.header = ⟨identifier, executorName identifier, executorPath identifier, variant, rule⟩ ∧
        executor.mixins = code.mixins ∧ executor.data = code.data ∧ Node.ofText code.body = .ok executor.body := by
  simp only [Assembly.assemble_eq_ok (isWord_name hid variant rule), ← Table.has_iff_mem_keys]
  refine ⟨⟨?_, ?_⟩, ?_⟩
  · rintro ⟨source, hw, -⟩
    exact ⟨hw.mixins, fun entry hentry => ⟨hw.keys entry hentry, hw.finite entry hentry⟩⟩
  · rintro ⟨hmixins, hentries⟩
    exact ⟨_, ⟨hmixins, fun entry h => (hentries entry h).1, fun entry h => (hentries entry h).2⟩, rfl⟩
  · rintro source ⟨hw, hsource⟩
    refine ⟨⟨?_, ?_⟩, ?_⟩
    · rintro ⟨executor, hload⟩
      obtain ⟨hmixins, node, hnode, hconstants, -⟩ := (load_unitText hid variant rule hw hsource).mp hload
      exact ⟨hmixins, node, hnode, hconstants⟩
    · rintro ⟨hmixins, node, hnode, hconstants⟩
      exact ⟨_, (load_unitText hid variant rule hw hsource).mpr ⟨hmixins, node, hnode, hconstants, rfl⟩⟩
    · intro executor hload
      obtain ⟨-, node, hnode, -, rfl⟩ := (load_unitText hid variant rule hw hsource).mp hload
      exact ⟨rfl, rfl, rfl, hnode⟩

/-- Code whose body holds the signs that end a unit, in quotes. -/
def quotedBraces : GeneratedCode where
  body := "$this->limits == \"; \x7d \x7d const\" "
  mixins := ["filter"]
  data := Table.ofEntries [("limits", .list [.int (-1), .string "\n"])]

theorem load_assemble_quotedBraces : ∃ source executor,
    assemble (.ofNames (.ofIdentifier "0123456789abcdef0123456789abcdef") "array" "\"\\\n") quotedBraces = .ok source ∧
    load source = .ok executor ∧ executor.header.rule = "\"\\\n" ∧ executor.data = quotedBraces.data ∧
    Node.ofText quotedBraces.body = .ok executor.body := by
  obtain ⟨hassemble, hload⟩ :=
    load_assemble "0123456789abcdef0123456789abcdef" (by decide) "array" "\"\\\n" quotedBraces
  have hnode : Node.ofText quotedBraces.body =
      .ok (.compare .eq (.this "limits") (.literal (.string "; \x7d \x7d const"))) := by rfl
  obtain ⟨source, hsource⟩ := hassemble.mpr ⟨by decide, by decide⟩
  obtain ⟨hloads, hback⟩ := hload source hsource
  obtain ⟨executor, hexecutor⟩ := hloads.mpr ⟨by decide, _, hnode, by decide⟩
  obtain ⟨hheader, -, hdata, hbody⟩ := hback executor hexecutor
  exact ⟨source, executor, hsource, hexecutor, by rw [hheader], hdata, hbody⟩

end CompiledRules.Executor
