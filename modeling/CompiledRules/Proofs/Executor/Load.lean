import CompiledRules.Executor
import CompiledRules.Proofs.Assembly
import CompiledRules.Proofs.Except
import CompiledRules.Proofs.Table
import Mathlib

/-!
# Loading assembled units

A unit that was assembled loads exactly if its mixins are known and its body, taken alone, is a body that reads
constants of the unit only. Then the executor holds what was assembled.
-/

namespace CompiledRules

open CompiledRules.Parser

namespace Declaration.Grammar

/-! ## The end of a unit -/

theorem closing_eq : Assembly.closing = [';', '\n', ' ', ' ', ' ', ' ', '\x7d', '\n', '\x7d', '\n'] :=
  String.toList_ofList

theorem closing_stop : Stop Assembly.closing := by
  rw [closing_eq]
  exact ⟨fun c hc => by cases hc; rfl, by simp⟩

/-- The method is read up to the body. -/
theorem method_signature (t : Text) : method ('\n' :: '\n' :: (Assembly.signature ++ t)) = (do
    let body ← commit Node.Grammar.body
    blanks
    commit (char ';')
    blanks
    commit (char '\x7d')
    return body) t := by
  have hstart : method ('\n' :: '\n' :: (Assembly.signature ++ t)) = (do
      let body ← commit Node.Grammar.body
      blanks
      commit (char ';')
      blanks
      commit (char '\x7d')
      return body) (' ' :: t) := by
    rw [signature_eq]
    rfl
  have hbody : commit Node.Grammar.body (' ' :: t) = commit Node.Grammar.body t := by
    simp only [commit, Node.Grammar.body_skipsBlanks.cons (show Text.isBlank ' ' = true by decide)]
  rw [hstart]
  simp only [bind, hbody]

/-- A semicolon is neither a blank nor a brace. -/
theorem semicolon_behind {s u : Text} (h : s.dropWhile Text.isBlank = '\x7d' :: u) (hs : ';' ∈ s) : ';' ∈ u := by
  rw [← List.takeWhile_append_dropWhile (p := Text.isBlank) (l := s), h] at hs
  rcases List.mem_append.mp hs with hs | hs
  · have := List.mem_takeWhile_imp hs
    cases this
  · simpa using hs

/-- The unit ends with the first semicolon after its body: between it and the end there is no other. -/
theorem ending_eq_ok {header : Header} {code : GeneratedCode} {unit : Declaration} :
    ending header code ('\n' :: '\n' :: (Assembly.signature ++ (code.body.toList ++ Assembly.closing))) =
      .ok (unit, []) ↔
    ∃ node, Node.ofText code.body = .ok node ∧
      unit = ⟨header.rule, header.name, header.path, header.variant, code.mixins, code.data.entries, node⟩ := by
  have htracks := Node.Grammar.tracks_body closing_stop code.body.toList (Nat.lt_succ_self _)
  simp only [ending, bind_eq_ok, commit_eq_ok, method_signature, blanks_eq_ok, char_eq_ok, pure_eq_ok,
    Node.ofText_eq_ok]
  constructor
  · rintro ⟨_, _, ⟨node, s, hbody, _, _, rfl, _, r, hr, _, _, rfl, _, u, hu, rfl, rfl⟩, _, _, rfl, _, v, hv, _, _, hend,
      rfl, hend'⟩
    rw [hbody] at htracks
    generalize hx : Node.Grammar.body code.body.toList = x at htracks
    cases htracks with
    | ok hl =>
        rename_i left
        refine ⟨node, ⟨left, rfl, ?_⟩, rfl⟩
        rw [closing_stop.ends (by decide) |>.dropWhile] at hr
        cases hleft : left.dropWhile Text.isBlank with
        | nil => rfl
        | cons c rest =>
            -- The semicolon of the closing lines is still to come, but only blanks and braces may.
            rw [hleft, List.cons_append] at hr
            cases hr
            have hsemicolon : ';' ∈ rest ++ Assembly.closing := by simp [closing_eq]
            have hbehind : ';' ∈ v := semicolon_behind hv (semicolon_behind hu hsemicolon)
            have hblank : Text.isBlank ';' = true := List.dropWhile_eq_nil_iff.mp (hend.symm.trans hend') ';' hbehind
            cases hblank
  · rintro ⟨node, ⟨r, hbody, hr⟩, rfl⟩
    rw [hbody] at htracks
    generalize hx : Node.Grammar.body (code.body.toList ++ Assembly.closing) = x at htracks
    cases htracks with
    | ok hl =>
        have hblanks : (r ++ Assembly.closing).dropWhile Text.isBlank =
            [';', '\n', ' ', ' ', ' ', ' ', '\x7d', '\n', '\x7d', '\n'] := by
          rw [(closing_stop.ends (by decide)).dropWhile, hr, List.nil_append, closing_eq]
        exact ⟨node, ['\n', '\x7d', '\n'], ⟨node, r ++ Assembly.closing, rfl, (), _, rfl, (), _, hblanks, (), _, rfl, (),
          ['\n', '\x7d', '\n'], rfl, rfl, rfl⟩, (), _, rfl, (), ['\n'], rfl, (), [], rfl, rfl, rfl⟩

end Declaration.Grammar

namespace Executor

/-! ## Checks -/

theorem isWordChar_of_isIdentifier {identifier : String} (h : Identifier.isIdentifier identifier = true) :
    ∀ c ∈ identifier.toList, Text.isWordChar c = true := by
  intro c hc
  simp only [Identifier.isIdentifier, Bool.and_eq_true, List.all_eq_true, Bool.or_eq_true, decide_eq_true_eq] at h
  rcases h.2 c hc with hd | ⟨hlow, hhigh⟩
  · exact isWordChar_of_isDigit hd
  · have hlower : c.isLower = true := by
      simp only [Char.isLower, ge_iff_le, Bool.and_eq_true, decide_eq_true_eq]
      exact ⟨hlow, Nat.le_trans hhigh (by decide)⟩
    simp [Text.isWordChar, Text.isWordStart, Char.isAlpha, hlower]

theorem toList_executorName (identifier : String) :
    (executorName identifier).toList = executorPrefix.toList ++ identifier.toList :=
  String.toList_append

theorem isWord_executorName {identifier : String} (h : Identifier.isIdentifier identifier = true) :
    Text.isWord (executorName identifier).toList = true := by
  have hprefix : executorPrefix.toList = 'E' :: "xecutor_".toList := rfl
  rw [toList_executorName, hprefix, List.cons_append, Text.isWord, List.all_append, Bool.and_eq_true, Bool.and_eq_true]
  exact ⟨by decide, by decide, List.all_eq_true.mpr (isWordChar_of_isIdentifier h)⟩

theorem isWord_name {identifier : String} (h : Identifier.isIdentifier identifier = true) (variant rule : String) :
    Text.isWord (Header.ofNames (.ofIdentifier identifier) variant rule).name.toList = true :=
  isWord_executorName h

theorem identifierOf?_executorName {identifier : String} (h : Identifier.isIdentifier identifier = true) :
    identifierOf? (executorName identifier) = some identifier := by
  have hprefix : executorPrefix.toList.isPrefixOf (executorPrefix.toList ++ identifier.toList) = true :=
    List.isPrefixOf_iff_prefix.mpr ⟨_, rfl⟩
  simp only [identifierOf?, toList_executorName, List.drop_left, String.ofList_toList, hprefix, h, Bool.and_self,
    ↓reduceIte]

theorem collectConstants_append (entries : List (String × Value)) (data : Table Value)
    (h : Entries.Increasing (data.entries ++ entries)) : collectConstants entries data = .ok ⟨_, h⟩ := by
  induction entries generalizing data with
  | nil =>
      rw [collectConstants]
      exact congrArg Except.ok (Table.ext (List.append_nil _).symm)
  | cons entry entries ih =>
      have hlast : ∀ x ∈ data.entries, x.1 < entry.1 := fun x hx =>
        (List.pairwise_append.mp h).2.2 x hx entry List.mem_cons_self
      have hnew : data.has entry.1 = false := by
        refine Bool.eq_false_iff.mpr fun hhas => ?_
        obtain ⟨x, hx, hkey⟩ := List.mem_map.mp ((data.has_iff_mem_keys entry.1).mp hhas)
        exact String.ne_of_lt (hlast x hx) hkey
      have hinsert : (data.insert entry.1 entry.2).entries = data.entries ++ [entry] :=
        Entries.insert_last hlast entry.2
      have h' : Entries.Increasing ((data.insert entry.1 entry.2).entries ++ entries) := by
        rw [hinsert, List.append_assoc]
        exact h
      rw [collectConstants, hnew, if_neg (by decide), ih _ h']
      refine congrArg Except.ok (Table.ext ?_)
      simp only [hinsert, List.append_assoc, List.cons_append, List.nil_append]

/-- The constants of a table are collected to the table. -/
theorem collectConstants_entries (data : Table Value) : collectConstants data.entries .empty = .ok data :=
  collectConstants_append data.entries .empty data.increasing

/-! ## Loading -/

theorem complete_eq_ok {α : Type} {p : Parser α} {text : Text} {a : α} :
    complete p text = .ok a ↔ p text = .ok (a, []) := by
  unfold complete
  cases p text with
  | error e => exact ⟨nofun, nofun⟩
  | ok out =>
      obtain ⟨b, rest⟩ := out
      cases rest with
      | nil => simp
      | cons c rest => exact ⟨nofun, nofun⟩

theorem declaration_eq_ok {source : String} {unit : Declaration} :
    declaration source = .ok unit ↔ Declaration.Grammar.unit source.toList = .ok (unit, []) := by
  rw [← complete_eq_ok]
  unfold declaration
  cases complete Declaration.Grammar.unit source.toList with
  | error e => exact ⟨nofun, nofun⟩
  | ok found => simp

/-- The executor of a unit: what was checked, and what of the unit it keeps. -/
structure Loaded (unit : Declaration) (executor : Executor) : Prop where
  identifier : identifierOf? unit.name = some executor.header.identifier
  header : executor.header =
    ⟨executor.header.identifier, unit.name, executorPath executor.header.identifier, unit.variant, unit.rule⟩
  known : ∀ mixin ∈ unit.mixins, mixin ∈ knownMixins
  mixins : executor.mixins = unit.mixins
  data : collectConstants unit.constants .empty = .ok executor.data
  defined : ∀ name ∈ unit.body.constants, executor.data.has name = true
  body : executor.body = unit.body

/-- Whatever text loads, a unit was read from it and checked. -/
theorem loaded_of_load {source : String} {executor : Executor} (h : load source = .ok executor) :
    executor.source = source ∧ ∃ unit, declaration source = .ok unit ∧ Loaded unit executor := by
  obtain ⟨unit, hunit, h⟩ := Except.bind_eq_ok_iff.mp h
  split at h
  · cases h
  rename_i identifier hid
  split at h
  · cases h
  rename_i hpath
  split at h
  · cases h
  rename_i hmixins
  obtain ⟨data, hdata, h⟩ := Except.bind_eq_ok_iff.mp h
  split at h
  · cases h
  rename_i hconstants
  cases h
  exact ⟨rfl, unit, hunit, {
    identifier := hid
    header := by rw [not_not.mp hpath]
    known := by simpa using hmixins
    mixins := rfl
    data := hdata
    defined := by simpa using hconstants
    body := rfl }⟩

theorem declaration_unitText {header : Header} (hname : Text.isWord header.name.toList = true) {code : GeneratedCode}
    (hw : code.Writable) {unit : Declaration} :
    declaration (String.ofList (Assembly.unitText header code)) = .ok unit ↔
      ∃ node, Node.ofText code.body = .ok node ∧
        unit = ⟨header.rule, header.name, header.path, header.variant, code.mixins, code.data.entries, node⟩ := by
  rw [declaration_eq_ok, String.toList_ofList, Declaration.Grammar.unit_unitText hname hw]
  exact Declaration.Grammar.ending_eq_ok

/-- What is left to check once a unit is read. -/
theorem load_declared {identifier : String} (hid : Identifier.isIdentifier identifier = true)
    {source variant rule : String} {mixins : List String} {data : Table Value} {node : Node}
    (hd : declaration source =
      .ok ⟨rule, executorName identifier, executorPath identifier, variant, mixins, data.entries, node⟩)
    {executor : Executor} : load source = .ok executor ↔
      (∀ mixin ∈ mixins, mixin ∈ knownMixins) ∧ (∀ name ∈ node.constants, data.has name = true) ∧
        executor = ⟨.ofNames (.ofIdentifier identifier) variant rule, mixins, data, node, source⟩ := by
  unfold load
  rw [hd]
  simp only [bind, Except.bind, identifierOf?_executorName hid, ne_eq, not_true_eq_false, ↓reduceIte,
    collectConstants_entries]
  cases hm : mixins.find? fun mixin => !knownMixins.contains mixin with
  | some mixin =>
      refine ⟨fun h => (by cases h), fun h => ?_⟩
      have hunknown := List.find?_some hm
      have hknown := h.1 mixin (List.mem_of_find?_eq_some hm)
      simp [hknown] at hunknown
  | none =>
      have hknown : ∀ mixin ∈ mixins, mixin ∈ knownMixins := by simpa using hm
      cases hc : node.constants.find? fun name => !data.has name with
      | some name =>
          refine ⟨fun h => (by cases h), fun h => ?_⟩
          have hmissing := List.find?_some hc
          rw [h.2.1 name (List.mem_of_find?_eq_some hc)] at hmissing
          cases hmissing
      | none =>
          have hdefined : ∀ name ∈ node.constants, data.has name = true := by simpa using hc
          exact ⟨fun h => ⟨hknown, hdefined, (Except.ok.inj h).symm⟩, fun h => by rw [h.2.2]; rfl⟩

/-- When an assembled unit loads, and to what. -/
theorem load_unitText {identifier : String} (hid : Identifier.isIdentifier identifier = true) (variant rule : String)
    {code : GeneratedCode} (hw : code.Writable) {source : String}
    (hsource : source = String.ofList (Assembly.unitText (.ofNames (.ofIdentifier identifier) variant rule) code))
    {executor : Executor} :
    load source = .ok executor ↔
      (∀ mixin ∈ code.mixins, mixin ∈ knownMixins) ∧ ∃ node, Node.ofText code.body = .ok node ∧
        (∀ name ∈ node.constants, code.data.has name = true) ∧
        executor = ⟨.ofNames (.ofIdentifier identifier) variant rule, code.mixins, code.data, node, source⟩ := by
  constructor
  · intro h
    cases hd : declaration source with
    | error e =>
        unfold load at h
        rw [hd] at h
        cases h
    | ok unit =>
        obtain ⟨node, hnode, rfl⟩ := (declaration_unitText (isWord_name hid variant rule) hw).mp (hsource ▸ hd)
        obtain ⟨hmixins, hconstants, rfl⟩ := (load_declared hid hd).mp h
        exact ⟨hmixins, node, hnode, hconstants, rfl⟩
  · rintro ⟨hmixins, node, hnode, hconstants, rfl⟩
    have hd := (declaration_unitText (isWord_name hid variant rule) hw).mpr ⟨node, hnode, rfl⟩
    exact (load_declared hid (hsource ▸ hd)).mpr ⟨hmixins, hconstants, rfl⟩

/-- Under any header, what was assembled and loads comes back. -/
theorem of_assemble_load {header : Header} {code : GeneratedCode} {source : String} {executor : Executor}
    (hassemble : assemble header code = .ok source) (hload : load source = .ok executor) :
    executor.mixins = code.mixins ∧ executor.data = code.data ∧ Node.ofText code.body = .ok executor.body := by
  have hname : Text.isWord header.name.toList = true := (Assembly.checkName_bind.mp hassemble).1
  obtain ⟨hw, rfl⟩ := (Assembly.assemble_eq_ok hname).mp hassemble
  obtain ⟨-, unit, hunit, hloaded⟩ := loaded_of_load hload
  obtain ⟨node, hnode, rfl⟩ := (declaration_unitText hname hw).mp hunit
  have hdata : executor.data = code.data := Except.ok.inj (hloaded.data.symm.trans (collectConstants_entries code.data))
  exact ⟨hloaded.mixins, hdata, by rw [hnode, hloaded.body]⟩

end Executor

end CompiledRules
