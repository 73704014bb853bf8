import CompiledRules.Proofs.Record.Lookup
import Mathlib

/-!
# Records are told apart by look-ups

Whatever is put into a record one after the other, no fields are nested without there being one, and names stand in
order. So a name leads to a value somewhere, and two records are the same exactly if all paths lead to the same in both.
-/

namespace CompiledRules

/-- Values are equal if they are the same. -/
instance : BEq Value := ⟨Value.same⟩

/-- Fields are equal if they hold the same. -/
instance : BEq Field := ⟨Record.sameField⟩

namespace Record

/-! ## What insertion keeps -/

/-- Names stand in order at every depth, and none without anything below it. -/
inductive Canonical : Field → Prop where
  | leaf (value : Value) : Canonical (.leaf value)
  | nested {fields : List (String × Field)} : fields ≠ [] → Entries.Increasing fields →
      (∀ entry ∈ fields, Canonical entry.2) → Canonical (.nested fields)

/-- As for a field, except that there may be no name at all. -/
structure CanonicalFields (fields : List (String × Field)) : Prop where
  increasing : Entries.Increasing fields
  canonical : ∀ entry ∈ fields, Canonical entry.2

theorem canonicalFields_nil : CanonicalFields [] := ⟨List.Pairwise.nil, by simp⟩

theorem Canonical.fields {fields : List (String × Field)} (h : Canonical (.nested fields)) : CanonicalFields fields := by
  cases h with
  | nested _ hincreasing hcanonical => exact ⟨hincreasing, hcanonical⟩

namespace CanonicalFields

variable {fields : List (String × Field)}

theorem find? (h : CanonicalFields fields) {name : String} {field : Field}
    (hfind : Entries.find? fields name = some field) : Canonical field :=
  h.canonical _ (Entries.mem_of_find? hfind)

theorem nestedUnder (h : CanonicalFields fields) (name : String) : CanonicalFields (nestedUnder fields name) := by
  unfold Record.nestedUnder
  split
  · rename_i inner hfind
    exact (h.find? hfind).fields
  · exact canonicalFields_nil

theorem insertAt (h : CanonicalFields fields) (path : List String) (value : Value) :
    CanonicalFields (insertAt path value fields) := by
  induction path generalizing fields with
  | nil => exact h
  | cons first rest ih =>
      have hput : Canonical (put rest value (Record.nestedUnder fields first)) := by
        unfold put
        split
        · exact .leaf value
        · rename_i hrest
          have hinner := ih (h.nestedUnder first)
          refine .nested ?_ hinner.increasing hinner.canonical
          obtain ⟨second, others, rfl⟩ := List.exists_cons_of_ne_nil hrest
          rw [insertAt_cons]
          exact Entries.insert_ne_nil _ _ _
      rw [insertAt_cons]
      refine ⟨h.increasing.insert _ _, ?_⟩
      intro entry hentry
      rcases Entries.mem_insert hentry with rfl | hentry
      · exact hput
      · exact h.canonical entry hentry

end CanonicalFields

theorem canonicalFields_ofEntries (entries : List (String × Value)) : CanonicalFields (ofEntries entries).fields :=
  List.foldlRecOn (motive := fun record => CanonicalFields (Record.fields record)) entries _ canonicalFields_nil
    fun _ h _ _ => h.insertAt _ _

theorem haveNoEmptyField_iff (fields : List (String × Field)) :
    haveNoEmptyField fields = true ↔ ∀ entry ∈ fields, hasNoEmptyField entry.2 = true := by
  induction fields with
  | nil => simp [haveNoEmptyField]
  | cons entry fields ih => simp [haveNoEmptyField, ih]

namespace Canonical

variable {field : Field}

theorem hasNoEmptyField (h : Canonical field) : hasNoEmptyField field = true := by
  induction h with
  | leaf value => rfl
  | nested hne _ _ ih => simpa [Record.hasNoEmptyField, hne] using (haveNoEmptyField_iff _).mpr ih

theorem exists_value (h : Canonical field) : ∃ segments value, valueBelow field segments = some value := by
  induction h with
  | leaf value => exact ⟨[], value, rfl⟩
  | @nested fields hne hincreasing _ ih =>
      obtain ⟨entry, others, rfl⟩ := List.exists_cons_of_ne_nil hne
      obtain ⟨segments, value, hvalue⟩ := ih entry List.mem_cons_self
      refine ⟨entry.1 :: segments, value, ?_⟩
      rw [valueBelow, findAt_cons, hincreasing.find?_of_mem List.mem_cons_self, Option.bind_some, hvalue]

end Canonical

/-! ## Sameness -/

theorem leaf_beq_leaf (a b : Value) : (Field.leaf a == Field.leaf b) = (a == b) := rfl

theorem nested_beq_nested (as bs : List (String × Field)) :
    (Field.nested as == Field.nested bs) = sameFields as bs := rfl

theorem sameFields_cons (name name' : String) (a b : Field) (as bs : List (String × Field)) :
    sameFields ((name, a) :: as) ((name', b) :: bs) = (name == name' && a == b && sameFields as bs) := rfl

theorem isSome_of_beq {found found' : Option Field} (h : (found == found') = true) : found.isSome = found'.isSome := by
  cases found <;> cases found' <;> simp_all

/-- Fields in order of their names are compared name by name. -/
theorem sameFields_iff {as bs : List (String × Field)} (ha : Entries.Increasing as) (hb : Entries.Increasing bs) :
    sameFields as bs = true ↔ ∀ name, (Entries.find? as name == Entries.find? bs name) = true := by
  induction as generalizing bs with
  | nil =>
      cases bs with
      | nil => simp [sameFields, Entries.find?]
      | cons entry bs =>
          refine ⟨fun h => (by cases h), fun h => ?_⟩
          have := h entry.1
          simp [Entries.find?] at this
  | cons entry as ih =>
      obtain ⟨name, a⟩ := entry
      cases bs with
      | nil =>
          refine ⟨fun h => (by cases h), fun h => ?_⟩
          have := h name
          simp [Entries.find?] at this
      | cons entry bs =>
          obtain ⟨name', b⟩ := entry
          obtain ⟨hfirst, has⟩ := List.pairwise_cons.mp ha
          obtain ⟨hfirst', hbs⟩ := List.pairwise_cons.mp hb
          simp only [sameFields_cons, Bool.and_eq_true, beq_iff_eq, ih has hbs]
          constructor
          · rintro ⟨⟨rfl, hab⟩, hrest⟩ key
            by_cases hkey : key = name
            · simpa [Entries.find?, hkey] using hab
            · simpa [Entries.find?, hkey] using hrest key
          · intro h
            -- Each first name is found on the other side, where nothing stands in front of the first.
            have hname : name = name' := by
              apply String.le_antisymm
              · exact ha.head_le (by rw [isSome_of_beq (h name')]; simp [Entries.find?])
              · exact hb.head_le (by rw [← isSome_of_beq (h name)]; simp [Entries.find?])
            subst hname
            refine ⟨⟨rfl, by simpa [Entries.find?] using h name⟩, fun key => ?_⟩
            by_cases hkey : key = name
            · subst hkey
              rw [Entries.find?_of_forall_lt hfirst, Entries.find?_of_forall_lt hfirst']
              rfl
            · simpa [Entries.find?, hkey] using h key

/-- Fields are compared by look-ups if what stands under their names is. -/
theorem CanonicalFields.sameFields_iff {as bs : List (String × Field)} (ha : CanonicalFields as)
    (hb : CanonicalFields bs)
    (hfield : ∀ entry ∈ as, ∀ b, Canonical b →
      ((entry.2 == b) = true ↔ ∀ segments, (valueBelow entry.2 segments == valueBelow b segments) = true)) :
    sameFields as bs = true ↔ ∀ segments, (findAt segments as == findAt segments bs) = true := by
  have hunder (name : String) : (Entries.find? as name == Entries.find? bs name) = true ↔
      ∀ rest, (findAt (name :: rest) as == findAt (name :: rest) bs) = true := by
    simp only [findAt_cons]
    -- A name that stands on one side only leads to a value there.
    cases hfind : Entries.find? as name with
    | none =>
        cases hfind' : Entries.find? bs name with
        | none => simp
        | some b =>
            obtain ⟨segments, value, hvalue⟩ := (hb.find? hfind').exists_value
            refine ⟨fun h => (by cases h), fun h => ?_⟩
            have := h segments
            simp [hvalue] at this
    | some a =>
        cases hfind' : Entries.find? bs name with
        | none =>
            obtain ⟨segments, value, hvalue⟩ := (ha.find? hfind).exists_value
            refine ⟨fun h => (by cases h), fun h => ?_⟩
            have := h segments
            simp [hvalue] at this
        | some b => simpa using hfield _ (Entries.mem_of_find? hfind) b (hb.find? hfind')
  rw [Record.sameFields_iff ha.increasing hb.increasing]
  simp only [hunder]
  refine ⟨fun h segments => ?_, fun h name rest => h (name :: rest)⟩
  cases segments with
  | nil => rfl
  | cons name rest => exact h name rest

theorem Canonical.beq_iff {a b : Field} (ha : Canonical a) (hb : Canonical b) :
    (a == b) = true ↔ ∀ segments, (valueBelow a segments == valueBelow b segments) = true := by
  induction ha generalizing b with
  | leaf value =>
      cases hb with
      | leaf value' =>
          rw [leaf_beq_leaf]
          refine ⟨fun h segments => ?_, fun h => by simpa [valueBelow] using h []⟩
          cases segments <;> simp [valueBelow, h]
      | nested =>
          refine ⟨fun h => (by cases h), fun h => ?_⟩
          have := h []
          simp [valueBelow, findAt] at this
  | nested hne hincreasing hcanonical ih =>
      cases hb with
      | leaf value' =>
          refine ⟨fun h => (by cases h), fun h => ?_⟩
          have := h []
          simp [valueBelow, findAt] at this
      | nested _ hincreasing' hcanonical' =>
          rw [nested_beq_nested]
          exact CanonicalFields.sameFields_iff ⟨hincreasing, hcanonical⟩ ⟨hincreasing', hcanonical'⟩
            fun entry hentry b hb => ih entry hentry hb

/-! ## The order of insertions -/

/-- Neither path runs through the other. -/
def Apart (entry other : String × Value) : Prop := ¬ Meets (Text.segments entry.1) (Text.segments other.1)

theorem Apart.symm {entry other : String × Value} (h : Apart entry other) : Apart other entry :=
  fun hmeets => h hmeets.symm

instance : Std.Symm Apart := ⟨fun _ _ h => h.symm⟩

instance : DecidableRel Apart := fun _ _ => instDecidableNot

/-- What look-ups find once an entry was put into the record. -/
def after (find : List String → Option Value) (entry : String × Value) : List String → Option Value :=
  overwritten find (Text.segments entry.1) entry.2

theorem getSegments?_put (record : Record) (entry : String × Value) :
    (record.insert entry.1 entry.2).getSegments? = after record.getSegments? entry := by
  funext segments
  exact findAt_insertAt (Text.segments_ne_nil entry.1) entry.2 record.fields segments

theorem after_comm {entry other : String × Value} (h : Apart entry other) (find : List String → Option Value) :
    after (after find entry) other = after (after find other) entry := by
  funext segments
  simp only [after, overwritten]
  by_cases hentry : segments = Text.segments entry.1
  · subst hentry
    have hne : Text.segments entry.1 ≠ Text.segments other.1 := fun heq => h (heq ▸ meets_refl _)
    simp [hne, show ¬ Meets _ _ from h]
  · by_cases hother : segments = Text.segments other.1
    · subst hother
      simp [hentry, show ¬ Meets _ _ from h.symm]
    · by_cases hmeets : Meets segments (Text.segments entry.1) <;> simp [hentry, hother, hmeets]

theorem getSegments?_foldl (entries : List (String × Value)) (record : Record) :
    (entries.foldl (fun record entry => record.insert entry.1 entry.2) record).getSegments? =
      entries.foldl after record.getSegments? :=
  (List.foldl_hom getSegments? fun record entry => (getSegments?_put record entry).symm).symm

theorem getSegments?_of_perm {entries entries' : List (String × Value)} (hperm : entries.Perm entries')
    (hapart : entries.Pairwise Apart) (before : List (String × Value)) :
    (ofEntries (before ++ entries)).getSegments? = (ofEntries (before ++ entries')).getSegments? := by
  simp only [ofEntries, List.foldl_append, getSegments?_foldl]
  refine hperm.foldl_eq' (fun entry hentry other hother find => ?_) _
  by_cases heq : entry = other
  · rw [heq]
  · exact after_comm (hapart.forall hentry hother heq) find

/-- A record into which values were put one after the other nests no fields without there being one, at any depth. Two
such records are the same exactly if every path leads to the same value in both, or nowhere in both; what is not a number
differs from itself, and so does, in either sense, a record that holds it. The order in which values were put at paths
that do not run through each other cannot be found out by looking up. -/
theorem canonical_ofEntries (entries entries' : List (String × Value)) :
    haveNoEmptyField (ofEntries entries).fields = true ∧
    ((ofEntries entries).same (ofEntries entries') = true ↔
      ∀ segments, ((ofEntries entries).getSegments? segments == (ofEntries entries').getSegments? segments) = true) ∧
    ∀ added added' : List (String × Value), added.Perm added' → added.Pairwise Apart → ∀ segments,
      (ofEntries (entries ++ added)).getSegments? segments = (ofEntries (entries ++ added')).getSegments? segments := by
  have hfields := canonicalFields_ofEntries entries
  have hfields' := canonicalFields_ofEntries entries'
  refine ⟨?_, ?_, ?_⟩
  · exact (haveNoEmptyField_iff _).mpr fun entry hentry => (hfields.canonical entry hentry).hasNoEmptyField
  · exact hfields.sameFields_iff hfields' fun entry hentry b hb => (hfields.canonical entry hentry).beq_iff hb
  · intro added added' hperm hapart segments
    rw [getSegments?_of_perm hperm hapart entries]

/-- What is not a number, put at a path that ran into a value. -/
def incomparable : List (String × Value) := [("a", .int 1), ("a.b", .float .nan)]

theorem canonical_ofEntries_incomparable :
    let added : List (String × Value) := [("c.d", .null), ("c.e", .int 2), ("a.c", .bool true)]
    haveNoEmptyField (ofEntries incomparable).fields = true ∧
    (ofEntries incomparable).same (ofEntries incomparable) = false ∧
    (∃ segments, ¬ ((ofEntries incomparable).getSegments? segments ==
      (ofEntries incomparable).getSegments? segments) = true) ∧
    added.Perm added.reverse ∧ added.Pairwise Apart ∧ ∀ segments,
      (ofEntries (incomparable ++ added)).getSegments? segments =
        (ofEntries (incomparable ++ added.reverse)).getSegments? segments := by
  intro added
  obtain ⟨hnone, hsame, horder⟩ := canonical_ofEntries incomparable incomparable
  have hdiffers : (ofEntries incomparable).same (ofEntries incomparable) = false := by decide
  have hperm : added.Perm added.reverse := (List.reverse_perm added).symm
  have hapart : added.Pairwise Apart := by decide
  refine ⟨hnone, hdiffers, ?_, hperm, hapart, horder added added.reverse hperm hapart⟩
  refine not_forall.mp fun hall => ?_
  rw [hsame.mpr hall] at hdiffers
  cases hdiffers

end Record

end CompiledRules
