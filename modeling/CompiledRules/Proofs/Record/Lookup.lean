import CompiledRules.Proofs.Table
import CompiledRules.Record
import Mathlib

/-!
# Looking up what was put into a record

A path that is put into a record leads to its value from then on. It closes every path that it runs through and every
path that runs through it, and leaves all others as they were.
-/

namespace CompiledRules.Record

/-- The value at the end of a path that goes on below a field. -/
def valueBelow : Field → List String → Option Value
  | .leaf value, [] => some value
  | .leaf _, _ :: _ => none
  | .nested fields, segments => findAt segments fields

theorem findAt_cons (name : String) (rest : List String) (fields : List (String × Field)) :
    findAt (name :: rest) fields = (Entries.find? fields name).bind fun field => valueBelow field rest := by
  cases rest with
  | nil =>
      simp only [findAt]
      cases Entries.find? fields name with
      | none => rfl
      | some field => cases field <;> rfl
  | cons second rest =>
      simp only [findAt]
      cases Entries.find? fields name with
      | none => rfl
      | some field => cases field <;> rfl

theorem findAt_nestedUnder {rest : List String} (h : rest ≠ []) (fields : List (String × Field)) (name : String) :
    findAt rest (nestedUnder fields name) = findAt (name :: rest) fields := by
  cases rest with
  | nil => exact absurd rfl h
  | cons second rest =>
      rw [findAt_cons name, nestedUnder]
      cases Entries.find? fields name with
      | none => simp [findAt_cons, Entries.find?]
      | some field => cases field <;> simp [findAt_cons, Entries.find?, valueBelow]

/-- What a path with these segments behind the first leaves under the name of the first. -/
def put (rest : List String) (value : Value) (inner : List (String × Field)) : Field :=
  if rest = [] then .leaf value else .nested (insertAt rest value inner)

theorem insertAt_cons (first : String) (rest : List String) (value : Value) (fields : List (String × Field)) :
    insertAt (first :: rest) value fields =
      Entries.insert fields first (put rest value (nestedUnder fields first)) := by
  cases rest <;> rfl

/-- One of the paths is where the other comes to, or both are the same. -/
def Meets (path other : List String) : Prop := path <+: other ∨ other <+: path

instance (path other : List String) : Decidable (Meets path other) := instDecidableOr

theorem Meets.symm {path other : List String} (h : Meets path other) : Meets other path := Or.symm h

@[simp] theorem meets_refl (path : List String) : Meets path path := Or.inl List.prefix_rfl

@[simp] theorem meets_nil (path : List String) : Meets [] path := Or.inl List.nil_prefix

@[simp] theorem meets_cons_nil (name : String) (rest : List String) : Meets (name :: rest) [] := Or.inr List.nil_prefix

@[simp] theorem meets_cons_cons (name first : String) (rest others : List String) :
    Meets (name :: rest) (first :: others) ↔ name = first ∧ Meets rest others := by
  simp only [Meets, List.cons_prefix_cons]
  constructor
  · rintro (⟨rfl, h⟩ | ⟨rfl, h⟩)
    · exact ⟨rfl, Or.inl h⟩
    · exact ⟨rfl, Or.inr h⟩
  · rintro ⟨rfl, h | h⟩
    · exact Or.inl ⟨rfl, h⟩
    · exact Or.inr ⟨rfl, h⟩

/-- What look-ups find once a value stands at the end of a path. -/
def overwritten (find : List String → Option Value) (path : List String) (value : Value) (segments : List String) :
    Option Value :=
  if segments = path then some value else if Meets segments path then none else find segments

theorem findAt_insertAt {path : List String} (hpath : path ≠ []) (value : Value) (fields : List (String × Field))
    (segments : List String) : findAt segments (insertAt path value fields) =
      overwritten (findAt · fields) path value segments := by
  unfold overwritten
  induction path generalizing segments fields with
  | nil => exact absurd rfl hpath
  | cons first rest ih =>
      cases segments with
      | nil => simp [findAt]
      | cons name others =>
          rw [insertAt_cons, findAt_cons, Entries.find?_insert]
          by_cases hname : name = first
          · subst hname
            by_cases hrest : rest = []
            · subst hrest
              cases others <;> simp [put, valueBelow]
            · simp only [put, hrest, ↓reduceIte, Option.bind_some, valueBelow, ih hrest, List.cons.injEq, true_and,
                meets_cons_cons]
              by_cases hothers : others = []
              · simp [hothers]
              · rw [findAt_nestedUnder hothers]
          · simp [hname, findAt_cons]

/-- After a value is put at a path, the path leads to it, the paths that the path runs through and those that run through
the path lead nowhere, and all other paths lead where they led before. -/
theorem getSegments?_insert (record : Record) (path : String) (value : Value) (segments : List String) :
    (record.insert path value).getSegments? segments =
      if segments = Text.segments path then some value
      else if segments <+: Text.segments path ∨ Text.segments path <+: segments then none
      else record.getSegments? segments :=
  findAt_insertAt (Text.segments_ne_nil path) value record.fields segments

end CompiledRules.Record
