import CompiledRules.Table
import CompiledRules.Text.Segments
import CompiledRules.Value.Basic

/-!
# Records

A record nests fields under names. A path leads through nested fields to a value; no value stands where
fields are nested.
-/

namespace CompiledRules

/-- What stands under a name: a value, or further fields. -/
inductive Field where
  | leaf (value : Value)
  | nested (fields : List (String × Field))
deriving Inhabited

/-- The fields of a record. -/
structure Record where
  fields : List (String × Field) := []
deriving Inhabited

namespace Record

/-- The record without fields. -/
def empty : Record := {}

/-- The fields nested under a name, none if there is a value or nothing. -/
def nestedUnder (fields : List (String × Field)) (name : String) : List (String × Field) :=
  match Entries.find? fields name with
  | some (.nested inner) => inner
  | _ => []

/-- Puts a value at the end of a path of segments. Whatever stood at the end or blocked the way is replaced. -/
def insertAt : List String → Value → List (String × Field) → List (String × Field)
  | [], _, fields => fields
  | [last], value, fields => Entries.insert fields last (.leaf value)
  | first :: rest, value, fields =>
      Entries.insert fields first (.nested (insertAt rest value (nestedUnder fields first)))

/-- Puts a value at the end of a dotted path. -/
def insert (record : Record) (path : String) (value : Value) : Record :=
  ⟨insertAt (Text.segments path) value record.fields⟩

/-- The value at the end of a path of segments. -/
def findAt : List String → List (String × Field) → Option Value
  | [], _ => none
  | [last], fields =>
      match Entries.find? fields last with
      | some (.leaf value) => some value
      | _ => none
  | first :: rest, fields =>
      match Entries.find? fields first with
      | some (.nested inner) => findAt rest inner
      | _ => none

/-- The value at the end of a path of segments. -/
def getSegments? (record : Record) (segments : List String) : Option Value := findAt segments record.fields

/-- The value at the end of a dotted path. -/
def get? (record : Record) (path : String) : Option Value := record.getSegments? (Text.segments path)

/-- Whether the record has no fields. -/
def isEmpty (record : Record) : Bool := record.fields.isEmpty

/-- The record with the given paths set one after the other. -/
def ofEntries (entries : List (String × Value)) : Record :=
  entries.foldl (fun record entry => record.insert entry.1 entry.2) empty

mutual

/-- No fields are nested under a name without there being one. -/
def hasNoEmptyField : Field → Bool
  | .leaf _ => true
  | .nested fields => !fields.isEmpty && haveNoEmptyField fields

/-- None of the fields has empty nested fields, at any depth. -/
def haveNoEmptyField : List (String × Field) → Bool
  | [] => true
  | (_, field) :: fields => hasNoEmptyField field && haveNoEmptyField fields

end

mutual

/-- Whether two fields hold the same, as values are the same. -/
def sameField : Field → Field → Bool
  | .leaf a, .leaf b => a.same b
  | .nested as, .nested bs => sameFields as bs
  | _, _ => false

/-- Whether the same names hold the same. -/
def sameFields : List (String × Field) → List (String × Field) → Bool
  | [], [] => true
  | (name, a) :: as, (name', b) :: bs => name == name' && sameField a b && sameFields as bs
  | _, _ => false

end

/-- Whether two records hold the same. -/
def same (a b : Record) : Bool := sameFields a.fields b.fields

end Record

end CompiledRules
