import CompiledRules.Double.Text
import CompiledRules.Text.Quoted

/-!
# Values

What a record field, a parameter or a literal holds. Values of one kind are ordered, integers and floats
among each other as well; lists are only told apart.
-/

namespace CompiledRules

/-- A value of a rule. -/
inductive Value where
  | null
  | int (n : Int64)
  | float (x : Double)
  | bool (b : Bool)
  | string (s : String)
  | list (items : List Value)
deriving Inhabited

/-- How a comparison relates its operands. -/
inductive CompareOp where
  | eq
  | neq
  | gt
  | gte
  | lt
  | lte
  | isIn
  | like
  | custom (symbol : String)
deriving DecidableEq

/-- The comparison as a rule writes it. -/
def CompareOp.symbol : CompareOp → String
  | .eq => "="
  | .neq => "!="
  | .gt => ">"
  | .gte => ">="
  | .lt => "<"
  | .lte => "<="
  | .isIn => "in"
  | .like => "like"
  | .custom symbol => symbol

namespace Value

/-- The name of the value's kind. -/
def typeName : Value → String
  | .null => "null"
  | .int _ => "int"
  | .float _ => "float"
  | .bool _ => "bool"
  | .string _ => "string"
  | .list _ => "list"

def isNull : Value → Bool
  | .null => true
  | _ => false

def asBool? : Value → Option Bool
  | .bool b => some b
  | _ => none

def asString? : Value → Option String
  | .string s => some s
  | _ => none

mutual

/-- The order of two values, if they have one. Lists are equal or unrelated. -/
def order? : Value → Value → Option Ordering
  | .null, .null => some .eq
  | .int a, .int b => some (compare a.toInt b.toInt)
  | .float a, .float b => a.compare? b
  | .int a, .float b => (Double.ofInt a.toInt).compare? b
  | .float a, .int b => a.compare? (Double.ofInt b.toInt)
  | .bool a, .bool b => some (compare a b)
  | .string a, .string b => some (compare a b)
  | .list as, .list bs => if sameItems as bs then some .eq else none
  | _, _ => none

/-- Whether two lists are of one length and equal item by item. -/
def sameItems : List Value → List Value → Bool
  | [], [] => true
  | a :: as, b :: bs => order? a b == some .eq && sameItems as bs
  | _, _ => false

end

/-- Whether a list holds an item equal to the given value; only a list answers. -/
def contains? (haystack needle : Value) : Option Bool :=
  match haystack with
  | .list items => some (items.any fun item => order? item needle == some .eq)
  | _ => none

/-- The outcome of a comparison, if the values admit it. -/
def compare? (op : CompareOp) (a b : Value) : Option Bool :=
  match op with
  | .eq => (order? a b).map (· == .eq)
  | .neq => (order? a b).map (· != .eq)
  | .gt => (order? a b).map (· == .gt)
  | .gte => (order? a b).map (· != .lt)
  | .lt => (order? a b).map (· == .lt)
  | .lte => (order? a b).map (· != .gt)
  | .isIn => contains? b a
  | .like => none
  | .custom _ => none

mutual

/-- Equality kind by kind: an integer is never the same as a float, and what is not a number differs from itself. -/
def same : Value → Value → Bool
  | .null, .null => true
  | .int a, .int b => a == b
  | .float a, .float b => a.sameNumber b
  | .bool a, .bool b => a == b
  | .string a, .string b => a == b
  | .list as, .list bs => sameList as bs
  | _, _ => false

/-- Sameness of lists, item by item. -/
def sameList : List Value → List Value → Bool
  | [], [] => true
  | a :: as, b :: bs => same a b && sameList as bs
  | _, _ => false

end

end Value

end CompiledRules
