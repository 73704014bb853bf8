import CompiledRules.Bytes.Blake3

/-!
# Identifiers of compiled rules

A pair of target variant and rule is identified by the first 16 bytes of a digest, in hexadecimal. The length
of the variant stands in front, so that no two pairs are hashed as the same bytes.
-/

namespace CompiledRules

/-- What the name of every executor begins with. -/
def executorPrefix : String := "Executor_"

/-- Where compiled executors are registered. -/
def executorNamespace : String := "rulekit::compiled"

namespace Identifier

/-- The bytes that are hashed for a pair. -/
def preimage (variant rule : String) : Bytes :=
  let variantBytes := Bytes.ofText variant.toList
  Bytes.littleEndian 8 variantBytes.length ++ variantBytes ++ Bytes.ofText rule.toList

/-- The identifier of a pair of variant and rule. -/
def derive (variant rule : String) : String :=
  String.ofList (Bytes.toHex ((Blake3.digest (preimage variant rule)).take 16))

/-- Whether a text has the shape of an identifier: 32 lower-case hexadecimal digits. -/
def isIdentifier (text : String) : Bool :=
  text.toList.length == 32 && text.toList.all fun c => c.isDigit || ('a' ≤ c && c ≤ 'f')

end Identifier

/-- The names under which an executor is known. -/
structure Names where
  identifier : String
  name : String
  path : String
deriving DecidableEq

/-- The name of the executor with the given identifier. -/
def executorName (identifier : String) : String := executorPrefix ++ identifier

/-- The full name of the executor with the given identifier. -/
def executorPath (identifier : String) : String := executorNamespace ++ "::" ++ executorName identifier

/-- The names that an identifier gives its executor. -/
def Names.ofIdentifier (identifier : String) : Names :=
  ⟨identifier, executorName identifier, executorPath identifier⟩

end CompiledRules
