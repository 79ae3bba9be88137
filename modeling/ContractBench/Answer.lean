import ContractBench.Answer.Broadcast
import ContractBench.Answer.Computation
import ContractBench.Answer.Listing
import ContractBench.Answer.Signature
import ContractBench.Answer.Transaction

/-! # Types of answers

A type of answer is a schema with two names: the one that is given when an answer does not match,
and the one under which the issues are reported.
-/

namespace ContractBench

/-- A type of answer. -/
structure AnswerType where
  /-- The name of the type. -/
  name : String
  /-- The name of its schema. -/
  title : String
  /-- Its schema. -/
  schema : Schema
  deriving Inhabited

namespace AnswerType

/-- Answers that are records. -/
def record (title : String) (schema : Schema) : AnswerType := ⟨title, title, schema⟩

/-- Answers that are null or lists of records. -/
def listing (title : String) (schema : Schema) : AnswerType :=
  ⟨"Optional", "nullable[list[" ++ title ++ "]]", .nullable (.list schema)⟩

/-- The answer to a sent transaction. -/
def broadcast : AnswerType := record Broadcast.title Broadcast.schema

/-- A transaction on the chain. -/
def transaction : AnswerType := record Transaction.title Transaction.schema

/-- The result of a computation. -/
def computation : AnswerType := record Computation.title Computation.schema

/-- The list of stored codes. -/
def storedCodes : AnswerType := listing StoredCode.title StoredCode.schema

/-- The list of contracts that run a code. -/
def instances : AnswerType := listing Instance.title Instance.schema

/-- A signature. -/
def signature : AnswerType := record Signature.title Signature.schema

end AnswerType

end ContractBench
