import Tabular.Filter.Rows
import Tabular.Filter.Columns
import Tabular.Interpret
import Tabular.Rule.Parser
import Tabular.Table.Transpose

/-!
# Operations

The five things that can be done to a table (`Operation`), their names (`OperationKind.name`), how they are
read from records (`Operation.ofCell`, `Operation.listOfCell`) or refused (`OperationError`), and what they
do (`Operation.apply`).
-/

namespace Tabular

/-- What can be done to a table. -/
inductive Operation where
  | ignoreRows (rules : List FilterRule)
  | ignoreColumns (rules : List FilterRule)
  | replace (rules : List Replacement)
  | interpret (rule : Interpretation)
  | transpose

/-- The kinds of operations. -/
inductive OperationKind where
  | ignoreRows
  | ignoreColumns
  | replace
  | interpret
  | transpose
deriving DecidableEq

namespace OperationKind

/-- The name of a kind in requests and messages. -/
def name : OperationKind → String
  | ignoreRows => "ignoreRowIf"
  | ignoreColumns => "ignoreColIf"
  | replace => "replace"
  | interpret => "interpretStr"
  | transpose => "transpose"

/-- All kinds, in the order in which messages list them. -/
def all : List OperationKind :=
  [ignoreRows, ignoreColumns, replace, interpret, transpose]

/-- The kind that has a name. -/
def ofName? (s : String) : Option OperationKind :=
  all.find? fun kind => kind.name == s

end OperationKind

/-- The reasons why a cell is no operation. -/
inductive OperationError where
  /-- It is no record. -/
  | notRecord (kind : String)
  /-- It gives no name. -/
  | missingName
  /-- It gives the name of no operation. -/
  | unknownName (name : String)
  /-- It gives a name that cannot be written. -/
  | longName (error : Integer.TooLong)
  /-- Its rules are not right. -/
  | rules (error : RuleError)
deriving DecidableEq

/-- The names of all kinds. -/
def supportedOperations : List String :=
  OperationKind.all.map OperationKind.name

/-- The wording of the errors. -/
def OperationError.message : OperationError → String
  | notRecord kind => "Operation must be an object, got " ++ kind
  | missingName => "Missing required field: operation"
  | unknownName name =>
    "Unknown operation '" ++ name ++ "'. Supported operations: " ++
      ", ".intercalate supportedOperations
  | longName error => error.message
  | rules error => error.message

/-- The error for a name that no operation has. It has to be written, and that may fail. -/
def OperationError.ofUnknown (name : Cell) : OperationError :=
  match name.shown with
  | .ok s => .unknownName s
  | .error e => .longName e

/-- The date format that stands for a bare demand for dates. -/
def defaultDateFormat : String := "%Y-%m-%d"

namespace Operation

/-- The kind of an operation. -/
def kind : Operation → OperationKind
  | ignoreRows _ => .ignoreRows
  | ignoreColumns _ => .ignoreColumns
  | replace _ => .replace
  | interpret _ => .interpret
  | transpose => .transpose

/-- The written form of an operation: its kind in quotes. -/
def text (o : Operation) : String :=
  "Operation(" ++ Text.quote o.kind.name ++ ")"

/-- The name that a record gives to its operation. -/
def nameField? (fields : List (String × Cell)) : Option Cell :=
  (fields.lookup "operation").or (fields.lookup "name")

/-- The operation of a kind with a parameter. -/
def ofParameter (kind : OperationKind) (param : Cell) : Except RuleError Operation :=
  match kind with
  | .ignoreRows => ignoreRows <$> FilterRule.parse "col" kind.name param
  | .ignoreColumns => ignoreColumns <$> FilterRule.parse "row" kind.name param
  | .replace => replace <$> Replacement.parse param
  | .interpret => interpret <$> Interpretation.parse defaultDateFormat param
  | .transpose => .ok transpose

/-- The operation that the fields of a record describe. -/
def ofFields (fields : List (String × Cell)) : Except OperationError Operation :=
  let name := (nameField? fields).getD .null
  if !name.truthy then .error .missingName
  else
    let kind? := match name with
      | .text s => OperationKind.ofName? s
      | _ => none
    match kind? with
    | none => .error (.ofUnknown name)
    | some kind =>
      (ofParameter kind ((fields.lookup "param").getD .null)).mapError OperationError.rules

/-- The operation that a cell describes. -/
def ofCell : Cell → Except OperationError Operation
  | .record fields => ofFields fields
  | c => .error (.notRecord c.kindName)

/-- The operations of a list, or the single operation of any other cell. -/
def listOfCell : Cell → Except OperationError (List Operation)
  | .list cells => cells.mapM ofCell
  | c => do return [← ofCell c]

/-- What an operation makes of a table; only reading dates can fail. -/
def apply (iso : Calendar.IsoRule) (t : Table) : Operation → Except Calendar.DateError Table
  | ignoreRows rules => .ok (t.ignoreRows rules)
  | ignoreColumns rules => .ok (t.ignoreColumns rules)
  | replace rules => .ok (t.replace rules)
  | interpret rule => t.interpret iso rule
  | transpose => .ok t.transpose

end Operation

end Tabular
