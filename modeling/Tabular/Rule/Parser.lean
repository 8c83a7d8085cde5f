import Tabular.Rule.Basic

/-!
# Rules from cells

Rules arrive as records in lists. A list is checked for being made of records before any of them is
read. Records without a known key and groups without rules are passed over.

* `RuleError`: the errors with their wording.
* `FilterRule.parse`: rules for rows or columns to leave out.
* `Replacement.parse`: replacements.
* `Interpretation.parse`: what to read texts as.
-/

namespace Tabular

/-- The reasons why a cell gives no rules. -/
inductive RuleError where
  /-- The rules of an operation are no list. -/
  | notList (operation kind : String)
  /-- A rule of an operation is no record. -/
  | notRecord (operation : String) (index : Nat) (kind : String)
  /-- A replacement lacks some of its fields. -/
  | missingFields (index : Nat) (fields : List String)
  /-- An interpretation is no record. -/
  | notInterpretation (kind : String)
  /-- The words for truth values are no record. -/
  | truthWords
  /-- A date format is no text. -/
  | dateFormat
deriving DecidableEq

namespace RuleError

/-- The wording of the errors; rules are told by their index. -/
def message : RuleError → String
  | notList operation kind => "'" ++ operation ++ "' expects a list of rules, got " ++ kind
  | notRecord operation index kind =>
    "'" ++ operation ++ "' rule " ++ Integer.toText index ++ " must be an object, got " ++ kind
  | missingFields index fields =>
    "'replace' rule " ++ Integer.toText index ++ " missing required fields: " ++
      ", ".intercalate fields
  | notInterpretation kind => "'interpretStr' expects an object, got " ++ kind
  | truthWords => "'interpretStr' bools must be an object with trueVal/falseVal"
  | dateFormat => "'interpretStr' dates must be a format string"

end RuleError

/-- The keys of a group, the preferred first. -/
def groupKeys : List String := ["allOf", "combined"]

/-- The first cell of a list that is no record, with its index. -/
def findNonRecord (index : Nat) : List Cell → Option (Nat × Cell)
  | [] => none
  | .record _ :: cells => findNonRecord (index + 1) cells
  | c :: _ => some (index, c)

/-- Checks that all rules of an operation are records. -/
def checkRecords (operation : String) (cells : List Cell) : Except RuleError Unit :=
  match findNonRecord 0 cells with
  | some (index, c) => .error (.notRecord operation index c.kindName)
  | none => .ok ()

/-- The selector that a record has under a key. -/
def selectorAt (key : String) (fields : List (String × Cell)) : Selector :=
  Selector.ofCell ((fields.lookup key).getD .null)

/-- The key of the group in a record, if it has one. -/
def groupKey? (fields : List (String × Cell)) : Option String :=
  groupKeys.find? fun key => (fields.lookup key).isSome

namespace FilterRule

mutual

/-- The rules of a list of records, where `axis` is the key for the positions of a value. -/
def parse (axis operation : String) : Cell → Except RuleError (List FilterRule)
  | .null => .ok []
  | .list cells => do
    checkRecords operation cells
    parseItems axis operation cells
  | c => .error (.notList operation c.kindName)

/-- The rules of the members of a list. -/
def parseItems (axis operation : String) : List Cell → Except RuleError (List FilterRule)
  | [] => .ok []
  | c :: cells => do
    return (← parseItem axis operation c).toList ++ (← parseItems axis operation cells)

/-- The rule of a record, if it has one: the position comes before the value, the value before the
group. -/
def parseItem (axis operation : String) : Cell → Except RuleError (Option FilterRule)
  | .record fields =>
    match fields.lookup "index", fields.lookup "val" with
    | some index, _ => .ok (some (position index))
    | none, some val => .ok (some (value (selectorAt axis fields) val))
    | none, none => do
      let rules ← parseGroup axis operation (groupKey? fields) fields
      return if rules.isEmpty then none else some (all rules)
  | _ => .ok none

/-- The rules of the group that stands under a key; no key, no rules. -/
def parseGroup (axis operation : String) (key : Option String) :
    List (String × Cell) → Except RuleError (List FilterRule)
  | [] => .ok []
  | (k, c) :: fields =>
    if some k = key then parse axis operation c else parseGroup axis operation key fields

end

end FilterRule

namespace Replacement

/-- The required fields that a record lacks. -/
def missing (fields : List (String × Cell)) : List String :=
  ["orig", "new"].filter fun key => (fields.lookup key).isNone

/-- The replacements of records, the first of which has the given index. -/
def parseFrom (index : Nat) : List (List (String × Cell)) → Except RuleError (List Replacement)
  | [] => .ok []
  | fields :: records =>
    match fields.lookup "orig", fields.lookup "new" with
    | some orig, some new => do
      return ⟨orig, new, selectorAt "row" fields, selectorAt "col" fields⟩ ::
        (← parseFrom (index + 1) records)
    | _, _ => .error (.missingFields index (missing fields))

/-- The replacements of a list of records. -/
def parse : Cell → Except RuleError (List Replacement)
  | .null => .ok []
  | .list cells => do
    checkRecords "replace" cells
    parseFrom 0 (cells.filterMap Cell.fields?)
  | c => .error (.notList "replace" c.kindName)

end Replacement

namespace Interpretation

/-- The words for truth values: a record, or nothing, or a denial. -/
def parseTruthWords : Option Cell → Except RuleError (List (String × Cell))
  | none => .ok []
  | some .null => .ok []
  | some (.bool false) => .ok []
  | some (.record fields) => .ok fields
  | some _ => .error .truthWords

/-- A date format: a text, or the default one, or none. -/
def parseDates (default : String) : Option Cell → Except RuleError (Option String)
  | none => .ok none
  | some .null => .ok none
  | some (.bool true) => .ok (some default)
  | some (.bool false) => .ok none
  | some (.text format) => .ok (some format)
  | some _ => .error .dateFormat

/-- The interpretation of the fields of a record. -/
def ofFields (default : String) (fields : List (String × Cell)) :
    Except RuleError Interpretation := do
  let truthWords ← parseTruthWords (fields.lookup "bools")
  let dates ← parseDates default (fields.lookup "dates")
  let numbers := (fields.lookup "numbers").any Cell.truthy
  return ⟨numbers, truthWords, dates, selectorAt "row" fields, selectorAt "col" fields⟩

/-- The interpretation of a record; nothing stands for a record without fields. -/
def parse (default : String) : Cell → Except RuleError Interpretation
  | .null => ofFields default []
  | .record fields => ofFields default fields
  | c => .error (.notInterpretation c.kindName)

end Interpretation

end Tabular
