import Tabular.Operation

/-!
# Refinements

A refinement (`refine`) runs operations in order, each on the table that the one before it has left. It stops
at the first operation that cannot be read or fails, and names it; where the name cannot be written, the
failure is that (`RefinementError.unnamed`). Those who listen (`Listeners`) are told how it ends
(`refineTelling`), apart from a failure that cannot be told, which is raised past them.
-/

namespace Tabular

/-- One step of a refinement: a cell still to be read, or an operation. -/
inductive Step where
  | raw (c : Cell)
  | parsed (o : Operation)

/-- The reasons why a step fails. -/
inductive StepError where
  | operation (error : OperationError)
  | date (error : Calendar.DateError)
deriving DecidableEq

/-- The wording of an error; that of a date comes with its class. -/
def StepError.message : StepError → String
  | operation error => error.message
  | date .outOfRange => "OverflowError: " ++ Calendar.DateError.outOfRange.message
  | date error => "error: " ++ error.message

/-- The reasons why a refinement fails. -/
inductive RefinementError where
  /-- The input is no table. -/
  | shape (error : ShapeError)
  /-- The step at an index, of the given name, fails. -/
  | step (index : Nat) (name : String) (error : StepError)
  /-- A step fails whose name cannot be written. -/
  | unnamed (error : Integer.TooLong)
deriving DecidableEq

/-- The wording of an error; a step is told by its index and its name. -/
def RefinementError.message : RefinementError → String
  | shape error => error.message
  | step index name error =>
    "Operation " ++ Integer.toText index ++ " (" ++ name ++ ") failed: " ++ error.message
  | unnamed error => error.message

namespace Step

/-- The steps of a list, or the single step of any other cell. -/
def listOfCell : Cell → List Step
  | .list cells => cells.map raw
  | c => [raw c]

/-- The name of a step in messages, whether or not there is such an operation, if it can be written. -/
def name : Step → Except Integer.TooLong String
  | parsed o => .ok o.kind.name
  | raw (.record fields) => (Operation.nameField? fields).elim (.ok "?") Cell.shown
  | raw _ => .ok "?"

/-- The operation of a step, which may still have to be read. -/
def operation : Step → Except OperationError Operation
  | parsed o => .ok o
  | raw c => Operation.ofCell c

/-- What a step makes of a table. -/
def run (iso : Calendar.IsoRule) (s : Step) (t : Table) : Except StepError Table := do
  let o ← s.operation.mapError .operation
  (o.apply iso t).mapError .date

/-- The failure of a refinement at a step that has the given index. -/
def failure (index : Nat) (s : Step) (e : StepError) : RefinementError :=
  match s.name with
  | .ok name => .step index name e
  | .error e => .unnamed e

end Step

section Refine

variable (iso : Calendar.IsoRule)

/-- The table after steps, the first of which has the given index. -/
def refineFrom (index : Nat) : List Step → Table → Except RefinementError Table
  | [], t => .ok t
  | s :: steps, t => do
    let t ← (s.run iso t).mapError (s.failure index)
    refineFrom (index + 1) steps t

/-- The table of a cell after steps. -/
def refine (steps : List Step) (c : Cell) : Except RefinementError Table := do
  let t ← (Table.ofCell c).mapError .shape
  refineFrom iso 0 steps t

end Refine

/-- The errors that are raised for failures. -/
inductive Raised where
  /-- No listener takes the message. -/
  | refused (message : String)
  /-- There is no message, since a name cannot be written. -/
  | tooLong (error : Integer.TooLong)
deriving DecidableEq

/-- Those who are told how a refinement ends, in a world `m` of effects: of its success with the table,
of its failure with the message. -/
structure Listeners (m : Type → Type) where
  success : Option (Table → m Unit)
  failure : Option (String → m Unit)

section Listeners

variable {m : Type → Type} [Monad m] [MonadExceptOf Raised m]

/-- A success that nobody listens for is told to nobody. -/
def Listeners.succeed (l : Listeners m) (t : Table) : m Unit :=
  match l.success with
  | some tell => tell t
  | none => pure ()

/-- A failure that nobody listens for is raised. -/
def Listeners.fail (l : Listeners m) (message : String) : m Unit :=
  match l.failure with
  | some tell => tell message
  | none => throw (.refused message)

/-- Runs steps, the first of which has the given index, and tells the listeners how that ends. There is a
table only after a success. -/
def refineFromTelling (iso : Calendar.IsoRule) (l : Listeners m) (index : Nat) :
    List Step → Table → m (Option Table)
  | [], t => do
    l.succeed t
    return some t
  | s :: steps, t =>
    match s.run iso t with
    | .ok t => refineFromTelling iso l (index + 1) steps t
    | .error e =>
      match s.name with
      | .ok name => do
        l.fail (RefinementError.step index name e).message
        return none
      | .error e => throw (.tooLong e)

/-- Runs steps on the table of a cell and tells the listeners how that ends. -/
def refineTelling (iso : Calendar.IsoRule) (l : Listeners m) (steps : List Step) (c : Cell) :
    m (Option Table) :=
  match Table.ofCell c with
  | .ok t => refineFromTelling iso l 0 steps t
  | .error e => do
    l.fail e.message
    return none

end Listeners

/-- What listeners have heard: the tables of successes and the messages of failures. -/
structure Report where
  successes : List Table
  failures : List String

/-- A world in which a report is kept. -/
abbrev Recording := ExceptT Raised (StateM Report)

/-- Listeners that note what they hear, each of them only if it is wanted. -/
def Listeners.recording (success failure : Bool) : Listeners Recording where
  success :=
    if success then some fun t => modify fun r => { r with successes := r.successes ++ [t] }
    else none
  failure :=
    if failure then some fun message => modify fun r => { r with failures := r.failures ++ [message] }
    else none

end Tabular
