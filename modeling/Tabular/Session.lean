import Tabular.Refinement
import Tabular.Store
import Tabular.Table.Preview
import Tabular.TableName

/-!
# Sessions

A session (`Session`) registers, refines, samples and lists tables. It remembers the table worked on last and what
was refined. Requests carry cells, which may be of the wrong kind: some of that is answered with a
message, some is an error of the request. An error may come after the session has changed, so the
session that a request leaves is given with its errors too (`Session.answer`). What sessions rely on from outside
is their `Platform`.
-/

namespace Tabular

/-- What sessions run on: the frames that previews are drawn with, and the rule for ISO weeks in dates. -/
structure Platform where
  frames : FrameLibrary
  iso : Calendar.IsoRule

/-- A refinement that was carried out. -/
structure HistoryEntry where
  source : String
  output : String
  operations : List String
deriving DecidableEq

/-- The state of a session. -/
structure Session where
  store : Store
  current : Option String
  history : List HistoryEntry

/-- What was done to a table by a refinement. -/
structure RefinementResult where
  source : String
  output : String
  rowsBefore : Nat
  rowsAfter : Nat
  columnsBefore : Nat
  columnsAfter : Nat
  operations : List String
  preview : String

/-- The answer to a request. -/
inductive Reply where
  | registered (info : TableInfo) (preview : String)
  | refined (result : RefinementResult)
  | sampled (name : String) (rowCount : Nat) (sample : String)
  | listed (tables : List TableInfo) (current : String)
  /-- The request failed, maybe for a table of the given name. -/
  | failed (message : String) (name : Option String)

/-- The errors of a request that are no answers. -/
inductive RequestError where
  /-- A cell is of the wrong kind. -/
  | wrongKind
  /-- There is no table under a name. -/
  | missing (error : MissingTable)
  /-- A whole number is too long to be written. -/
  | longNumber (error : Integer.TooLong)
  /-- A call of the library of frames fails. -/
  | library (error : LibraryError)
deriving DecidableEq

/-- The wording of an error; a wrong kind has none of its own. -/
def RequestError.message : RequestError → String
  | wrongKind => ""
  | missing error => error.message
  | longNumber error => error.message
  | library error => error.message

/-- The error of a request whose preview fails. A line that lacks a text is an error of kind. -/
def RequestError.ofPreview : PreviewError → RequestError
  | .tooLong error => .longNumber error
  | .library error => .library error
  | .noText => .wrongKind

/-- How a request ends before anything is put into the store: with an answer, or with an error. -/
inductive Refusal where
  | answer (message : String) (name : Option String)
  | error (e : RequestError)

/-- The refusal for a refinement of a table that fails: its message is answered, if it has one. -/
def Refusal.ofRefinement (source : String) : RefinementError → Refusal
  | .unnamed e => .error (.longNumber e)
  | e => .answer e.message (some source)

/-- The refusal for operations that cannot be read. -/
def Refusal.ofOperation (source : String) (error : OperationError) : Refusal :=
  .answer error.message (some source)

namespace Session

/-- A session before the first request. -/
def empty : Session := ⟨.empty, none, []⟩

/-- The session after a request, and the answer or the error. -/
abbrev Outcome := Session × Except RequestError Reply

/-- What a session can be asked for. -/
inductive Request where
  | register (label rows : Cell)
  | refine (label operations output : Cell)
  | sample (label limit : Cell)
  | list

/-- A name has to be a text. -/
def nameOf : Cell → Except RequestError String
  | .text s => .ok s
  | _ => .error .wrongKind

/-- The name in the store that a given name means: itself, or the one made from it. -/
def resolve (s : Session) (name : String) : String :=
  if s.store.contains name then name else TableName.ofLabel name

/-- The rows of a cell, if it is a list of lists. -/
def rowsOf? (c : Cell) : Option Table :=
  (Table.ofCell c).toOption

/-- The preview of the first rows of a table. -/
def previewOf (p : Platform) (limit : Int) (t : Table) : Except RequestError String :=
  (t.preview p.frames limit).mapError .ofPreview

/-- Puts a table under the name made from a label. The preview is made last. -/
def register (p : Platform) (s : Session) (label rows : Cell) : Outcome :=
  match rowsOf? rows with
  | none => (s, .ok (.failed "rows must be a list of lists of cells." none))
  | some rows =>
    match nameOf label with
    | .error e => (s, .error e)
    | .ok label =>
      let name := TableName.ofLabel label
      -- The session has changed by the time the preview is made.
      ({ s with store := s.store.put name rows "" [], current := some name },
        (previewOf p previewLength rows).map (.registered (Store.infoOf name rows "" [])))

/-- The label of the output of a refinement: the given one, or one made from the name of the source,
if nothing is given. -/
def outputLabel (source : String) (output : Cell) : Except RequestError String :=
  if output.truthy then nameOf output else .ok (source ++ "_refined")

/-- A refinement that has been carried out and is still to be put down. -/
structure Draft where
  source : String
  before : Table
  columnsBefore : Nat
  output : String
  operations : List String
  after : Table

/-- Carries out a refinement of a stored table. The operations are read before the first is run, and
the label of the output is looked at last. -/
def draft (p : Platform) (s : Session) (label operations output : Cell) : Except Refusal Draft := do
  let label ← (nameOf label).mapError .error
  let source := s.resolve label
  if s.store.contains source then
    let parsed ← (Operation.listOfCell operations).mapError (.ofOperation source)
    let before ← (s.store.get source).mapError fun e => .error (.missing e)
    let columnsBefore ← (s.store.columnCount source).mapError fun e => .error (.missing e)
    let after ← (Tabular.refine p.iso (parsed.map .parsed) before.toCell).mapError (.ofRefinement source)
    let label ← (outputLabel source output).mapError .error
    let output := TableName.ofLabel label
    return { source, before, columnsBefore, output, operations := parsed.map (·.kind.name), after }
  else .error (.answer ("Table '" ++ source ++ "' not found. Use register_table first.") none)

/-- Puts the outcome of a refinement into the store and, once its preview is made, notes it in the
history. -/
def commit (p : Platform) (s : Session) (d : Draft) : Outcome :=
  let store := s.store.put d.output d.after d.source d.operations
  let info := Store.infoOf d.output d.after d.source d.operations
  match previewOf p previewLength d.after with
  -- The table stays in the store, though neither the history nor the current table tell of it.
  | .error e => ({ s with store }, .error e)
  | .ok preview =>
    ({ store, current := some d.output,
       history := s.history ++ [⟨d.source, d.output, d.operations⟩] },
      .ok (.refined
        { source := d.source, output := d.output,
          rowsBefore := d.before.length, rowsAfter := info.rowCount,
          columnsBefore := d.columnsBefore, columnsAfter := info.columnCount,
          operations := d.operations, preview }))

/-- Refines a table and puts the outcome under the name of the output. -/
def refine (p : Platform) (s : Session) (label operations output : Cell) : Outcome :=
  match s.draft p label operations output with
  | .error (.answer message name) => (s, .ok (.failed message name))
  | .error (.error e) => (s, .error e)
  | .ok d => s.commit p d

/-- A count of rows has to be a whole number; a truth value counts as one or zero, and nothing as the
usual count. -/
def limitOf : Cell → Except RequestError Int
  | .null => .ok previewLength
  | .bool b => .ok b.toNat
  | .int n => .ok n
  | _ => .error .wrongKind

/-- Shows the first rows of a table. -/
def sample (p : Platform) (s : Session) (label limit : Cell) : Except RequestError Reply := do
  let label ← nameOf label
  let name := s.resolve label
  if s.store.contains name then
    let rows ← (s.store.get name).mapError .missing
    return .sampled name rows.length (← previewOf p (← limitOf limit) rows)
  else return .failed ("Table '" ++ name ++ "' not found.") none

/-- All stored tables, told by their notes. -/
def list (s : Session) : Reply :=
  .listed s.store.infos (s.current.getD "")

/-- The session that a request leaves, and the answer or the error. -/
def answer (p : Platform) (s : Session) : Request → Outcome
  | .register label rows => s.register p label rows
  | .refine label operations output => s.refine p label operations output
  | .sample label limit => (s, s.sample p label limit)
  | .list => (s, .ok s.list)

end Session

end Tabular
