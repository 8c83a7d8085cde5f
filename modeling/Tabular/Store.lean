import Tabular.Directory
import Tabular.Table.Basic
import Tabular.Text.Quoted

/-!
# Stores

Tables under names and, kept beside them, notes under the same names: of the size of the table, the
table it came from and the operations that made it.

* `Store`: tables and notes in two directories.
* `TableInfo`: the notes of a table.
* `Request`, `answer`: what a store can be asked for, and what it answers.
-/

namespace Tabular

/-- What is noted about a table. -/
structure TableInfo where
  name : String
  rowCount : Nat
  columnCount : Nat
  source : String
  operations : List String
deriving DecidableEq

/-- Tables under names, and the notes about them. -/
structure Store where
  tables : Directory Table
  registry : Directory TableInfo

/-- A name under which there is no table. -/
structure MissingTable where
  name : String
deriving DecidableEq

/-- The wording of the error: the name in quotes. -/
def MissingTable.message (e : MissingTable) : String :=
  Text.quote e.name

namespace Store

/-- A store without tables. -/
def empty : Store := ⟨.empty, .empty⟩

/-- The note about a table. -/
def infoOf (name : String) (rows : Table) (source : String) (operations : List String) : TableInfo :=
  ⟨name, rows.length, rows.width, source, operations⟩

/-- The names of the notes in order. -/
def names (s : Store) : List String :=
  s.registry.names

/-- The notes of all tables, in the order in which the names were first stored. -/
def infos (s : Store) : List TableInfo :=
  s.registry.values

/-- Whether there is a table under a name. -/
def contains (s : Store) (name : String) : Bool :=
  s.tables.contains name

/-- The store with a table put under a name, and with the note about it. -/
def put (s : Store) (name : String) (rows : Table) (source : String) (operations : List String) :
    Store :=
  ⟨s.tables.put name rows, s.registry.put name (infoOf name rows source operations)⟩

/-- The store without the table of a name and the note about it. -/
def drop (s : Store) (name : String) : Store :=
  ⟨s.tables.erase name, s.registry.erase name⟩

/-- The store without tables and notes. -/
def close (s : Store) : Store :=
  ⟨s.tables.clear, s.registry.clear⟩

/-- The table under a name. -/
def get (s : Store) (name : String) : Except MissingTable Table :=
  (s.tables.find? name).elim (.error ⟨name⟩) .ok

/-- The notes of the table under a name. -/
def info (s : Store) (name : String) : Except MissingTable TableInfo :=
  (s.registry.find? name).elim (.error ⟨name⟩) .ok

/-- The count of rows that is noted of a table. -/
def rowCount (s : Store) (name : String) : Except MissingTable Nat :=
  (s.info name).map (·.rowCount)

/-- The count of columns that is noted of a table. -/
def columnCount (s : Store) (name : String) : Except MissingTable Nat :=
  (s.info name).map (·.columnCount)

/-- What a store can be asked for. -/
inductive Request where
  | put (name : String) (rows : Table) (source : String) (operations : List String)
  | drop (name : String)
  | close
  | get (name : String)
  | contains (name : String)
  | rowCount (name : String)
  | columnCount (name : String)

/-- The answer of a store to a request. -/
inductive Reply where
  | done
  | info (info : TableInfo)
  | rows (rows : Table)
  | truth (b : Bool)
  | count (n : Nat)

/-- The store after a request, and its answer or its error. -/
def answer (s : Store) : Request → Store × Except MissingTable Reply
  | .put name rows source operations =>
    (s.put name rows source operations, .ok (.info (infoOf name rows source operations)))
  | .drop name => (s.drop name, .ok .done)
  | .close => (s.close, .ok .done)
  | .get name => (s, (s.get name).map .rows)
  | .contains name => (s, .ok (.truth (s.contains name)))
  | .rowCount name => (s, (s.rowCount name).map .count)
  | .columnCount name => (s, (s.columnCount name).map .count)

end Store

end Tabular
