import Relata.Sql.Expr
import Relata.Statement

/-!
Written statements and commands.
-/

namespace Relata

def SelectItem.sql : SelectItem → Sql
  | .expr e => e.sql
  | .aliased e aliasName => e.sql ++ Sql.text (" AS " ++ aliasName)
  | .wildcard ref => Sql.text (Sql.name ref.qualifier ++ ".*")

def OrderTerm.sql (term : OrderTerm) : Sql :=
  term.expr.sql ++ match term.direction with
    | some .asc => Sql.text " ASC"
    | some .desc => Sql.text " DESC"
    | none => []

def TableRef.sql : TableRef → Sql
  | .table name (some aliasName) => Sql.text (Sql.name name ++ " " ++ Sql.name aliasName)
  | .table name none => Sql.text (Sql.name name)
  | .derived name => Sql.text (Sql.name name)

def JoinKind.keyword : JoinKind → String
  | .inner => " INNER JOIN "
  | .left => " LEFT JOIN "

/-- A filter's clause. A junction without operands constrains nothing that is worth writing. -/
def filterSql : Option Expr → Sql
  | none => []
  | some e => if e.isEmptyJunction then [] else Sql.text " WHERE " ++ e.sql

def orderSql (terms : List OrderTerm) : Sql :=
  if terms.isEmpty then []
  else Sql.text " ORDER BY " ++ Sql.join ", " (terms.map OrderTerm.sql)

def limitSql : Option Expr → Sql
  | none => []
  | some e => Sql.text " LIMIT " ++ e.sql

mutual

def Query.sql : Query → Sql
  | ⟨items, source, joins, filter, order, limit⟩ =>
    Sql.text "SELECT " ++ Sql.join ", " (items.map SelectItem.sql) ++
      Sql.text " FROM " ++ source.sql ++ joinsSql joins ++
      filterSql filter ++ orderSql order ++ limitSql limit

def Source.sql : Source → Sql
  | .table ref => ref.sql
  | .subquery lateral query aliasName =>
    Sql.text (if lateral then "LATERAL (" else "(") ++ query.sql ++ Sql.text (") " ++ aliasName)

def joinsSql : List Join → Sql
  | [] => []
  | ⟨kind, source, condition⟩ :: rest =>
    Sql.text kind.keyword ++ source.sql ++ Sql.text " ON " ++ condition.sql ++ joinsSql rest

end

def namesSql (separator : String) (names : List String) : Sql :=
  Sql.text (separator.intercalate (names.map Sql.name))

def Insert.sql (insert : Insert) : Sql :=
  Sql.text ("INSERT INTO " ++ Sql.name insert.table.name) ++
    (if insert.columns.isEmpty then Sql.text " DEFAULT VALUES"
      else Sql.text " (" ++ namesSql ", " insert.columns ++ Sql.text ") VALUES (" ++
        Sql.join ", " (exprsSql insert.values) ++ Sql.text ")") ++
    (if insert.returning then Sql.text " RETURNING *" else [])

/-- The type that a column is created with: the narrowest integer that holds so many bytes. -/
def ColumnType.sqlName : ColumnType → String
  | .boolean => "BOOLEAN"
  | .integer width =>
    if width = 1 ∨ width = 2 then "INT2" else if width = 3 ∨ width = 4 then "INT4" else "INT8"
  | .text => "TEXT"

def ColumnDef.sql (column : ColumnDef) : Sql :=
  Sql.text (Sql.name column.name ++ " " ++ column.type.sqlName ++
    (if column.autoIncrement then " GENERATED BY DEFAULT AS IDENTITY" else "") ++
    (if column.nullable then "" else " NOT NULL"))

def CreateTable.sql (create : CreateTable) : Sql :=
  Sql.text "CREATE TABLE " ++ namesSql "." create.name ++ Sql.text " (" ++
    Sql.join ", " (create.columns.map ColumnDef.sql) ++
    (if create.primaryKey.isEmpty then []
      else Sql.text ", PRIMARY KEY (" ++ namesSql ", " create.primaryKey ++ Sql.text ")") ++
    Sql.text ")"

def DropTable.sql (drop : DropTable) : Sql :=
  Sql.text (if drop.ifExists then "DROP TABLE IF EXISTS " else "DROP TABLE ") ++
    namesSql "." drop.name

def Statement.sql : Statement → Sql
  | .query q => q.sql
  | .insert row => row.sql

def Command.sql : Command → Sql
  | .run statement => statement.sql
  | .createTable create => create.sql
  | .dropTable drop => drop.sql

end Relata
