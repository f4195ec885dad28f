import Relata.Error
import Relata.Expr

/-!
Reasons for which a query has no answer.
-/

namespace Relata

inductive Fault
  | unknownRelation (name : String)
  | unknownColumn (qualifier column : String)
  | unknownQualifier (qualifier : String)
  /-- A condition on rows that is not a truth value. -/
  | condition (kind : Kind)
  /-- An operand of AND, OR or NOT that is not a truth value. -/
  | operand (kind : Kind)
  | incomparable (lhs : Kind) (op : Comparison) (rhs : Kind)
  | negativeLimit
  | limit (kind : Kind)
  deriving DecidableEq

namespace Fault

def message : Fault → String
  | .unknownRelation name => "relation \"" ++ name ++ "\" does not exist"
  | .unknownColumn qualifier column =>
    "column \"" ++ qualifier ++ "\".\"" ++ column ++ "\" does not exist"
  | .unknownQualifier qualifier => "missing FROM-clause entry for table \"" ++ qualifier ++ "\""
  | .condition kind => "argument of WHERE must be type boolean, not " ++ kind.name
  | .operand kind => "argument of AND/OR/NOT must be type boolean, not " ++ kind.name
  | .incomparable lhs op rhs =>
    "operator does not exist: " ++ lhs.name ++ " " ++ op.symbol ++ " " ++ rhs.name
  | .negativeLimit => "LIMIT must not be negative"
  | .limit kind => "argument of LIMIT must be an integer, not " ++ kind.name

def error (fault : Fault) : Error := .invalidStatement fault.message

end Fault

end Relata
