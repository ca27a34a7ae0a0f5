import CyberRange.Json.Parser
import CyberRange.Calendar.Reading
import CyberRange.Text.Quoted

namespace CyberRange

/-! What can be wrong with given data, where, and how it is reported. -/

inductive Place where
  | key (name : String)
  | index (position : Nat)
deriving Repr, DecidableEq

def Place.toJson : Place → Json
  | .key name => .text name
  | .index position => .int position

inductive Problem where
  | missing
  | notText
  | tooLong (limit : Nat)
  | notInteger
  | unreadableInteger
  | fractional
  | oversizedInteger
  | infinite
  | below (least : Int)
  | notBoolean
  | unreadableBoolean
  | notList
  | notTuple
  | notMapping
  /-- A text that names no case of a closed family. -/
  | unknownCase (cases : List String)
  /-- A value that is none of the permitted ones. -/
  | unknownOption (options : List String)
  /-- A value that is no mapping where a record of the given name is read. -/
  | notRecord (name : String)
  | notBody
  | notMoment
  | unreadableMoment (fault : Timestamp.DateFault)
  /-- A number that counts to no moment. -/
  | unreachableMoment (fault : Timestamp.DateFault)
  /-- The fields are well-formed but do not fit together. -/
  | rejected (reason : String)
  | frozen
  | notJson (defect : Json.Defect)
deriving Repr, DecidableEq

structure Issue where
  problem : Problem
  place : List Place
  input : Json

namespace Problem

/-- Quoted alternatives, the last two joined by "or". -/
def alternatives : List String → String
  | [] => ""
  | [last] => Text.quoted last
  | [first, last] => Text.quoted first ++ " or " ++ Text.quoted last
  | first :: rest => Text.quoted first ++ ", " ++ alternatives rest

def code : Problem → String
  | .missing => "missing"
  | .notText => "string_type"
  | .tooLong _ => "string_too_long"
  | .notInteger => "int_type"
  | .unreadableInteger => "int_parsing"
  | .fractional => "int_from_float"
  | .oversizedInteger => "int_parsing_size"
  | .infinite => "finite_number"
  | .below _ => "greater_than_equal"
  | .notBoolean => "bool_type"
  | .unreadableBoolean => "bool_parsing"
  | .notList => "list_type"
  | .notTuple => "tuple_type"
  | .notMapping => "dict_type"
  | .unknownCase _ => "enum"
  | .unknownOption _ => "literal_error"
  | .notRecord _ => "model_type"
  | .notBody => "model_attributes_type"
  | .notMoment => "datetime_type"
  | .unreadableMoment _ => "datetime_from_date_parsing"
  | .unreachableMoment _ => "datetime_parsing"
  | .rejected _ => "value_error"
  | .frozen => "frozen_instance"
  | .notJson _ => "json_invalid"

def message : Problem → String
  | .missing => "Field required"
  | .notText => "Input should be a valid string"
  | .tooLong limit =>
      "String should have at most " ++ toString limit ++
        if limit = 1 then " character" else " characters"
  | .notInteger => "Input should be a valid integer"
  | .unreadableInteger =>
      "Input should be a valid integer, unable to parse string as an integer"
  | .fractional => "Input should be a valid integer, got a number with a fractional part"
  | .oversizedInteger =>
      "Unable to parse input string as an integer, exceeded maximum size"
  | .infinite => "Input should be a finite number"
  | .below least => "Input should be greater than or equal to " ++ toString least
  | .notBoolean => "Input should be a valid boolean"
  | .unreadableBoolean => "Input should be a valid boolean, unable to interpret input"
  | .notList => "Input should be a valid list"
  | .notTuple => "Input should be a valid tuple"
  | .notMapping => "Input should be a valid dictionary"
  | .unknownCase cases => "Input should be " ++ alternatives cases
  | .unknownOption options => "Input should be " ++ alternatives options
  | .notRecord name => "Input should be a valid dictionary or instance of " ++ name
  | .notBody => "Input should be a valid dictionary or object to extract fields from"
  | .notMoment => "Input should be a valid datetime"
  | .unreadableMoment fault => "Input should be a valid datetime or date, " ++ fault.message
  | .unreachableMoment fault => "Input should be a valid datetime, " ++ fault.message
  | .rejected reason => "Value error, " ++ reason
  | .frozen => "Instance is frozen"
  | .notJson _ => "JSON decode error"

def context : Problem → Option (List (String × Json))
  | .tooLong limit => some [("max_length", .int limit)]
  | .below least => some [("ge", .int least)]
  | .unknownCase cases => some [("expected", .text (alternatives cases))]
  | .unknownOption options => some [("expected", .text (alternatives options))]
  | .notRecord name => some [("class_name", .text name)]
  | .unreadableMoment fault => some [("error", .text fault.message)]
  | .unreachableMoment fault => some [("error", .text fault.message)]
  | .notJson defect => some [("error", .text defect.message)]
  | _ => none

/-- A rejection carries the reason itself as a detail, and that has no written
form; every other detail is plain data. -/
def isWritable : Problem → Bool
  | .rejected _ => false
  | _ => true

end Problem

namespace Issue

/-- The same issue seen from outside: one more step leads to it. -/
def under (step : Place) (issue : Issue) : Issue :=
  { issue with place := step :: issue.place }

def toJson (issue : Issue) : Json :=
  .object <|
    [("type", .text issue.problem.code), ("loc", .list (issue.place.map Place.toJson)),
      ("msg", .text issue.problem.message), ("input", issue.input)] ++
      match issue.problem.context with
      | none => []
      | some details => [("ctx", .object details)]

end Issue

end CyberRange
