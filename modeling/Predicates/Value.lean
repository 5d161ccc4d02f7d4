/-
This file holds the values that parameters take and their kinds.
-/

import Predicates.Number

namespace Predicates

/-- Lists and mappings are opaque objects to an expression. -/
inductive Value where
  | null
  | bool (value : Bool)
  | number (value : Number)
  | string (text : String)
  | list (members : List Value)
  | dict (entries : List (String × Value))

/-- A kind is declared for a parameter or found for a value. -/
inductive Kind where
  | null
  | bool
  | int
  | float
  | decimal
  | string
  | object
  deriving DecidableEq

namespace Kind

def all : List Kind :=
  [.null, .bool, .int, .float, .decimal, .string, .object]

def name : Kind → String
  | .null => "null"
  | .bool => "bool"
  | .int => "int"
  | .float => "float"
  | .decimal => "decimal"
  | .string => "string"
  | .object => "object"

def ofName? (name : String) : Option Kind :=
  all.find? fun kind => kind.name = name

def isNumeric : Kind → Bool
  | .int => true
  | .float => true
  | .decimal => true
  | _ => false

/-- A condition is a boolean, or an object whose value is only known later. -/
def isCondition : Kind → Bool
  | .bool => true
  | .object => true
  | _ => false

end Kind

def Number.kind : Number → Kind
  | .integer _ => .int
  | .binary _ => .float
  | .decimal _ => .decimal

namespace Value

def kind : Value → Kind
  | .null => .null
  | .bool _ => .bool
  | .number value => value.kind
  | .string _ => .string
  | .list _ => .object
  | .dict _ => .object

/-- The null value tells nothing about the kind of its parameter. -/
def declaredKind (value : Value) : Kind :=
  match value.kind with
  | .null => .object
  | kind => kind

/-- Null fits every kind, every value fits an object, and integers widen to both other kinds of
numbers. -/
def fits (value : Value) (declared : Kind) : Bool :=
  value.kind = .null || declared = .object || value.kind = declared ||
    (value.kind = .int && (declared = .float || declared = .decimal))

end Value

end Predicates
