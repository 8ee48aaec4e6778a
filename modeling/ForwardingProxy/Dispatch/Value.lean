import ForwardingProxy.Dispatch.Call

/-!
Contract: values that travel between a proxy and its dispatcher.

Owns: `Dispatch.Value` with its type, `cast`, which takes a dispatcher's answer as the type that a
member returns, and `argument?`, which takes an argument as the type that a dispatcher expects.

A value is taken as its own type only. A member that returns unit takes any answer.
-/

namespace ForwardingProxy.Dispatch

/-- The types of travelling values. -/
inductive ValueType where
  | int32
  | int64
  | boolean
  | string
  | stringSlice
  | optionalInt32
  | int32List
  | unit
deriving DecidableEq, Repr

/-- The full name of the type. -/
def ValueType.name : ValueType → String
  | .int32 => "i32"
  | .int64 => "i64"
  | .boolean => "bool"
  | .string => "alloc::string::String"
  | .stringSlice => "&str"
  | .optionalInt32 => "core::option::Option<i32>"
  | .int32List => "alloc::vec::Vec<i32>"
  | .unit => "()"

/-- A value of some type. -/
inductive Value where
  | int32 (value : Int32)
  | int64 (value : Int64)
  | boolean (value : Bool)
  | string (value : String)
  | stringSlice (value : String)
  | optionalInt32 (value : Option Int32)
  | int32List (value : List Int32)
  | unit
deriving DecidableEq, Repr

/-- The type that the value has. -/
def Value.type : Value → ValueType
  | .int32 _ => .int32
  | .int64 _ => .int64
  | .boolean _ => .boolean
  | .string _ => .string
  | .stringSlice _ => .stringSlice
  | .optionalInt32 _ => .optionalInt32
  | .int32List _ => .int32List
  | .unit => .unit

/-- A dispatcher's answer that is not of the type its call returns. -/
structure WrongAnswer where
  call : Call
  expected : ValueType
deriving DecidableEq, Repr

/-- The wrong answer in words. -/
def WrongAnswer.message (answer : WrongAnswer) : String :=
  "dispatcher returned the wrong type for `" ++ answer.call.describe ++ "`: expected "
    ++ answer.expected.name

/-- The answer to a call as a value of the expected type. -/
def cast (call : Call) (expected : ValueType) (answer : Value) : Except WrongAnswer Value :=
  if expected = .unit then .ok .unit
  else if answer.type = expected then .ok answer
  else .error ⟨call, expected⟩

/-- The argument at that place, when it is of the expected type. -/
def argument? (arguments : List Value) (place : Nat) (expected : ValueType) : Option Value :=
  arguments[place]?.filter fun value => value.type == expected

end ForwardingProxy.Dispatch
