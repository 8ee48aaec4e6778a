/-!
Contract: types whose names are fully resolved.

Owns: `ResolvedType`, its decidable equality, its source text and its tag.

An optional type is kept as a flag on the type it wraps, so that the flag and not a wrapper decides
how a value travels. Two resolved types are equal when names, arguments in order and flags agree.
-/

namespace ForwardingProxy

/-- A qualified name with its arguments; `optional` puts one `Option` around both. -/
inductive ResolvedType where
  | mk (name : String) (arguments : List ResolvedType) (optional : Bool)
deriving Repr

namespace ResolvedType

/-- The qualified name of the type without its arguments. -/
def name : ResolvedType → String
  | .mk name _ _ => name

/-- The type arguments in order. -/
def arguments : ResolvedType → List ResolvedType
  | .mk _ arguments _ => arguments

/-- Whether the type is wrapped in `Option`. -/
def optional : ResolvedType → Bool
  | .mk _ _ optional => optional

/-- The type of that name, without arguments and not optional. -/
def named (name : String) : ResolvedType :=
  .mk name [] false

/-- The same type with other arguments. -/
def withArguments (type : ResolvedType) (arguments : List ResolvedType) : ResolvedType :=
  .mk type.name arguments type.optional

/-- The same type wrapped in `Option`. -/
def asOptional (type : ResolvedType) : ResolvedType :=
  .mk type.name type.arguments true

/-- The type with the single value `()`. -/
def unit : ResolvedType :=
  named "()"

instance : Inhabited ResolvedType := ⟨unit⟩

/-- The name of the unit type, not wrapped; arguments are not looked at. -/
def isUnit (type : ResolvedType) : Bool :=
  type.name == "()" && !type.optional

/-- The text that identifies the type at run time: its name alone. -/
def tag (type : ResolvedType) : String :=
  type.name

mutual

/-- Source text of the type. -/
def render : ResolvedType → String
  | .mk name arguments optional =>
      let base :=
        if arguments.isEmpty then name
        else name ++ "<" ++ ", ".intercalate (renderAll arguments) ++ ">"
      if optional then "std::option::Option<" ++ base ++ ">" else base

/-- Source texts of several types. -/
def renderAll : List ResolvedType → List String
  | [] => []
  | type :: rest => render type :: renderAll rest

end

mutual

/-- Decides whether two resolved types are equal. -/
private def decideEqual : (left right : ResolvedType) → Decidable (left = right)
  | .mk leftName leftArguments leftOptional, .mk rightName rightArguments rightOptional =>
      if sameName : leftName = rightName then
        match decideEqualAll leftArguments rightArguments with
        | isTrue sameArguments =>
            if sameOptional : leftOptional = rightOptional then
              isTrue (by rw [sameName, sameArguments, sameOptional])
            else isFalse (by intro equality; cases equality; exact sameOptional rfl)
        | isFalse differ => isFalse (by intro equality; cases equality; exact differ rfl)
      else isFalse (by intro equality; cases equality; exact sameName rfl)

/-- Decides whether two lists of resolved types are equal. -/
private def decideEqualAll : (left right : List ResolvedType) → Decidable (left = right)
  | [], [] => isTrue rfl
  | [], _ :: _ => isFalse (by intro equality; cases equality)
  | _ :: _, [] => isFalse (by intro equality; cases equality)
  | left :: leftRest, right :: rightRest =>
      match decideEqual left right with
      | isTrue sameHead =>
          match decideEqualAll leftRest rightRest with
          | isTrue sameTail => isTrue (by rw [sameHead, sameTail])
          | isFalse differ => isFalse (by intro equality; cases equality; exact differ rfl)
      | isFalse differ => isFalse (by intro equality; cases equality; exact differ rfl)

end

instance : DecidableEq ResolvedType := decideEqual

end ResolvedType

end ForwardingProxy
