import ForwardingProxy.Name

/-!
Contract: types as they are written, before any name in them is resolved.

Owns: `TypeSyntax`, its decidable equality and its text.
-/

namespace ForwardingProxy

/-- A written type. -/
inductive TypeSyntax where
  /-- `Vec<i32>`, `crate::geo::Point`, `f64` -/
  | path (segments : List String) (arguments : List TypeSyntax)
  /-- `&T` and `&mut T` -/
  | reference (mutable : Bool) (inner : TypeSyntax)
  /-- `dyn Any` -/
  | traitObject (segments : List String)
  /-- `()` -/
  | unit
  /-- Any other type, as its text. -/
  | unsupported (text : String)
deriving Repr

namespace TypeSyntax

instance : Inhabited TypeSyntax := ⟨unit⟩

mutual

/-- Text of the type in one standard spelling. -/
def render : TypeSyntax → String
  | .path segments arguments =>
      if arguments.isEmpty then Name.join segments
      else Name.join segments ++ "<" ++ ", ".intercalate (renderAll arguments) ++ ">"
  | .reference mutable inner => (if mutable then "&mut " else "&") ++ render inner
  | .traitObject segments => "dyn " ++ Name.join segments
  | .unit => "()"
  | .unsupported text => text

/-- Texts of several types. -/
def renderAll : List TypeSyntax → List String
  | [] => []
  | type :: rest => render type :: renderAll rest

end

/-- The last segment of a path or of a trait object's path. -/
def lastSegment? : TypeSyntax → Option String
  | .path segments _ => segments.getLast?
  | .traitObject segments => segments.getLast?
  | _ => none

mutual

/-- Decides whether two types are equal. -/
private def decideEqual : (left right : TypeSyntax) → Decidable (left = right)
  | .path leftSegments leftArguments, .path rightSegments rightArguments =>
      if sameSegments : leftSegments = rightSegments then
        match decideEqualAll leftArguments rightArguments with
        | isTrue sameArguments => isTrue (by rw [sameSegments, sameArguments])
        | isFalse differ => isFalse (by intro equality; cases equality; exact differ rfl)
      else isFalse (by intro equality; cases equality; exact sameSegments rfl)
  | .reference leftMutable leftInner, .reference rightMutable rightInner =>
      if sameMutable : leftMutable = rightMutable then
        match decideEqual leftInner rightInner with
        | isTrue sameInner => isTrue (by rw [sameMutable, sameInner])
        | isFalse differ => isFalse (by intro equality; cases equality; exact differ rfl)
      else isFalse (by intro equality; cases equality; exact sameMutable rfl)
  | .traitObject leftSegments, .traitObject rightSegments =>
      if same : leftSegments = rightSegments then isTrue (by rw [same])
      else isFalse (by intro equality; cases equality; exact same rfl)
  | .unit, .unit => isTrue rfl
  | .unsupported leftText, .unsupported rightText =>
      if same : leftText = rightText then isTrue (by rw [same])
      else isFalse (by intro equality; cases equality; exact same rfl)
  | .path _ _, .reference _ _ | .path _ _, .traitObject _
  | .path _ _, .unit | .path _ _, .unsupported _
  | .reference _ _, .path _ _ | .reference _ _, .traitObject _
  | .reference _ _, .unit | .reference _ _, .unsupported _
  | .traitObject _, .path _ _ | .traitObject _, .reference _ _
  | .traitObject _, .unit | .traitObject _, .unsupported _
  | .unit, .path _ _ | .unit, .reference _ _
  | .unit, .traitObject _ | .unit, .unsupported _
  | .unsupported _, .path _ _ | .unsupported _, .reference _ _
  | .unsupported _, .traitObject _ | .unsupported _, .unit =>
      isFalse (by intro equality; cases equality)

/-- Decides whether two lists of types are equal. -/
private def decideEqualAll : (left right : List TypeSyntax) → Decidable (left = right)
  | [], [] => isTrue rfl
  | [], _ :: _ => isFalse (by intro equality; cases equality)
  | _ :: _, [] => isFalse (by intro equality; cases equality)
  | left :: leftRest, right :: rightRest =>
      match decideEqual left right with
      | isTrue sameHead =>
          match decideEqualAll leftRest rightRest with
          | isTrue sameTail => isTrue (by rw [sameHead, sameTail])
          | isFalse differ => isFalse (by intro equality; cases equality; exact differ rfl)
      | isFalse differ => isFalse (by intro equality; cases equality; exact differ rfl)

end

instance : DecidableEq TypeSyntax := decideEqual

end TypeSyntax

end ForwardingProxy
