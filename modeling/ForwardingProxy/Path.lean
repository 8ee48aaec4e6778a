import ForwardingProxy.Text.Split

/-!
Contract: paths of files and directories, as texts with `/` between names.

Owns: joining paths, their components, their parents, and the parts of a file name.

A path is never normalised as a text. Its components leave out empty names and every `.` but a
leading one; `..` stays a component.
-/

namespace ForwardingProxy.Path

/-- One step of a path. -/
inductive Component where
  /-- The leading `/`. -/
  | root
  /-- A leading `.`. -/
  | current
  /-- `..` -/
  | parent
  | name (text : String)
deriving DecidableEq, Repr

/-- A piece between separators that is no step: an empty one or `.`. -/
def isSkipped (piece : List Char) : Bool :=
  piece.isEmpty || piece == ['.']

/-- The step that a piece between separators stands for. -/
def stepOf (piece : List Char) : Component :=
  if piece = ['.', '.'] then .parent else .name (String.ofList piece)

/-- The pieces of a path between separators. -/
def piecesOf (path : List Char) : List (List Char) :=
  Text.splitAt (· == '/') path

/-- The steps of a path. -/
def components (path : String) : List Component :=
  let pieces := piecesOf path.toList
  let steps := (pieces.filter fun piece => !isSkipped piece).map stepOf
  match pieces with
  | [] :: _ :: _ => .root :: steps
  | ['.'] :: _ => .current :: steps
  | _ => steps

/-- Whether a path begins at the root. -/
def isAbsolute (path : String) : Bool :=
  path.toList.head? == some '/'

/-- The path `added` as seen from `base`; an absolute one replaces it. -/
def join (base added : String) : String :=
  if isAbsolute added || base.isEmpty then added
  else if base.toList.getLast? = some '/' then base ++ added
  else base ++ "/" ++ added

/-- A leading `/` or `.` and the text after it. -/
def cutHead : List Char → List Char × List Char
  | '/' :: rest => (['/'], rest)
  | ['.'] => (['.'], [])
  | '.' :: '/' :: rest => (['.'], '/' :: rest)
  | path => ([], path)

/-- The path without its last step; the root and the empty path have none. -/
def parent? (path : String) : Option String :=
  let (head, body) := cutHead path.toList
  match (piecesOf body).reverse.dropWhile isSkipped with
  | [] => if head = ['.'] then some "" else none
  | _ :: before =>
      some (String.ofList
        (head ++ ['/'].intercalate (before.dropWhile isSkipped).reverse))

/-- The steps of `path` below `root`, when it begins with all steps of `root`. -/
def below? (root path : String) : Option (List Component) :=
  let prior := components root
  let steps := components path
  if prior.isPrefixOf steps then some (steps.drop prior.length) else none

/-- A file name cut before its last dot; a dot at the start cuts nothing. -/
def cutExtension (fileName : String) : String × Option String :=
  let reversed := fileName.toList.reverse
  let ending := reversed.takeWhile (· != '.')
  match reversed.dropWhile (· != '.') with
  | _ :: first :: before =>
      (String.ofList (first :: before).reverse, some (String.ofList ending.reverse))
  | _ => (fileName, none)

/-- A file name without its extension. -/
def stem (fileName : String) : String :=
  (cutExtension fileName).1

/-- The extension of a file name. -/
def extension? (fileName : String) : Option String :=
  (cutExtension fileName).2

end ForwardingProxy.Path
