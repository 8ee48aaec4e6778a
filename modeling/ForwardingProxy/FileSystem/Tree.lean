import ForwardingProxy.FileSystem.Environment
import ForwardingProxy.Path

/-!
Contract: a file system as a value.

Owns: `FileTree`, the lookup of paths in it, and the environment that it stands for.

Every file, directory and link is listed with its absolute place. A path is walked step by step
through directories; a link is walked in its place, and at most forty links are followed. What a
path that ends in `/` names has to be a directory, so no file is made there.
-/

namespace ForwardingProxy

/-- What stands at a place. -/
inductive FileTree.Entry where
  | directory
  | file (content : ByteArray)
  | link (target : String)

/-- The kind of what stands at a place. -/
def FileTree.Entry.kind : FileTree.Entry → EntryKind
  | .directory => .directory
  | .file _ => .file
  | .link _ => .link

/-- All places below the root with what stands there; the root is a directory. -/
structure FileTree where
  entries : List (List String × FileTree.Entry)
  workingPlace : List String
  outputDirectory : Option String

namespace FileTree

/-- The tree with an empty working directory and nothing else. -/
def empty (workingPlace : List String) : FileTree where
  entries := (List.range workingPlace.length).map fun count =>
    (workingPlace.take (count + 1), .directory)
  workingPlace := workingPlace
  outputDirectory := none

/-- What stands at a place. -/
def entry? (tree : FileTree) (place : List String) : Option Entry :=
  if place.isEmpty then some .directory else tree.entries.lookup place

/-- The tree with something else at a place. -/
def withEntry (tree : FileTree) (place : List String) (entry : Entry) : FileTree :=
  { tree with entries := tree.entries.filter (fun listed => listed.1 != place) ++ [(place, entry)] }

/-- The tree without a place and all places below it. -/
def remove (tree : FileTree) (place : List String) : FileTree :=
  { tree with entries := tree.entries.filter fun listed => !place.isPrefixOf listed.1 }

/-- A place that a path leads to; `entry` is `none` when nothing stands there yet. -/
structure Located where
  place : List String
  entry : Option Entry

/-- The names on a path. -/
def names (path : String) : List String :=
  ((Path.piecesOf path.toList).filter fun piece => !piece.isEmpty).map String.ofList

/-- The steps along a path; one that ends in `/` has a last step without a name. -/
def steps (path : String) : List String :=
  names path ++ if path.toList.getLast? = some '/' then [""] else []

/-- How many links are followed on one path. -/
def linkLimit : Nat := 40

/-- How many bytes a name may have. -/
def nameLimit : Nat := 255

/-- How many bytes a path may not reach. -/
def pathLimit : Nat := 4096

/-- What becomes of the last step of a path. -/
inductive LastStep where
  /-- A link there is walked. -/
  | follow
  /-- A link there is kept. -/
  | keep
  /-- A link there is walked, and a file is made where nothing stands. -/
  | create
deriving DecidableEq, Repr

/-- Walks the steps from a directory on. -/
def walk (tree : FileTree) (last : LastStep) (links : Nat) (here : List String) :
    (steps : List String) → Except FileError Located
  | [] => .ok ⟨here, some .directory⟩
  | step :: rest =>
      if step = "" || step = "." then walk tree last links here rest
      else if step = ".." then walk tree last links here.dropLast rest
      else if last = .create && rest = [""] then .error .isDirectory
      else if nameLimit < step.utf8ByteSize then .error .nameTooLong
      else
        let place := here ++ [step]
        match tree.entry? place with
        | none => if rest.isEmpty then .ok ⟨place, none⟩ else .error .notFound
        | some .directory => walk tree last links place rest
        | some (.file content) =>
            if rest.isEmpty then .ok ⟨place, some (.file content)⟩ else .error .notDirectory
        | some (.link target) =>
            if rest.isEmpty && last = .keep then .ok ⟨place, some (.link target)⟩
            else
              match links with
              | 0 => .error .tooManyLinks
              | fewer + 1 =>
                  walk tree last fewer (if Path.isAbsolute target then [] else here)
                    (FileTree.steps target ++ rest)
termination_by steps => (links, steps.length)

/-- The place that steps along a path lead to. -/
def locateBy
    (tree : FileTree)
    (last : LastStep)
    (stepsOf : String → List String)
    (path : String) : Except FileError Located :=
  if path.toList.contains '\x00' then .error .nulInPath
  else if pathLimit ≤ path.utf8ByteSize then .error .nameTooLong
  else if path.isEmpty then .error .notFound
  else
    tree.walk last linkLimit
      (if Path.isAbsolute path then [] else tree.workingPlace) (stepsOf path)

/-- The place that a path leads to. -/
def locate (tree : FileTree) (last : LastStep) (path : String) : Except FileError Located :=
  tree.locateBy last steps path

/-- What stands at the place that a path leads to. -/
def find (tree : FileTree) (path : String) : Except FileError Entry := do
  let located ← tree.locate .follow path
  match located.entry with
  | some entry => .ok entry
  | none => .error .notFound

/-- Whether a path leads to a directory. -/
def isDirectory (tree : FileTree) (path : String) : Bool :=
  match tree.find path with
  | .ok .directory => true
  | _ => false

/-- Whether a path leads to anything. -/
def doesExist (tree : FileTree) (path : String) : Bool :=
  (tree.find path).isOk

/-- The text of a file. -/
def readText (tree : FileTree) (path : String) : Except FileError String := do
  match ← tree.find path with
  | .file content =>
      match String.fromUTF8? content with
      | some text => .ok text
      | none => .error .notText
  | .directory | .link _ => .error .isDirectory

/-- The tree with an empty file where the path leads. -/
def createFile (tree : FileTree) (path : String) : Except FileError FileTree := do
  let located ← tree.locate .create path
  match located.entry with
  | some .directory => .error .isDirectory
  | some _ | none => .ok (tree.withEntry located.place (.file .empty))

/-- The tree with more text at the end of a file. -/
def appendText (tree : FileTree) (path text : String) : Except FileError FileTree := do
  let located ← tree.locate .follow path
  match located.entry with
  | some (.file content) => .ok (tree.withEntry located.place (.file (content ++ text.toUTF8)))
  | some _ => .error .isDirectory
  | none => .error .notFound

/-- The tree with a further directory; a `/` at the end of the path changes nothing. -/
def makeDirectory (tree : FileTree) (path : String) : Except FileError FileTree := do
  let located ← tree.locateBy .keep names path
  match located.entry with
  | some _ => .error .alreadyExists
  | none => .ok (tree.withEntry located.place .directory)

/-- The outcome of making a directory that may be there already. -/
def acceptDirectory (tree : FileTree) (path : String) (error : FileError) :
    Except FileError FileTree :=
  if tree.isDirectory path then .ok tree else .error error

/-- The tree with a directory and those above it. -/
def makeDirectories (tree : FileTree) : (fuel : Nat) → (path : String) → Except FileError FileTree
  | 0, _ => .error (.other "failed to create whole tree")
  | fuel + 1, path =>
      if path.isEmpty then .ok tree
      else
        match tree.makeDirectory path with
        | .ok extended => .ok extended
        | .error .notFound => do
            let parent ←
              match Path.parent? path with
              | some parent => tree.makeDirectories fuel parent
              | none => .error (.other "failed to create whole tree")
            match parent.makeDirectory path with
            | .ok extended => .ok extended
            | .error error => parent.acceptDirectory path error
        | .error error => tree.acceptDirectory path error

/-- The names in a directory. -/
def list (tree : FileTree) (path : String) : Except FileError (List (String × EntryKind)) := do
  let located ← tree.locate .follow path
  match located.entry with
  | some .directory =>
      .ok (tree.entries.filterMap fun (place, entry) =>
        if place.dropLast == located.place && !place.isEmpty then
          place.getLast?.map fun name => (name, entry.kind)
        else none)
  | some _ => .error .notDirectory
  | none => .error .notFound

/-- The tree with something at a path, in directories that are made if need be. -/
def put (tree : FileTree) (path : String) (entry : Entry) : Except FileError FileTree := do
  let parent := (Path.parent? path).getD ""
  let above ← tree.makeDirectories (path.length + 1) parent
  match entry with
  | .directory => above.makeDirectories (path.length + 1) path
  | .file _ => do
      let located ← above.locate .follow path
      .ok (above.withEntry located.place entry)
  | .link _ => do
      let located ← above.locate .keep path
      .ok (above.withEntry located.place entry)

/-- The tree without what stands at a path. -/
def delete (tree : FileTree) (path : String) : Except FileError FileTree := do
  let located ← tree.locate .keep path
  .ok (tree.remove located.place)

/-- The paths of all files and links below the working directory, seen from there and in order. -/
def listing (tree : FileTree) : List String :=
  let below := tree.entries.filter fun listed =>
    listed.2.kind != .directory && tree.workingPlace.isPrefixOf listed.1
  let paths := below.map fun listed =>
    "/".intercalate (listed.1.drop tree.workingPlace.length)
  paths.mergeSort fun left right => decide (left ≤ right)

/-- Changes the tree unless the change fails. -/
def attempt (change : FileTree → Except FileError FileTree) :
    StateM FileTree (Except FileError Unit) := do
  match change (← get) with
  | .ok changed =>
      set changed
      pure (.ok ())
  | .error error => pure (.error error)

/-- The environment whose files are those of the tree. -/
def environment : Environment (StateM FileTree) where
  workingDirectory := do
    let tree ← get
    pure ("/" ++ "/".intercalate tree.workingPlace)
  outputDirectory? := do
    let tree ← get
    pure tree.outputDirectory
  readText := fun path => do
    let tree ← get
    pure (tree.readText path)
  createFile := fun path => attempt fun tree => tree.createFile path
  appendText := fun path text => attempt fun tree => tree.appendText path text
  makeDirectories := fun path => attempt fun tree => tree.makeDirectories (path.length + 1) path
  isDirectory := fun path => do
    let tree ← get
    pure (tree.isDirectory path)
  doesExist := fun path => do
    let tree ← get
    pure (tree.doesExist path)
  list := fun path => do
    let tree ← get
    pure (tree.list path)

end FileTree

end ForwardingProxy
