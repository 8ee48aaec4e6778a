import ForwardingProxy.Source.WrittenPath

/-!
Contract: the trees of `use` declarations.

Owns: `Source.UseTree`, its reading, and the imports it stands for.

A path that ends in `self` imports what stands before it, unless it is renamed, where `self` stays
in the path. A name that is renamed to `_` is not imported, nor is a lone placeholder. A `*` behind
a `::` that no path stands before takes a comment between the two for its path.
-/

namespace ForwardingProxy.Source

/-- A tree of imports; every node has the path written in front of it. -/
inductive UseTree where
  | path (segments : List String)
  | renamed (segments : List String) (shortName : String)
  | glob (segments : List String)
  | group (segments : List String) (members : List UseTree)
  /-- A lone placeholder. -/
  | placeholder

/-- A name or a whole module that is imported. -/
inductive UseEntry where
  | name (shortName : String) (path : List String)
  | glob (path : List String)
deriving DecidableEq, Repr

/-- The import of a path under its own last name. -/
def entryOfPath (path : List String) : List UseEntry :=
  match path.reverse with
  | [] => []
  | last :: before =>
      if last = "self" then
        match before with
        | [] => []
        | module :: _ => [.name module before.reverse]
      else [.name last path]

mutual

/-- The imports of a tree below a path. -/
def UseTree.entries (base : List String) : UseTree → List UseEntry
  | .path segments => entryOfPath (base ++ segments)
  | .renamed segments shortName =>
      if shortName = "_" then [] else [.name shortName (base ++ segments)]
  | .glob segments => [.glob (base ++ segments)]
  | .group segments members => entriesOfAll (base ++ segments) members
  | .placeholder => []

/-- The imports of several trees below a path, in their order. -/
def entriesOfAll (base : List String) : List UseTree → List UseEntry
  | [] => []
  | tree :: rest => tree.entries base ++ entriesOfAll base rest

end

/-- The glob that a `*` behind a path and `::` stands for. -/
def globBehind (segments : List String) (star : Token) : UseTree :=
  .glob (if segments.isEmpty then star.comments.take 1 else segments)

/-- The tree of a path that nothing follows. -/
def treeOfPath (segments : List String) (tokens after : List Token) : UseTree :=
  if startsWithKind .placeholder tokens && (tokensUntil tokens after).length = 1 then .placeholder
  else .path segments

mutual

/-- Reads one tree and gives the tokens after it. -/
def readUseTree? : (fuel : Nat) → List Token → Option (UseTree × List Token)
  | 0, _ => none
  | fuel + 1, tokens =>
      let (segments, after) := readPath tokens
      match after with
      | [] => some (treeOfPath segments tokens [], [])
      | next :: rest =>
          if next.isWord "as" then
            match rest with
            | [] => none
            | shortName :: more => some (.renamed segments shortName.text, more)
          else if next.isMark "*" then some (.glob segments, rest)
          else
            let inner := if next.isMark "::" then rest else after
            match groupOf? "\x7b" inner with
            | some (inside, more) => some (.group segments (readUseTrees fuel inside), more)
            | none =>
                match inner with
                | star :: more =>
                    if next.isMark "::" && star.isMark "*" then
                      some (globBehind segments star, more)
                    else some (treeOfPath segments tokens after, after)
                | [] => none

/-- Reads the trees between commas. -/
def readUseTrees : (fuel : Nat) → List Token → List UseTree
  | 0, _ => []
  | _, [] => []
  | fuel + 1, first :: rest =>
      if first.isMark "," then readUseTrees fuel rest
      else
        match readUseTree? fuel (first :: rest) with
        | none => []
        | some (tree, after) =>
            tree :: readUseTrees fuel (if after.length < (first :: rest).length then after else [])

end

end ForwardingProxy.Source
