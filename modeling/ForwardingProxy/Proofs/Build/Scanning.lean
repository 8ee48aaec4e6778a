import ForwardingProxy.Build
import ForwardingProxy.FileSystem.Tree

/-!
Contract: what happens to a tree of files while it is scanned.

Owns: actions that leave a tree as it is, the fact that scanning is one of them, and that its failures
are errors of reading and never rejections.
-/

namespace ForwardingProxy

open FileTree (environment)

/-! ### Actions that read -/

/-- The action leaves the tree as it is. -/
def FileTree.Reads {α : Type} (action : StateM FileTree α) : Prop :=
  ∀ tree, (action tree).2 = tree

namespace FileTree.Reads

variable {α β : Type}

theorem pure (value : α) : Reads (Pure.pure value) := fun _ => rfl

theorem bind {first : StateM FileTree α} {next : α → StateM FileTree β} (reads : Reads first)
    (readNext : ∀ value, Reads (next value)) : Reads (first >>= next) := by
  intro tree
  have unchanged := reads tree
  change (next (first tree).1 (first tree).2).2 = tree
  rw [unchanged]
  exact readNext (first tree).1 tree

theorem mapM {action : α → StateM FileTree β} (reads : ∀ value, Reads (action value))
    (values : List α) : Reads (values.mapM action) := by
  induction values with
  | nil => exact pure []
  | cons value rest inductionHypothesis =>
      rw [List.mapM_cons]
      exact (reads value).bind fun _ => inductionHypothesis.bind fun _ => pure _

end FileTree.Reads

/-! ### Scanning -/

namespace Scan

open FileTree (Reads)

theorem filesBelow_reads (depth : Nat) (path : String) :
    Reads (filesBelow environment depth path) := by
  induction depth generalizing path with
  | zero => exact .pure []
  | succ depth inductionHypothesis =>
      rw [filesBelow]
      refine Reads.bind (fun _ => rfl) fun listed => ?_
      cases listed with
      | error error => exact .pure []
      | ok entries =>
          refine Reads.bind (Reads.mapM (fun entry => ?_) _) fun _ => .pure _
          obtain ⟨name, kind⟩ := entry
          cases kind with
          | file | link => exact .pure _
          | directory => exact inductionHypothesis _

theorem collectAll_reads (sources : List (String × String)) (table : SymbolTable) :
    Reads (collectAll environment sources table) := by
  induction sources generalizing table with
  | nil => exact .pure _
  | cons source rest inductionHypothesis =>
      rw [collectAll]
      refine Reads.bind (fun _ => rfl) fun text => ?_
      cases text with
      | error error => exact .pure _
      | ok text => exact inductionHypothesis _

theorem directory_reads (root : String) (table : SymbolTable) :
    Reads (directory environment root table) := by
  refine Reads.bind (fun _ => rfl) fun isDirectory => ?_
  cases isDirectory with
  | false => exact .pure _
  | true => exact (filesBelow_reads _ _).bind fun _ => collectAll_reads _ _

theorem collectAll_not_rejected (sources : List (String × String)) (table : SymbolTable)
    (tree : FileTree) (messages : List String) :
    (collectAll environment sources table tree).1 ≠ .error (.rejected messages) := by
  induction sources generalizing table with
  | nil => nofun
  | cons source rest inductionHypothesis =>
      have isRead : environment.readText source.1 tree = (tree.readText source.1, tree) := rfl
      simp only [collectAll, bind, StateT.bind, isRead]
      cases tree.readText source.1 with
      | error error => nofun
      | ok text => exact inductionHypothesis _

theorem directory_not_rejected (root : String) (table : SymbolTable) (tree : FileTree)
    (messages : List String) :
    (directory environment root table tree).1 ≠ .error (.rejected messages) := by
  have isAsked : environment.isDirectory root tree = (tree.isDirectory root, tree) := rfl
  simp only [directory, bind, StateT.bind, isAsked]
  cases tree.isDirectory root with
  | false => nofun
  | true => exact collectAll_not_rejected _ _ _ _

end Scan

/-! ### Builds -/

namespace Build

open FileTree (Reads)

theorem scanAll_reads (roots : List String) (table : SymbolTable) :
    Reads (scanAll environment roots table) := by
  induction roots generalizing table with
  | nil => exact .pure _
  | cons root rest inductionHypothesis =>
      rw [scanAll]
      refine (Scan.directory_reads root table).bind fun scanned => ?_
      cases scanned with
      | error failure => exact .pure _
      | ok extended => exact (inductionHypothesis extended).bind fun _ => .pure _

theorem directory?_reads (build : Build) : Reads (build.directory? environment) := by
  unfold directory?
  cases build.outputDirectory with
  | some directory => exact .pure _
  | none => exact fun _ => rfl

theorem scanAll_not_rejected (roots : List String) (table : SymbolTable) (tree : FileTree)
    (messages : List String) :
    (scanAll environment roots table tree).1.2 ≠ .error (.rejected messages) := by
  induction roots generalizing table with
  | nil => nofun
  | cons root rest inductionHypothesis =>
      have unchanged := Scan.directory_reads root table tree
      have unrejected := Scan.directory_not_rejected root table tree messages
      simp only [scanAll, bind, StateT.bind]
      cases scanned : Scan.directory environment root table tree with
      | mk result after =>
          rw [scanned] at unchanged unrejected
          obtain rfl : after = tree := unchanged
          cases result with
          | error failure => exact unrejected
          | ok extended => exact inductionHypothesis extended

end Build

end ForwardingProxy
