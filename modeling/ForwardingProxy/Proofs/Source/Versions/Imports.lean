import ForwardingProxy.Proofs.Source.Versions.Statements
import ForwardingProxy.Source.UseTree

/-!
Contract: both versions of a text read the same trees of imports.

Owns: the reading of the trees that `use` declarations hold, which goes the same way in both
versions.

Two steps for each place are enough to read a tree, and what is left of the number of steps does not
matter then. So the versions may begin with different numbers of steps.
-/

namespace ForwardingProxy.Source

variable {slots rest passed all : List Slot} {fuel : Version → Nat}

/-- Both versions read the same trees from here on, once each has a number of steps that grows with
the number of places. -/
structure TreesRead (slots : List Slot) : Prop where
  tree {fuel : Version → Nat} (enough : ∀ version, 2 * slots.length + 1 ≤ fuel version) :
    Reads Settled slots fun version => readUseTree? (fuel version) (tokensOn version slots)
  trees {fuel : Version → Nat} (plain : Plain slots)
    (enough : ∀ version, 2 * slots.length + 2 ≤ fuel version) :
    ∃ trees, ∀ version, readUseTrees (fuel version) (tokensOn version slots) = trees

/-- What is inside of a group that the versions share has fewer places. -/
theorem shorter_inside {inside : List Slot} (plain : Plain passed) (isAll : slots = passed ++ rest)
    {opening : String} (isGroup : groupOf? opening (tokensOn .original slots) =
      some (tokensOn .original inside, tokensOn .original rest)) :
    inside.length < slots.length := by
  have isShorter := length_groupOf? isGroup
  have isLonger := length_le_tokensOn .original inside
  rw [isAll, tokensOn_append, List.length_append, length_tokensOn plain] at isShorter
  rw [isAll, List.length_append]
  omega

/-- The tree of a path that nothing follows. -/
theorem settled_treeOfPath (isAll : slots = passed ++ rest) {segments : Version → List String}
    (settled : Settled passed segments) :
    Settled passed fun version =>
      treeOfPath (segments version) (tokensOn version slots) (tokensOn version rest) := by
  subst isAll
  intro plain
  simp only [treeOfPath, startsWithKind_on, tokensUntil_on, length_tokensOn plain, settled plain]

/-- Both versions read the same trees from any fewer places. -/
def TreesReadBelow (slots : List Slot) : Prop :=
  ∀ places, places.length < slots.length → Fitting places → TreesRead places

/-- A group of trees behind a path. -/
theorem reads_members (below : TreesReadBelow slots) (fitting : Fitting slots)
    (enough : ∀ version, 2 * slots.length ≤ fuel version) {inner : List Slot}
    (isAll : slots = passed ++ inner) {segments : Version → List String}
    (settled : Settled passed segments) {otherwise : Version → Option (UseTree × List Token)}
    (ofOther : StartsShared inner → Reads Settled slots otherwise) :
    Reads Settled slots fun version =>
      match groupOf? "\x7b" (tokensOn version inner) with
      | some (inside, more) =>
          some (.group (segments version) (readUseTrees (fuel version) inside), more)
      | none => otherwise version := by
  cases reads_groupOf? "\x7b" inner with
  | fails isNone =>
      simp only [isNone]
      exact ofOther (startsShared_of_groupOf? isNone)
  | @passes group more inside isInner isSome isInside =>
      simp only [isSome]
      have isParted : slots = (passed ++ group) ++ more := by rw [isAll, isInner, List.append_assoc]
      refine .passes isParted (fun _ => rfl) fun plain => ?_
      obtain ⟨places, areIn, arePlaces⟩ := isInside plain.right
      have isShorter : places.length < slots.length := by
        have isGroup := isSome .original
        rw [arePlaces .original] at isGroup
        refine Nat.lt_of_lt_of_le (shorter_inside plain.right isInner isGroup) ?_
        rw [isAll]
        simp
      have areAmong : passed ++ group <:+: slots := isParted ▸ (List.prefix_append _ more).isInfix
      have fits := fitting.of_infix
        ((areIn.trans (List.suffix_append passed group).isInfix).trans areAmong)
      have isEnough (version : Version) : 2 * places.length + 2 ≤ fuel version :=
        Nat.le_trans (by omega) (enough version)
      obtain ⟨trees, areTrees⟩ :=
        (below places isShorter fits).trees (plain.right.of_infix areIn) isEnough
      simp only [settled plain.left, arePlaces, areTrees]

/-- Both versions read the same tree. -/
theorem tree_of_below (below : TreesReadBelow slots) (fitting : Fitting slots)
    (enough : ∀ version, 2 * slots.length + 1 ≤ fuel version) :
    Reads Settled slots fun version => readUseTree? (fuel version) (tokensOn version slots) := by
  obtain ⟨fewer, rfl, isEnough⟩ := @exists_fewer fuel (2 * slots.length + 0) enough
  obtain ⟨passed, after, segments, isAll, arePath, settled⟩ := (reads_readPath slots).exists_of_some
  simp only [readUseTree?, arePath]
  rcases after with _ | ⟨next | body, rest⟩
  · exact .passes isAll (fun _ => rfl) (settled_treeOfPath isAll settled)
  · have isLast : .token next :: rest <:+ slots := ⟨passed, isAll.symm⟩
    have fits := fitting.of_suffix isLast
    have ofPath : Reads Settled slots fun version =>
        some (treeOfPath (segments version) (tokensOn version slots)
          (tokensOn version (.token next :: rest)), tokensOn version (.token next :: rest)) :=
      .passes isAll (fun _ => rfl) (settled_treeOfPath isAll settled)
    simp only [tokensOn_token, next.isWord_on, next.isMark_on]
    refine .branch (fun isAs => ?_) fun _ => .branch (fun isStar => ?_) fun _ => ?_
    · have leads : (next.on .original).leadsName = true := by
        simp_all [Token.leadsName, Token.isWord]
      have starts := fits.startsShared leads
      rcases rest with _ | ⟨name | body, more⟩
      · exact .fails fun _ => rfl
      · rw [List.append_cons, List.append_cons] at isAll
        exact .passes isAll (fun _ => rfl) fun plain =>
          congrArg (UseTree.renamed · name.text) (settled plain.left.left)
      · exact absurd rfl (starts body)
    · rw [List.append_cons] at isAll
      exact .passes isAll (fun _ => rfl) fun plain => congrArg UseTree.glob (settled plain.left)
    · by_cases areColons : (next.on .original).isMark "::" = true
      · simp only [areColons, if_true, Bool.true_and]
        have isAllBehind := isAll
        rw [List.append_cons] at isAllBehind
        refine reads_members below fitting isEnough isAllBehind
          (fun plain => settled plain.left) fun starts => ?_
        rcases rest with _ | ⟨star | body, more⟩
        · exact .fails fun _ => rfl
        · simp only [tokensOn_token, star.isMark_on]
          refine .branch (fun _ => ?_) fun _ => ofPath
          rw [List.append_cons] at isAllBehind
          refine .passes isAllBehind (fun _ => rfl) fun plain => ?_
          simp only [globBehind, settled plain.left.left, Token.comments, Shared.before_on]
        · exact absurd rfl (starts body)
      · simp only [areColons]
        exact reads_members below fitting isEnough isAll settled fun _ => ofPath
  · rw [List.append_cons] at isAll
    let group (version : Version) : UseTree :=
      .group (segments version) (readUseTrees (fewer version) (body.inside version))
    have noPlain : Settled (passed ++ [.body body]) group := fun plain =>
      absurd (List.mem_append_right passed List.mem_cons_self) plain.not_body
    refine .passes isAll (fun version => ?_) noPlain
    have noOther := (body.encloses version).noOther
    simp [Token.isWord, body.kind, noOther, (body.encloses version).groupOf?, group]

/-- Both versions read the same trees between commas. -/
theorem trees_of_below (below : TreesReadBelow slots) (fitting : Fitting slots)
    (plain : Plain slots) (enough : ∀ version, 2 * slots.length + 2 ≤ fuel version) :
    ∃ trees, ∀ version, readUseTrees (fuel version) (tokensOn version slots) = trees := by
  obtain ⟨fewer, rfl, isEnough⟩ := @exists_fewer fuel (2 * slots.length + 1) enough
  cases slots with
  | nil => exact ⟨[], fun _ => rfl⟩
  | cons slot rest =>
      obtain ⟨first, rfl⟩ := plain slot List.mem_cons_self
      have further {after : List Slot} (isAfter : after <:+ rest) :
          ∃ trees, ∀ version, readUseTrees (fewer version) (tokensOn version after) = trees := by
        have isLast := isAfter.trans (suffix_cons (.token first) rest)
        refine (below after (Nat.lt_succ_of_le isAfter.length_le) (fitting.of_suffix isLast)).trees
          (plain.of_suffix isLast) fun version => Nat.le_trans ?_ (isEnough version)
        have isShorter := isAfter.length_le
        rw [List.length_cons]
        omega
      by_cases isComma : (first.on .original).isMark "," = true
      · obtain ⟨trees, areTrees⟩ := further List.suffix_rfl
        refine ⟨trees, fun version => ?_⟩
        rw [← areTrees version, tokensOn_token, readUseTrees, first.isMark_on version,
          if_pos isComma]
      · have read := (tree_of_below below fitting isEnough).plain plain
        simp only [tokensOn_token] at read
        rcases read with isNone | ⟨tree, after, isLast, isSome⟩
        · refine ⟨[], fun version => ?_⟩
          rw [tokensOn_token, readUseTrees, first.isMark_on version, if_neg isComma, isNone]
        · have sameLengths (version : Version) :
              (tokensOn version after).length < (first.on version :: tokensOn version rest).length ↔
                after.length < (Slot.token first :: rest).length := by
            rw [← tokensOn_token, length_tokensOn plain, length_tokensOn (plain.of_suffix isLast)]
          by_cases isShorter : after.length < (Slot.token first :: rest).length
          · obtain ⟨trees, areTrees⟩ := further (suffix_of_shorter isLast isShorter)
            refine ⟨tree :: trees, fun version => ?_⟩
            rw [tokensOn_token, readUseTrees, first.isMark_on version, if_neg isComma, isSome]
            simp only [if_pos ((sameLengths version).mpr isShorter), areTrees]
          · refine ⟨[tree], fun version => ?_⟩
            rw [tokensOn_token, readUseTrees, first.isMark_on version, if_neg isComma, isSome]
            simp only [if_neg (mt (sameLengths version).mp isShorter), readUseTrees_nil]

/-- Both versions read the same trees. -/
theorem treesRead (fitting : Fitting slots) : TreesRead slots := by
  induction isLength : slots.length using Nat.strong_induction_on generalizing slots with
  | _ length inductionHypothesis =>
      subst isLength
      have below : TreesReadBelow slots := fun places isShorter fits =>
        inductionHypothesis places.length isShorter fits rfl
      exact {
        tree := tree_of_below below fitting
        trees := trees_of_below below fitting }

end ForwardingProxy.Source
