import Mathlib.Tactic
import Reckoner.Proofs.Expression.Descent

/-!
# Canonical trees

A tree that is read from a text is canonical: products stand below sums, and operators of one rank
join from left to right. Reading its leaves and operators from left to right gives back the tokens
of the text, with each number replaced by what its signs make of it, and it is the only canonical
tree that reads so.
-/

namespace Reckoner

open Spelling SignedNumber

/-! ## Reading a tree from left to right -/

/-- A leaf or an operator of a tree. -/
inductive Item where
  | number (d : Decimal)
  | operator (op : Operator)
  | foreign (name : String)
deriving DecidableEq, Repr

/-- Whether an item is an operator that adds or subtracts. -/
def Item.IsSum : Item → Prop
  | .operator op => op.isProduct = false
  | .number _ | .foreign _ => False

/-- The item of a token. -/
def Token.item : Token → Item
  | .number x => .number (.finite x)
  | .operator op => .operator op

/-- The tokens of a chain, none of its numbers having signs. -/
def Chain.tokens (chain : Chain) : List Token :=
  .number chain.first :: chain.links.flatMap fun link => [.operator link.1, .number link.2]

namespace Tree

/-- The leaves and operators of a tree from left to right. -/
def inOrder : Tree → List Item
  | .number d => [.number d]
  | .node op left right => left.inOrder ++ .operator op :: right.inOrder
  | .foreign name left right => left.inOrder ++ .foreign name :: right.inOrder

/-- Arranging a chain keeps its numbers and operators in order. -/
theorem inOrder_arrange (before? : Option (Tree × Operator)) (term : Tree)
    (links : List (Operator × Number)) :
    (arrange before? term links).inOrder = (close before? term).inOrder ++
      links.flatMap fun link => [.operator link.1, .number (.finite link.2)] := by
  induction links generalizing before? term with
  | nil => exact (List.append_nil _).symm
  | cons link links ih =>
      obtain ⟨op, x⟩ := link
      rw [arrange]
      split
      · rw [ih]
        cases before? <;> simp [close, inOrder, leaf]
      · rw [ih]
        simp [close, inOrder, leaf]

theorem inOrder_ofChain (chain : Chain) :
    (ofChain chain).inOrder = chain.tokens.map Token.item := by
  rw [ofChain, inOrder_arrange, Chain.tokens, List.map_cons, List.map_flatMap]
  rfl

/-! ## The shape of a canonical tree -/

/-- Whether a tree is a number alone. -/
def IsNumber : Tree → Prop
  | .number _ => True
  | .node .. | .foreign .. => False

/-- Whether no node of a tree adds or subtracts. -/
def HasNoSum : Tree → Prop
  | .number _ => True
  | .node op left right => op.isProduct = true ∧ left.HasNoSum ∧ right.HasNoSum
  | .foreign _ left right => left.HasNoSum ∧ right.HasNoSum

/-- Whether every node of a tree has one of the four operators, with a number on the right and no
sum on the left of a product, and no sum on the right of a sum. -/
def IsCanonical : Tree → Prop
  | .number _ => True
  | .node op left right =>
    (if op.isProduct then left.HasNoSum ∧ right.IsNumber else right.HasNoSum) ∧
      left.IsCanonical ∧ right.IsCanonical
  | .foreign .. => False

section Arranging

variable {before? : Option (Tree × Operator)} {term : Tree}

theorem isCanonical_close (before : ∀ sum ∈ before?, sum.1.IsCanonical ∧ sum.2.isProduct = false)
    (sumFree : term.HasNoSum) (canonical : term.IsCanonical) :
    (close before? term).IsCanonical := by
  cases before? with
  | none => exact canonical
  | some sum =>
      obtain ⟨canonical', sign⟩ := before sum rfl
      exact ⟨by simpa [sign] using sumFree, canonical', canonical⟩

/-- Terms stay free of sums while links are arranged, and what stands before a term is joined to it
by a sum. -/
theorem isCanonical_arrange (before : ∀ sum ∈ before?, sum.1.IsCanonical ∧ sum.2.isProduct = false)
    (sumFree : term.HasNoSum) (canonical : term.IsCanonical) (links : List (Operator × Number)) :
    (arrange before? term links).IsCanonical := by
  induction links generalizing before? term with
  | nil => exact isCanonical_close before sumFree canonical
  | cons link links ih =>
      obtain ⟨op, x⟩ := link
      rw [arrange]
      split
      · rename_i product
        refine ih before ⟨product, sumFree, trivial⟩ ⟨?_, canonical, trivial⟩
        rw [if_pos product]
        exact ⟨sumFree, trivial⟩
      · rename_i sum
        refine ih ?_ trivial trivial
        rintro _ ⟨⟩
        exact ⟨isCanonical_close before sumFree canonical, by simpa using sum⟩

end Arranging

theorem isCanonical_ofChain (chain : Chain) : (ofChain chain).IsCanonical := by
  have sumFree : (leaf chain.first).HasNoSum := trivial
  have canonical : (leaf chain.first).IsCanonical := trivial
  exact isCanonical_arrange (by simp) sumFree canonical chain.links

/-! ## One canonical tree for each reading -/

theorem IsNumber.exists_eq {tree : Tree} (number : tree.IsNumber) : ∃ d, tree = .number d := by
  cases tree with
  | number d => exact ⟨d, rfl⟩
  | node op left right => exact number.elim
  | foreign name left right => exact number.elim

theorem IsNumber.hasNoSum {tree : Tree} (number : tree.IsNumber) : tree.HasNoSum := by
  obtain ⟨d, rfl⟩ := number.exists_eq
  trivial

theorem HasNoSum.not_isSum {tree : Tree} (sumFree : tree.HasNoSum) :
    ∀ item ∈ tree.inOrder, ¬item.IsSum := by
  induction tree with
  | number d => exact List.forall_mem_singleton.mpr not_false
  | node op left right ihLeft ihRight =>
      obtain ⟨product, leftFree, rightFree⟩ := sumFree
      have notSum : ¬(Item.operator op).IsSum := by simp [Item.IsSum, product]
      exact List.forall_mem_append.mpr
        ⟨ihLeft leftFree, List.forall_mem_cons.mpr ⟨notSum, ihRight rightFree⟩⟩
  | foreign name left right ihLeft ihRight =>
      obtain ⟨leftFree, rightFree⟩ := sumFree
      exact List.forall_mem_append.mpr
        ⟨ihLeft leftFree, List.forall_mem_cons.mpr ⟨not_false, ihRight rightFree⟩⟩

/-- A node reads as more than one item. -/
theorem inOrder_node_ne_singleton (op : Operator) (left right : Tree) (item : Item) :
    (node op left right).inOrder ≠ [item] := by
  intro same
  rcases List.append_eq_singleton_iff.mp same with ⟨none, -⟩ | ⟨-, none⟩
  · cases left <;> simp [inOrder] at none
  · cases none

section LastSum

variable {front front' back back' : List Item} {item item' : Item}

theorem eq_nil_of_last {between : List Item} (last : ∀ item ∈ back, ¬item.IsSum)
    (sum' : item'.IsSum) (same : item :: back = between ++ item' :: back') : between = [] := by
  cases between with
  | nil => rfl
  | cons first between =>
      injection same with _ behind
      exact absurd sum' (last item' (by simp [behind]))

/-- Items can be taken apart at their last sum operator in one way only. -/
theorem append_isSum_inj (last : ∀ item ∈ back, ¬item.IsSum) (last' : ∀ item ∈ back', ¬item.IsSum)
    (sum : item.IsSum) (sum' : item'.IsSum)
    (same : front ++ item :: back = front' ++ item' :: back') :
    front = front' ∧ item = item' ∧ back = back' := by
  rcases List.append_eq_append_iff.mp same with ⟨between, rfl, rest⟩ | ⟨between, rfl, rest⟩
  · obtain rfl := eq_nil_of_last last sum' rest
    injection rest with head tail
    exact ⟨(List.append_nil front).symm, head, tail⟩
  · obtain rfl := eq_nil_of_last last' sum rest
    injection rest with head tail
    exact ⟨List.append_nil front', head.symm, tail.symm⟩

end LastSum

/-- A node that adds or subtracts does not read as one that multiplies or divides. -/
theorem inOrder_ne_of_product {op op' : Operator} {left right left' right' : Tree}
    (sum : ¬op.isProduct = true) (product : op'.isProduct = true)
    (canonical' : (node op' left' right').IsCanonical) :
    (node op left right).inOrder ≠ (node op' left' right').inOrder := by
  intro same
  obtain ⟨shape, -, -⟩ := canonical'
  rw [if_pos product] at shape
  have sumFree : (node op' left' right').HasNoSum := ⟨product, shape.1, shape.2.hasNoSum⟩
  have member : Item.operator op ∈ (node op' left' right').inOrder := by
    rw [← same]
    simp [inOrder]
  exact sumFree.not_isSum _ member (Bool.eq_false_of_not_eq_true sum)

/-- Canonical trees that read alike from left to right are equal. -/
theorem IsCanonical.eq_of_inOrder_eq {tree tree' : Tree} (canonical : tree.IsCanonical)
    (canonical' : tree'.IsCanonical) (same : tree.inOrder = tree'.inOrder) : tree = tree' := by
  induction tree generalizing tree' with
  | foreign name left right => exact canonical.elim
  | number d =>
      cases tree' with
      | foreign name left right => exact canonical'.elim
      | number d' =>
          injection same with same
          injection same with same
          rw [same]
      | node op left right => exact absurd same.symm (inOrder_node_ne_singleton op left right _)
  | node op left right ihLeft ihRight =>
      cases tree' with
      | foreign name left right => exact canonical'.elim
      | number d => exact absurd same (inOrder_node_ne_singleton op left right _)
      | node op' left' right' =>
          -- The operator of the node is the last one of its rank in either reading.
          by_cases product : op.isProduct = true
          · by_cases product' : op'.isProduct = true
            · obtain ⟨shape, canonicalLeft, -⟩ := canonical
              obtain ⟨shape', canonicalLeft', -⟩ := canonical'
              rw [if_pos product] at shape
              rw [if_pos product'] at shape'
              obtain ⟨d, rfl⟩ := shape.2.exists_eq
              obtain ⟨d', rfl⟩ := shape'.2.exists_eq
              obtain ⟨front, back⟩ := List.append_inj' same rfl
              injection back with sign back
              injection sign with sign
              injection back with number
              injection number with number
              rw [sign, number, ihLeft canonicalLeft canonicalLeft' front]
            · exact absurd same.symm (inOrder_ne_of_product product' product canonical)
          · by_cases product' : op'.isProduct = true
            · exact absurd same (inOrder_ne_of_product product product' canonical')
            · obtain ⟨shape, canonicalLeft, canonicalRight⟩ := canonical
              obtain ⟨shape', canonicalLeft', canonicalRight'⟩ := canonical'
              rw [if_neg product] at shape
              rw [if_neg product'] at shape'
              have sum : (Item.operator op).IsSum := Bool.eq_false_of_not_eq_true product
              have sum' : (Item.operator op').IsSum := Bool.eq_false_of_not_eq_true product'
              obtain ⟨front, sign, back⟩ :=
                append_isSum_inj shape.not_isSum shape'.not_isSum sum sum' same
              injection sign with sign
              rw [sign, ihLeft canonicalLeft canonicalLeft' front,
                ihRight canonicalRight canonicalRight' back]

end Tree

/-! ## What is read from a text -/

variable {ctx : Context}

/-- A tree that is read from a text is canonical: a product has a number on the right and no sum on
the left, and a sum has no sum on the right. From left to right it reads as the tokens of the text,
which are spelled in one way as signed numbers with operators between them, each number replaced by
what its minuses make of it one by one; no other canonical tree reads so. Descending recursively
gives the same tree, whatever would be done about a minus before anything but a number: every
operand is a number. -/
theorem parsed_tree_is_canonical {cs : List Char} {ts : List Token} {tree : Tree}
    (read : tokens cs = .ok ts) (parsed : parse ctx cs = .ok tree) :
    tree.IsCanonical ∧
    (∃ s : Spelling, s.tokens = ts ∧ (∀ s' : Spelling, s'.tokens = ts → s' = s) ∧
      ∃ chain, s.Denotes ctx chain ∧ tree.inOrder = chain.tokens.map Token.item) ∧
    (∀ tree' : Tree, tree'.IsCanonical → tree'.inOrder = tree.inOrder → tree' = tree) ∧
    ∀ other, Descent.descend ctx other ts = .ok tree ∧
      ∀ tokens operand rest, Descent.unary ctx other tokens = .ok (operand, rest) →
        ∃ x, operand = .leaf x := by
  have descends (other) : Descent.descend ctx other ts = .ok tree := by
    rw [Descent.descend_eq_ofTokens, ← parse_of_tokens read, parsed]
  have numbers (other tokens operand rest)
      (unary : Descent.unary ctx other tokens = .ok (operand, rest)) : ∃ x, operand = .leaf x :=
    Descent.exists_leaf_of_unary unary
  obtain ⟨s, chain, spelled, denotes, rfl⟩ := exists_spelling_of_parse parsed
  rw [read] at spelled
  injection spelled with spelled
  have canonical := Tree.isCanonical_ofChain chain
  refine ⟨canonical, ⟨s, spelled.symm, ?_, chain, denotes, Tree.inOrder_ofChain chain⟩, ?_,
    fun other => ⟨descends other, numbers other⟩⟩
  · intro s' same
    exact Spelling.tokens_injective (same.trans spelled)
  · intro tree' canonical' same
    exact canonical'.eq_of_inOrder_eq canonical same

theorem parsed_tree_is_canonical_mixed :
    let tree := Tree.node .sub (.leaf ⟨false, 1, 0⟩)
      (.node .mul (.node .div (.leaf ⟨false, 2, 0⟩) (.leaf ⟨false, 3, 0⟩)) (.leaf ⟨true, 4, 0⟩))
    let ts : List Token := [.number ⟨false, 1, 0⟩, .operator .sub, .number ⟨false, 2, 0⟩,
      .operator .div, .number ⟨false, 3, 0⟩, .operator .mul, .operator .sub,
      .operator .add, .number ⟨false, 4, 0⟩]
    tokens "1-2/3*-+4".toList = .ok ts ∧ parse .standard "1-2/3*-+4".toList = .ok tree ∧
      tree.IsCanonical ∧
      Descent.descend .standard (fun _ => .error .missingNumber) ts = .ok tree := by
  intro tree ts
  have read : tokens "1-2/3*-+4".toList = .ok ts := by decide +kernel
  have parsed : parse .standard "1-2/3*-+4".toList = .ok tree := by decide +kernel
  obtain ⟨canonical, -, -, descends⟩ := parsed_tree_is_canonical read parsed
  exact ⟨read, parsed, canonical, (descends _).1⟩

end Reckoner
