import Mathlib.Tactic
import Reckoner.Proofs.Decimal.Exact
import Reckoner.Proofs.Decimal.Nearest
import Reckoner.Proofs.Expression.RoundTrip

/-!
# Exact expressions

An expression has a value by the rules of arithmetic: its numbers are taken with their signs,
products come before sums, and operators of one rank go from left to right. Where the context holds
the results of all operations and of all unary minuses, evaluating the expression gives this value,
and only the rounding to places is left to be seen in its result.
-/

namespace Reckoner

variable {ctx : Context}

/-! ## Values by the rules of arithmetic -/

/-- The result of an operator on rational numbers. -/
def Operator.onRationals : Operator → ℚ → ℚ → ℚ
  | .add, p, q => p + q
  | .sub, p, q => p - q
  | .mul, p, q => p * q
  | .div, p, q => p / q

namespace SignedNumber

/-- What the first `count` minuses, counted from the number, make of it. -/
def valueAfter (n : SignedNumber) (count : ℕ) : ℚ := (-1) ^ count * n.number.value

/-- The number with all of its signs. -/
def exactValue (n : SignedNumber) : ℚ := n.valueAfter n.minuses

end SignedNumber

/-- Whether a number with operators behind it is a term of value `q`: factors and divisors are taken
in from left to right. -/
inductive IsTerm (first : ℚ) : List (Operator × ℚ) → ℚ → Prop
  | number : IsTerm first [] first
  | factor {links : List (Operator × ℚ)} {q : ℚ} (term : IsTerm first links q) {op : Operator}
      (product : op.isProduct = true) (x : ℚ) :
      IsTerm first (links ++ [(op, x)]) (op.onRationals q x)

/-- Whether a number with operators behind it is a sum of terms of value `q`: terms are added and
subtracted from left to right. -/
inductive IsSum (first : ℚ) : List (Operator × ℚ) → ℚ → Prop
  | term {links : List (Operator × ℚ)} {q : ℚ} (term : IsTerm first links q) : IsSum first links q
  | summand {links : List (Operator × ℚ)} {p : ℚ} (sum : IsSum first links p) {op : Operator}
      (sign : op.isProduct = false) {x : ℚ} {factors : List (Operator × ℚ)} {q : ℚ}
      (term : IsTerm x factors q) :
      IsSum first (links ++ (op, x) :: factors) (op.onRationals p q)

namespace Spelling

/-- The signed numbers of an expression. -/
def numbers (s : Spelling) : List SignedNumber := s.first :: s.links.map Prod.snd

/-- Whether an expression has the value `q` by the rules of arithmetic. -/
def HasValue (s : Spelling) (q : ℚ) : Prop :=
  IsSum s.first.exactValue (s.links.map fun link => (link.1, link.2.exactValue)) q

end Spelling

/-- One more factor goes into the last term. -/
theorem IsSum.exists_factor {first q : ℚ} {links : List (Operator × ℚ)} (sum : IsSum first links q)
    {op : Operator} (product : op.isProduct = true) (x : ℚ) :
    ∃ r, IsSum first (links ++ [(op, x)]) r := by
  cases sum with
  | term term => exact ⟨_, .term (term.factor product x)⟩
  | summand sum sign term =>
      have longer := IsSum.summand sum sign (term.factor product x)
      rw [← List.cons_append, ← List.append_assoc] at longer
      exact ⟨_, longer⟩

theorem exists_isSum (first : ℚ) (links : List (Operator × ℚ)) : ∃ q, IsSum first links q := by
  induction links using List.reverseRecOn with
  | nil => exact ⟨first, .term .number⟩
  | append_singleton links link ih =>
      obtain ⟨q, sum⟩ := ih
      by_cases product : link.1.isProduct = true
      · exact sum.exists_factor product link.2
      · exact ⟨_, .summand sum (by simpa using product) .number⟩

/-! ## Values of trees -/

namespace Tree

/-- The exact value of a tree; what is no number counts as zero. -/
def exactValue : Tree → ℚ
  | .number (.finite x) => x.value
  | .number _ => 0
  | .node op left right => op.onRationals left.exactValue right.exactValue
  | .foreign .. => 0

/-- The exact values of the operations of a tree. -/
def operationValues : Tree → List ℚ
  | .number _ => []
  | .node op left right =>
    left.operationValues ++ right.operationValues ++ [(Tree.node op left right).exactValue]
  | .foreign _ left right => left.operationValues ++ right.operationValues

/-- Whether a tree has numbers for its leaves, and no divisor of zero. -/
def IsProper : Tree → Prop
  | .number d => ∃ x, d = .finite x
  | .node op left right => left.IsProper ∧ right.IsProper ∧ ¬(op = .div ∧ right.exactValue = 0)
  | .foreign .. => False

end Tree

/-- An operation whose exact result is held gives it. -/
theorem onNumbers_of_holds {op : Operator} {a b : Number}
    (divisor : ¬(op = .div ∧ b.value = 0)) (held : ctx.Holds (op.onRationals a.value b.value)) :
    ∃ y, op.onNumbers ctx a b = .ok y ∧ y.value = op.onRationals a.value b.value := by
  cases op with
  | add =>
      obtain ⟨y, sum, value⟩ := Number.add_of_holds held
      exact ⟨y, by rw [Operator.onNumbers, sum]; rfl, value⟩
  | sub =>
      obtain ⟨y, difference, value⟩ := Number.sub_of_holds held
      exact ⟨y, by rw [Operator.onNumbers, difference]; rfl, value⟩
  | mul =>
      obtain ⟨y, product, value⟩ := Number.mul_of_holds held
      exact ⟨y, by rw [Operator.onNumbers, product]; rfl, value⟩
  | div =>
      have nonzero : b.coefficient ≠ 0 := fun zero =>
        divisor ⟨rfl, Number.value_eq_zero_iff.mpr zero⟩
      obtain ⟨y, quotient, value⟩ := Number.div_of_holds nonzero held
      exact ⟨y, by rw [Operator.onNumbers, if_neg nonzero, quotient]; rfl, value⟩

/-- A tree whose operations are all held has its exact value. -/
theorem evaluate_of_holds {tree : Tree} (proper : tree.IsProper)
    (held : ∀ q ∈ tree.operationValues, ctx.Holds q) :
    ∃ y, tree.evaluate ctx = .ok (.finite y) ∧ y.value = tree.exactValue := by
  induction tree with
  | number d =>
      obtain ⟨x, rfl⟩ := proper
      exact ⟨x, rfl, rfl⟩
  | node op left right first second =>
      obtain ⟨properLeft, properRight, divisor⟩ := proper
      have member (q : ℚ) : q ∈ (Tree.node op left right).operationValues ↔
          q ∈ left.operationValues ∨ q ∈ right.operationValues ∨
            q = op.onRationals left.exactValue right.exactValue := by
        simp [Tree.operationValues, Tree.exactValue]
      obtain ⟨a, evaluatedLeft, valueLeft⟩ :=
        first properLeft fun q inside => held q ((member q).mpr (.inl inside))
      obtain ⟨b, evaluatedRight, valueRight⟩ :=
        second properRight fun q inside => held q ((member q).mpr (.inr (.inl inside)))
      have node := held _ ((member _).mpr (.inr (.inr rfl)))
      rw [← valueLeft, ← valueRight] at node
      rw [← valueRight] at divisor
      obtain ⟨y, result, value⟩ := onNumbers_of_holds divisor node
      refine ⟨y, ?_, ?_⟩
      · rw [evaluate_node evaluatedLeft evaluatedRight, result]
        rfl
      · rw [value, valueLeft, valueRight]
        rfl
  | foreign name left right => exact proper.elim

/-! ## Trees of chains -/

/-- The operators of links with the values of their numbers. -/
def linkValues (links : List (Operator × Number)) : List (Operator × ℚ) :=
  links.map fun link => (link.1, link.2.value)

namespace Tree

/-- Links that make a term are arranged into a tree of its value. -/
theorem exists_arrange_of_isTerm {x : Number} {links : List (Operator × Number)} {q : ℚ}
    (term : IsTerm x.value (linkValues links) q) (before? : Option (Tree × Operator))
    (more : List (Operator × Number)) :
    ∃ tree, tree.exactValue = q ∧ arrange before? (leaf x) (links ++ more) =
      arrange before? tree more := by
  generalize values : linkValues links = spelled at term
  induction term generalizing links more with
  | number =>
      rw [List.map_eq_nil_iff.mp values]
      exact ⟨leaf x, rfl, rfl⟩
  | @factor spelled q term op product y ih =>
      obtain ⟨links, last, rfl, rest, factor⟩ := List.map_eq_append_iff.mp values
      obtain ⟨⟨op', z⟩, rfl, pair⟩ := List.map_eq_singleton_iff.mp factor
      injection pair with same value
      subst same value
      obtain ⟨tree, treeValue, arranged⟩ := ih ([(op', z)] ++ more) rest
      refine ⟨.node op' tree (leaf z), by rw [exactValue, treeValue]; rfl, ?_⟩
      rw [List.append_assoc, arranged]
      exact if_pos product

/-- Links that make a sum are arranged into a tree of its value. -/
theorem exists_arrange_of_isSum {x : Number} {links : List (Operator × Number)} {q : ℚ}
    (sum : IsSum x.value (linkValues links) q) (more : List (Operator × Number)) :
    ∃ before? term, (close before? term).exactValue = q ∧
      arrange none (leaf x) (links ++ more) = arrange before? term more := by
  generalize values : linkValues links = spelled at sum
  induction sum generalizing links more with
  | term term =>
      subst values
      obtain ⟨tree, treeValue, arranged⟩ := exists_arrange_of_isTerm term none more
      exact ⟨none, tree, treeValue, arranged⟩
  | @summand spelled p sum op sign y factors q term ih =>
      obtain ⟨links, last, rfl, front, back⟩ := List.map_eq_append_iff.mp values
      obtain ⟨⟨op', z⟩, rest, rfl, pair, others⟩ := List.map_eq_cons_iff.mp back
      injection pair with same value
      subst same value others
      obtain ⟨before?, open?, closed, arranged⟩ := ih ((op', z) :: rest ++ more) front
      obtain ⟨tree, treeValue, arranged'⟩ :=
        exists_arrange_of_isTerm term (some (close before? open?, op')) more
      refine ⟨some (close before? open?, op'), tree, ?_, ?_⟩
      · rw [close, exactValue, closed, treeValue]
      · rw [List.append_assoc, arranged, ← arranged']
        exact if_neg (by simp [sign])

/-- The tree of a chain has the value of the sum that the chain makes. -/
theorem exactValue_ofChain {chain : Chain} {q : ℚ}
    (sum : IsSum chain.first.value (linkValues chain.links) q) :
    (ofChain chain).exactValue = q := by
  obtain ⟨before?, term, closed, arranged⟩ := exists_arrange_of_isSum sum []
  rw [List.append_nil] at arranged
  rw [ofChain, arranged]
  exact closed

theorem isProper_close {before? : Option (Tree × Operator)} {term : Tree}
    (before : ∀ b ∈ before?, b.1.IsProper ∧ b.2.isProduct = false) (proper : term.IsProper) :
    (close before? term).IsProper := by
  cases before? with
  | none => exact proper
  | some b =>
      obtain ⟨properBefore, sign⟩ := before b rfl
      refine ⟨properBefore, proper, ?_⟩
      rintro ⟨quotient, -⟩
      rw [quotient] at sign
      cases sign

/-- Links without a zero divisor are arranged into a tree without one. -/
theorem isProper_arrange {before? : Option (Tree × Operator)} {term : Tree}
    {links : List (Operator × Number)}
    (before : ∀ b ∈ before?, b.1.IsProper ∧ b.2.isProduct = false) (proper : term.IsProper)
    (divisors : ∀ link ∈ links, ¬DividesByZero link) : (arrange before? term links).IsProper := by
  induction links generalizing before? term with
  | nil => exact isProper_close before proper
  | cons link links ih =>
      obtain ⟨divisor, divisors⟩ := List.forall_mem_cons.mp divisors
      have leaf : (leaf link.2).IsProper := ⟨link.2, rfl⟩
      rw [arrange]
      split
      · refine ih before ⟨proper, leaf, ?_⟩ divisors
        rintro ⟨quotient, zero⟩
        exact divisor ⟨quotient, Number.value_eq_zero_iff.mp zero⟩
      · rename_i sign
        refine ih (fun b same => ?_) leaf divisors
        injection same with same
        rw [← same]
        exact ⟨isProper_close before proper, by simpa using sign⟩

end Tree

/-! ## One value for each expression -/

/-- The number with its signs, as one decimal. -/
def SignedNumber.toNumber (n : SignedNumber) : Number :=
  { n.number with negative := n.number.negative != decide (Odd n.minuses) }

theorem SignedNumber.value_toNumber (n : SignedNumber) : n.toNumber.value = n.exactValue := by
  have magnitude : n.toNumber.magnitude = n.number.magnitude := rfl
  rw [exactValue, valueAfter, Number.value, Number.value, magnitude]
  by_cases odd : Odd n.minuses
  · simp [toNumber, odd]
  · simp [toNumber, odd, (Nat.not_odd_iff_even.mp odd).neg_one_pow]

/-- Every expression has one value by the rules of arithmetic. -/
theorem Spelling.existsUnique_hasValue (s : Spelling) : ∃! q, s.HasValue q := by
  obtain ⟨q, value⟩ := exists_isSum s.first.exactValue
    (s.links.map fun link => (link.1, link.2.exactValue))
  refine ⟨q, value, fun r other => ?_⟩
  -- Both are the value of the tree that the signed numbers make.
  let links := s.links.map fun link => (link.1, link.2.toNumber)
  have values : linkValues links = s.links.map fun link => (link.1, link.2.exactValue) := by
    simp [links, linkValues, SignedNumber.value_toNumber]
  have tree {p : ℚ} (sum : s.HasValue p) :
      (Tree.ofChain ⟨s.first.toNumber, links⟩).exactValue = p := by
    apply Tree.exactValue_ofChain
    rw [SignedNumber.value_toNumber, values]
    exact sum
  rw [← tree value, ← tree other]

/-! ## Signs that lose nothing -/

/-- Unary minuses whose results are held are exact. -/
theorem negated_of_holds {count : ℕ} {x : Number}
    (held : ∀ k < count, ctx.Holds ((-1) ^ (k + 1) * x.value)) :
    ∃ y, x.negated ctx count = .ok y ∧ y.value = (-1) ^ count * x.value := by
  induction count generalizing x with
  | zero => exact ⟨x, rfl, by simp⟩
  | succ count ih =>
      obtain ⟨y, minus, opposite⟩ := Number.neg_of_holds (x := x) (by simpa using held 0)
      have power (k : ℕ) : (-1 : ℚ) ^ k * y.value = (-1) ^ (k + 1) * x.value := by
        rw [opposite, pow_succ]
        ring
      obtain ⟨z, negated, value⟩ := ih (x := y) fun k inside => by
        rw [power]
        exact held (k + 1) (by omega)
      exact ⟨z, by rw [negated_succ count minus, negated], by rw [value, power]⟩

theorem SignedNumber.exists_denotes_of_holds {n : SignedNumber}
    (held : ∀ k < n.minuses, ctx.Holds (n.valueAfter (k + 1))) :
    ∃ x, n.Denotes ctx x ∧ x.value = n.exactValue :=
  negated_of_holds held

theorem exists_linksDenote_of_holds {spelled : List (Operator × SignedNumber)}
    (held : ∀ link ∈ spelled, ∀ k < link.2.minuses, ctx.Holds (link.2.valueAfter (k + 1))) :
    ∃ links, Spelling.LinksDenote ctx spelled links ∧
      linkValues links = spelled.map fun link => (link.1, link.2.exactValue) := by
  induction spelled with
  | nil => exact ⟨[], .nil, rfl⟩
  | cons link spelled ih =>
      obtain ⟨here, there⟩ := List.forall_mem_cons.mp held
      obtain ⟨x, denotes, value⟩ := SignedNumber.exists_denotes_of_holds here
      obtain ⟨links, denote, values⟩ := ih there
      refine ⟨(link.1, x) :: links, .cons ⟨rfl, denotes⟩ denote, ?_⟩
      rw [List.map_cons, ← values, ← value]
      rfl

/-! ## Results -/

/-- Where the results of all operations and all unary minuses are held, the result of an expression
is the shortest numeral of its value by the rules of arithmetic, rounded half to even to the places
that are asked for. -/
theorem calculate_of_holds {cs : List Char} {s : Spelling} {tree : Tree} {q : ℚ} {places : ℤ}
    (read : tokens cs = .ok s.tokens) (parsed : parse .standard cs = .ok tree)
    (divisors : ¬HasZeroDivisor .standard s.tokens)
    (minuses : ∀ n ∈ s.numbers, ∀ k < n.minuses, Context.standard.Holds (n.valueAfter (k + 1)))
    (operations : ∀ v ∈ tree.operationValues, Context.standard.Holds v)
    (value : s.HasValue q) (small : |q| < 10 ^ 999999)
    (whole : 0 ≤ places) (most : places ≤ 999999) :
    ∃ p : Positional, p.IsShortest ∧ IsRounding places q p.value ∧
      calculate .standard (.whole places) cs = .ok p.text := by
  obtain ⟨first, others⟩ := List.forall_mem_cons.mp minuses
  obtain ⟨x, denotes, firstValue⟩ := SignedNumber.exists_denotes_of_holds first
  obtain ⟨links, denote, values⟩ := exists_linksDenote_of_holds fun link member =>
    others link.2 (List.mem_map_of_mem member)
  have spelled : s.Denotes .standard ⟨x, links⟩ := ⟨denotes, denote⟩
  rw [parse_of_spelling read spelled] at parsed
  injection parsed with same
  subst same
  have proper : (Tree.ofChain ⟨x, links⟩).IsProper := by
    refine Tree.isProper_arrange (by simp) ⟨x, rfl⟩ fun link member zero => divisors ?_
    exact (hasZeroDivisor_iff spelled).mpr ⟨link, member, zero⟩
  obtain ⟨y, evaluated, treeValue⟩ := evaluate_of_holds proper operations
  have result : y.value = q := by
    rw [treeValue]
    apply Tree.exactValue_ofChain
    rw [firstValue, values]
    exact value
  have reached : evaluate .standard cs = .ok (.finite y) := by
    rw [evaluate, parse_of_spelling read spelled]
    exact evaluated
  have zero : y.coefficient = 0 → y.adjusted ≤ 999999 := adjusted_le_of_evaluate (by decide) reached
  rw [← result, Number.abs_value] at small
  have rounding := y.isRounding_atPlaces places
  rw [max_eq_left whole, result, ← Number.value_positional] at rounding
  refine ⟨(y.atPlaces places).positional, Number.isShortest_positional _, rounding, ?_⟩
  rw [← Number.canonical_eq_text]
  exact calculate_eq_ok_iff.mpr ⟨_, reached, Number.roundTo_of_small most small zero⟩

theorem calculate_of_holds_tie :
    ∃ p : Positional, p.IsShortest ∧ IsRounding 2 (41 / 8) p.value ∧
      calculate .standard (.whole 2) "7/-8+2*3".toList = .ok p.text := by
  let s : Spelling := ⟨⟨[], ⟨false, 7, 0⟩⟩, [(.div, ⟨[true], ⟨false, 8, 0⟩⟩),
    (.add, ⟨[], ⟨false, 2, 0⟩⟩), (.mul, ⟨[], ⟨false, 3, 0⟩⟩)]⟩
  have read : tokens "7/-8+2*3".toList = .ok s.tokens := by decide +kernel
  have parsed : parse .standard "7/-8+2*3".toList = .ok (.node .add
      (.node .div (.leaf ⟨false, 7, 0⟩) (.leaf ⟨true, 8, 0⟩))
      (.node .mul (.leaf ⟨false, 2, 0⟩) (.leaf ⟨false, 3, 0⟩))) := by
    decide +kernel
  have opposite : Number.negated .standard 1 ⟨false, 8, 0⟩ = .ok ⟨true, 8, 0⟩ := by
    decide +kernel
  have denotes : s.Denotes .standard
      ⟨⟨false, 7, 0⟩, [(.div, ⟨true, 8, 0⟩), (.add, ⟨false, 2, 0⟩), (.mul, ⟨false, 3, 0⟩)]⟩ :=
    ⟨rfl, .cons ⟨rfl, opposite⟩ (.cons ⟨rfl, rfl⟩ (.cons ⟨rfl, rfl⟩ .nil))⟩
  have divisors : ¬HasZeroDivisor .standard s.tokens := by
    rw [hasZeroDivisor_iff denotes]
    simp [DividesByZero]
  have held {q : ℚ} (c k : ℤ) (few : |c| < 10 ^ 50) (lowest : -1000048 ≤ k)
      (same : q = c * 10 ^ k) (small : |q| ≤ 10) : Context.standard.Holds q := by
    have large : (10 : ℚ) < 10 ^ 999999 := lt_self_pow₀ (by norm_num) (by decide)
    exact Context.holds_standard_iff.mpr ⟨⟨c, k, few, lowest, same⟩, small.trans_lt large⟩
  have minus : Context.standard.Holds (-8) :=
    held (-8) 0 (by decide) (by decide) (by norm_num) (by norm_num [abs_le])
  have minuses : ∀ n ∈ s.numbers, ∀ k < n.minuses,
      Context.standard.Holds (n.valueAfter (k + 1)) := by
    simpa [s, Spelling.numbers, SignedNumber.minuses, SignedNumber.valueAfter, Number.value,
      Number.magnitude, signed] using minus
  have value : s.HasValue (41 / 8) := by
    have quotient : IsTerm 7 [(.div, -8)] (7 / -8) :=
      IsTerm.number.factor (show Operator.div.isProduct = true from rfl) (-8)
    have product : IsTerm 2 [(.mul, 3)] (2 * 3) :=
      IsTerm.number.factor (show Operator.mul.isProduct = true from rfl) 3
    have sum : IsSum 7 [(.div, -8), (.add, 2), (.mul, 3)] (7 / -8 + 2 * 3) :=
      (IsSum.term quotient).summand (show Operator.add.isProduct = false from rfl) product
    rw [show (7 / -8 + 2 * 3 : ℚ) = 41 / 8 by norm_num] at sum
    simpa [s, Spelling.HasValue, SignedNumber.exactValue, SignedNumber.valueAfter,
      SignedNumber.minuses, Number.value, Number.magnitude, signed] using sum
  have quotient : Context.standard.Holds (7 / -8) :=
    held (-875) (-3) (by decide) (by decide) (by norm_num) (by norm_num [abs_le])
  have product : Context.standard.Holds (2 * 3) :=
    held 6 0 (by decide) (by decide) (by norm_num) (by norm_num [abs_le])
  have sum : Context.standard.Holds (7 / -8 + 2 * 3) :=
    held 5125 (-3) (by decide) (by decide) (by norm_num) (by norm_num [abs_le])
  refine calculate_of_holds read parsed divisors minuses ?_ value ?_ (by decide) (by decide)
  · simpa [Tree.operationValues, Tree.exactValue, Tree.leaf, Operator.onRationals, Number.value,
      Number.magnitude, signed] using ⟨quotient, product, sum⟩
  · norm_num at sum
    exact sum.small

example : calculate .standard (.whole 2) "7/-8+2*3".toList = .ok "5.12".toList := by
  decide +kernel

end Reckoner
