import Mathlib.Tactic
import Reckoner.Expression.Error
import Reckoner.Expression.Tree
import Reckoner.Proofs.Decimal.Fit

/-!
# The grammar of expressions

An expression is a number with signs before it, and then operators each with another such number.
Tokens are read as a chain exactly when they spell one, and the chain holds the numbers with their
signs applied. Where they spell none, the error tells whether they are the beginning of an
expression, and otherwise names the first token with which they no longer are.
-/

namespace Reckoner

/-- A number with the signs before it; `true` stands for a minus. -/
structure SignedNumber where
  signs : List Bool
  number : Number

namespace SignedNumber

/-- The token of a sign. -/
def signToken (minus : Bool) : Token := .operator (if minus then .sub else .add)

/-- The tokens that spell a number with its signs. -/
def tokens (s : SignedNumber) : List Token := s.signs.map signToken ++ [.number s.number]

/-- How many of the signs are minuses. -/
def minuses (s : SignedNumber) : ℕ := s.signs.count true

theorem minuses_cons (minus : Bool) (signs : List Bool) (x : Number) :
    (mk (minus :: signs) x).minuses = minus.toNat + (mk signs x).minuses := by
  cases minus <;> simp [minuses, Nat.add_comm]

/-- Whether `x` is the number with its signs applied. -/
def Denotes (ctx : Context) (s : SignedNumber) (x : Number) : Prop :=
  s.number.negated ctx s.minuses = .ok x

end SignedNumber

/-- An expression as it is spelled: a signed number, and operators each with another one. -/
structure Spelling where
  first : SignedNumber
  links : List (Operator × SignedNumber)

namespace Spelling

/-- The tokens that spell operators with their signed numbers. -/
def linkTokens (links : List (Operator × SignedNumber)) : List Token :=
  links.flatMap fun link => .operator link.1 :: link.2.tokens

/-- The tokens of an expression. -/
def tokens (s : Spelling) : List Token := s.first.tokens ++ linkTokens s.links

/-- Whether `links` are the operators with their numbers, the signs applied. -/
def LinksDenote (ctx : Context) (spelled : List (Operator × SignedNumber))
    (links : List (Operator × Number)) : Prop :=
  List.Forall₂ (fun s link => s.1 = link.1 ∧ s.2.Denotes ctx link.2) spelled links

/-- Whether `chain` is the chain of an expression, with the signs applied. -/
def Denotes (ctx : Context) (s : Spelling) (chain : Chain) : Prop :=
  s.first.Denotes ctx chain.first ∧ LinksDenote ctx s.links chain.links

end Spelling

/-- Whether tokens spell an expression. -/
def IsExpression (tokens : List Token) : Prop := ∃ s : Spelling, s.tokens = tokens

/-- Whether further tokens can complete tokens to an expression. -/
def IsBeginning (tokens : List Token) : Prop := ∃ further, IsExpression (tokens ++ further)

open Spelling SignedNumber

/-! ## One token less -/

section FirstToken

variable {rest : List Token} {P : Spelling → Prop}

theorem Spelling.number_mem_tokens (s : Spelling) : .number s.first.number ∈ s.tokens := by
  simp [Spelling.tokens, SignedNumber.tokens]

theorem tokens_ne_nil (s : Spelling) : s.tokens ≠ [] := List.ne_nil_of_mem s.number_mem_tokens

/-- After its number an expression goes on with operators. -/
theorem exists_spelling_number {x : Number} :
    (∃ s : Spelling, s.tokens = .number x :: rest ∧ P s) ↔
      ∃ links, linkTokens links = rest ∧ P ⟨⟨[], x⟩, links⟩ := by
  constructor
  · rintro ⟨⟨⟨signs, number⟩, links⟩, shape, holds⟩
    cases signs with
    | nil =>
        injection shape with same others
        injection same with value
        subst value
        exact ⟨links, others, holds⟩
    | cons minus signs =>
        injection shape with same
        injection same
  · rintro ⟨links, shape, holds⟩
    exact ⟨⟨⟨[], x⟩, links⟩, by rw [← shape]; rfl, holds⟩

/-- A sign before an expression belongs to its first number. -/
theorem exists_spelling_sign {minus : Bool} :
    (∃ s : Spelling, s.tokens = signToken minus :: rest ∧ P s) ↔
      ∃ s : Spelling, s.tokens = rest ∧
        P ⟨⟨minus :: s.first.signs, s.first.number⟩, s.links⟩ := by
  constructor
  · rintro ⟨⟨⟨signs, number⟩, links⟩, shape, holds⟩
    cases signs with
    | nil =>
        injection shape with same
        injection same
    | cons sign signs =>
        injection shape with same others
        have : sign = minus := by
          cases sign <;> cases minus <;> simp [signToken] at same ⊢
        subst this
        exact ⟨⟨⟨signs, number⟩, links⟩, others, holds⟩
  · rintro ⟨⟨⟨signs, number⟩, links⟩, shape, holds⟩
    exact ⟨_, by rw [← shape]; rfl, holds⟩

theorem not_spelling_product {op : Operator} (product : op.isProduct = true) (s : Spelling) :
    s.tokens ≠ .operator op :: rest := by
  obtain ⟨⟨signs, number⟩, links⟩ := s
  intro shape
  cases signs with
  | nil =>
      injection shape with same
      injection same
  | cons sign signs =>
      injection shape with same
      injection same with same
      subst same
      cases sign <;> cases product

/-- After an operator comes an expression. -/
theorem exists_links_operator {op : Operator} {P : List (Operator × SignedNumber) → Prop} :
    (∃ links, linkTokens links = .operator op :: rest ∧ P links) ↔
      ∃ s : Spelling, s.tokens = rest ∧ P ((op, s.first) :: s.links) := by
  constructor
  · rintro ⟨links, shape, holds⟩
    cases links with
    | nil => cases shape
    | cons link links =>
        injection shape with same others
        injection same with same
        subst same
        exact ⟨⟨link.2, links⟩, others, holds⟩
  · rintro ⟨s, shape, holds⟩
    exact ⟨_, by rw [← shape]; rfl, holds⟩

theorem linkTokens_eq_nil {links : List (Operator × SignedNumber)} :
    linkTokens links = [] ↔ links = [] := by
  cases links <;> simp [linkTokens]

theorem not_links_number {x : Number} (links : List (Operator × SignedNumber)) :
    linkTokens links ≠ .number x :: rest := by
  cases links with
  | nil => simp [linkTokens]
  | cons link links =>
      intro shape
      injection shape with same
      injection same

end FirstToken

/-! ## One spelling for tokens -/

/-- A signed number can be read off the front of tokens in one way only. -/
theorem SignedNumber.eq_of_tokens_append {m n : SignedNumber} {front back : List Token}
    (same : m.tokens ++ front = n.tokens ++ back) : m = n := by
  obtain ⟨signs, x⟩ := m
  obtain ⟨signs', y⟩ := n
  induction signs generalizing signs' with
  | nil =>
      cases signs' with
      | nil =>
          injection same with number
          injection number with value
          exact congrArg (SignedNumber.mk []) value
      | cons minus signs' =>
          injection same with impossible
          cases impossible
  | cons minus signs ih =>
      cases signs' with
      | nil =>
          injection same with impossible
          cases impossible
      | cons minus' signs' =>
          injection same with sign rest
          have := ih signs' rest
          injection this with signs number
          have : minus = minus' := by
            cases minus <;> cases minus' <;> simp [signToken] at sign ⊢
          rw [this, signs, number]

theorem linkTokens_injective : Function.Injective linkTokens := by
  intro links
  induction links with
  | nil =>
      intro links' same
      exact (linkTokens_eq_nil.mp same.symm).symm
  | cons link links ih =>
      intro links' same
      cases links' with
      | nil => cases same
      | cons link' links' =>
          obtain ⟨op, n⟩ := link
          obtain ⟨op', n'⟩ := link'
          injection same with sign rest
          injection sign with sign
          have number : n = n' := SignedNumber.eq_of_tokens_append rest
          subst sign number
          rw [ih (List.append_cancel_left rest)]

theorem Spelling.tokens_injective : Function.Injective Spelling.tokens := by
  rintro ⟨first, links⟩ ⟨first', links'⟩ same
  have number : first = first' := SignedNumber.eq_of_tokens_append same
  subst number
  have others : links = links' := linkTokens_injective (List.append_cancel_left same)
  rw [others]

end Reckoner
