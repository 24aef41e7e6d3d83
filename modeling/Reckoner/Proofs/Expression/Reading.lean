import Mathlib.Tactic
import Reckoner.Proofs.Expression.Grammar
import Reckoner.Proofs.Expression.Lexing

/-!
# Reading expressions

Reading tokens as a chain succeeds exactly on the spellings of expressions whose signs can be
applied, and gives the numbers with their signs. Where every sign can be applied, reading fails only
because the tokens are no expression, and the error tells how far they are the beginning of one.
-/

namespace Reckoner

open Spelling SignedNumber

variable {ctx : Context}

/-! ## One step of reading -/

theorem ofOperand_number (minuses : ℕ) (x : Number) (rest : List Token) :
    Chain.ofOperand ctx minuses (.number x :: rest) =
      (x.negated ctx minuses).bind fun first =>
        (Chain.linksOf ctx rest).map fun links => { first, links } := by
  rw [Chain.ofOperand]
  cases x.negated ctx minuses with
  | error e => rfl
  | ok first => cases Chain.linksOf ctx rest <;> rfl

theorem ofOperand_sign (minuses : ℕ) (minus : Bool) (rest : List Token) :
    Chain.ofOperand ctx minuses (signToken minus :: rest) =
      Chain.ofOperand ctx (minuses + minus.toNat) rest := by
  cases minus <;> rfl

theorem ofOperand_product (minuses : ℕ) {op : Operator} (product : op.isProduct = true)
    (rest : List Token) :
    Chain.ofOperand ctx minuses (.operator op :: rest) = .error (.strayToken (.operator op)) := by
  cases op <;> first | rfl | cases product

theorem linksOf_operator (op : Operator) (rest : List Token) :
    Chain.linksOf ctx (.operator op :: rest) =
      (Chain.ofOperand ctx 0 rest).map fun chain => (op, chain.first) :: chain.links := by
  rw [Chain.linksOf]
  cases Chain.ofOperand ctx 0 rest <;> rfl

theorem sign_or_product (op : Operator) :
    (∃ minus, Token.operator op = signToken minus) ∨ op.isProduct = true := by
  cases op with
  | add => exact .inl ⟨false, rfl⟩
  | sub => exact .inl ⟨true, rfl⟩
  | mul => exact .inr rfl
  | div => exact .inr rfl

/-! ## What is read -/

/-- Both readers at once, by the tokens: after an operator the one for operands takes over, after a
number the one for links. The minuses that were read before count with those of the spelling. -/
theorem reads_iff (tokens : List Token) :
    (∀ minuses chain, Chain.ofOperand ctx minuses tokens = .ok chain ↔
      ∃ s : Spelling, s.tokens = tokens ∧
        s.first.number.negated ctx (minuses + s.first.minuses) = .ok chain.first ∧
        LinksDenote ctx s.links chain.links) ∧
    (∀ links, Chain.linksOf ctx tokens = .ok links ↔
      ∃ spelled, linkTokens spelled = tokens ∧ LinksDenote ctx spelled links) := by
  induction tokens with
  | nil =>
      constructor
      · intro minuses chain
        simp [Chain.ofOperand, tokens_ne_nil]
      · intro links
        cases links <;> simp [Chain.linksOf, linkTokens_eq_nil, LinksDenote]
  | cons token rest ih =>
      obtain ⟨operands, others⟩ := ih
      constructor
      · intro minuses chain
        cases token with
        | number x =>
            rw [exists_spelling_number, ofOperand_number, Results.bind_eq_ok_iff]
            simp only [Results.map_eq_ok_iff, others]
            constructor
            · rintro ⟨first, negated, links, ⟨spelled, shape, denote⟩, rfl⟩
              exact ⟨spelled, shape, negated, denote⟩
            · rintro ⟨spelled, shape, negated, denote⟩
              exact ⟨chain.first, negated, chain.links, ⟨spelled, shape, denote⟩, rfl⟩
        | operator op =>
            rcases sign_or_product op with ⟨minus, sign⟩ | product
            · rw [sign, exists_spelling_sign, ofOperand_sign, operands]
              simp only [minuses_cons, Nat.add_assoc]
            · simp [ofOperand_product minuses product, not_spelling_product product]
      · intro links
        cases token with
        | number x => simp [Chain.linksOf, not_links_number]
        | operator op =>
            rw [exists_links_operator, linksOf_operator]
            simp only [Results.map_eq_ok_iff, operands, Nat.zero_add]
            constructor
            · rintro ⟨chain, ⟨s, shape, first, denote⟩, rfl⟩
              exact ⟨s, shape, .cons ⟨rfl, first⟩ denote⟩
            · rintro ⟨s, shape, denote⟩
              cases denote with
              | @cons _ link _ links head tail =>
                  have same : (op, link.2) = link := Prod.ext head.1 rfl
                  exact ⟨⟨link.2, links⟩, ⟨s, shape, head.2, tail⟩, by rw [same]⟩

/-- Tokens are read as a chain exactly when they spell an expression that denotes it. -/
theorem ofTokens_eq_ok_iff (tokens : List Token) (chain : Chain) :
    Chain.ofTokens ctx tokens = .ok chain ↔
      ∃ s : Spelling, s.tokens = tokens ∧ s.Denotes ctx chain := by
  rw [Chain.ofTokens]
  cases tokens with
  | nil => simp [tokens_ne_nil]
  | cons token rest =>
      rw [if_neg (by simp), (reads_iff (token :: rest)).1]
      simp only [Nat.zero_add]
      rfl

/-! ## Signs that can be applied -/

theorem negated_succ (count : ℕ) {x y : Number} (minus : x.neg ctx = .ok y) :
    x.negated ctx (count + 1) = y.negated ctx count := by
  rw [Number.negated, minus]

/-- Minuses are applied one by one. -/
theorem negated_succ_eq_bind (ctx : Context) (count : ℕ) (x : Number) :
    x.negated ctx (count + 1) = (x.negated ctx 1).bind (Number.negated ctx count) := by
  rw [Number.negated, Number.negated]
  cases x.neg ctx <;> rfl

theorem exists_negated_of_fits (positive : 0 < ctx.precision) (count : ℕ) {x : Number}
    (fits : x.Fits ctx) : ∃ y, x.negated ctx count = .ok y := by
  induction count generalizing x with
  | zero => exact ⟨x, rfl⟩
  | succ count ih =>
      obtain ⟨y, minus, fits⟩ := fits.exists_neg positive
      rw [negated_succ count minus]
      exact ih fits

/-- Any number of minuses can be applied to a number that is not too large: the first one rounds it,
and from then on it fits. -/
theorem exists_negated_of_adjusted_lt (positive : 0 < ctx.precision) (count : ℕ) {x : Number}
    (low : x.coefficient ≠ 0 → x.adjusted < ctx.emax) : ∃ y, x.negated ctx count = .ok y := by
  cases count with
  | zero => exact ⟨x, rfl⟩
  | succ count =>
      have minus : ∃ y, x.neg ctx = .ok y := by
        by_cases zero : x.coefficient = 0
        · exact ⟨_, Number.fit_of_coefficient_eq_zero (x := x.opposite) zero⟩
        · exact Number.fit_of_adjusted_lt (x := x.opposite) positive (low zero)
      obtain ⟨y, minus⟩ := minus
      rw [negated_succ count minus]
      exact exists_negated_of_fits positive count (Number.fits_of_neg positive minus)

/-! ## Where reading stops -/

/-- Whether further tokens can complete tokens to ones with a property. -/
def Opens (L : List Token → Prop) (tokens : List Token) : Prop := ∃ further, L (tokens ++ further)

/-- Whether tokens are the operators of an expression, each with its signed number. -/
def AreLinks (tokens : List Token) : Prop := ∃ links, linkTokens links = tokens

/-- Whether an error tells how far tokens can be completed: altogether, or up to a first token. -/
def Diagnoses (L : List Token → Prop) (tokens : List Token) (e : CalculationError) : Prop :=
  e = .missingNumber ∧ Opens L tokens ∨
    ∃ before token after, tokens = before ++ token :: after ∧ e = .strayToken token ∧
      Opens L before ∧ ¬Opens L (before ++ [token])

section Diagnosis

variable {L M : List Token → Prop} {token : Token} {rest : List Token} {e : CalculationError}

theorem Opens.of_append {before after : List Token} (opens : Opens L (before ++ after)) :
    Opens L before := by
  obtain ⟨further, holds⟩ := opens
  exact ⟨after ++ further, by rwa [← List.append_assoc]⟩

/-- A first token that leaves one language for another one leaves the diagnosis. -/
theorem Diagnoses.cons (leaves : ∀ further, M (token :: further) ↔ L further)
    (diagnosis : Diagnoses L rest e) : Diagnoses M (token :: rest) e := by
  have opens (front : List Token) : Opens M (token :: front) ↔ Opens L front :=
    exists_congr fun further => leaves (front ++ further)
  rcases diagnosis with ⟨missing, opened⟩ | ⟨before, stray, after, rfl, named, opened, closed⟩
  · exact .inl ⟨missing, (opens rest).mpr opened⟩
  · refine .inr ⟨token :: before, stray, after, rfl, named, (opens before).mpr opened, ?_⟩
    exact mt (opens (before ++ [stray])).mp closed

/-- A first token that begins nothing is the stray one. -/
theorem Diagnoses.head (empty : Opens L []) (none : ∀ further, ¬L (token :: further)) :
    Diagnoses L (token :: rest) (.strayToken token) :=
  .inr ⟨[], token, rest, rfl, rfl, empty, fun ⟨further, holds⟩ => none further holds⟩

theorem isExpression_number {x : Number} : IsExpression (.number x :: rest) ↔ AreLinks rest := by
  simpa [IsExpression, AreLinks] using exists_spelling_number (P := fun _ => True)

theorem isExpression_sign {minus : Bool} :
    IsExpression (signToken minus :: rest) ↔ IsExpression rest := by
  simpa [IsExpression] using exists_spelling_sign (P := fun _ => True)

theorem areLinks_operator {op : Operator} :
    AreLinks (.operator op :: rest) ↔ IsExpression rest := by
  simpa [IsExpression, AreLinks] using exists_links_operator (P := fun _ => True)

theorem areLinks_nil : AreLinks [] := ⟨[], rfl⟩

/-- Every expression begins with nothing. -/
theorem isBeginning_nil : IsBeginning [] :=
  ⟨[.number (.ofNat 0)], isExpression_number.mpr areLinks_nil⟩

/-- Reading fails only for the tokens, if the signs can be applied, and tells where. -/
theorem diagnoses_of_error (tokens : List Token)
    (applied : ∀ x, .number x ∈ tokens → ∀ count, ∃ y, x.negated ctx count = .ok y) :
    (∀ minuses e, Chain.ofOperand ctx minuses tokens = .error e →
      Diagnoses IsExpression tokens e) ∧
    (∀ e, Chain.linksOf ctx tokens = .error e → Diagnoses AreLinks tokens e) := by
  induction tokens with
  | nil =>
      constructor
      · intro minuses e failed
        injection failed with same
        exact .inl ⟨same.symm, isBeginning_nil⟩
      · intro e failed
        cases failed
  | cons token rest ih =>
      obtain ⟨operands, others⟩ := ih fun x member => applied x (.tail _ member)
      constructor
      · intro minuses e failed
        cases token with
        | number x =>
            obtain ⟨y, negated⟩ := applied x (.head _) minuses
            rw [ofOperand_number, negated] at failed
            exact (others e (Results.map_eq_error_iff.mp failed)).cons fun _ => isExpression_number
        | operator op =>
            rcases sign_or_product op with ⟨minus, sign⟩ | product
            · rw [sign, ofOperand_sign] at failed
              rw [sign]
              exact (operands _ e failed).cons fun _ => isExpression_sign
            · rw [ofOperand_product minuses product] at failed
              injection failed with same
              rw [← same]
              exact .head isBeginning_nil fun _ ⟨s, shape⟩ => not_spelling_product product s shape
      · intro e failed
        cases token with
        | number x =>
            injection failed with same
            rw [← same]
            exact .head ⟨[], areLinks_nil⟩ fun _ ⟨links, shape⟩ => not_links_number links shape
        | operator op =>
            rw [linksOf_operator] at failed
            exact (operands 0 e (Results.map_eq_error_iff.mp failed)).cons fun _ =>
              areLinks_operator

end Diagnosis

/-! ## Expressions are accepted, and nothing else -/

theorem map_ofChain_eq_ok_iff {ts : List Token} :
    (∃ tree, Tree.ofTokens ctx ts = .ok tree) ↔ ∃ chain, Chain.ofTokens ctx ts = .ok chain := by
  simp only [Tree.ofTokens, Results.map_eq_ok_iff]
  exact ⟨fun ⟨_, chain, read, _⟩ => ⟨chain, read⟩, fun ⟨chain, read⟩ => ⟨_, chain, read, rfl⟩⟩

theorem parse_of_tokens {cs : List Char} {ts : List Token} (read : tokens cs = .ok ts) :
    parse ctx cs = Tree.ofTokens ctx ts := by
  rw [parse, read]

theorem exists_linksDenote (spelled : List (Operator × SignedNumber))
    (applied : ∀ x, .number x ∈ linkTokens spelled → ∀ count, ∃ y, x.negated ctx count = .ok y) :
    ∃ links, LinksDenote ctx spelled links := by
  induction spelled with
  | nil => exact ⟨[], .nil⟩
  | cons link spelled ih =>
      have member : .number link.2.number ∈ linkTokens (link :: spelled) := by
        simp [linkTokens, SignedNumber.tokens]
      obtain ⟨y, negated⟩ := applied _ member link.2.minuses
      obtain ⟨links, denote⟩ := ih fun x member => applied x (List.mem_append_right _ member)
      exact ⟨(link.1, y) :: links, .cons ⟨rfl, negated⟩ denote⟩

/-- A text that is parsed spells an expression, and its tree is that of the chain. -/
theorem exists_spelling_of_parse {cs : List Char} {tree : Tree} (parsed : parse ctx cs = .ok tree) :
    ∃ (s : Spelling) (chain : Chain),
      tokens cs = .ok s.tokens ∧ s.Denotes ctx chain ∧ tree = Tree.ofChain chain := by
  cases read : tokens cs with
  | error e =>
      rw [parse, read] at parsed
      cases parsed
  | ok ts =>
      rw [parse_of_tokens read] at parsed
      obtain ⟨chain, chained, rfl⟩ := Results.map_eq_ok_iff.mp parsed
      obtain ⟨s, rfl, denotes⟩ := (ofTokens_eq_ok_iff ts chain).mp chained
      exact ⟨s, chain, rfl, denotes, rfl⟩

/-- A spelling denotes a chain if all of its signs can be applied. -/
theorem Spelling.exists_denotes (s : Spelling)
    (applied : ∀ x, .number x ∈ s.tokens → ∀ count, ∃ y, x.negated ctx count = .ok y) :
    ∃ chain, s.Denotes ctx chain := by
  obtain ⟨first, negated⟩ := applied _ s.number_mem_tokens s.first.minuses
  obtain ⟨links, denote⟩ :=
    exists_linksDenote s.links fun x member => applied x (List.mem_append_right _ member)
  exact ⟨⟨first, links⟩, negated, denote⟩

/-- Numbers of texts below the largest power of ten can take any number of signs. -/
theorem exists_negated_of_small {cs : List Char} {ts : List Token} (read : tokens cs = .ok ts)
    {x : Number} (member : .number x ∈ ts) (small : x.value < 10 ^ 999999) (count : ℕ) :
    ∃ y, x.negated .standard count = .ok y := by
  apply exists_negated_of_adjusted_lt (by decide)
  intro nonzero
  apply (Number.adjusted_lt_iff nonzero _).mpr
  rw [Number.value, negative_of_mem_tokens read member] at small
  show x.magnitude < 10 ^ ((999999 : ℕ) : ℤ)
  rw [zpow_natCast]
  exact small

/-- A text is parsed exactly when its tokens are an expression, if none of its numbers is so large
that a sign could fail on it. Otherwise the error is that of an invalid expression: a number is
missing where the tokens begin an expression, and where they do not, the message names the first
token with which they no longer do. -/
theorem parse_accepts_expressions {cs : List Char} {ts : List Token} (read : tokens cs = .ok ts)
    (small : ∀ x, .number x ∈ ts → x.value < 10 ^ 999999) :
    ((∃ tree, parse .standard cs = .ok tree) ↔ IsExpression ts) ∧
    ∀ e, parse .standard cs = .error e →
      e.kind = .invalidExpression ∧
      (IsBeginning ts → e.code = "3027") ∧
      (¬IsBeginning ts → e.code = "3011" ∧
        ∃ before token after, ts = before ++ token :: after ∧
          IsBeginning before ∧ ¬IsBeginning (before ++ [token]) ∧
          e.message = "Unexpected token: " ++ String.ofList token.text) := by
  have applied : ∀ x, .number x ∈ ts → ∀ count, ∃ y, x.negated .standard count = .ok y :=
    fun x member => exists_negated_of_small read member (small x member)
  rw [parse_of_tokens read]
  constructor
  · rw [map_ofChain_eq_ok_iff]
    simp only [ofTokens_eq_ok_iff]
    constructor
    · rintro ⟨chain, s, shape, denote⟩
      exact ⟨s, shape⟩
    · rintro ⟨s, shape⟩
      obtain ⟨chain, denote⟩ := s.exists_denotes (shape ▸ applied)
      exact ⟨chain, s, shape, denote⟩
  · intro e failed
    have failed := Results.map_eq_error_iff.mp failed
    cases ts with
    | nil =>
        injection failed with same
        rw [← same]
        exact ⟨rfl, fun _ => rfl, fun closed => absurd isBeginning_nil closed⟩
    | cons token rest =>
        have diagnosis := (diagnoses_of_error _ applied).1 0 e failed
        rcases diagnosis with ⟨rfl, opened⟩ | ⟨before, stray, after, shape, rfl, opened, closed⟩
        · exact ⟨rfl, fun _ => rfl, fun closed => absurd opened closed⟩
        · refine ⟨rfl, fun opens => absurd ?_ closed, fun _ => ⟨rfl, ?_⟩⟩
          · have split : token :: rest = (before ++ [stray]) ++ after := by simp [shape]
            exact Opens.of_append (L := IsExpression) (split ▸ opens)
          · exact ⟨before, stray, after, shape, opened, closed, rfl⟩

theorem parse_accepts_expressions_two_operators :
    ¬IsExpression [.number ⟨false, 2, 0⟩, .operator .mul, .operator .div, .number ⟨false, 3, 0⟩] ∧
    ∃ e, parse .standard "2*/3".toList = .error e ∧ e.kind = .invalidExpression := by
  have read : tokens "2*/3".toList =
      .ok [.number ⟨false, 2, 0⟩, .operator .mul, .operator .div, .number ⟨false, 3, 0⟩] := by
    decide
  have small (x : Number)
      (member : .number x ∈ [Token.number ⟨false, 2, 0⟩, .operator .mul, .operator .div,
        .number ⟨false, 3, 0⟩]) : x.value < 10 ^ 999999 := by
    have below : (10 : ℚ) ≤ 10 ^ 999999 := le_self_pow₀ (by norm_num) (by decide)
    refine lt_of_lt_of_le ?_ below
    simp only [List.mem_cons, Token.number.injEq, reduceCtorEq, false_or, List.not_mem_nil,
      or_false] at member
    rcases member with rfl | rfl <;> norm_num [Number.value, signed, Number.magnitude]
  have failed : parse .standard "2*/3".toList = .error (.strayToken (.operator .div)) := by decide
  obtain ⟨accepts, rejects⟩ := parse_accepts_expressions read small
  constructor
  · intro spelled
    obtain ⟨tree, parsed⟩ := accepts.mpr spelled
    rw [failed] at parsed
    cases parsed
  · exact ⟨_, failed, (rejects _ failed).1⟩

end Reckoner
