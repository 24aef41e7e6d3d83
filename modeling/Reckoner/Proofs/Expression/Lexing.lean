import Mathlib.Tactic
import Reckoner.Expression.Error
import Reckoner.Expression.Lexer
import Reckoner.Proofs.Decimal.Positional

/-!
# Tokens of texts put together

The tokens of a text can be read off its parts: a character that belongs to no number ends the piece
before it and starts another one, a blank gives nothing, and a longest run of digits and points
gives its number.
-/

namespace Reckoner

/-! ## Pieces -/

theorem push_append_mark {c d : Char} (front back : List Piece) :
    Piece.push c (front ++ .mark d :: back) = Piece.push c front ++ .mark d :: back := by
  unfold Piece.push
  split
  · cases front with
    | nil => rfl
    | cons piece front => cases piece <;> rfl
  · rfl

/-- A character that belongs to no number separates what stands on both sides. -/
theorem pieces_append_mark {c : Char} (mark : Piece.isNumeral c = false)
    (before after : List Char) :
    pieces (before ++ c :: after) = pieces before ++ .mark c :: pieces after := by
  induction before with
  | nil => simp [pieces, Piece.push, mark]
  | cons d before ih =>
      show Piece.push d (pieces (before ++ c :: after)) = Piece.push d (pieces before) ++ _
      rw [ih, push_append_mark]

theorem pieces_cons_mark {c : Char} (mark : Piece.isNumeral c = false) (cs : List Char) :
    pieces (c :: cs) = .mark c :: pieces cs :=
  pieces_append_mark mark [] cs

/-- A run that is as long as it can be is one piece. -/
theorem pieces_append_run {run rest : List Char} (filled : run ≠ [])
    (numerals : ∀ c ∈ run, Piece.isNumeral c = true)
    (ends : ∀ c, rest.head? = some c → Piece.isNumeral c = false) :
    pieces (run ++ rest) = .run run :: pieces rest := by
  induction run with
  | nil => exact absurd rfl filled
  | cons c run ih =>
      have numeral := numerals c (by simp)
      show Piece.push c (pieces (run ++ rest)) = _
      cases run with
      | nil =>
          cases rest with
          | nil => simp [pieces, Piece.push, numeral]
          | cons d rest => simp [pieces, Piece.push, numeral, ends d rfl]
      | cons d run =>
          rw [ih (by simp) fun e member => numerals e (by simp_all)]
          simp [Piece.push, numeral]

/-! ## Tokens -/

theorem tokensOf_cons (piece : Piece) (rest : List Piece) :
    tokensOf (piece :: rest) =
      piece.token?.bind fun token? => (tokensOf rest).map (token?.toList ++ ·) := by
  rw [tokensOf]
  cases piece.token? with
  | error e => rfl
  | ok token? =>
      simp only [Except.bind]
      cases tokensOf rest <;> rfl

theorem tokensOf_append (front back : List Piece) :
    tokensOf (front ++ back) =
      (tokensOf front).bind fun before => (tokensOf back).map (before ++ ·) := by
  induction front with
  | nil =>
      show tokensOf back = (tokensOf back).map ([] ++ ·)
      cases tokensOf back <;> rfl
  | cons piece front ih =>
      rw [List.cons_append, tokensOf_cons, tokensOf_cons, ih]
      cases piece.token? with
      | error e => rfl
      | ok token? =>
          cases tokensOf front with
          | error e => rfl
          | ok before => cases tokensOf back <;> simp [Except.bind, Except.map]

@[simp] theorem ofChar?_symbol (op : Operator) : Operator.ofChar? op.symbol = some op := by
  cases op <;> rfl

theorem isNumeral_symbol (op : Operator) : Piece.isNumeral op.symbol = false := by
  cases op <;> decide

theorem isNumeral_of_plain {c : Char} (plain : Text.isPlainDigit c = true) :
    Piece.isNumeral c = true := by
  rw [Piece.isNumeral, Numeral.isDigit_of_plain plain, Bool.true_or]

/-- An operator separates the tokens on both sides. -/
theorem tokens_append_operator (op : Operator) (before after : List Char) :
    tokens (before ++ op.symbol :: after) =
      (tokens before).bind fun front => (tokens after).map (front ++ .operator op :: ·) := by
  rw [tokens, pieces_append_mark (isNumeral_symbol op), tokensOf_append, tokensOf_cons]
  simp only [Piece.token?, markToken?, ofChar?_symbol, Except.bind, Option.toList]
  show _ = (tokensOf (pieces before)).bind _
  cases tokensOf (pieces before) with
  | error e => rfl
  | ok front =>
      show ((tokensOf (pieces after)).map _).map _ = (tokensOf (pieces after)).map _
      cases tokensOf (pieces after) <;> simp [Except.map]

theorem tokens_cons_operator (op : Operator) (cs : List Char) :
    tokens (op.symbol :: cs) = (tokens cs).map (.operator op :: ·) :=
  tokens_append_operator op [] cs

/-- A blank gives no token. -/
theorem tokens_cons_blank (cs : List Char) : tokens (' ' :: cs) = tokens cs := by
  have mark : Piece.isNumeral ' ' = false := by decide
  rw [tokens, pieces_cons_mark mark, tokensOf_cons]
  show (tokensOf (pieces cs)).map _ = tokensOf (pieces cs)
  cases tokensOf (pieces cs) <;> rfl

/-- A run that is as long as it can be gives its token, and then come those of the rest. -/
theorem tokens_append_run {run rest : List Char} (filled : run ≠ [])
    (numerals : ∀ c ∈ run, Piece.isNumeral c = true)
    (ends : ∀ c, rest.head? = some c → Piece.isNumeral c = false) :
    tokens (run ++ rest) = (runToken run).bind fun token => (tokens rest).map (token :: ·) := by
  rw [tokens, pieces_append_run filled numerals ends, tokensOf_cons]
  show ((runToken run).map some).bind _ = (runToken run).bind _
  cases runToken run <;> rfl

/-- A run with a digit and at most one point is a number. -/
theorem runToken_eq_number {run : List Char} (points : run.count '.' ≤ 1) (digit : run ≠ ['.']) :
    runToken run = .ok (.number (Number.ofRun run)) := by
  rw [runToken, if_neg (by omega), if_neg digit]

/-- The digits of a run end at ones or behind the point. -/
theorem exponent_ofRun_nonpos (run : List Char) : (Number.ofRun run).exponent ≤ 0 :=
  Int.neg_nonpos_of_nonneg (Int.natCast_nonneg _)

/-- A run is read as the number that it writes. -/
theorem value_ofRun {run : List Char} (digits : ∀ c ∈ fractionPart run, Text.isDigit c = true) :
    (Number.ofRun run).value = magnitudeOf run := by
  have exponent : (Number.ofRun run).exponent = -(fractionPart run).length := rfl
  show (Numeral.valueOf run : ℚ) * 10 ^ (Number.ofRun run).exponent = _
  rw [exponent, valueOf_parts, Numeral.valueOf_append _ digits, magnitudeOf, zpow_neg,
    zpow_natCast]
  push_cast
  field_simp

/-- Plain digits that begin a run are a number, with a point and further plain digits behind them or
without. -/
theorem tokens_append_number {ds run rest : List Char} (filled : ds ≠ [])
    (plain : ∀ c ∈ ds, Text.isPlainDigit c = true)
    (parts : run = ds ∨
      ∃ es, (∀ c ∈ es, Text.isPlainDigit c = true) ∧ run = ds ++ '.' :: es)
    (ends : ∀ c, rest.head? = some c → Piece.isNumeral c = false) :
    tokens (run ++ rest) = (tokens rest).map (.number (Number.ofRun run) :: ·) := by
  obtain ⟨d, others, rfl⟩ := List.exists_cons_of_ne_nil filled
  have first : d ≠ '.' := Positional.ne_point_of_plain (plain d (by simp))
  have points := Positional.count_point_of_plain plain
  have number : runToken run = .ok (.number (Number.ofRun run)) := by
    rcases parts with rfl | ⟨es, plain', rfl⟩
    · exact runToken_eq_number (by omega) (by simp [first])
    · have points' := Positional.count_point_of_plain plain'
      refine runToken_eq_number ?_ (by simp [first])
      rw [List.count_append, List.count_cons_self]
      omega
  have numerals : ∀ c ∈ run, Piece.isNumeral c = true := by
    rcases parts with rfl | ⟨es, plain', rfl⟩
    · exact fun c member => isNumeral_of_plain (plain c member)
    · intro c member
      rcases List.mem_append.mp member with before | behind
      · exact isNumeral_of_plain (plain c before)
      · rcases List.mem_cons.mp behind with rfl | behind
        · decide
        · exact isNumeral_of_plain (plain' c behind)
  have filled' : run ≠ [] := by
    rcases parts with rfl | ⟨es, -, rfl⟩ <;> simp
  rw [tokens_append_run filled' numerals ends, number]
  rfl

theorem exists_ofRun_of_token? {piece : Piece} {x : Number}
    (read : piece.token? = .ok (some (.number x))) :
    ∃ run, piece = .run run ∧ x = Number.ofRun run := by
  cases piece with
  | run cs =>
      obtain ⟨token, made, same⟩ := Results.map_eq_ok_iff.mp read
      unfold runToken at made
      split at made
      · cases made
      · split at made
        · cases made
        · injection made with number
          rw [← number] at same
          injection same with inner
          injection inner with value
          exact ⟨cs, rfl, value.symm⟩
  | mark c =>
      simp only [Piece.token?, markToken?] at read
      split at read
      · simp at read
      · split at read <;> simp at read

/-- The numbers among the tokens of a text are written by its runs. -/
theorem exists_ofRun_of_mem_tokens {cs : List Char} {ts : List Token} (read : tokens cs = .ok ts)
    {x : Number} (member : .number x ∈ ts) :
    ∃ run, .run run ∈ pieces cs ∧ x = Number.ofRun run := by
  unfold tokens at read
  generalize pieces cs = ps at read
  induction ps generalizing ts with
  | nil =>
      cases read
      cases member
  | cons piece ps ih =>
      rw [tokensOf_cons] at read
      obtain ⟨token?, first, read⟩ := Results.bind_eq_ok_iff.mp read
      obtain ⟨rest, others, same⟩ := Results.map_eq_ok_iff.mp read
      rw [← same, List.mem_append] at member
      rcases member with here | there
      · rw [Option.mem_toList] at here
        obtain ⟨run, rfl, number⟩ := exists_ofRun_of_token? (here ▸ first)
        exact ⟨run, .head _, number⟩
      · obtain ⟨run, inside, number⟩ := ih there others
        exact ⟨run, .tail _ inside, number⟩

/-- The numbers among the tokens of a text have no sign. -/
theorem negative_of_mem_tokens {cs : List Char} {ts : List Token} (read : tokens cs = .ok ts)
    {x : Number} (member : .number x ∈ ts) : x.negative = false := by
  obtain ⟨run, -, rfl⟩ := exists_ofRun_of_mem_tokens read member
  rfl

end Reckoner
