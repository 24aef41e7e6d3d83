import Mathlib.Data.List.TakeWhile
import Mathlib.Tactic
import Reckoner.Json.Lexeme
import Reckoner.Json.Writer
import Reckoner.Proofs.Json.Joined
import Reckoner.Proofs.Numeral

/-!
# Cutting written values into lexemes

Where the lexer stands behind a written value: the lexemes are found, or they will be with the next
character that cannot belong to the last one. A number is written as one run, which spells it and
nothing else. A text is written with escapes, each of which gives its code point again; one beyond
the first 65536 takes two escapes, whose halves join. Halves that stand alone do not join, since in
a text that was read none stands where it could.
-/

namespace Reckoner.Json.Lexer

/-- Whether the lexer has found the lexemes `found`, last first, once it meets the end of the text
or a character that is in no run. -/
def Yields (lexer : Lexer) (found : List Lexeme) : Prop :=
  lexer.finish = found.reverse ∧ ∀ c, isRunChar c = false → lexer.step c = mark found c

theorem yields_between (found : List Lexeme) : Yields { found } found :=
  ⟨rfl, fun _ _ => rfl⟩

/-! ## Blanks -/

/-- The characters that separate lexemes and are in none. -/
def blanks : List Char := [' ', '\t', '\n', '\r']

theorem isRunChar_of_mem_blanks {c : Char} (blank : c ∈ blanks) : isRunChar c = false := by
  have outside : blanks.all (fun c => !isRunChar c) = true := by decide
  simpa using List.all_eq_true.mp outside c blank

theorem mark_of_mem_blanks (found : List Lexeme) {c : Char} (blank : c ∈ blanks) :
    mark found c = { found } := by
  simp only [blanks, List.mem_cons, List.not_mem_nil, or_false] at blank
  rcases blank with rfl | rfl | rfl | rfl <;> rfl

theorem foldl_step_blanks (found : List Lexeme) {cs : List Char}
    (blank : ∀ c ∈ cs, c ∈ blanks) : cs.foldl step { found } = { found } := by
  induction cs with
  | nil => rfl
  | cons c cs ih =>
      obtain ⟨first, others⟩ := List.forall_mem_cons.mp blank
      rw [List.foldl_cons, (yields_between found).2 c (isRunChar_of_mem_blanks first),
        mark_of_mem_blanks found first, ih others]

theorem Yields.blanks {lexer : Lexer} {found : List Lexeme} (yields : lexer.Yields found)
    {cs : List Char} (blank : ∀ c ∈ cs, c ∈ blanks) : (cs.foldl step lexer).Yields found := by
  cases cs with
  | nil => exact yields
  | cons c cs =>
      obtain ⟨first, others⟩ := List.forall_mem_cons.mp blank
      rw [List.foldl_cons, yields.2 c (isRunChar_of_mem_blanks first),
        mark_of_mem_blanks found first, foldl_step_blanks found others]
      exact yields_between found

/-! ## Runs -/

theorem mark_of_isRunChar (found : List Lexeme) {c : Char} (member : isRunChar c = true) :
    mark found c = { found, mode := .run [c] } := by
  unfold mark
  split <;> simp_all <;> revert member <;> decide

theorem foldl_step_run (found : List Lexeme) (before : List Char) {cs : List Char}
    (members : ∀ c ∈ cs, isRunChar c = true) :
    cs.foldl step { found, mode := .run before } =
      { found, mode := .run (cs.reverse ++ before) } := by
  induction cs generalizing before with
  | nil => rfl
  | cons c cs ih =>
      obtain ⟨first, others⟩ := List.forall_mem_cons.mp members
      have more :
          step { found, mode := .run before } c = { found, mode := .run (c :: before) } := by
        rw [step]
        exact if_pos first
      rw [List.foldl_cons, more, ih (c :: before) others, List.reverse_cons, List.append_assoc]
      rfl

/-- A run gives the lexemes that it spells. -/
theorem yields_run (found : List Lexeme) {cs : List Char} (filled : cs ≠ [])
    (members : cs.all isRunChar = true) :
    (cs.foldl step { found }).Yields ((runLexemes cs).reverse ++ found) := by
  obtain ⟨c, cs, rfl⟩ := List.exists_cons_of_ne_nil filled
  obtain ⟨first, others⟩ := List.forall_mem_cons.mp (List.all_eq_true.mp members)
  have start : step { found } c = { found, mode := .run [c] } := mark_of_isRunChar found first
  rw [List.foldl_cons, start, foldl_step_run found [c] others]
  constructor
  · simp [finish]
  · intro e behind
    simp [step, behind]

/-! ## Numbers -/

theorem splitDigits_of_plain {cs : List Char} (plain : ∀ c ∈ cs, Text.isPlainDigit c = true) :
    splitDigits cs = (cs, []) := by
  rw [splitDigits, List.takeWhile_eq_self_iff.mpr plain, List.dropWhile_eq_nil_iff.mpr plain]

/-- A numeral is read as a whole part and nothing else. -/
theorem wholePart?_digits (n : Nat) :
    wholePart? (Numeral.digits n) = some (Numeral.digits n, []) := by
  by_cases zero : n = 0
  · rw [zero, Numeral.digits_zero]
    rfl
  · have leading := Numeral.head_digits_ne_zero zero
    have split := splitDigits_of_plain fun c => Numeral.isPlainDigit_of_mem_digits (n := n) (c := c)
    have filled := Numeral.digits_ne_nil n
    unfold wholePart?
    split
    · rename_i rest text
      rw [text] at leading
      exact absurd rfl leading
    · simp [split, filled]

theorem number?_digits (n : Nat) :
    number? (Numeral.digits n) = some (.int false (Numeral.digits n), []) := by
  unfold number?
  split
  rename_i negative magnitude parts
  split at parts
  · rename_i rest text
    have digit : Text.isPlainDigit '-' = true :=
      Numeral.isPlainDigit_of_mem_digits (n := n) (by simp [text])
    cases digit
  · cases parts
    simp [wholePart?_digits, fractionPart, powerPart?]

theorem number?_minus_digits (n : Nat) :
    number? ('-' :: Numeral.digits n) = some (.int true (Numeral.digits n), []) := by
  simp [number?, wholePart?_digits, fractionPart, powerPart?]

theorem number?_signed (n : Int) :
    number? (Numeral.signed n) = some (.int (decide (n < 0)) (Numeral.digits n.natAbs), []) := by
  cases n with
  | ofNat n => exact number?_digits n
  | negSucc n =>
      have negative : Int.negSucc n < 0 := Int.negSucc_lt_zero n
      rw [Numeral.signed, number?_minus_digits, decide_eq_true negative, Int.natAbs_negSucc]

theorem mem_signed {n : Int} {c : Char} (member : c ∈ Numeral.signed n) :
    Text.isPlainDigit c = true ∨ c = '-' := by
  cases n with
  | ofNat n => exact .inl (Numeral.isPlainDigit_of_mem_digits member)
  | negSucc n =>
      rcases List.mem_cons.mp member with sign | digit
      · exact .inr sign
      · exact .inl (Numeral.isPlainDigit_of_mem_digits digit)

theorem all_isRunChar_signed (n : Int) : (Numeral.signed n).all isRunChar = true := by
  rw [List.all_eq_true]
  intro c member
  rcases mem_signed member with digit | rfl
  · simp [isRunChar, digit]
  · rfl

theorem signed_ne_nil (n : Int) : Numeral.signed n ≠ [] := by
  cases n with
  | ofNat n => exact Numeral.digits_ne_nil n
  | negSucc n => exact List.cons_ne_nil _ _

theorem signed_ne_word {n : Int} {word : String} (letter : Char) (member : letter ∈ word.toList)
    (other : (Text.isPlainDigit letter || letter == '-') = false) :
    String.ofList (Numeral.signed n) ≠ word := by
  rintro rfl
  rw [String.toList_ofList] at member
  rcases mem_signed member with digit | sign
  · simp [digit] at other
  · simp [sign] at other

/-- A whole number spells itself: it has no letter, so it is none of the words. -/
theorem runLexemes_signed (n : Int) :
    runLexemes (Numeral.signed n) = [.int (decide (n < 0)) (Numeral.digits n.natAbs)] := by
  unfold runLexemes
  split
  · exact absurd ‹_› (signed_ne_word 'n' (by decide) rfl)
  · exact absurd ‹_› (signed_ne_word 'r' (by decide) rfl)
  · exact absurd ‹_› (signed_ne_word 'a' (by decide) rfl)
  · exact absurd ‹_› (signed_ne_word 'a' (by decide) rfl)
  · exact absurd ‹_› (signed_ne_word 'f' (by decide) rfl)
  · exact absurd ‹_› (signed_ne_word 'f' (by decide) rfl)
  · rw [number?_signed]

/-! ## Texts -/

theorem hexValue?_digitChar {d : Nat} (h : d < 16) : hexValue? (Nat.digitChar d) = some d := by
  interval_cases d <;> decide

/-- The four digits of an escape are read to its code unit. -/
theorem foldl_step_hexDigits (found : List Lexeme) (before : CodePoints) {n : Nat}
    (short : n < 0x10000) :
    (Text.hexDigits 4 n).foldl step { found, mode := .hex before 0 0 } =
      { found, mode := .text (addUnit before n) } := by
  have digits : Text.hexDigits 4 n =
      [Nat.digitChar (n / 16 / 16 / 16 % 16), Nat.digitChar (n / 16 / 16 % 16),
        Nat.digitChar (n / 16 % 16), Nat.digitChar (n % 16)] := by
    simp [Text.hexDigits]
  have digit (k : Nat) : hexValue? (Nat.digitChar (k % 16)) = some (k % 16) :=
    hexValue?_digitChar (Nat.mod_lt _ (by decide))
  have sum : 16 * (16 * (16 * (16 * 0 + n / 16 / 16 / 16 % 16) + n / 16 / 16 % 16) + n / 16 % 16) +
      n % 16 = n := by omega
  simp only [digits, List.foldl_cons, List.foldl_nil, step, digit, Nat.reduceAdd, Nat.reduceEqDiff,
    if_false, if_true, sum]

/-- An escape of a code unit adds what the unit stands for. -/
theorem foldl_step_escape (found : List Lexeme) (before : CodePoints) {n : Nat}
    (short : n < 0x10000) :
    ('\\' :: 'u' :: Text.hexDigits 4 n).foldl step { found, mode := .text before } =
      { found, mode := .text (addUnit before n) } := by
  have start : step (step { found, mode := .text before } '\\') 'u' =
      { found, mode := .hex before 0 0 } := rfl
  rw [List.foldl_cons, List.foldl_cons, start, foldl_step_hexDigits found before short]

/-- The code unit of a half adds the half. -/
theorem addUnit_half (before : CodePoints) (half : Fin 0x800) :
    addUnit before (0xD800 + half) = addHalf before half := by
  have small := half.isLt
  have same : (0xD800 + half : Nat) - 0xD800 = half := Nat.add_sub_cancel_left _ _
  rw [addUnit, dif_pos (by omega)]
  simp only [same]

/-- The code unit of a character adds the character. -/
theorem addUnit_char (before : CodePoints) {c : Char} (one : c.toNat < 0x10000) :
    addUnit before c.toNat = .char c :: before := by
  have valid : c.toNat.isValidChar := c.valid
  unfold Nat.isValidChar at valid
  rw [addUnit, dif_neg (by omega), Char.ofNat_toNat]

/-- A half that makes no pair with the code point before it stays a half. -/
theorem addHalf_of_not_isPair {before : CodePoints} {half : Fin 0x800}
    (apart : ∀ last ∈ before.head?, ¬last.IsPair (.half half)) :
    addHalf before half = .half half :: before := by
  unfold addHalf
  split
  · exact if_neg (apart _ rfl)
  · rfl

/-- A first half stays a half, whatever stands before it. -/
theorem addUnit_firstHalf (before : CodePoints) {half : Fin 0x800} (first : (half : ℕ) < 0x400) :
    addUnit before (0xD800 + half) = .half half :: before := by
  refine (addUnit_half before half).trans (addHalf_of_not_isPair fun last _ pair => ?_)
  cases last with
  | char c => exact pair
  | half other => exact absurd first (Nat.not_lt.mpr pair.2)

/-- A second half joins the first one before it. -/
theorem addUnit_secondHalf (before : CodePoints) {first second : Fin 0x800}
    (pair : CodePoint.IsPair (.half first) (.half second)) :
    addUnit (.half first :: before) (0xD800 + second) =
      .char (Char.ofNat (0x10000 + first * 0x400 + (second - 0x400))) :: before := by
  rw [addUnit_half]
  exact if_pos pair

/-- The escapes of a character give it again: its own code unit, or two halves that join. -/
theorem foldl_step_unitEscapes (found : List Lexeme) (before : CodePoints) (c : Char) :
    (unitEscapes c.toNat).foldl step { found, mode := .text before } =
      { found, mode := .text (.char c :: before) } := by
  have valid : c.toNat.isValidChar := c.valid
  unfold Nat.isValidChar at valid
  unfold unitEscapes
  by_cases one : c.toNat < 0x10000
  · rw [if_pos one, foldl_step_escape found before one, addUnit_char before one]
  · generalize offset : c.toNat - 0x10000 = k
    let first : Fin 0x800 := ⟨k / 0x400, by omega⟩
    let second : Fin 0x800 := ⟨0x400 + k % 0x400, by omega⟩
    have isFirst : (first : ℕ) < 0x400 := by
      show k / 0x400 < 0x400
      omega
    have pair : CodePoint.IsPair (.half first) (.half second) :=
      ⟨isFirst, Nat.le_add_right 0x400 _⟩
    have unit : 0xDC00 + k % 0x400 = 0xD800 + (second : ℕ) := by
      show _ = 0xD800 + (0x400 + k % 0x400)
      omega
    have joined : 0x10000 + first * 0x400 + (second - 0x400) = c.toNat := by
      show 0x10000 + k / 0x400 * 0x400 + (0x400 + k % 0x400 - 0x400) = c.toNat
      omega
    have opened : addUnit before (0xD800 + k / 0x400) = .half first :: before :=
      addUnit_firstHalf before isFirst
    rw [if_neg one]
    dsimp only
    rw [List.foldl_append, foldl_step_escape found before (by omega), opened,
      foldl_step_escape found _ (by omega), unit, addUnit_secondHalf before pair, joined,
      Char.ofNat_toNat]

theorem foldl_step_writeChar (found : List Lexeme) (before : CodePoints) (c : Char) :
    (writeChar c).foldl step { found, mode := .text before } =
      { found, mode := .text (.char c :: before) } := by
  unfold writeChar
  split_ifs with quote backslash line ret tab page back plain
  all_goals try (subst_vars; rfl)
  · have notControl : ¬ c.toNat < 0x20 := by simp at plain; omega
    simp [step, quote, backslash, notControl]
  · exact foldl_step_unitEscapes found before c

/-- A code point is read as it was written, where it does not join the one before it. -/
theorem foldl_step_writeCodePoint (found : List Lexeme) {before : CodePoints} {point : CodePoint}
    (apart : ∀ last ∈ before.head?, ¬last.IsPair point) :
    (writeCodePoint point).foldl step { found, mode := .text before } =
      { found, mode := .text (point :: before) } := by
  cases point with
  | char c => exact foldl_step_writeChar found before c
  | half n =>
      have small := n.isLt
      have one : 0xD800 + (n : Nat) < 0x10000 := by omega
      rw [writeCodePoint, unitEscapes, if_pos one, foldl_step_escape found before one,
        addUnit_half, addHalf_of_not_isPair apart]

/-- The code points of a joined text are read as they were written. -/
theorem foldl_step_codePoints (found : List Lexeme) (before : CodePoints) {points : CodePoints}
    (joined : CodePoints.IsJoined (before.reverse ++ points)) :
    (points.flatMap writeCodePoint).foldl step { found, mode := .text before } =
      { found, mode := .text (points.reverse ++ before) } := by
  induction points generalizing before with
  | nil => rfl
  | cons point points ih =>
      have apart : ∀ last ∈ before.head?, ¬last.IsPair point := by
        intro last member
        rw [← List.getLast?_reverse] at member
        exact (List.isChain_append.mp joined).2.2 last member point rfl
      rw [List.flatMap_cons, List.foldl_append, foldl_step_writeCodePoint found apart,
        ih _ (by simpa using joined), List.reverse_cons, List.append_assoc]
      rfl

/-- A written text is one lexeme. -/
theorem foldl_step_writeText (found : List Lexeme) {points : CodePoints}
    (joined : points.IsJoined) :
    (writeText points).foldl step { found } = { found := .text points :: found } := by
  have quote : step { found } '"' = { found, mode := .text [] } := rfl
  rw [writeText, List.foldl_cons, quote, List.foldl_append,
    foldl_step_codePoints found [] joined]
  simp [step]

end Reckoner.Json.Lexer
