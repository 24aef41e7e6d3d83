import Mathlib.Data.List.DropRight
import Mathlib.Tactic
import Reckoner.Proofs.Expression.Lexing

/-!
# Lexemes

What the tokens of a text are, without the way they are found. Each longest run of digits and points
writes a number, each operator stands for itself, and spaces stand for nothing. A text has tokens
exactly when all of it is of these kinds. Otherwise reading goes wrong at some characters, and the
error is that of the leftmost one.
-/

namespace Reckoner

/-! ## Longest runs -/

/-- Whether digits and points are a run that the text on neither side continues. -/
structure IsRun (before run after : List Char) : Prop where
  filled : run ≠ []
  numerals : ∀ c ∈ run, Piece.isNumeral c = true
  begins : ∀ c, before.getLast? = some c → Piece.isNumeral c = false
  ends : ∀ c, after.head? = some c → Piece.isNumeral c = false

/-- What a dropped run leaves does not begin with a digit or a point. -/
theorem ends_dropWhile (cs : List Char) :
    ∀ c, (cs.dropWhile Piece.isNumeral).head? = some c → Piece.isNumeral c = false := by
  intro c first
  have stop := List.head?_dropWhile_not Piece.isNumeral cs
  rw [first] at stop
  exact stop

/-- What a run at the end leaves does not end with a digit or a point. -/
theorem begins_rdropWhile (cs : List Char) :
    ∀ c, (cs.rdropWhile Piece.isNumeral).getLast? = some c → Piece.isNumeral c = false := by
  intro c last
  have filled : cs.rdropWhile Piece.isNumeral ≠ [] := by
    intro empty
    simp [empty] at last
  have stop := List.rdropWhile_last_not Piece.isNumeral cs filled
  rw [List.getLast?_eq_getLast_of_ne_nil filled] at last
  injection last with same
  rw [same] at stop
  simpa using stop

@[simp] theorem isNumeral_point : Piece.isNumeral '.' = true := by decide

@[simp] theorem isNumeral_space : Piece.isNumeral ' ' = false := by decide

/-- A text is empty, or it begins with a character of no number, or with a longest run. -/
@[elab_as_elim]
theorem text_induction {motive : List Char → Prop} (nil : motive [])
    (mark : ∀ c cs, Piece.isNumeral c = false → motive cs → motive (c :: cs))
    (run : ∀ run rest, IsRun [] run rest → motive rest → motive (run ++ rest))
    (cs : List Char) : motive cs := by
  induction length : cs.length using Nat.strong_induction_on generalizing cs with
  | _ n ih =>
      cases cs with
      | nil => exact nil
      | cons c cs =>
          cases numeral : Piece.isNumeral c with
          | false => exact mark c cs numeral (ih cs.length (by simp [← length]) cs rfl)
          | true =>
              have split := List.takeWhile_append_dropWhile (p := Piece.isNumeral) (l := cs)
              have shorter := (List.dropWhile_suffix Piece.isNumeral (l := cs)).length_le
              have longest : IsRun [] (c :: cs.takeWhile Piece.isNumeral)
                  (cs.dropWhile Piece.isNumeral) := by
                refine ⟨by simp, ?_, by simp, ends_dropWhile cs⟩
                intro d member
                rcases List.mem_cons.mp member with rfl | member
                · exact numeral
                · exact List.mem_takeWhile_imp member
              have whole := run _ _ longest
                (ih _ (by rw [← length, List.length_cons]; omega) _ rfl)
              rw [List.cons_append, split] at whole
              exact whole

/-! ## What runs write -/

/-- Whether a run writes the number `x`: digits with at most one point, and at least one digit. The
digits make the coefficient, and those behind the point are its places. -/
inductive Writes : List Char → Number → Prop
  | whole {ds : List Char} (filled : ds ≠ []) (digits : ∀ c ∈ ds, Text.isDigit c = true) :
      Writes ds ⟨false, Numeral.valueOf ds, 0⟩
  | pointed {ds es : List Char} (filled : ds ++ es ≠ [])
      (digits : ∀ c ∈ ds ++ es, Text.isDigit c = true) :
      Writes (ds ++ '.' :: es) ⟨false, Numeral.valueOf (ds ++ es), -es.length⟩

theorem ne_point_of_isDigit {c : Char} (digit : Text.isDigit c = true) : c ≠ '.' := by
  rintro rfl
  exact absurd digit (by decide)

theorem isDigit_of_isNumeral {c : Char} (numeral : Piece.isNumeral c = true) (other : c ≠ '.') :
    Text.isDigit c = true := by
  simpa [Piece.isNumeral, other] using numeral

theorem point_notMem_of_digits {ds : List Char} (digits : ∀ c ∈ ds, Text.isDigit c = true) :
    '.' ∉ ds :=
  fun member => ne_point_of_isDigit (digits _ member) rfl

theorem ofRun_of_notMem {ds : List Char} (absent : '.' ∉ ds) :
    Number.ofRun ds = ⟨false, Numeral.valueOf ds, 0⟩ := by
  have all : ∀ c ∈ ds, (c != '.') = true := by
    intro c member
    simpa using ne_of_mem_of_not_mem member absent
  rw [Number.ofRun, List.dropWhile_eq_nil_iff.mpr all]
  rfl

theorem ofRun_pointed {ds : List Char} (absent : '.' ∉ ds) (es : List Char) :
    Number.ofRun (ds ++ '.' :: es) = ⟨false, Numeral.valueOf (ds ++ es), -es.length⟩ := by
  have all : ∀ c ∈ ds, (c != '.') = true := by
    intro c member
    simpa using ne_of_mem_of_not_mem member absent
  have point : Text.digitValue? '.' = none := by decide
  have coefficient : Numeral.ofChars Text.digitValue? (ds ++ '.' :: es) =
      Numeral.valueOf (ds ++ es) := by
    unfold Numeral.valueOf Numeral.ofChars
    rw [List.filterMap_append, List.filterMap_append, List.filterMap_cons_none point]
  rw [Number.ofRun, coefficient, List.dropWhile_append_of_pos all]
  simp

/-- A run has a token exactly when it writes a number, and the token is that number. -/
theorem runToken_eq_ok_iff {run : List Char} (filled : run ≠ [])
    (numerals : ∀ c ∈ run, Piece.isNumeral c = true) {token : Token} :
    runToken run = .ok token ↔ ∃ x, Writes run x ∧ token = .number x := by
  constructor
  · intro made
    unfold runToken at made
    split at made
    · cases made
    · rename_i few
      split at made
      · cases made
      · rename_i some
        injection made with same
        refine ⟨_, ?_, same.symm⟩
        have digit {c : Char} (member : c ∈ run) (other : c ≠ '.') : Text.isDigit c = true :=
          isDigit_of_isNumeral (numerals c member) other
        by_cases pointed : '.' ∈ run
        · obtain ⟨ds, es, rfl, absent⟩ := List.eq_append_cons_of_mem pointed
          have absent' : '.' ∉ es := by
            intro member
            have := List.count_pos_iff.mpr member
            simp only [List.count_append, List.count_cons_self] at few
            omega
          rw [ofRun_pointed absent]
          refine .pointed (fun empty => some (by simp_all)) fun c member => ?_
          rcases List.mem_append.mp member with inside | inside
          · exact digit (by simp [inside]) (ne_of_mem_of_not_mem inside absent)
          · exact digit (by simp [inside]) (ne_of_mem_of_not_mem inside absent')
        · rw [ofRun_of_notMem pointed]
          exact .whole filled fun c member => digit member (ne_of_mem_of_not_mem member pointed)
  · rintro ⟨x, writes, rfl⟩
    cases writes with
    | whole filled digits =>
        have absent := point_notMem_of_digits digits
        have none := List.count_eq_zero.mpr absent
        rw [← ofRun_of_notMem absent]
        refine runToken_eq_number (by omega) ?_
        rintro rfl
        simp at absent
    | @pointed ds es filled digits =>
        have absent := point_notMem_of_digits digits
        have none := List.count_eq_zero.mpr absent
        rw [List.count_append] at none
        rw [← ofRun_pointed (fun member => absent (List.mem_append_left es member))]
        refine runToken_eq_number ?_ ?_
        · rw [List.count_append, List.count_cons_self]
          omega
        · intro lone
          cases ds <;> cases es <;> simp_all

/-! ## Tokens and where they stand -/

/-- A token with the text that it is read from. -/
structure Lexeme where
  token : Token
  text : List Char

/-- Whether `ls` is what a text consists of, from left to right, apart from spaces: its operators,
and the numbers that its longest runs write. -/
inductive Lexes : List Char → List Lexeme → Prop
  | nil : Lexes [] []
  | space {cs : List Char} {ls : List Lexeme} (rest : Lexes cs ls) : Lexes (' ' :: cs) ls
  | operator {cs : List Char} {ls : List Lexeme} (op : Operator) (rest : Lexes cs ls) :
      Lexes (op.symbol :: cs) (⟨.operator op, [op.symbol]⟩ :: ls)
  | number {run cs : List Char} {x : Number} {ls : List Lexeme} (longest : IsRun [] run cs)
      (writes : Writes run x) (rest : Lexes cs ls) : Lexes (run ++ cs) (⟨.number x, run⟩ :: ls)

theorem symbol_eq_of_ofChar? {c : Char} {op : Operator} (known : Operator.ofChar? c = some op) :
    c = op.symbol := by
  unfold Operator.ofChar? at known
  split at known <;> cases known <;> rfl

/-- A character of no number gives its token, or none, and then come those of the rest. -/
theorem tokens_cons_mark {c : Char} (mark : Piece.isNumeral c = false) (cs : List Char) :
    tokens (c :: cs) =
      (markToken? c).bind fun token? => (tokens cs).map (token?.toList ++ ·) := by
  rw [tokens, pieces_cons_mark mark]
  exact tokensOf_cons (.mark c) (pieces cs)

/-- The tokens of a text are those of its lexemes. -/
theorem tokens_eq_ok_iff {cs : List Char} {ts : List Token} :
    tokens cs = .ok ts ↔ ∃ ls, Lexes cs ls ∧ ls.map Lexeme.token = ts := by
  constructor
  · intro read
    induction cs using text_induction generalizing ts with
    | nil =>
        injection read with same
        exact ⟨[], .nil, same⟩
    | mark c cs mark ih =>
        rw [tokens_cons_mark mark] at read
        obtain ⟨token?, known, read⟩ := Results.bind_eq_ok_iff.mp read
        obtain ⟨rest, behind, rfl⟩ := Results.map_eq_ok_iff.mp read
        obtain ⟨ls, lexes, rfl⟩ := ih behind
        unfold markToken? at known
        split at known
        · rename_i op symbol
          injection known with same
          rw [symbol_eq_of_ofChar? symbol, ← same]
          exact ⟨_, .operator op lexes, rfl⟩
        · split at known
          · rename_i space
            injection known with same
            rw [space, ← same]
            exact ⟨ls, .space lexes, rfl⟩
          · cases known
    | run run rest longest ih =>
        rw [tokens_append_run longest.filled longest.numerals longest.ends] at read
        obtain ⟨token, made, read⟩ := Results.bind_eq_ok_iff.mp read
        obtain ⟨others, behind, rfl⟩ := Results.map_eq_ok_iff.mp read
        obtain ⟨ls, lexes, rfl⟩ := ih behind
        obtain ⟨x, writes, rfl⟩ := (runToken_eq_ok_iff longest.filled longest.numerals).mp made
        exact ⟨_, .number longest writes lexes, rfl⟩
  · rintro ⟨ls, lexes, rfl⟩
    induction lexes with
    | nil => rfl
    | space rest ih => rw [tokens_cons_blank, ih]
    | operator op rest ih =>
        rw [tokens_cons_operator, ih]
        rfl
    | @number run cs x ls longest writes rest ih =>
        have made := (runToken_eq_ok_iff longest.filled longest.numerals).mpr ⟨x, writes, rfl⟩
        rw [tokens_append_run longest.filled longest.numerals longest.ends, made, ih]
        rfl

theorem ne_space_of_isNumeral {c : Char} (numeral : Piece.isNumeral c = true) : c ≠ ' ' := by
  rintro rfl
  simp at numeral

/-- The lexemes of a text are all of it but its spaces. -/
theorem Lexes.flatMap_text {cs : List Char} {ls : List Lexeme} (lexes : Lexes cs ls) :
    ls.flatMap Lexeme.text = cs.filter (· ≠ ' ') := by
  induction lexes with
  | nil => rfl
  | space rest ih => simpa using ih
  | operator op rest ih =>
      have other : op.symbol ≠ ' ' := by cases op <;> decide
      simp [ih, other]
  | number longest writes rest ih =>
      have others := List.filter_eq_self.mpr fun c member =>
        decide_eq_true (ne_space_of_isNumeral (longest.numerals c member))
      rw [List.flatMap_cons, ih, List.filter_append, others]

/-! ## Offences -/

/-- The digits and points at the end of a text: what a run has so far. -/
def openRun (cs : List Char) : List Char := cs.rtakeWhile Piece.isNumeral

/-- Whether reading goes wrong at the character that comes next, with `before` in front of it: it is
the second point of a run, a point that is a whole run, or no character of expressions. -/
inductive Offence (before : List Char) : List Char → CalculationError → Prop
  | secondPoint {after : List Char} (once : (openRun before).count '.' = 1) :
      Offence before ('.' :: after) .secondPoint
  | lonePoint {after : List Char} (begins : openRun before = [])
      (ends : ∀ c, after.head? = some c → Piece.isNumeral c = false) :
      Offence before ('.' :: after) .lonePoint
  | strayCharacter {c : Char} {after : List Char} (mark : Piece.isNumeral c = false)
      (unknown : Operator.isSymbol c = false) (filled : c ≠ ' ') :
      Offence before (c :: after) (.strayCharacter c)

/-- Whether reading goes wrong nowhere in a text. -/
def IsClean (cs : List Char) : Prop :=
  ∀ before after e, cs = before ++ after → ¬Offence before after e

/-- Whether reading goes wrong nowhere in the first part of a text. -/
def StartsClean (front rest : List Char) : Prop :=
  ∀ before after e, front ++ rest = before ++ after → before.length < front.length →
    ¬Offence before after e

/-- Whether the leftmost place where reading goes wrong has the error `e`. -/
def IsLeftmostOffence (cs : List Char) (e : CalculationError) : Prop :=
  ∃ before after, cs = before ++ after ∧ Offence before after e ∧
    ∀ before' after' e', cs = before' ++ after' → Offence before' after' e' →
      before.length ≤ before'.length

theorem openRun_of_numerals {cs : List Char} (numerals : ∀ c ∈ cs, Piece.isNumeral c = true) :
    openRun cs = cs :=
  List.rtakeWhile_eq_self_iff.mpr numerals

theorem openRun_concat (cs : List Char) (c : Char) :
    openRun (cs ++ [c]) = if Piece.isNumeral c = true then openRun cs ++ [c] else [] :=
  List.rtakeWhile_concat _ _ _

theorem openRun_eq_nil_iff {cs : List Char} :
    openRun cs = [] ↔ ∀ c, cs.getLast? = some c → Piece.isNumeral c = false := by
  rcases List.eq_nil_or_concat cs with rfl | ⟨front, last, rfl⟩
  · simp [openRun]
  · rw [List.concat_eq_append, openRun_concat]
    split <;> simp_all

/-- Whether two texts side by side share no run. -/
def Apart (front back : List Char) : Prop :=
  (∀ c, front.getLast? = some c → Piece.isNumeral c = false) ∨
    ∀ c, back.head? = some c → Piece.isNumeral c = false

/-- A run does not reach over a place that parts it. -/
theorem openRun_append {front back : List Char} (filled : back ≠ []) (apart : Apart front back) :
    openRun (front ++ back) = openRun back := by
  have parted : openRun front = [] ∨ ∃ c, back.head? = some c ∧ Piece.isNumeral c = false := by
    rcases apart with last | first
    · exact .inl (openRun_eq_nil_iff.mpr last)
    · obtain ⟨c, back, rfl⟩ := List.exists_cons_of_ne_nil filled
      exact .inr ⟨c, rfl, first c rfl⟩
  clear filled apart
  induction back using List.reverseRecOn with
  | nil =>
      rcases parted with empty | ⟨c, impossible, -⟩
      · rw [List.append_nil, empty]
        rfl
      · cases impossible
  | append_singleton back d ih =>
      rw [← List.append_assoc, openRun_concat, openRun_concat]
      split
      · rename_i numeral
        rw [ih]
        refine parted.imp_right fun ⟨c, first, mark⟩ => ?_
        cases back with
        | nil =>
            injection first with same
            rw [← same, numeral] at mark
            cases mark
        | cons b back => exact ⟨c, first, mark⟩
      · rfl

/-- Where a text goes wrong depends on the open run only. -/
theorem Offence.congr {before before' after : List Char} {e : CalculationError}
    (same : openRun before = openRun before') (offence : Offence before after e) :
    Offence before' after e := by
  cases offence with
  | secondPoint once => exact .secondPoint (same ▸ once)
  | lonePoint begins ends => exact .lonePoint (same ▸ begins) ends
  | strayCharacter mark unknown filled => exact .strayCharacter mark unknown filled

/-- A character of no number that goes wrong does so after any text. -/
theorem Offence.of_mark {before before' after : List Char} {e : CalculationError}
    (mark : ∀ c, after.head? = some c → Piece.isNumeral c = false)
    (offence : Offence before after e) : Offence before' after e := by
  cases offence with
  | strayCharacter none unknown filled => exact .strayCharacter none unknown filled
  | secondPoint _ | lonePoint _ _ => simpa using mark '.' rfl

/-- What goes wrong behind a place that parts the runs does so without the text before it. -/
theorem offence_append_iff {front before after : List Char} {e : CalculationError}
    (apart : Apart front (before ++ after)) :
    Offence (front ++ before) after e ↔ Offence before after e := by
  cases before with
  | nil =>
      rcases apart with last | first
      · have none : openRun (front ++ []) = openRun [] := by
          rw [List.append_nil, openRun_eq_nil_iff.mpr last]
          rfl
        exact ⟨.congr none, .congr none.symm⟩
      · exact ⟨.of_mark first, .of_mark first⟩
  | cons b before =>
      have same : openRun (front ++ b :: before) = openRun (b :: before) :=
        openRun_append (List.cons_ne_nil b before)
          (apart.imp_right fun first c head => first c (by simpa using head))
      exact ⟨.congr same, .congr same.symm⟩

/-- At one place reading goes wrong in one way. -/
theorem Offence.unique {before after : List Char} {e e' : CalculationError}
    (first : Offence before after e) (second : Offence before after e') : e = e' := by
  cases first <;> cases second <;> simp_all

theorem IsLeftmostOffence.unique {cs : List Char} {e e' : CalculationError}
    (first : IsLeftmostOffence cs e) (second : IsLeftmostOffence cs e') : e = e' := by
  obtain ⟨before, after, rfl, offence, leftmost⟩ := first
  obtain ⟨before', after', same, offence', leftmost'⟩ := second
  have length : before.length = before'.length :=
    le_antisymm (leftmost _ _ _ same offence') (leftmost' _ _ _ rfl offence)
  obtain ⟨rfl, rfl⟩ := List.append_inj same length
  exact offence.unique offence'

section Behind

variable {front rest : List Char} (apart : Apart front rest) (clean : StartsClean front rest)

include apart clean

/-- Where a first part has no offence, those of the whole are those of the rest. -/
theorem Offence.behind {before after : List Char} {e : CalculationError}
    (split : front ++ rest = before ++ after) (offence : Offence before after e) :
    ∃ between, before = front ++ between ∧ rest = between ++ after ∧ Offence between after e := by
  rcases List.append_eq_append_iff.mp split with ⟨between, rfl, rfl⟩ | ⟨between, rfl, rfl⟩
  · exact ⟨between, rfl, rfl, (offence_append_iff apart).mp offence⟩
  · cases between with
    | nil => exact ⟨[], by simp, by simp, (offence_append_iff apart).mp (by simpa using offence)⟩
    | cons b between => exact absurd offence (clean _ _ _ split (by simp))

theorem IsClean.append (others : IsClean rest) : IsClean (front ++ rest) := by
  intro before after e split offence
  obtain ⟨between, -, rfl, offence⟩ := Offence.behind apart clean split offence
  exact others _ _ _ rfl offence

theorem IsLeftmostOffence.append {e : CalculationError} (others : IsLeftmostOffence rest e) :
    IsLeftmostOffence (front ++ rest) e := by
  obtain ⟨before, after, rfl, offence, leftmost⟩ := others
  refine ⟨front ++ before, after, by simp, (offence_append_iff apart).mpr offence, ?_⟩
  intro before' after' e' split offence'
  obtain ⟨between, rfl, rest, offence'⟩ := Offence.behind apart clean split offence'
  have := leftmost _ _ _ rest offence'
  simp only [List.length_append]
  omega

end Behind

/-! ## Reading stops at the leftmost offence -/

/-- The beginning of a longest run is open. -/
theorem IsRun.openRun_eq {front before more rest : List Char}
    (longest : IsRun front (before ++ more) rest) : openRun before = before :=
  openRun_of_numerals fun c member => longest.numerals c (List.mem_append_left more member)

/-- Inside a longest run only a second point goes wrong, or the only point. -/
theorem Offence.inside {run before rest after : List Char} {e : CalculationError}
    (longest : IsRun [] run rest) (split : run ++ rest = before ++ after)
    (inside : before.length < run.length) (offence : Offence before after e) :
    e = .secondPoint ∧ before.count '.' = 1 ∧ (∃ more, run = before ++ '.' :: more) ∨
      e = .lonePoint ∧ run = ['.'] := by
  obtain ⟨more, rfl⟩ : ∃ more, run = before ++ more := by
    rcases List.append_eq_append_iff.mp split with ⟨more, rfl, -⟩ | ⟨more, rfl, -⟩
    · simp at inside
    · exact ⟨more, rfl⟩
  rw [List.append_assoc, List.append_cancel_left_eq] at split
  obtain ⟨d, more, rfl⟩ : ∃ d others, more = d :: others :=
    List.exists_cons_of_ne_nil fun empty => by simp [empty] at inside
  have so_far := longest.openRun_eq
  cases offence with
  | secondPoint once =>
      injection split with same
      exact .inl ⟨rfl, so_far ▸ once, more, by rw [same]⟩
  | lonePoint begins ends =>
      injection split with same others
      rw [so_far] at begins
      subst begins same others
      cases more with
      | nil => exact .inr ⟨rfl, rfl⟩
      | cons m more =>
          have numeral := longest.numerals m (by simp)
          rw [ends m rfl] at numeral
          cases numeral
  | strayCharacter mark unknown filled =>
      injection split with same
      have numeral := longest.numerals d (by simp)
      rw [same, mark] at numeral
      cases numeral

/-- A run with two points goes wrong at the second one. -/
theorem exists_secondPoint {run : List Char} (points : 2 ≤ run.count '.') :
    ∃ before more, run = before ++ '.' :: more ∧ before.count '.' = 1 := by
  have some : '.' ∈ run := List.count_pos_iff.mp (by omega)
  obtain ⟨ds, es, rfl, absent⟩ := List.eq_append_cons_of_mem some
  have none := List.count_eq_zero.mpr absent
  rw [List.count_append, List.count_cons_self] at points
  have other : '.' ∈ es := List.count_pos_iff.mp (by omega)
  obtain ⟨fs, gs, rfl, absent'⟩ := List.eq_append_cons_of_mem other
  have none' := List.count_eq_zero.mpr absent'
  refine ⟨ds ++ '.' :: fs, gs, by simp, ?_⟩
  rw [List.count_append, List.count_cons_self, none, none']

/-- A place before a point is determined by how many points come before it. -/
theorem eq_of_count_eq {before more before' more' : List Char}
    (same : before ++ '.' :: more = before' ++ '.' :: more')
    (counts : before.count '.' = before'.count '.') : before = before' := by
  rcases List.append_eq_append_iff.mp same with ⟨between, rfl, rest⟩ | ⟨between, rfl, rest⟩ <;>
  · cases between with
    | nil => simp
    | cons c between =>
        injection rest with point
        rw [← point, List.count_append, List.count_cons_self] at counts
        omega

theorem IsRun.apart {run rest : List Char} (longest : IsRun [] run rest) : Apart run rest :=
  .inr longest.ends

/-- A run of a number has no offence. -/
theorem IsRun.startsClean {run rest : List Char} (longest : IsRun [] run rest) {token : Token}
    (made : runToken run = .ok token) : StartsClean run rest := by
  intro before after e split inside offence
  unfold runToken at made
  split at made
  · cases made
  · rename_i few
    split at made
    · cases made
    · rename_i digit
      rcases Offence.inside longest split inside offence with ⟨-, once, more, rfl⟩ | ⟨-, lone⟩
      · rw [List.count_append, List.count_cons_self] at few
        omega
      · exact digit lone

/-- A run of no number goes wrong, and nothing goes wrong to the left. -/
theorem IsRun.isLeftmostOffence {run rest : List Char} (longest : IsRun [] run rest)
    {e : CalculationError} (failed : runToken run = .error e) :
    IsLeftmostOffence (run ++ rest) e := by
  unfold runToken at failed
  split at failed
  · rename_i points
    cases failed
    obtain ⟨before, more, rfl, once⟩ := exists_secondPoint points
    have so_far := longest.openRun_eq
    refine ⟨before, '.' :: more ++ rest, by simp, .secondPoint (by rw [so_far, once]), ?_⟩
    intro before' after' e' split offence
    by_contra left
    have inside : before'.length < (before ++ '.' :: more).length := by
      simp only [List.length_append]
      omega
    rcases Offence.inside longest split inside offence with ⟨-, once', others, same⟩ | ⟨-, lone⟩
    · have counts : before.count '.' = before'.count '.' := by rw [once, once']
      exact left (by rw [eq_of_count_eq same counts])
    · rw [lone] at points
      simp at points
  · split at failed
    · rename_i lone
      cases failed
      subst lone
      exact ⟨[], '.' :: rest, rfl, .lonePoint rfl longest.ends, fun _ _ _ _ _ => by simp⟩
    · cases failed

theorem markToken?_cases (c : Char) :
    (∃ token?, markToken? c = .ok token?) ∧ (Operator.isSymbol c = true ∨ c = ' ') ∨
      markToken? c = .error (.strayCharacter c) ∧ Operator.isSymbol c = false ∧ c ≠ ' ' := by
  unfold markToken? Operator.isSymbol
  cases Operator.ofChar? c with
  | some op => exact .inl ⟨⟨_, rfl⟩, .inl rfl⟩
  | none =>
      by_cases space : c = ' '
      · exact .inl ⟨⟨none, by simp [space]⟩, .inr space⟩
      · exact .inr ⟨by simp [space], rfl, space⟩

/-- Reading succeeds on a clean text, and stops at the leftmost offence of any other. -/
theorem tokens_cases (cs : List Char) :
    (∃ ts, tokens cs = .ok ts) ∧ IsClean cs ∨
      ∃ e, tokens cs = .error e ∧ IsLeftmostOffence cs e := by
  induction cs using text_induction with
  | nil =>
      refine .inl ⟨⟨[], rfl⟩, fun before after e split offence => ?_⟩
      obtain ⟨rfl, rfl⟩ := List.nil_eq_append_iff.mp split
      cases offence
  | mark c cs mark ih =>
      have apart : Apart [c] cs := .inl fun d last => by simp_all
      have read := tokens_cons_mark mark cs
      rcases markToken?_cases c with ⟨⟨token?, known⟩, meant⟩ | ⟨stray, unknown, filled⟩
      · have clean : StartsClean [c] cs := by
          intro before after e split inside offence
          obtain rfl : before = [] := List.length_eq_zero_iff.mp (by simpa using inside)
          obtain rfl : c :: cs = after := split
          cases offence <;> simp_all
        rw [known] at read
        rcases ih with ⟨⟨ts, behind⟩, others⟩ | ⟨e, behind, others⟩
        · exact .inl ⟨⟨_, by rw [read, behind]; rfl⟩, others.append apart clean⟩
        · exact .inr ⟨e, by rw [read, behind]; rfl, others.append apart clean⟩
      · rw [stray] at read
        refine .inr ⟨_, read, [], c :: cs, rfl, .strayCharacter mark unknown filled, ?_⟩
        exact fun _ _ _ _ _ => by simp
  | run run rest longest ih =>
      have read := tokens_append_run longest.filled longest.numerals longest.ends
      cases made : runToken run with
      | error e =>
          rw [made] at read
          exact .inr ⟨e, read, longest.isLeftmostOffence made⟩
      | ok token =>
          have clean := longest.startsClean made
          rw [made] at read
          rcases ih with ⟨⟨ts, behind⟩, others⟩ | ⟨e, behind, others⟩
          · exact .inl ⟨⟨_, by rw [read, behind]; rfl⟩, others.append longest.apart clean⟩
          · exact .inr ⟨e, by rw [read, behind]; rfl, others.append longest.apart clean⟩

/-! ## Texts that have tokens -/

/-- Whether all of a text is of a kind that has a meaning: each longest run has a digit and at most
one point, and every other character is an operator or a space. -/
structure IsLexical (cs : List Char) : Prop where
  runs : ∀ before run after, cs = before ++ run ++ after → IsRun before run after →
    (∃ c ∈ run, Text.isDigit c = true) ∧ run.count '.' ≤ 1
  others : ∀ c ∈ cs, Piece.isNumeral c = false → Operator.isSymbol c = true ∨ c = ' '

theorem eq_point_of_digitless {run : List Char} (filled : run ≠ [])
    (numerals : ∀ c ∈ run, Piece.isNumeral c = true) (few : run.count '.' ≤ 1)
    (digitless : ∀ c ∈ run, Text.isDigit c = false) : run = ['.'] := by
  have points : ∀ c ∈ run, c = '.' := by
    intro c member
    by_contra other
    have digit := isDigit_of_isNumeral (numerals c member) other
    rw [digitless c member] at digit
    cases digit
  have all := List.eq_replicate_of_mem points
  rw [all, List.count_replicate_self] at few
  have positive := List.length_pos_iff.mpr filled
  rw [all, show run.length = 1 by omega]
  rfl

/-- The longest run that a digit or a point belongs to. -/
theorem isRun_around (before after : List Char) {c : Char} (numeral : Piece.isNumeral c = true) :
    IsRun (before.rdropWhile Piece.isNumeral)
      (openRun before ++ c :: after.takeWhile Piece.isNumeral)
      (after.dropWhile Piece.isNumeral) where
  filled := by simp
  numerals := by
    intro d member
    rcases List.mem_append.mp member with inside | inside
    · exact List.mem_rtakeWhile_imp inside
    · rcases List.mem_cons.mp inside with rfl | inside
      · exact numeral
      · exact List.mem_takeWhile_imp inside
  begins := begins_rdropWhile before
  ends := ends_dropWhile after

theorem append_around (before after : List Char) (c : Char) :
    before.rdropWhile Piece.isNumeral ++
        (openRun before ++ c :: after.takeWhile Piece.isNumeral) ++
        after.dropWhile Piece.isNumeral = before ++ c :: after := by
  have front : before.rdropWhile Piece.isNumeral ++ openRun before = before :=
    List.rdropWhile_append_rtakeWhile
  rw [← List.append_assoc, front, List.append_assoc, List.cons_append,
    List.takeWhile_append_dropWhile]

/-- A run of a clean text has a digit and at most one point. -/
theorem IsClean.run {before run after : List Char} (clean : IsClean (before ++ run ++ after))
    (longest : IsRun before run after) :
    (∃ c ∈ run, Text.isDigit c = true) ∧ run.count '.' ≤ 1 := by
  have few : run.count '.' ≤ 1 := by
    by_contra many
    obtain ⟨front, more, rfl, once⟩ := exists_secondPoint (not_le.mp many)
    have so_far : openRun (before ++ front) = front := by
      rw [openRun_append (by rintro rfl; simp at once) (.inl longest.begins)]
      exact longest.openRun_eq
    exact clean (before ++ front) ('.' :: more ++ after) _ (by simp)
      (.secondPoint (by rw [so_far, once]))
  refine ⟨?_, few⟩
  by_contra digitless
  obtain rfl : run = ['.'] :=
    eq_point_of_digitless longest.filled longest.numerals few (by simpa using digitless)
  exact clean before ('.' :: after) _ (by simp)
    (.lonePoint (openRun_eq_nil_iff.mpr longest.begins) longest.ends)

theorem IsClean.isLexical {cs : List Char} (clean : IsClean cs) : IsLexical cs where
  runs := by
    rintro before run after rfl longest
    exact clean.run longest
  others := by
    intro c member mark
    by_contra meaningless
    rw [not_or, Bool.not_eq_true] at meaningless
    obtain ⟨before, after, rfl⟩ := List.append_of_mem member
    exact clean before (c :: after) _ rfl (.strayCharacter mark meaningless.1 meaningless.2)

theorem IsLexical.isClean {cs : List Char} (lexical : IsLexical cs) : IsClean cs := by
  rintro before after e rfl offence
  cases offence with
  | @secondPoint after once =>
      have few := (lexical.runs _ _ _ (append_around before after '.').symm
        (isRun_around before after isNumeral_point)).2
      rw [List.count_append, List.count_cons_self] at few
      omega
  | @lonePoint after begins ends =>
      have longest : IsRun before ['.'] after :=
        ⟨by simp, List.forall_mem_singleton.mpr isNumeral_point, openRun_eq_nil_iff.mp begins, ends⟩
      obtain ⟨⟨c, member, digit⟩, -⟩ := lexical.runs before ['.'] after (by simp) longest
      exact ne_point_of_isDigit digit (List.mem_singleton.mp member)
  | strayCharacter mark unknown filled =>
      rcases lexical.others _ (by simp) mark with symbol | space
      · rw [unknown] at symbol
        cases symbol
      · exact filled space

/-- Reading goes wrong nowhere in a text exactly when all of it has a meaning. -/
theorem isClean_iff_isLexical {cs : List Char} : IsClean cs ↔ IsLexical cs :=
  ⟨IsClean.isLexical, IsLexical.isClean⟩

/-! ## Tokens -/

/-- A text has tokens exactly when its longest runs have a digit and at most one point and its other
characters are operators and spaces. The tokens then are its operators and the numbers that its runs
write, in their order, and their texts are all of it but the spaces. Otherwise it is reported as an
invalid expression, with the error of the leftmost character at which this goes wrong. -/
theorem tokens_of_longest_runs (cs : List Char) :
    ((∃ ts, tokens cs = .ok ts) ↔ IsLexical cs) ∧
    (∀ ts, tokens cs = .ok ts ↔ ∃ ls, Lexes cs ls ∧ ls.map Lexeme.token = ts) ∧
    (∀ ls, Lexes cs ls → ls.flatMap Lexeme.text = cs.filter (· ≠ ' ')) ∧
    (∀ e, tokens cs = .error e ↔ IsLeftmostOffence cs e) ∧
    ∀ before after e, Offence before after e → e.kind = .invalidExpression ∧
      (e = .secondPoint ∧ e.code = "3008" ∨ e ≠ .secondPoint ∧ e.code = "3011") := by
  refine ⟨?_, fun ts => tokens_eq_ok_iff, fun ls lexes => lexes.flatMap_text, fun e => ?_,
    fun before after e offence => ?_⟩
  · rw [← isClean_iff_isLexical]
    rcases tokens_cases cs with ⟨read, clean⟩ | ⟨e, failed, before, after, split, offence, -⟩
    · exact ⟨fun _ => clean, fun _ => read⟩
    · constructor
      · rintro ⟨ts, read⟩
        rw [failed] at read
        cases read
      · intro clean
        exact absurd offence (clean before after e split)
  · rcases tokens_cases cs with ⟨⟨ts, read⟩, clean⟩ | ⟨e', failed, leftmost⟩
    · constructor
      · intro failed
        rw [read] at failed
        cases failed
      · rintro ⟨before, after, split, offence, -⟩
        exact absurd offence (clean before after e split)
    · constructor
      · intro same
        rw [failed] at same
        injection same with same
        rwa [← same]
      · intro leftmost'
        rw [failed, leftmost.unique leftmost']
  · cases offence with
    | secondPoint once => exact ⟨rfl, .inl ⟨rfl, rfl⟩⟩
    | lonePoint begins ends => exact ⟨rfl, .inr ⟨nofun, rfl⟩⟩
    | strayCharacter mark unknown filled => exact ⟨rfl, .inr ⟨nofun, rfl⟩⟩

/-- Of a second point and a stray character the one on the left is reported. -/
example : tokens "3*1.2.5x".toList = .error .secondPoint := by decide +kernel

end Reckoner
