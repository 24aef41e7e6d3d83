import Mathlib.Logic.Relation
import Mathlib.Tactic
import Reckoner.Expression.Calculate
import Reckoner.Proofs.Expression.Guard

/-!
# Spaces

Spaces in a text matter only where they part numbers. What the check for literal zeros and the
tokens depend on is the text without its spaces, and which of its digits and points stand side by
side.
-/

namespace Reckoner

/-! ## Texts that differ in spaces -/

/-- The characters of a text other than spaces. With each stands whether it is joined to the next:
both belong to a number, and there is no space between them. -/
def joints : List Char → List (Char × Bool)
  | [] => []
  | c :: cs =>
    if c = ' ' then joints cs
    else (c, Piece.isNumeral c && cs.head?.any Piece.isNumeral) :: joints cs

/-- Whether the second text is the first one with one more space, which parts no number. -/
inductive AddsSpace : List Char → List Char → Prop
  | insert {front back : List Char} (apart : Apart front back) :
      AddsSpace (front ++ back) (front ++ ' ' :: back)

theorem joints_cons_of_ne {c : Char} (other : c ≠ ' ') (cs : List Char) :
    joints (c :: cs) = (c, Piece.isNumeral c && cs.head?.any Piece.isNumeral) :: joints cs := by
  rw [joints, if_neg other]

theorem joints_cons_space (cs : List Char) : joints (' ' :: cs) = joints cs := by
  simp [joints]

theorem joints_cons_congr {c : Char} {cs ds : List Char} (same : joints cs = joints ds)
    (next : cs.head? = ds.head?) : joints (c :: cs) = joints (c :: ds) := by
  simp only [joints, same, next]

/-- A space that parts no number leaves every joint. -/
theorem AddsSpace.joints_eq {cs ds : List Char} (adds : AddsSpace cs ds) :
    joints cs = joints ds := by
  obtain ⟨apart⟩ := adds
  rename_i front back
  induction front with
  | nil => exact (joints_cons_space back).symm
  | cons c front ih =>
      cases front with
      | nil =>
          have parted : (Piece.isNumeral c && back.head?.any Piece.isNumeral) = false := by
            rcases apart with last | first
            · simp [last c rfl]
            · cases back with
              | nil => simp
              | cons d back => simp [first d rfl]
          simp [joints, parted]
      | cons d front =>
          exact joints_cons_congr (ih (by simpa [Apart] using apart)) rfl

/-- The text with a space behind every character but the joined ones. -/
def spread (js : List (Char × Bool)) : List Char :=
  js.flatMap fun joint => if joint.2 then [joint.1] else [joint.1, ' ']

theorem spread_joints_run {run rest : List Char} (longest : IsRun [] run rest) :
    spread (joints (run ++ rest)) = run ++ ' ' :: spread (joints rest) := by
  obtain ⟨filled, numerals, -, ends⟩ := longest
  induction run with
  | nil => exact absurd rfl filled
  | cons c run ih =>
      have numeral := numerals c (by simp)
      rw [List.cons_append, joints_cons_of_ne (ne_space_of_isNumeral numeral)]
      cases run with
      | nil =>
          have none : rest.head?.any Piece.isNumeral = false := by
            cases rest with
            | nil => rfl
            | cons d rest => exact ends d rfl
          simp [spread, none]
      | cons d run =>
          have next := numerals d (by simp)
          have others := ih (by simp) fun e member => numerals e (.tail c member)
          simp only [spread, List.flatMap_cons, List.cons_append, List.head?_cons] at others ⊢
          rw [others]
          simp [numeral, next]

/-- Behind a space any other may be added or removed. -/
theorem eqvGen_behind_space (front : List Char) {cs ds : List Char}
    (respaced : Relation.EqvGen AddsSpace cs ds) :
    Relation.EqvGen AddsSpace (front ++ ' ' :: cs) (front ++ ' ' :: ds) := by
  induction respaced with
  | rel cs ds adds =>
      obtain ⟨apart⟩ := adds
      rename_i before after
      have apart' : Apart (front ++ ' ' :: before) after := by
        refine apart.imp_left fun last c found => ?_
        cases before with
        | nil =>
            obtain rfl : ' ' = c := by simpa using found
            exact isNumeral_space
        | cons b before => exact last c (by simpa [List.getLast?_cons_cons] using found)
      have step := AddsSpace.insert apart'
      simp only [List.append_assoc, List.cons_append] at step
      exact .rel _ _ step
  | refl cs => exact .refl _
  | symm cs ds _ ih => exact ih.symm
  | trans cs ds es _ _ first second => exact first.trans _ _ _ second

theorem eqvGen_spread (cs : List Char) : Relation.EqvGen AddsSpace cs (spread (joints cs)) := by
  induction cs using text_induction with
  | nil => exact .refl _
  | mark c cs mark ih =>
      by_cases space : c = ' '
      · have removed : AddsSpace ([] ++ cs) ([] ++ ' ' :: cs) := .insert (.inl (by simp))
        rw [space, joints_cons_space]
        exact (Relation.EqvGen.rel _ _ removed).symm.trans _ _ _ ih
      · have added : AddsSpace ([c] ++ cs) ([c] ++ ' ' :: cs) :=
          .insert (.inl fun d last => by simp_all)
        rw [joints_cons_of_ne space, mark]
        exact (Relation.EqvGen.rel _ _ added).trans _ _ _ (eqvGen_behind_space [c] ih)
  | run run rest longest ih =>
      have added := AddsSpace.insert longest.apart
      rw [spread_joints_run longest]
      exact (Relation.EqvGen.rel _ _ added).trans _ _ _ (eqvGen_behind_space run ih)

/-- Two texts have the same joints exactly when spaces can be added and removed, none of which parts
a number, to get from one to the other. -/
theorem joints_eq_iff {cs ds : List Char} :
    joints cs = joints ds ↔ Relation.EqvGen AddsSpace cs ds := by
  constructor
  · intro same
    have spread := eqvGen_spread cs
    rw [same] at spread
    exact spread.trans _ _ _ (eqvGen_spread ds).symm
  · intro respaced
    induction respaced with
    | rel cs ds adds => exact adds.joints_eq
    | refl cs => rfl
    | symm cs ds _ ih => exact ih.symm
    | trans cs ds es _ _ first second => exact first.trans second

/-! ## Pieces but spaces -/

/-- The pieces other than spaces. -/
def solid (ps : List Piece) : List Piece := ps.filter (· ≠ .mark ' ')

@[simp] theorem solid_cons_space (ps : List Piece) : solid (.mark ' ' :: ps) = solid ps := by
  simp [solid]

theorem solid_cons_of_ne {piece : Piece} (other : piece ≠ .mark ' ') (ps : List Piece) :
    solid (piece :: ps) = piece :: solid ps := by
  simp [solid, other]

@[simp] theorem solid_cons_run (run : List Char) (ps : List Piece) :
    solid (.run run :: ps) = .run run :: solid ps :=
  solid_cons_of_ne (by simp) ps

/-- Puts a character in front of pieces, into the first run only where it is joined to that. -/
def Piece.join (joint : Char × Bool) (ps : List Piece) : List Piece :=
  if joint.2 then Piece.push joint.1 ps
  else if isNumeral joint.1 then .run [joint.1] :: ps
  else .mark joint.1 :: ps

/-- A character of a number goes into the first run if the next one is of a number too, and is a run
of its own if not. -/
theorem solid_push {c : Char} (numeral : Piece.isNumeral c = true) (cs : List Char) :
    solid (Piece.push c (pieces cs)) =
      Piece.join (c, cs.head?.any Piece.isNumeral) (solid (pieces cs)) := by
  induction cs using text_induction with
  | nil => simp [pieces, Piece.push, Piece.join, numeral, solid]
  | mark d cs mark ih =>
      rw [pieces_cons_mark mark]
      simp [Piece.push, Piece.join, numeral, mark]
  | run run rest longest ih =>
      rw [pieces_append_run longest.filled longest.numerals longest.ends]
      obtain ⟨d, run, rfl⟩ := List.exists_cons_of_ne_nil longest.filled
      simp [Piece.push, Piece.join, numeral, longest.numerals d (by simp)]

/-- The joints of a text determine its pieces but spaces. -/
theorem solid_pieces (cs : List Char) : solid (pieces cs) = (joints cs).foldr Piece.join [] := by
  induction cs with
  | nil => rfl
  | cons c cs ih =>
      by_cases space : c = ' '
      · rw [space, joints_cons_space, pieces_cons_mark isNumeral_space, solid_cons_space, ih]
      · rw [joints_cons_of_ne space, List.foldr_cons, ← ih]
        cases numeral : Piece.isNumeral c with
        | false =>
            rw [pieces_cons_mark numeral, solid_cons_of_ne (by simpa using space)]
            simp [Piece.join, numeral]
        | true => exact solid_push numeral cs

/-! ## What depends on them -/

/-- Spaces among pieces give no tokens. -/
theorem tokensOf_solid (ps : List Piece) : tokensOf (solid ps) = tokensOf ps := by
  induction ps with
  | nil => rfl
  | cons piece ps ih =>
      by_cases space : piece = .mark ' '
      · rw [space, solid_cons_space, ih, tokensOf_cons]
        show _ = (tokensOf ps).map ([] ++ ·)
        cases tokensOf ps <;> rfl
      · rw [solid_cons_of_ne space, tokensOf_cons, tokensOf_cons, ih]

/-- Whether a literal zero comes first among pieces, after blanks. -/
def zeroFirst : List Piece → Bool
  | [] => false
  | .run run :: _ => startsWithZero run
  | .mark c :: ps => Text.isBlank c && zeroFirst ps

/-- Whether a literal zero comes behind a slash among pieces, after blanks. -/
def zeroBehindSlash : List Piece → Bool
  | [] => false
  | piece :: ps => (decide (piece = .mark '/') && zeroFirst ps) || zeroBehindSlash ps

theorem zeroFirst_solid (ps : List Piece) : zeroFirst (solid ps) = zeroFirst ps := by
  have blank : Text.isBlank ' ' = true := by decide
  induction ps with
  | nil => rfl
  | cons piece ps ih =>
      by_cases space : piece = .mark ' '
      · rw [space, solid_cons_space, ih]
        simp [zeroFirst, blank]
      · rw [solid_cons_of_ne space]
        cases piece with
        | run run => rfl
        | mark c => rw [zeroFirst, zeroFirst, ih]

theorem zeroBehindSlash_solid (ps : List Piece) :
    zeroBehindSlash (solid ps) = zeroBehindSlash ps := by
  induction ps with
  | nil => rfl
  | cons piece ps ih =>
      by_cases space : piece = .mark ' '
      · rw [space, solid_cons_space, ih]
        simp [zeroBehindSlash]
      · rw [solid_cons_of_ne space, zeroBehindSlash, zeroBehindSlash, zeroFirst_solid, ih]

theorem startsWithZero_eq_zeroFirst (cs : List Char) :
    startsWithZero (cs.dropWhile Text.isBlank) = zeroFirst (pieces cs) := by
  induction cs using text_induction with
  | nil => rfl
  | mark c cs mark ih =>
      rw [pieces_cons_mark mark, zeroFirst, List.dropWhile_cons, ← ih]
      cases blank : Text.isBlank c with
      | true => rfl
      | false =>
          have other : c ≠ '0' := by
            rintro rfl
            simp at mark
          simp [startsWithZero, other]
  | run run rest longest ih =>
      have alone : IsRun [] run [] := ⟨longest.filled, longest.numerals, by simp, by simp⟩
      have whole := alone.startsWithZero_iff
      rw [List.append_nil] at whole
      rw [pieces_append_run longest.filled longest.numerals longest.ends, zeroFirst,
        longest.dropWhile_isBlank, Bool.eq_iff_iff, longest.startsWithZero_iff, whole]

/-- The check of a text is one of its pieces. -/
theorem dividesByLiteralZero_eq_zeroBehindSlash (cs : List Char) :
    dividesByLiteralZero cs = zeroBehindSlash (pieces cs) := by
  induction cs using text_induction with
  | nil => rfl
  | mark c cs mark ih =>
      rw [pieces_cons_mark mark, zeroBehindSlash, dividesByLiteralZero, ih,
        startsWithZero_eq_zeroFirst]
      simp [beq_eq_decide]
  | run run rest longest ih =>
      rw [pieces_append_run longest.filled longest.numerals longest.ends, zeroBehindSlash,
        dividesByLiteralZero_append_of_notMem longest.slash_notMem, ih]
      simp

/-! ## Results -/

section Respaced

variable {cs ds : List Char} (same : joints cs = joints ds)

include same

theorem tokens_eq_of_joints_eq : tokens cs = tokens ds := by
  rw [tokens, tokens, ← tokensOf_solid, solid_pieces, same, ← solid_pieces, tokensOf_solid]

theorem dividesByLiteralZero_eq_of_joints_eq :
    dividesByLiteralZero cs = dividesByLiteralZero ds := by
  rw [dividesByLiteralZero_eq_zeroBehindSlash, dividesByLiteralZero_eq_zeroBehindSlash,
    ← zeroBehindSlash_solid, solid_pieces, same, ← solid_pieces, zeroBehindSlash_solid]

/-- Texts that differ only in spaces that part no numbers have the same result, or the same error
apart from the text that is reported with it. -/
theorem calculation_of_joints_eq (ctx : Context) (places : Places) :
    calculation ctx places ds =
      (calculation ctx places cs).mapError fun report => { report with equation := some ds } := by
  have calculated : calculate ctx places ds = calculate ctx places cs := by
    rw [calculate, calculate, evaluate, evaluate, parse, parse,
      dividesByLiteralZero_eq_of_joints_eq same, tokens_eq_of_joints_eq same]
  rw [calculation, calculation, calculated]
  cases calculate ctx places cs <;> rfl

end Respaced

theorem calculation_respaced_stray_number :
    joints "6/0 5x".toList = joints " 6 /0  5 x".toList ∧
    calculation .standard .standard " 6 /0  5 x".toList =
      (calculation .standard .standard "6/0 5x".toList).mapError fun report =>
        { report with equation := some " 6 /0  5 x".toList } := by
  have same : joints "6/0 5x".toList = joints " 6 /0  5 x".toList := by decide +kernel
  exact ⟨same, calculation_of_joints_eq same .standard .standard⟩

end Reckoner
