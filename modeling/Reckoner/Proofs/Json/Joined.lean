import Mathlib.Data.List.Chain
import Mathlib.Tactic
import Reckoner.Json.Lexeme

/-!
# Halves that were read

A text can hold halves of surrogate pairs, but where it was read, no first half stands directly
before a second one: these have been joined to one character. So a text that was read is told from
others by its code units, and these are what is written. The lexer keeps this with every character.
-/

namespace Reckoner.Json

/-- Whether two code points are the halves of a pair. -/
def CodePoint.IsPair : CodePoint → CodePoint → Prop
  | .half first, .half second => (first : ℕ) < 0x400 ∧ 0x400 ≤ (second : ℕ)
  | _, _ => False

/-- Whether no two neighbours in a text are the halves of a pair. -/
def CodePoints.IsJoined (points : CodePoints) : Prop :=
  points.IsChain fun point next => ¬point.IsPair next

/-- Whether the texts among lexemes are joined. -/
def AreJoined (lexemes : List Lexeme) : Prop :=
  ∀ points, .text points ∈ lexemes → points.IsJoined

/-- Characters are no halves. -/
theorem isJoined_ofChars (cs : List Char) : (CodePoints.ofChars cs).IsJoined := by
  induction cs with
  | nil => exact .nil
  | cons c cs ih => exact List.isChain_cons.mpr ⟨fun _ _ => id, ih⟩

theorem isJoined_ofString (s : String) : (CodePoints.ofString s).IsJoined :=
  isJoined_ofChars s.toList

section Lists

variable {xs ys : List Lexeme}

@[simp] theorem areJoined_nil : AreJoined [] := fun _ member => absurd member List.not_mem_nil

theorem areJoined_append_iff : AreJoined (xs ++ ys) ↔ AreJoined xs ∧ AreJoined ys := by
  simp only [AreJoined, List.mem_append, or_imp, forall_and]

theorem areJoined_reverse_iff : AreJoined xs.reverse ↔ AreJoined xs := by
  simp only [AreJoined, List.mem_reverse]

theorem areJoined_text_cons_iff {points : CodePoints} :
    AreJoined (.text points :: xs) ↔ points.IsJoined ∧ AreJoined xs := by
  simp only [AreJoined, List.mem_cons, or_imp, forall_and, Lexeme.text.injEq, forall_eq]

/-- A lexeme that is no text adds none. -/
theorem areJoined_cons_iff {lexeme : Lexeme} (other : ∀ points, .text points ≠ lexeme) :
    AreJoined (lexeme :: xs) ↔ AreJoined xs := by
  simp only [AreJoined, List.mem_cons, other, false_or]

theorem areJoined_flatMap_iff {α : Type} {f : α → List Lexeme} {items : List α} :
    AreJoined (items.flatMap f) ↔ ∀ item ∈ items, AreJoined (f item) := by
  simp only [AreJoined, List.mem_flatMap, forall_exists_index, and_imp]
  exact ⟨fun joined item member points found => joined points item member found,
    fun joined points item member found => joined item member points found⟩

end Lists

namespace Lexer

/-! ## What a text is given -/

/-- Whether a text that is kept last first is joined. -/
def IsJoinedBack (before : CodePoints) : Prop := CodePoints.IsJoined before.reverse

theorem isJoinedBack_iff {before : CodePoints} :
    IsJoinedBack before ↔ before.IsChain fun next point => ¬point.IsPair next :=
  List.isChain_reverse

variable {before : CodePoints}

theorem isJoinedBack_char (joined : IsJoinedBack before) (c : Char) :
    IsJoinedBack (.char c :: before) := by
  rw [isJoinedBack_iff] at joined ⊢
  refine List.isChain_cons.mpr ⟨fun point _ => ?_, joined⟩
  cases point <;> exact id

theorem isJoinedBack_addHalf (joined : IsJoinedBack before) (half : Fin 0x800) :
    IsJoinedBack (addHalf before half) := by
  rw [isJoinedBack_iff] at joined ⊢
  unfold addHalf
  split
  · rename_i first rest
    split_ifs with pair
    · exact isJoinedBack_iff.mp (isJoinedBack_char (isJoinedBack_iff.mpr joined.tail) _)
    · exact List.isChain_cons_cons.mpr ⟨pair, joined⟩
  · rename_i other
    refine List.isChain_cons.mpr ⟨fun point last => ?_, joined⟩
    cases point with
    | char c => exact id
    | half first =>
        obtain ⟨rest, split⟩ := List.head?_eq_some_iff.mp last
        exact absurd split (other first rest)

theorem isJoinedBack_addUnit (joined : IsJoinedBack before) (unit : Nat) :
    IsJoinedBack (addUnit before unit) := by
  unfold addUnit
  split
  · exact isJoinedBack_addHalf joined _
  · exact isJoinedBack_char joined _

/-! ## What the lexer finds -/

/-- The text that is being read, last first, if one is. -/
def Mode.before? : Mode → Option CodePoints
  | .text before | .escape before | .hex before _ _ => some before
  | _ => none

/-- Whether the texts that were found are joined, and so is the one that is being read. -/
structure KeepsJoined (lexer : Lexer) : Prop where
  found : AreJoined lexer.found
  reading : ∀ before, lexer.mode.before? = some before → IsJoinedBack before

theorem keepsJoined_found {found : List Lexeme} (joined : AreJoined found) {mode : Mode}
    (outside : mode.before? = none) : KeepsJoined { found, mode } where
  found := joined
  reading := by simp [outside]

theorem keepsJoined_reading {found : List Lexeme} (joined : AreJoined found) {mode : Mode}
    (reads : mode.before? = some before) (back : IsJoinedBack before) :
    KeepsJoined { found, mode } where
  found := joined
  reading := by
    rintro other same
    rwa [← Option.some.inj (reads.symm.trans same)]

/-- A number is no text. -/
theorem number?_ne_text {cs rest : List Char} {points : CodePoints} :
    number? cs ≠ some (.text points, rest) := by
  unfold number?
  simp only
  split
  · simp
  · split <;> simp

/-- A run spells no text. -/
theorem areJoined_runLexemes (cs : List Char) : AreJoined (runLexemes cs) := by
  intro points member
  unfold runLexemes at member
  split at member
  all_goals try simp at member
  split at member
  · simp at member
  · rename_i lexeme number
    rw [List.mem_singleton] at member
    exact absurd (member ▸ number) number?_ne_text
  · rename_i lexeme rest filled number
    rcases List.mem_cons.mp member with text | bad
    · exact absurd (text ▸ number) number?_ne_text
    · simp at bad

theorem keepsJoined_mark {found : List Lexeme} (joined : AreJoined found) (c : Char) :
    KeepsJoined (mark found c) := by
  have more {lexeme : Lexeme} (other : ∀ points, .text points ≠ lexeme) :
      AreJoined (lexeme :: found) := (areJoined_cons_iff other).mpr joined
  unfold mark
  split
  case h_7 => exact keepsJoined_reading joined rfl .nil
  case h_12 =>
    split
    · exact keepsJoined_found joined rfl
    · exact keepsJoined_found (more (by simp)) rfl
  all_goals first
    | exact keepsJoined_found (more (by simp)) rfl
    | exact keepsJoined_found joined rfl

/-- With every character that is read, texts stay joined. -/
theorem KeepsJoined.step {lexer : Lexer} (keeps : lexer.KeepsJoined) (c : Char) :
    (lexer.step c).KeepsJoined := by
  obtain ⟨found, mode⟩ := lexer
  obtain ⟨joined, reading⟩ := keeps
  have stuck : AreJoined (.bad :: found) := (areJoined_cons_iff (by simp)).mpr joined
  cases mode with
  | between => exact keepsJoined_mark joined c
  | stuck => exact keepsJoined_found joined rfl
  | run cs =>
      simp only [Lexer.step]
      split
      · exact keepsJoined_found joined rfl
      · have spelled := areJoined_reverse_iff.mpr (areJoined_runLexemes cs.reverse)
        exact keepsJoined_mark (areJoined_append_iff.mpr ⟨spelled, joined⟩) c
  | text before =>
      have back := reading before rfl
      simp only [Lexer.step]
      split_ifs
      · exact keepsJoined_found (areJoined_text_cons_iff.mpr ⟨back, joined⟩) rfl
      · exact keepsJoined_reading joined rfl back
      · exact keepsJoined_found stuck rfl
      · exact keepsJoined_reading joined rfl (isJoinedBack_char back c)
  | escape before =>
      have back := reading before rfl
      simp only [Lexer.step]
      split
      · exact keepsJoined_reading joined rfl back
      · split
        · exact keepsJoined_reading joined rfl (isJoinedBack_char back _)
        · exact keepsJoined_found stuck rfl
  | hex before count value =>
      have back := reading before rfl
      simp only [Lexer.step]
      split
      · exact keepsJoined_found stuck rfl
      · split
        · exact keepsJoined_reading joined rfl (isJoinedBack_addUnit back _)
        · exact keepsJoined_reading joined rfl back

theorem KeepsJoined.foldl_step {lexer : Lexer} (keeps : lexer.KeepsJoined) (cs : List Char) :
    (cs.foldl Lexer.step lexer).KeepsJoined := by
  induction cs generalizing lexer with
  | nil => exact keeps
  | cons c cs ih => exact ih (keeps.step c)

theorem KeepsJoined.areJoined_finish {lexer : Lexer} (keeps : lexer.KeepsJoined) :
    AreJoined lexer.finish := by
  have found := areJoined_reverse_iff.mpr keeps.found
  have bad : AreJoined (.bad :: lexer.found) := (areJoined_cons_iff (by simp)).mpr keeps.found
  unfold finish
  split
  · exact found
  · exact found
  · exact areJoined_append_iff.mpr ⟨found, areJoined_runLexemes _⟩
  · exact areJoined_reverse_iff.mpr bad

end Lexer

/-- The texts that are read are joined. -/
theorem areJoined_lexemes (cs : List Char) : AreJoined (lexemes cs) :=
  ((Lexer.keepsJoined_found areJoined_nil rfl).foldl_step cs).areJoined_finish

end Reckoner.Json
