import Mathlib.Tactic
import Reckoner.Text.Utf8

/-!
# UTF-8 there and back

Bytes are read as a text exactly when they are its encoding. The code point of a character is spread
over its bytes six bits at a time behind the bits that the first byte carries, and the bounds of the
bytes that follow leave out what is overlong, a surrogate or beyond the last code point. So the
first byte and what it promises are those of exactly one way to write the character.
-/

namespace Reckoner.Text

/-- The bytes of a text. -/
def encodeUtf8 (cs : List Char) : List UInt8 := cs.flatMap String.utf8EncodeChar

@[simp] theorem encodeUtf8_nil : encodeUtf8 [] = [] := rfl

@[simp] theorem encodeUtf8_cons (c : Char) (cs : List Char) :
    encodeUtf8 (c :: cs) = String.utf8EncodeChar c ++ encodeUtf8 cs := rfl

/-! ## The bytes of a string -/

theorem toList_loop (bytes : ByteArray) (position : Nat) (before : List UInt8) :
    ByteArray.toList.loop bytes position before =
      before.reverse ++ bytes.data.toList.drop position := by
  fun_induction ByteArray.toList.loop bytes position before with
  | case1 position before inside ih =>
      have within : position < bytes.data.toList.length := by simpa using inside
      have byte : bytes.get! position = bytes.data.toList[position] := by
        show bytes.data[position]! = _
        rw [Array.getElem_toList, getElem!_pos]
      rw [ih, List.drop_eq_getElem_cons within, byte, List.reverse_cons, List.append_assoc]
      rfl
  | case2 position before outside =>
      rw [List.drop_eq_nil_of_le (by simpa using outside), List.append_nil]

theorem toList_toUTF8 (cs : List Char) : (String.ofList cs).toUTF8.toList = encodeUtf8 cs := by
  rw [ByteArray.toList, toList_loop]
  show (List.utf8Encode cs).data.toList = _
  rw [List.utf8Encode, List.toList_data_toByteArray]
  rfl

/-! ## The bytes of one code point -/

/-- The bytes of a code point, as numbers. -/
def scalarBytes (n : Nat) : List Nat :=
  if n < 0x80 then [n]
  else if n < 0x800 then [0xC0 + n / 64, 0x80 + n % 64]
  else if n < 0x10000 then [0xE0 + n / 4096, 0x80 + n / 64 % 64, 0x80 + n % 64]
  else [0xF0 + n / 262144, 0x80 + n / 4096 % 64, 0x80 + n / 64 % 64, 0x80 + n % 64]

theorem map_toNat_utf8EncodeChar (c : Char) :
    (String.utf8EncodeChar c).map UInt8.toNat = scalarBytes c.toNat := by
  have below : c.val.toNat < 0x110000 := by
    rcases c.valid with low | high
    · exact low.trans (by decide)
    · exact high.2
  show _ = scalarBytes c.val.toNat
  unfold String.utf8EncodeChar scalarBytes
  generalize c.val.toNat = n at below
  dsimp only
  split_ifs <;> simp only [List.map_cons, List.map_nil, UInt8.toNat_ofNat'] <;> grind

/-- What first bytes promise: one byte after them for each six bits that they do not carry. -/
theorem lead?_eq_some_iff {b payload : Nat} {due : List (Nat × Nat)} :
    lead? b = some (payload, due) ↔
      b < 0x80 ∧ payload = b ∧ due = [] ∨
      0xC2 ≤ b ∧ b < 0xE0 ∧ payload = b - 0xC0 ∧ due = [(0x80, 0xBF)] ∨
      0xE0 ≤ b ∧ b < 0xF0 ∧ payload = b - 0xE0 ∧
        due = [(if b = 0xE0 then 0xA0 else 0x80, if b = 0xED then 0x9F else 0xBF),
          (0x80, 0xBF)] ∨
      0xF0 ≤ b ∧ b < 0xF5 ∧ payload = b - 0xF0 ∧
        due = [(if b = 0xF0 then 0x90 else 0x80, if b = 0xF4 then 0x8F else 0xBF),
          (0x80, 0xBF), (0x80, 0xBF)] := by
  unfold lead?
  grind

/-- Whether the bytes `rest` are the ones still due behind the bits in `payload`, and give the code
point `n` together with them. -/
def Follows : List Nat → Nat → List (Nat × Nat) → Nat → Prop
  | [], payload, [], n => n = payload
  | b :: rest, payload, (low, high) :: due, n =>
      low ≤ b ∧ b ≤ high ∧ Follows rest (64 * payload + (b - 0x80)) due n
  | _, _, _, _ => False

/-- The bytes of a character are a first byte and the ones that it promises. -/
theorem exists_lead_of_isValidChar {n : Nat} (valid : n.isValidChar) :
    ∃ b rest payload due,
      scalarBytes n = b :: rest ∧ lead? b = some (payload, due) ∧ Follows rest payload due n := by
  unfold Nat.isValidChar at valid
  unfold scalarBytes
  simp only [lead?_eq_some_iff]
  split_ifs with one two three
  · exact ⟨n, [], n, [], rfl, .inl ⟨one, rfl, rfl⟩, rfl⟩
  · refine ⟨_, _, _, _, rfl, .inr (.inl ⟨by omega, by omega, rfl, rfl⟩), ?_⟩
    simp only [Follows]
    omega
  · refine ⟨_, _, _, _, rfl, .inr (.inr (.inl ⟨by omega, by omega, rfl, rfl⟩)), ?_⟩
    simp only [Follows]
    grind
  · refine ⟨_, _, _, _, rfl, .inr (.inr (.inr ⟨by omega, by omega, rfl, rfl⟩)), ?_⟩
    simp only [Follows]
    grind

/-- A first byte and bytes as it promises them are the bytes of a character. -/
theorem scalarBytes_of_follows {b payload n : Nat} {rest : List Nat} {due : List (Nat × Nat)}
    (lead : lead? b = some (payload, due)) (follows : Follows rest payload due n) :
    n.isValidChar ∧ scalarBytes n = b :: rest := by
  unfold Nat.isValidChar scalarBytes
  rcases lead?_eq_some_iff.mp lead with one | two | three | four
  · obtain ⟨below, bits, rfl⟩ := one
    subst bits
    cases rest <;> simp only [Follows] at follows
    grind
  · obtain ⟨low, high, bits, rfl⟩ := two
    rcases rest with _ | ⟨b₁, _ | ⟨b₂, rest⟩⟩ <;> simp only [Follows] at follows <;> grind
  · obtain ⟨low, high, bits, rfl⟩ := three
    rcases rest with _ | ⟨b₁, _ | ⟨b₂, _ | ⟨b₃, rest⟩⟩⟩ <;> simp only [Follows] at follows <;> grind
  · obtain ⟨low, high, bits, rfl⟩ := four
    rcases rest with _ | ⟨b₁, _ | ⟨b₂, _ | ⟨b₃, _ | ⟨b₄, rest⟩⟩⟩⟩ <;>
      simp only [Follows] at follows <;> grind

theorem toNat_ofNat {n : Nat} (valid : n.isValidChar) : (Char.ofNat n).toNat = n := by
  rw [Char.ofNat, dif_pos valid]
  rfl

theorem utf8EncodeChar_eq_iff {c : Char} {bytes : List UInt8} :
    String.utf8EncodeChar c = bytes ↔ scalarBytes c.toNat = bytes.map UInt8.toNat := by
  rw [← map_toNat_utf8EncodeChar]
  exact (List.map_injective_iff.mpr fun _ _ => UInt8.toNat_inj.mp).eq_iff.symm

/-! ## Reading on -/

/-- Where reading stands behind some bytes of a character: with nothing due it is read. -/
def begun (done : List Char) (p : Utf8Pending) : Utf8State :=
  if p.due = [] then ⟨Char.ofNat p.payload :: done, none⟩ else ⟨done, some p⟩

theorem step_of_lead {done : List Char} {position b payload : Nat} {due : List (Nat × Nat)}
    (lead : lead? b = some (payload, due)) :
    Utf8State.step ⟨done, none⟩ position b = .ok (begun done ⟨position, b, payload, 1, due⟩) := by
  cases due <;> simp [Utf8State.step, lead, begun]

theorem step_begun (done : List Char) (p : Utf8Pending) (position b low high : Nat)
    (due : List (Nat × Nat)) :
    (begun done { p with due := (low, high) :: due }).step position b =
      if low ≤ b ∧ b ≤ high then
        .ok (begun done { p with payload := 64 * p.payload + (b - 0x80), read := p.read + 1, due })
      else .error ⟨p.position, p.read, p.byte, .continuation⟩ := by
  cases due <;> simp [Utf8State.step, begun]

/-- A character that has begun is read when the bytes still due come next. -/
theorem run_begun_eq_ok_iff {done cs : List Char} {p : Utf8Pending} {position : Nat}
    {bytes : List UInt8} :
    (begun done p).run position bytes = .ok cs ↔
      ∃ rest behind n, bytes = rest ++ behind ∧
        Follows (rest.map UInt8.toNat) p.payload p.due n ∧
        Utf8State.run ⟨Char.ofNat n :: done, none⟩ (position + rest.length) behind = .ok cs := by
  obtain ⟨start, first, payload, read, due⟩ := p
  induction due generalizing bytes position payload read with
  | nil =>
      constructor
      · intro read
        exact ⟨[], bytes, payload, rfl, rfl, read⟩
      · rintro ⟨_ | ⟨b, rest⟩, behind, n, rfl, follows, read⟩
        · cases follows
          exact read
        · cases follows
  | cons bounds due ih =>
      obtain ⟨low, high⟩ := bounds
      cases bytes with
      | nil =>
          constructor
          · nofun
          · rintro ⟨rest, behind, n, parts, follows, -⟩
            obtain ⟨rfl, -⟩ := List.append_eq_nil_iff.mp parts.symm
            cases follows
      | cons b bytes =>
          rw [Utf8State.run, step_begun done ⟨start, first, payload, read, due⟩]
          by_cases inside : low ≤ b.toNat ∧ b.toNat ≤ high
          · simp only [if_pos inside, ih]
            constructor
            · rintro ⟨rest, behind, n, rfl, follows, read⟩
              refine ⟨b :: rest, behind, n, rfl, ⟨inside.1, inside.2, follows⟩, ?_⟩
              rw [List.length_cons, Nat.add_comm rest.length, ← Nat.add_assoc]
              exact read
            · rintro ⟨_ | ⟨c, rest⟩, behind, n, parts, follows, read⟩
              · cases follows
              · cases parts
                refine ⟨rest, behind, n, rfl, follows.2.2, ?_⟩
                rw [Nat.add_assoc, Nat.add_comm 1]
                exact read
          · simp only [if_neg inside]
            constructor
            · nofun
            · rintro ⟨_ | ⟨c, rest⟩, behind, n, parts, follows, -⟩
              · cases follows
              · cases parts
                exact absurd ⟨follows.1, follows.2.1⟩ inside

/-- The next character is read when its bytes come next. -/
theorem run_cons_eq_ok_iff {done cs : List Char} {position : Nat} {b : UInt8}
    {bytes : List UInt8} :
    Utf8State.run ⟨done, none⟩ position (b :: bytes) = .ok cs ↔
      ∃ c behind, b :: bytes = String.utf8EncodeChar c ++ behind ∧
        Utf8State.run ⟨c :: done, none⟩ (position + (String.utf8EncodeChar c).length) behind =
          .ok cs := by
  constructor
  · intro read
    cases lead : lead? b.toNat with
    | none =>
        rw [Utf8State.run, Utf8State.step] at read
        simp [lead] at read
    | some promise =>
        rw [Utf8State.run, step_of_lead lead] at read
        obtain ⟨rest, behind, n, rfl, follows, read⟩ := run_begun_eq_ok_iff.mp read
        obtain ⟨valid, bytes⟩ := scalarBytes_of_follows lead follows
        have encoded : String.utf8EncodeChar (Char.ofNat n) = b :: rest := by
          rw [utf8EncodeChar_eq_iff, toNat_ofNat valid, bytes]
          rfl
        refine ⟨Char.ofNat n, behind, by rw [encoded]; rfl, ?_⟩
        rw [encoded, List.length_cons, Nat.add_comm rest.length, ← Nat.add_assoc]
        exact read
  · rintro ⟨c, behind, parts, read⟩
    obtain ⟨first, due, payload, bounds, scalar, lead, follows⟩ :=
      exists_lead_of_isValidChar (n := c.toNat) c.valid
    rw [← map_toNat_utf8EncodeChar, List.map_eq_cons_iff] at scalar
    obtain ⟨e, rest, encoded, rfl, rfl⟩ := scalar
    rw [encoded] at parts read
    cases parts
    rw [Utf8State.run, step_of_lead lead]
    refine run_begun_eq_ok_iff.mpr ⟨rest, behind, c.toNat, rfl, follows, ?_⟩
    rw [Char.ofNat_toNat, Nat.add_assoc, Nat.add_comm 1]
    exact read

theorem run_eq_ok_iff {done cs : List Char} {position : Nat} {bytes : List UInt8} :
    Utf8State.run ⟨done, none⟩ position bytes = .ok cs ↔
      ∃ text, cs = done.reverse ++ text ∧ bytes = encodeUtf8 text := by
  -- By induction on the number of bytes: a character takes one at least.
  induction size : bytes.length using Nat.strongRecOn generalizing done position bytes with
  | _ length ih =>
    cases bytes with
    | nil =>
        constructor
        · rintro ⟨⟩
          exact ⟨[], by simp, rfl⟩
        · rintro ⟨text, rfl, empty⟩
          cases text with
          | nil => simp [Utf8State.run]
          | cons c text => simp [String.utf8EncodeChar_ne_nil] at empty
    | cons b bytes =>
        have shorter {c : Char} {behind : List UInt8}
            (parts : b :: bytes = String.utf8EncodeChar c ++ behind) : behind.length < length := by
          have filled := List.length_pos_of_ne_nil (String.utf8EncodeChar_ne_nil (c := c))
          rw [← size, parts, List.length_append]
          omega
        rw [run_cons_eq_ok_iff]
        constructor
        · rintro ⟨c, behind, parts, read⟩
          obtain ⟨text, rfl, rfl⟩ := (ih _ (shorter parts) rfl).mp read
          exact ⟨c :: text, by simp, parts⟩
        · rintro ⟨text, rfl, parts⟩
          cases text with
          | nil => cases parts
          | cons c text =>
              exact ⟨c, encodeUtf8 text, parts,
                (ih _ (shorter parts) rfl).mpr ⟨text, by simp, rfl⟩⟩

/-- Bytes are read as a text exactly when they encode it. -/
theorem decodeUtf8_eq_ok_iff {bytes : List UInt8} {cs : List Char} :
    decodeUtf8 bytes = .ok cs ↔ bytes = encodeUtf8 cs := by
  rw [decodeUtf8, run_eq_ok_iff]
  simp

@[simp] theorem decodeUtf8_encodeUtf8 (cs : List Char) : decodeUtf8 (encodeUtf8 cs) = .ok cs :=
  decodeUtf8_eq_ok_iff.mpr rfl

end Reckoner.Text
