import Mathlib.Algebra.Group.Nat.Defs
import Mathlib.Tactic.SplitIfs
import SessionSync.Table

/-!
# The bytes of a text

A text is written in UTF-8, one character after another (`bytes_eq_flatMap`), so it is known
from its bytes (`bytes_inj`), and texts are ordered by their bytes as they are by their
characters (`bytes_lt_bytes`).
-/

set_option autoImplicit false

namespace SessionSync.Text

/-- The UTF-8 form of a text. -/
def bytes (text : String) : List UInt8 := text.toUTF8.toList

/-! ## One character after another -/

theorem toList_loop (array : ByteArray) (start : Nat) (read : List UInt8) :
    ByteArray.toList.loop array start read = read.reverse ++ array.data.toList.drop start := by
  fun_induction ByteArray.toList.loop array start read with
  | case1 start read inside ih =>
      have here : start < array.data.toList.length := inside
      have element : array.get! start = array.data.toList[start] := by
        show array.data[start]! = _
        rw [getElem!_pos array.data start inside, Array.getElem_toList]
      rw [ih, List.reverse_cons, List.append_assoc, List.singleton_append, element,
        ← List.drop_eq_getElem_cons here]
  | case2 start read outside =>
      have behind : array.data.toList.length ≤ start := Nat.not_lt.1 outside
      rw [List.drop_eq_nil_of_le behind, List.append_nil]

theorem bytes_eq_flatMap (text : String) :
    bytes text = text.toList.flatMap String.utf8EncodeChar := by
  show ByteArray.toList.loop text.toByteArray 0 [] = _
  rw [toList_loop, ← String.utf8Encode_toList, List.utf8Encode, List.toList_data_toByteArray]
  rfl

/-- A text is known from its bytes. -/
theorem bytes_inj {left right : String} : bytes left = bytes right ↔ left = right := by
  constructor
  · intro same
    rw [bytes_eq_flatMap, bytes_eq_flatMap] at same
    rw [← String.toByteArray_inj, ← String.utf8Encode_toList, ← String.utf8Encode_toList,
      List.utf8Encode, List.utf8Encode, same]
  · rintro rfl
    rfl

/-! ## The order of bytes -/

/-- The bytes that continue a character: the last digits of its number to the base 64. -/
def continuation : Nat → Nat → List UInt8
  | 0, _ => []
  | count + 1, value => .ofNat (value / 64 ^ count % 64 + 128) :: continuation count value

/-- How many bytes continue the first one. -/
def continuations (value : Nat) : Nat :=
  if value ≤ 127 then 0 else if value ≤ 2047 then 1 else if value ≤ 65535 then 2 else 3

/-- The first byte of a character: the digits that are left, marked with how many follow. -/
def lead (value : Nat) : Nat :=
  value / 64 ^ continuations value +
    if value ≤ 127 then 0 else if value ≤ 2047 then 192 else if value ≤ 65535 then 224 else 240

theorem toNat_val_lt (char : Char) : char.val.toNat < 0x110000 := by
  have valid := char.valid
  simp only [UInt32.isValidChar, Nat.isValidChar] at valid
  omega

theorem utf8EncodeChar_eq (char : Char) :
    String.utf8EncodeChar char =
      .ofNat (lead char.val.toNat) :: continuation (continuations char.val.toNat) char.val.toNat := by
  have bound := toNat_val_lt char
  unfold String.utf8EncodeChar lead continuations
  generalize char.val.toNat = value at bound
  dsimp only
  split
  · simp [continuation]
  · split
    · have digits : value / 64 % 32 = value / 64 := by omega
      simp [continuation, digits]
    · split
      · have digits : value / 4096 % 16 = value / 4096 := by omega
        simp [continuation, digits]
      · have digits : value / 262144 % 8 = value / 262144 := by omega
        simp [continuation, digits]

theorem ofNat_cons_lt {low high : Nat} (below : low < high) (byte : high < 256)
    (lowRest highRest : List UInt8) :
    UInt8.ofNat low :: lowRest < UInt8.ofNat high :: highRest := by
  refine List.cons_lt_cons_iff.2 (Or.inl ?_)
  rw [UInt8.lt_iff_toNat_lt, UInt8.toNat_ofNat_of_lt' (Nat.lt_trans below byte),
    UInt8.toNat_ofNat_of_lt' byte]
  exact below

/-- Numbers that agree but for their last digits are ordered by these. -/
theorem continuation_append_lt {low high : Nat} (below : low < high) (lowRest highRest : List UInt8) :
    ∀ count, low / 64 ^ count = high / 64 ^ count →
      continuation count low ++ lowRest < continuation count high ++ highRest
  | 0, same => by simp at same; omega
  | count + 1, same => by
      rw [Nat.pow_succ, ← Nat.div_div_eq_div_mul, ← Nat.div_div_eq_div_mul] at same
      have digits : low / 64 ^ count ≤ high / 64 ^ count := Nat.div_le_div_right (Nat.le_of_lt below)
      rcases Nat.lt_or_eq_of_le digits with before | level
      · exact ofNat_cons_lt (by omega) (by omega) _ _
      · refine List.cons_lt_cons_iff.2 (Or.inr ⟨by rw [level], ?_⟩)
        exact continuation_append_lt below lowRest highRest count level

/-- The first bytes of two characters tell their order, or the characters agree but for their
last digits. -/
theorem lead_lt_or {low high : Nat} (below : low < high) (bound : high < 0x110000) :
    lead low < lead high ∨ lead low = lead high ∧ continuations low = continuations high ∧
      low / 64 ^ continuations low = high / 64 ^ continuations low := by
  unfold lead continuations
  split_ifs <;> simp <;> omega

theorem lead_lt_256 {value : Nat} (bound : value < 0x110000) : lead value < 256 := by
  unfold lead continuations
  split_ifs <;> simp <;> omega

theorem utf8EncodeChar_append_lt {left right : Char} (before : left < right)
    (leftRest rightRest : List UInt8) :
    String.utf8EncodeChar left ++ leftRest < String.utf8EncodeChar right ++ rightRest := by
  have below : left.val.toNat < right.val.toNat := before
  have bound := toNat_val_lt right
  rw [utf8EncodeChar_eq, utf8EncodeChar_eq]
  rcases lead_lt_or below bound with first | ⟨first, count, same⟩
  · exact ofNat_cons_lt first (lead_lt_256 bound) _ _
  · refine List.cons_lt_cons_iff.2 (Or.inr ⟨by rw [first], ?_⟩)
    rw [← count]
    exact continuation_append_lt below leftRest rightRest _ same

theorem flatMap_utf8EncodeChar_lt {left right : List Char} (before : left < right) :
    left.flatMap String.utf8EncodeChar < right.flatMap String.utf8EncodeChar := by
  induction left generalizing right with
  | nil =>
      cases right with
      | nil => exact absurd before (List.not_lt_nil _)
      | cons head rest =>
          rw [List.flatMap_cons, utf8EncodeChar_eq]
          exact List.nil_lt_cons _ _
  | cons head rest ih =>
      cases right with
      | nil => exact absurd before (List.not_lt_nil _)
      | cons other others =>
          rw [List.flatMap_cons, List.flatMap_cons]
          rcases List.cons_lt_cons_iff.1 before with below | ⟨rfl, later⟩
          · exact utf8EncodeChar_append_lt below _ _
          · exact List.append_left_lt (ih later)

/-- **Texts are ordered by their bytes.** -/
theorem bytes_lt_bytes {left right : String} : bytes left < bytes right ↔ left < right := by
  have forward : ∀ {first second : String}, first < second → bytes first < bytes second := by
    intro first second before
    rw [bytes_eq_flatMap, bytes_eq_flatMap]
    exact flatMap_utf8EncodeChar_lt (String.lt_iff.1 before)
  refine ⟨fun before => Decidable.byContradiction fun notBefore => ?_, forward⟩
  by_cases same : left = right
  · exact absurd (same ▸ before) (List.lt_irrefl (bytes right))
  · exact List.lt_asymm before (forward (lt_of_not_lt_of_ne notBefore same))

end SessionSync.Text
