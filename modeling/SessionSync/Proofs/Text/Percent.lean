import Mathlib.Data.List.Basic
import SessionSync.Json.Reader
import SessionSync.Proofs.Text.Bytes
import SessionSync.Text.Percent

/-!
# Reading percent encoding back

A reader takes a percent sign with two hexadecimal digits for one byte, and every other
character for itself (`percentDecode`).  So it gets the bytes of a text back from one segment
of a path (`percentDecode_percentEncode`), and no two texts have the same segment
(`percentEncode_inj`).  In such a segment stand only letters, digits, `-`, `.`, `_`, `~` and
percent signs (`isWritten_of_mem_percentEncode`).
-/

set_option autoImplicit false

namespace SessionSync.Text

/-- The bytes that a percent-encoded text stands for.  A percent sign without two hexadecimal
digits behind it stands for itself. -/
def percentDecode : List Char → List UInt8
  | '%' :: high :: low :: rest =>
      match Json.hexValue? high, Json.hexValue? low with
      | some upper, some lower => .ofNat (16 * upper + lower) :: percentDecode rest
      | _, _ => 0x25 :: percentDecode (high :: low :: rest)
  | char :: rest => String.utf8EncodeChar char ++ percentDecode rest
  | [] => []

/-! ## Characters of seven bits -/

/-- What is to hold of the characters of a text can be checked one by one. -/
theorem forall_of_all {text : List Char} {holds : Char → Prop} [DecidablePred holds]
    (checked : text.all (fun char => decide (holds char)) = true) : ∀ char ∈ text, holds char :=
  fun char member => of_decide_eq_true (List.all_eq_true.1 checked char member)

theorem utf8EncodeChar_of_lt {char : Char} (ascii : char.toNat < 128) :
    String.utf8EncodeChar char = [UInt8.ofNat char.toNat] := by
  have small : char.val.toNat ≤ 0x7f := Nat.le_of_lt_succ ascii
  unfold String.utf8EncodeChar
  simp only [small, if_true]
  rfl

theorem toNat_ofNat_of_lt {value : Nat} (ascii : value < 128) : (Char.ofNat value).toNat = value := by
  have valid : value.isValidChar := Or.inl (by omega)
  rw [Char.ofNat, dif_pos valid]
  rfl

/-- A text of plain characters is encoded as itself. -/
theorem percentEncodeWith_of_plain {plain : UInt8 → Bool} {text : String}
    (written : ∀ char ∈ text.toList, char.toNat < 128 ∧ plain (UInt8.ofNat char.toNat) = true) :
    percentEncodeWith plain text = text := by
  have single : ∀ char ∈ text.toList,
      (String.utf8EncodeChar char).flatMap (percentByte plain) = [char] := by
    intro char member
    obtain ⟨ascii, stands⟩ := written char member
    have back : (UInt8.ofNat char.toNat).toNat = char.toNat :=
      UInt8.toNat_ofNat_of_lt' (Nat.lt_trans ascii (by decide))
    rw [utf8EncodeChar_of_lt ascii, List.flatMap_singleton, percentByte, if_pos stands, back,
      Char.ofNat_toNat]
  show String.ofList ((bytes text).flatMap (percentByte plain)) = text
  rw [bytes_eq_flatMap, List.flatMap_assoc, List.flatMap_congr single, List.flatMap_singleton',
    String.ofList_toList]

theorem percentEncode_dot : percentEncode "." = "." :=
  percentEncodeWith_of_plain (forall_of_all (by decide))

theorem percentEncode_dots : percentEncode ".." = ".." :=
  percentEncodeWith_of_plain (forall_of_all (by decide))

/-! ## Back and forth -/

theorem hexValue?_upperHexDigit {value : Nat} (digit : value < 16) :
    Json.hexValue? (upperHexDigit value) = some value := by
  revert value
  decide

/-- A byte that stands for itself is no percent sign. -/
theorem char_of_isUnreserved {byte : UInt8} (plain : isUnreserved byte = true) :
    (Char.ofNat byte.toNat).toNat = byte.toNat ∧ byte.toNat < 128 ∧
      Char.ofNat byte.toNat ≠ '%' := by
  have ascii : byte.toNat < 128 := by
    have below := (Bool.and_eq_true_iff.1 plain).1
    exact UInt8.lt_iff_toNat_lt.1 (of_decide_eq_true below)
  refine ⟨toNat_ofNat_of_lt ascii, ascii, fun sign => ?_⟩
  have stands := (Bool.and_eq_true_iff.1 plain).2
  rw [sign] at stands
  exact absurd stands (by decide)

theorem percentDecode_percentByte_append (byte : UInt8) (rest : List Char) :
    percentDecode (percentByte isUnreserved byte ++ rest) = byte :: percentDecode rest := by
  unfold percentByte
  cases plain : isUnreserved byte with
  | true =>
      obtain ⟨same, ascii, different⟩ := char_of_isUnreserved plain
      rw [if_pos rfl, List.singleton_append, percentDecode]
      · rw [utf8EncodeChar_of_lt (lt_of_eq_of_lt same ascii), same, UInt8.ofNat_toNat, List.singleton_append]
      · exact fun _ _ _ sign => absurd sign different
  | false =>
      have bound := byte.toNat_lt
      rw [if_neg Bool.false_ne_true]
      simp only [List.cons_append, List.nil_append, percentDecode]
      rw [hexValue?_upperHexDigit (by omega), hexValue?_upperHexDigit (by omega)]
      dsimp only
      rw [Nat.div_add_mod, UInt8.ofNat_toNat]

theorem percentDecode_flatMap (written : List UInt8) :
    percentDecode (written.flatMap (percentByte isUnreserved)) = written := by
  induction written with
  | nil => rfl
  | cons byte rest ih => rw [List.flatMap_cons, percentDecode_percentByte_append, ih]

/-- **Back and forth.**  Decoding one segment of a path gives the bytes of the text. -/
theorem percentDecode_percentEncode (text : String) :
    percentDecode (percentEncode text).toList = bytes text := by
  unfold percentEncode percentEncodeWith
  rw [String.toList_ofList]
  exact percentDecode_flatMap (bytes text)

/-- A text is known from its segment. -/
theorem percentEncode_inj {left right : String} :
    percentEncode left = percentEncode right ↔ left = right := by
  constructor
  · intro same
    rw [← bytes_inj, ← percentDecode_percentEncode, ← percentDecode_percentEncode, same]
  · rintro rfl
    rfl

/-! ## What is written -/

/-- The characters that one segment of a path is written with. -/
def isWritten (char : Char) : Bool :=
  char.toNat < 128 && (char.isAlphanum || ['-', '.', '_', '~', '%'].contains char)

theorem isWritten_upperHexDigit {value : Nat} (digit : value < 16) :
    isWritten (upperHexDigit value) = true := by
  revert value
  decide

theorem isWritten_of_mem_percentByte {byte : UInt8} {char : Char}
    (member : char ∈ percentByte isUnreserved byte) : isWritten char = true := by
  unfold percentByte at member
  have bound := byte.toNat_lt
  split at member
  · rename_i plain
    obtain rfl := List.mem_singleton.1 member
    obtain ⟨same, ascii, -⟩ := char_of_isUnreserved plain
    have stands := (Bool.and_eq_true_iff.1 plain).2
    simp only [Bool.or_eq_true, beq_iff_eq] at stands
    rcases stands with (((letter | sign) | sign) | sign) | sign
    · rw [isWritten, letter, same, decide_eq_true ascii]
      rfl
    all_goals
      rw [sign]
      rfl
  · simp only [List.mem_cons, List.not_mem_nil, or_false] at member
    rcases member with rfl | rfl | rfl
    · rfl
    · exact isWritten_upperHexDigit (by omega)
    · exact isWritten_upperHexDigit (by omega)

theorem isWritten_of_mem_percentEncode {text : String} {char : Char}
    (member : char ∈ (percentEncode text).toList) : isWritten char = true := by
  unfold percentEncode percentEncodeWith at member
  rw [String.toList_ofList, List.mem_flatMap] at member
  obtain ⟨byte, -, member⟩ := member
  exact isWritten_of_mem_percentByte member

theorem toNat_lt_of_isWritten {char : Char} (written : isWritten char = true) :
    char.toNat < 128 := of_decide_eq_true (Bool.and_eq_true_iff.1 written).1

/-- What holds of all written characters can be checked one by one. -/
theorem of_isWritten (holds : Char → Prop)
    (check : ∀ value < 128, isWritten (Char.ofNat value) = true → holds (Char.ofNat value))
    {char : Char} (written : isWritten char = true) : holds char := by
  rw [← Char.ofNat_toNat char] at written ⊢
  refine check char.toNat (toNat_lt_of_isWritten ?_) written
  rwa [Char.ofNat_toNat] at written

end SessionSync.Text
