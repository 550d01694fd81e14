import Mathlib.Data.List.TakeWhile
import SessionSync.Backend.Address
import SessionSync.Proofs.Text.Percent

/-!
# What becomes of a path in an address

A path is cut at its slashes and its dot segments are resolved.  A segment that was percent
encoded comes through as it is, unless its text is `.` or `..` (`isHere_percentEncode_iff`,
`isParent_percentEncode_iff`): dots stand for themselves, and an escaped dot would be a dot
segment as well (`percentDecode_of_toLower`).

So an address below a scheme, a host and a port is known part by part
(`Site.ofText?_joined`).
-/

set_option autoImplicit false

namespace SessionSync.Backend

namespace Address

/-! ## Segments -/

section Segments

/-- Put a character before the first piece; a slash begins a new one. -/
def attach (char : Char) : List (List Char) → List (List Char)
  | [] => [[char]]
  | piece :: later => if isSlash char then [] :: piece :: later else (char :: piece) :: later

theorem attach_ne_nil (char : Char) (pieces : List (List Char)) : attach char pieces ≠ [] := by
  unfold attach
  split
  · exact List.cons_ne_nil _ _
  · split
    · exact List.cons_ne_nil _ _
    · exact List.cons_ne_nil _ _

theorem segments_eq (text : List Char) :
    segments text = (text.foldr attach [[]]).map String.ofList := rfl

/-- A text has a first piece, however short it is, and a character goes there. -/
theorem segments_cons (char : Char) (text : List Char) :
    ∃ piece later, segments text = piece :: later ∧ segments (char :: text) =
      if isSlash char then "" :: piece :: later
      else String.ofList (char :: piece.toList) :: later := by
  have nonempty : text.foldr attach [[]] ≠ [] := by
    cases text with
    | nil => exact List.cons_ne_nil _ _
    | cons first rest => exact attach_ne_nil first _
  obtain ⟨piece, later, split⟩ := List.exists_cons_of_ne_nil nonempty
  rw [segments_eq, segments_eq, List.foldr_cons, split]
  refine ⟨String.ofList piece, later.map String.ofList, rfl, ?_⟩
  unfold attach
  cases isSlash char with
  | true => rfl
  | false =>
      rw [String.toList_ofList]
      rfl

variable {piece : List Char} (whole : ∀ char ∈ piece, isSlash char = false)
include whole

theorem segments_of_whole : segments piece = [String.ofList piece] := by
  induction piece with
  | nil => rfl
  | cons char rest ih =>
      obtain ⟨head, later, split, extended⟩ := segments_cons char rest
      rw [ih fun other member => whole other (List.mem_cons_of_mem _ member)] at split
      obtain ⟨rfl, rfl⟩ := List.cons.inj split
      rw [extended, whole char List.mem_cons_self, if_neg Bool.false_ne_true, String.toList_ofList]

theorem segments_append_slash (rest : List Char) :
    segments (piece ++ '/' :: rest) = String.ofList piece :: segments rest := by
  induction piece with
  | nil =>
      obtain ⟨head, later, split, extended⟩ := segments_cons '/' rest
      rw [List.nil_append, extended, split]
      rfl
  | cons char tail ih =>
      obtain ⟨head, later, split, extended⟩ := segments_cons char (tail ++ '/' :: rest)
      rw [ih fun other member => whole other (List.mem_cons_of_mem _ member)] at split
      obtain ⟨rfl, rfl⟩ := List.cons.inj split
      rw [List.cons_append, extended, whole char List.mem_cons_self, if_neg Bool.false_ne_true,
        String.toList_ofList]

end Segments

/-- A path with given segments. -/
def joined (pieces : List String) : String := "/" ++ "/".intercalate pieces

theorem toList_joined (pieces : List String) :
    (joined pieces).toList = '/' :: ['/'].intercalate (pieces.map String.toList) := by
  unfold joined
  rw [String.toList_append, String.toList_intercalate]
  rfl

/-- The segments of a text of whole pieces with slashes between them. -/
theorem segments_intercalate {pieces : List String} (some : pieces ≠ [])
    (whole : ∀ piece ∈ pieces, ∀ char ∈ piece.toList, isSlash char = false) :
    segments (['/'].intercalate (pieces.map String.toList)) = pieces := by
  induction pieces with
  | nil => exact absurd rfl some
  | cons piece rest ih =>
      have first := whole piece List.mem_cons_self
      cases rest with
      | nil => rw [List.map_cons, List.map_nil, List.intercalate_singleton, segments_of_whole first,
          String.ofList_toList]
      | cons next rest =>
          have later := ih (List.cons_ne_nil _ _) fun other member =>
            whole other (List.mem_cons_of_mem _ member)
          rw [List.map_cons] at later ⊢
          rw [List.map_cons, List.intercalate_cons_cons, List.append_assoc, List.singleton_append,
            segments_append_slash first, later, String.ofList_toList]

theorem mem_joined {pieces : List String} {char : Char} (member : char ∈ (joined pieces).toList) :
    char = '/' ∨ ∃ piece ∈ pieces, char ∈ piece.toList := by
  rw [toList_joined, List.mem_cons] at member
  rcases member with slash | member
  · exact Or.inl slash
  · induction pieces with
    | nil => cases member
    | cons piece rest ih =>
        cases rest with
        | nil =>
            rw [List.map_cons, List.map_nil, List.intercalate_singleton] at member
            exact Or.inr ⟨piece, List.mem_cons_self, member⟩
        | cons next rest =>
            rw [List.map_cons, List.map_cons, List.intercalate_cons_cons, List.mem_append,
              List.mem_append, List.mem_singleton] at member
            rcases member with (inside | slash) | behind
            · exact Or.inr ⟨piece, List.mem_cons_self, inside⟩
            · exact Or.inl slash
            · rcases ih behind with slash | ⟨other, listed, inside⟩
              · exact Or.inl slash
              · exact Or.inr ⟨other, List.mem_cons_of_mem _ listed, inside⟩

/-! ## Dot segments -/

/-- A segment that neither stands for its own directory nor for the one above stays. -/
theorem resolve_of_proper {pieces : List String} (done : List String)
    (proper : ∀ piece ∈ pieces, isHere piece = false ∧ isParent piece = false) :
    resolve done pieces = done.reverse ++ pieces := by
  induction pieces generalizing done with
  | nil => rw [resolve, List.append_nil]
  | cons piece rest ih =>
      obtain ⟨notHere, notParent⟩ := proper piece List.mem_cons_self
      rw [resolve, notParent, notHere]
      simp only [Bool.false_eq_true, if_false]
      rw [ih (piece :: done) fun other member => proper other (List.mem_cons_of_mem _ member),
        List.reverse_cons, List.append_assoc, List.singleton_append]

/-- Resolving invents no segment but an empty one. -/
theorem mem_resolve {pieces done : List String} {piece : String}
    (listed : piece ∈ resolve done pieces) : piece = "" ∨ piece ∈ done ∨ piece ∈ pieces := by
  induction pieces generalizing done with
  | nil =>
      rw [resolve, List.mem_reverse] at listed
      exact Or.inr (Or.inl listed)
  | cons first rest ih =>
      have directory : ∀ {kept : List String}, (∀ other ∈ kept, other ∈ done) →
          piece ∈ resolve ((if rest.isEmpty then [""] else []) ++ kept) rest →
            piece = "" ∨ piece ∈ done ∨ piece ∈ first :: rest := by
        intro kept known listed
        rcases ih listed with empty | before | later
        · exact Or.inl empty
        · rcases List.mem_append.1 before with new | old
          · split at new
            · exact Or.inl (List.mem_singleton.1 new)
            · cases new
          · exact Or.inr (Or.inl (known piece old))
        · exact Or.inr (Or.inr (List.mem_cons_of_mem _ later))
      rw [resolve] at listed
      split at listed
      · exact directory (fun other member => List.mem_of_mem_drop member) listed
      · split at listed
        · exact directory (fun other member => member) listed
        · rcases ih listed with empty | before | later
          · exact Or.inl empty
          · rcases List.mem_cons.1 before with rfl | old
            · exact Or.inr (Or.inr List.mem_cons_self)
            · exact Or.inr (Or.inl old)
          · exact Or.inr (Or.inr (List.mem_cons_of_mem _ later))

section Dots

/-- Lowering changes capitals only, and into letters that are none. -/
theorem eq_or_of_toLower_eq {char lower : Char} (same : char.toLower = lower) :
    char = lower ∨ 97 ≤ lower.toNat ∧ char.toNat + 32 = lower.toNat := by
  unfold Char.toLower at same
  split at same
  · rename_i capital
    obtain ⟨above, below⟩ := capital
    rw [ge_iff_le, UInt32.le_iff_toNat_le] at above
    rw [UInt32.le_iff_toNat_le] at below
    change 65 ≤ char.val.toNat at above
    change char.val.toNat ≤ 90 at below
    have sum : lower.toNat = (char.val + ('a'.val - 'A'.val)).toNat := by
      rw [← same]
      rfl
    have step : (char.val + ('a'.val - 'A'.val)).toNat = char.val.toNat + 32 := by
      rw [UInt32.toNat_add]
      exact Nat.mod_eq_of_lt (by change char.val.toNat + 32 < 2 ^ 32; omega)
    refine Or.inr ⟨by omega, ?_⟩
    change char.val.toNat + 32 = lower.toNat
    omega
  · exact Or.inl same

theorem eq_of_toLower_eq {char lower : Char} (same : char.toLower = lower)
    (noLetter : lower.toNat < 97) : char = lower :=
  (eq_or_of_toLower_eq same).resolve_right fun letter => by omega

/-- A text that begins with a dot when it is lowered, escaped or not, stands for a dot and
what follows. -/
theorem percentDecode_of_toLower {written front rest : List Char}
    (dot : front = ['.'] ∨ front = ['%', '2', 'e'])
    (lowered : written.map Char.toLower = front ++ rest) :
    ∃ behind, behind.map Char.toLower = rest ∧
      Text.percentDecode written = 0x2E :: Text.percentDecode behind := by
  rcases dot with rfl | rfl
  · obtain ⟨first, behind, rfl, same, lower⟩ := List.map_eq_cons_iff.1 lowered
    obtain rfl := eq_of_toLower_eq same (by decide)
    refine ⟨behind, lower, ?_⟩
    rw [Text.percentDecode]
    · rfl
    · exact fun _ _ _ sign => by cases sign
  · obtain ⟨first, later, rfl, sign, more⟩ := List.map_eq_cons_iff.1 lowered
    obtain ⟨second, last, rfl, upper, most⟩ := List.map_eq_cons_iff.1 more
    obtain ⟨third, behind, rfl, lower, all⟩ := List.map_eq_cons_iff.1 most
    obtain rfl := eq_of_toLower_eq sign (by decide)
    obtain rfl := eq_of_toLower_eq upper (by decide)
    refine ⟨behind, all, ?_⟩
    rcases eq_or_of_toLower_eq lower with rfl | ⟨-, capital⟩
    · rfl
    · obtain rfl : third = 'E' := Char.toNat_inj.1 (Nat.add_right_cancel (m := 32) capital)
      rfl

/-- A segment that stands for its own directory stands for one dot. -/
theorem percentDecode_of_isHere {segment : String} (here : isHere segment = true) :
    Text.percentDecode segment.toList = [0x2E] := by
  have lowered : segment.toList.map Char.toLower = segment.toLower.toList :=
    String.toList_map.symm
  unfold isHere at here
  rw [List.contains_iff_mem] at here
  have one : ∃ front : List Char, (front = ['.'] ∨ front = ['%', '2', 'e']) ∧
      segment.toLower.toList = front ++ [] := by
    simp only [List.mem_cons, List.not_mem_nil, or_false] at here
    rcases here with same | same <;> rw [same]
    · exact ⟨_, Or.inl rfl, rfl⟩
    · exact ⟨_, Or.inr rfl, rfl⟩
  obtain ⟨front, dot, split⟩ := one
  obtain ⟨behind, empty, decoded⟩ := percentDecode_of_toLower dot (lowered.trans split)
  rw [decoded, List.map_eq_nil_iff.1 empty, Text.percentDecode]

/-- A segment that stands for the directory above stands for two dots. -/
theorem percentDecode_of_isParent {segment : String} (parent : isParent segment = true) :
    Text.percentDecode segment.toList = [0x2E, 0x2E] := by
  have lowered : segment.toList.map Char.toLower = segment.toLower.toList :=
    String.toList_map.symm
  unfold isParent at parent
  rw [List.contains_iff_mem] at parent
  have two : ∃ front back : List Char, (front = ['.'] ∨ front = ['%', '2', 'e']) ∧
      (back = ['.'] ∨ back = ['%', '2', 'e']) ∧ segment.toLower.toList = front ++ (back ++ []) := by
    simp only [List.mem_cons, List.not_mem_nil, or_false] at parent
    rcases parent with same | same | same | same <;> rw [same]
    · exact ⟨_, _, Or.inl rfl, Or.inl rfl, rfl⟩
    · exact ⟨_, _, Or.inl rfl, Or.inr rfl, rfl⟩
    · exact ⟨_, _, Or.inr rfl, Or.inl rfl, rfl⟩
    · exact ⟨_, _, Or.inr rfl, Or.inr rfl, rfl⟩
  obtain ⟨front, back, dot, dot', split⟩ := two
  obtain ⟨middle, lower, decoded⟩ := percentDecode_of_toLower dot (lowered.trans split)
  obtain ⟨behind, empty, decoded'⟩ := percentDecode_of_toLower dot' lower
  rw [decoded, decoded', List.map_eq_nil_iff.1 empty, Text.percentDecode]

theorem toLower_of_map {text : String} (same : text.toList.map Char.toLower = text.toList) :
    text.toLower = text :=
  String.toList_inj.1 (String.toList_map.trans same)

theorem isHere_percentEncode_iff {text : String} :
    isHere (Text.percentEncode text) = true ↔ text = "." := by
  constructor
  · intro here
    rw [← Text.bytes_inj, ← Text.percentDecode_percentEncode, percentDecode_of_isHere here,
      Text.bytes_eq_flatMap]
    decide
  · rintro rfl
    rw [Text.percentEncode_dot, isHere, toLower_of_map (by decide)]
    decide

theorem isParent_percentEncode_iff {text : String} :
    isParent (Text.percentEncode text) = true ↔ text = ".." := by
  constructor
  · intro parent
    rw [← Text.bytes_inj, ← Text.percentDecode_percentEncode, percentDecode_of_isParent parent,
      Text.bytes_eq_flatMap]
    decide
  · rintro rfl
    rw [Text.percentEncode_dots, isParent, toLower_of_map (by decide)]
    decide

/-- A segment that stands for something else than one or two dots is no dot segment. -/
theorem proper_of_percentDecode {segment : String}
    (one : Text.percentDecode segment.toList ≠ [0x2E])
    (two : Text.percentDecode segment.toList ≠ [0x2E, 0x2E]) :
    isHere segment = false ∧ isParent segment = false := by
  constructor
  · exact Bool.eq_false_iff.2 fun here => one (percentDecode_of_isHere here)
  · exact Bool.eq_false_iff.2 fun parent => two (percentDecode_of_isParent parent)

end Dots

/-! ## Paths of written segments -/

section Written

/-- What is written in a segment can stand in a path and separates nothing. -/
theorem of_isWritten {char : Char} (written : Text.isWritten char = true) :
    (0x20 < char.toNat ∧ isSlash char = false ∧ char ≠ '?' ∧ char ≠ '#') ∧
      plainInPath (UInt8.ofNat char.toNat) = true :=
  Text.of_isWritten
    (fun char => (0x20 < char.toNat ∧ isSlash char = false ∧ char ≠ '?' ∧ char ≠ '#') ∧
      plainInPath (UInt8.ofNat char.toNat) = true)
    (by decide +kernel) written

variable {pieces : List String} (some : pieces ≠ [])
  (written : ∀ piece ∈ pieces, ∀ char ∈ piece.toList, Text.isWritten char = true)
include some written

theorem normalPath_joined : normalPath (joined pieces).toList = joined (resolve [] pieces) := by
  have cut : segments (['/'].intercalate (pieces.map String.toList)) = pieces :=
    segments_intercalate some fun piece listed char member =>
      (of_isWritten (written piece listed char member)).1.2.1
  have kept : pieces.map (Text.percentEncodeWith plainInPath) = pieces := by
    refine (List.map_congr_left fun piece listed => ?_).trans (List.map_id pieces)
    refine Text.percentEncodeWith_of_plain fun char member => ?_
    have inside := written piece listed char member
    exact ⟨Text.toNat_lt_of_isWritten inside, (of_isWritten inside).2⟩
  have slash : isSlash '/' = true := rfl
  unfold normalPath
  rw [toList_joined]
  simp only [slash, if_true, cut, kept]
  rfl

end Written

/-! ## Addresses -/

section OfText

/-- A text without blanks and control characters counts as it is. -/
theorem significant_of_visible {text : String}
    (visible : ∀ char ∈ text.toList, 0x20 < char.toNat) : significant text = text.toList := by
  have kept : ∀ chars : List Char, (∀ char ∈ chars, 0x20 < char.toNat) →
      chars.dropWhile (fun char => decide (char.toNat ≤ 0x20)) = chars := by
    intro chars seen
    refine List.dropWhile_eq_self_iff.2 fun nonempty => ?_
    have first := seen _ (List.getElem_mem nonempty)
    simpa using first
  unfold significant
  dsimp only
  rw [kept _ visible, kept _ fun char member => visible char (List.mem_reverse.1 member),
    List.reverse_reverse]
  refine List.filter_eq_self.2 fun char member => ?_
  have seen := visible char member
  simp only [Bool.not_eq_true', Bool.or_eq_false_iff, beq_eq_false_iff_ne]
  refine ⟨⟨?_, ?_⟩, ?_⟩ <;> rintro rfl <;> exact absurd seen (by decide)

/-- An address without a query, from what follows its scheme. -/
theorem ofText?_of_afterScheme? {text : String} {authority path : List Char}
    (after : afterScheme? (significant text) = some (authority ++ '/' :: path))
    (named : authority ≠ [])
    (plain : ∀ char ∈ authority, isSlash char = false ∧ char ≠ '?' ∧ char ≠ '#')
    (clean : ∀ char ∈ path, char ≠ '?' ∧ char ≠ '#') :
    ofText? text =
      some { authority := String.ofList authority, path := normalPath ('/' :: path), query := none } := by
  have front : ∀ char ∈ authority, (!(isSlash char || char == '?' || char == '#')) = true := by
    intro char member
    obtain ⟨noSlash, noQuery, noMark⟩ := plain char member
    simp [noSlash, noQuery, noMark]
  have slash : isSlash '/' = true := rfl
  have rooted : (authority ++ '/' :: path).dropWhile isSlash = authority ++ '/' :: path := by
    obtain ⟨first, rest, rfl⟩ := List.exists_cons_of_ne_nil named
    rw [List.cons_append, List.dropWhile_cons, (plain first List.mem_cons_self).1,
      if_neg Bool.false_ne_true]
  have noMark : ∀ char ∈ '/' :: path, (char != '#') = true := by
    intro char member
    rcases List.mem_cons.1 member with rfl | member
    · rfl
    · exact bne_iff_ne.2 (clean char member).2
  have noQuery : ∀ char ∈ '/' :: path, (char != '?') = true := by
    intro char member
    rcases List.mem_cons.1 member with rfl | member
    · rfl
    · exact bne_iff_ne.2 (clean char member).1
  have whom : (authority ++ '/' :: path).takeWhile
      (fun char => !(isSlash char || char == '?' || char == '#')) = authority := by
    rw [List.takeWhile_append_of_pos front, List.takeWhile_cons, slash]
    exact List.append_nil authority
  have remainder : ((authority ++ '/' :: path).dropWhile
      (fun char => !(isSlash char || char == '?' || char == '#'))).takeWhile
        (fun char => char != '#') = '/' :: path := by
    rw [List.dropWhile_append_of_pos front, List.dropWhile_cons, slash]
    exact List.takeWhile_eq_self_iff.2 noMark
  have whole : ('/' :: path).takeWhile (fun char => char != '?') = '/' :: path :=
    List.takeWhile_eq_self_iff.2 noQuery
  have unasked : ('/' :: path).dropWhile (fun char => char != '?') = [] :=
    List.dropWhile_eq_nil_iff.2 noQuery
  have someone : (String.ofList authority).isEmpty = false := by simpa using named
  unfold ofText?
  rw [after]
  simp only [Option.bind_eq_bind, Option.bind_some, rooted, whom, remainder, whole, unasked,
    someone]
  rfl

end OfText

end Address

/-! ## Sites -/

/-- Somewhere that a backend can be: a scheme, a host and a port. -/
structure Site where
  secure : Bool
  host : String
  port : UInt16
  named : host ≠ ""
  /-- The host is visible, and ends where the port begins. -/
  plain : ∀ char ∈ host.toList,
    0x20 < char.toNat ∧ Address.isSlash char = false ∧ char ≠ '?' ∧ char ≠ '#'

namespace Site

/-- The scheme of a site. -/
def scheme (site : Site) : String := if site.secure then "https://" else "http://"

/-- Whom to ask at a site. -/
def authority (site : Site) : String := site.host ++ ":" ++ toString site.port

/-- The address of a site. -/
def text (site : Site) : String := site.scheme ++ site.authority

variable (site : Site)

theorem authority_plain : ∀ char ∈ site.authority.toList,
    0x20 < char.toNat ∧ Address.isSlash char = false ∧ char ≠ '?' ∧ char ≠ '#' := by
  intro char member
  have digits : (toString site.port).toList = Nat.toDigits 10 site.port.toNat := Nat.toList_repr
  unfold authority at member
  rw [String.toList_append, String.toList_append, digits, List.mem_append, List.mem_append] at member
  rcases member with (inHost | colon) | inPort
  · exact site.plain char inHost
  · obtain rfl := List.mem_singleton.1 colon
    decide
  · have digit := Nat.isDigit_of_mem_toDigits (by decide) (by decide) inPort
    obtain ⟨above, below⟩ := Char.isDigit_iff_toNat.1 digit
    refine ⟨Nat.lt_of_lt_of_le (by decide) above, ?_, ?_, ?_⟩
    · exact Bool.or_eq_false_iff.2 ⟨beq_false_of_ne (by rintro rfl; cases digit),
        beq_false_of_ne (by rintro rfl; cases digit)⟩
    · rintro rfl
      cases digit
    · rintro rfl
      cases digit

theorem authority_ne_nil : site.authority.toList ≠ [] := by
  unfold authority
  rw [String.toList_append, String.toList_append]
  simp

theorem afterScheme?_text (rest : List Char) :
    Address.afterScheme? (site.text.toList ++ rest) = some (site.authority.toList ++ rest) := by
  unfold text scheme
  cases site.secure <;> rw [String.toList_append] <;> rfl

/-- **An address below a site.**  The site is asked, for the path with its dot segments
resolved. -/
theorem ofText?_joined {pieces : List String} (some : pieces ≠ [])
    (written : ∀ piece ∈ pieces, ∀ char ∈ piece.toList, Text.isWritten char = true) :
    Address.ofText? (site.text ++ Address.joined pieces) =
      Option.some { authority := site.authority, query := none
                    path := Address.joined (Address.resolve [] pieces) } := by
  have inPath : ∀ char ∈ (Address.joined pieces).toList,
      0x20 < char.toNat ∧ char ≠ '?' ∧ char ≠ '#' := by
    intro char member
    rcases Address.mem_joined member with rfl | ⟨piece, listed, inside⟩
    · decide
    · obtain ⟨⟨visible, -, noQuery, noMark⟩, -⟩ :=
        Address.of_isWritten (written piece listed char inside)
      exact ⟨visible, noQuery, noMark⟩
  have inScheme : ∀ char ∈ site.scheme.toList, 0x20 < char.toNat := by
    unfold scheme
    cases site.secure with
    | true => exact Text.forall_of_all (by decide)
    | false => exact Text.forall_of_all (by decide)
  have visible : ∀ char ∈ (site.text ++ Address.joined pieces).toList, 0x20 < char.toNat := by
    intro char member
    unfold text at member
    rw [String.toList_append, String.toList_append, List.mem_append, List.mem_append] at member
    rcases member with (inside | inside) | inside
    · exact inScheme char inside
    · exact (site.authority_plain char inside).1
    · exact (inPath char inside).1
  have after : Address.afterScheme?
      (Address.significant (site.text ++ Address.joined pieces)) =
        Option.some (site.authority.toList ++ (Address.joined pieces).toList) := by
    rw [Address.significant_of_visible visible, String.toList_append, site.afterScheme?_text]
  have path := Address.normalPath_joined some written
  rw [Address.toList_joined] at after inPath path
  rw [Address.ofText?_of_afterScheme? after site.authority_ne_nil
    (fun char member => (site.authority_plain char member).2)
    (fun char member => (inPath char (List.mem_cons_of_mem _ member)).2), path,
    String.ofList_toList]

end Site

end SessionSync.Backend
