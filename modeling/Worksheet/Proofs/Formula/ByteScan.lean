import Worksheet.Proofs.Address
import Worksheet.Proofs.Formula.Pieces

/-!
# Pieces of encoded text

References can be found in the bytes of a text, without a look at its characters: a byte at a
time, with a reference wherever the byte of a capital letter is followed by bytes of digits. The
bytes of a character beyond ASCII are all above those of ASCII, so they neither begin nor continue
a reference.

* `scan` is the search over bytes. `Splits.scan_eq` says that it finds the encoded pieces.
* `isValid_of_scan_eq_append` says that it cuts between characters only.
* `pieces_exact` puts together what is known of the pieces of a text and of their replacement.
-/

namespace Worksheet.Formula

open Address (Spelling)
open Text (NotInFront)

/-! ## The search over bytes -/

/-- A part of an encoded text: the bytes of a reference, or of text without references. -/
inductive BytePiece where
  | address (bytes : List UInt8)
  | other (bytes : List UInt8)
deriving DecidableEq

def BytePiece.bytes : BytePiece → List UInt8
  | address bytes => bytes
  | other bytes => bytes

/-- The number of bytes of the reference at the front. -/
def addressLength? : List UInt8 → Option Nat
  | [] => none
  | first :: rest =>
    let digits := (rest.takeWhile fun byte => byte.toChar.isDigit).length
    if first.toChar.isUpper && 0 < digits then some (1 + digits) else none

/-- The number of bytes in front of the first reference. -/
def otherLength : List UInt8 → Nat
  | [] => 0
  | first :: rest => if (addressLength? (first :: rest)).isSome then 0 else 1 + otherLength rest

theorem addressLength?_pos {bytes : List UInt8} {length : Nat}
    (h : addressLength? bytes = some length) : 0 < length := by
  cases bytes with
  | nil => cases h
  | cons first rest =>
    simp only [addressLength?] at h
    split at h
    · cases h
      omega
    · cases h

/-- Splits an encoded text into references and the text between them. -/
def scan : List UInt8 → List BytePiece
  | [] => []
  | first :: rest =>
    match _haddress : addressLength? (first :: rest) with
    | some length =>
      .address ((first :: rest).take length) :: scan ((first :: rest).drop length)
    | none =>
      .other (first :: rest.take (otherLength rest)) :: scan (rest.drop (otherLength rest))
termination_by bytes => bytes.length
decreasing_by
  · have hpos := addressLength?_pos _haddress
    simp only [List.length_drop, List.length_cons]
    omega
  · simp only [List.length_drop, List.length_cons]
    omega

/-- The bytes of a text. -/
def utf8 (text : List Char) : List UInt8 :=
  text.flatMap String.utf8EncodeChar

/-- A piece with its characters encoded. -/
def Piece.encoded : Piece → BytePiece
  | address spelling => .address (utf8 spelling.text)
  | other text => .other (utf8 text)

theorem Piece.bytes_encoded (piece : Piece) : piece.encoded.bytes = utf8 piece.text := by
  cases piece <;> rfl

theorem utf8_append (front behind : List Char) :
    utf8 (front ++ behind) = utf8 front ++ utf8 behind :=
  List.flatMap_append

theorem utf8_cons (c : Char) (text : List Char) :
    utf8 (c :: text) = String.utf8EncodeChar c ++ utf8 text :=
  List.flatMap_cons

theorem toList_toUTF8 (text : String) : text.toUTF8.data.toList = utf8 text.toList := by
  rw [String.toUTF8_eq_toByteArray, utf8, ← List.toList_data_toByteArray (l := List.flatMap _ _),
    ← List.utf8Encode, ← String.toByteArray_ofList, String.ofList_toList]

theorem length_utf8 (text : List Char) :
    (utf8 text).length = (String.ofList text).utf8ByteSize := by
  rw [← String.toList_ofList (l := text), ← toList_toUTF8, String.toList_ofList]
  rfl

/-! ## Bytes as characters -/

/-- The characters that single bytes stand for. -/
def characters (bytes : List UInt8) : List Char :=
  bytes.map UInt8.toChar

theorem toNat_toChar (byte : UInt8) : byte.toChar.toNat = byte.toNat := rfl

theorem toChar_ofNat {c : Char} (h : c.toNat < 128) : (UInt8.ofNat c.toNat).toChar = c := by
  apply Char.toNat_inj.mp
  rw [toNat_toChar, UInt8.toNat_ofNat', Nat.mod_eq_of_lt (by omega)]

/-- A character is its own byte, or all of its bytes are beyond ASCII, as it is. -/
theorem characters_utf8EncodeChar (c : Char) :
    characters (String.utf8EncodeChar c) = [c] ∨
      128 ≤ c.toNat ∧ ∀ d ∈ characters (String.utf8EncodeChar c), 128 ≤ d.toNat := by
  by_cases hascii : c.toNat < 128
  · have hencode : String.utf8EncodeChar c = [UInt8.ofNat c.toNat] := by
      have hle : c.val.toNat ≤ 127 := Nat.le_of_lt_succ hascii
      simp only [String.utf8EncodeChar, if_pos hle]
      rfl
    rw [hencode, characters, List.map_singleton, toChar_ofNat hascii]
    exact .inl rfl
  · have hlarge : ¬ c.val.toNat ≤ 127 := fun hle => hascii (Nat.lt_succ_of_le hle)
    refine .inr ⟨Nat.le_of_not_lt hascii, ?_⟩
    simp only [String.utf8EncodeChar, if_neg hlarge]
    -- A code of two, three or four bytes: each is a mark of at least 128 and some bits below.
    split_ifs <;>
      simp only [characters, List.map_cons, List.map_nil, List.forall_mem_cons, List.not_mem_nil,
        toNat_toChar, UInt8.toNat_ofNat', false_implies, implies_true, and_true] <;>
      omega

theorem characters_utf8_cons (c : Char) (text : List Char) :
    characters (utf8 (c :: text)) =
      characters (String.utf8EncodeChar c) ++ characters (utf8 text) := by
  rw [utf8_cons, characters, List.map_append]
  rfl

theorem characters_utf8EncodeChar_ne_nil (c : Char) :
    characters (String.utf8EncodeChar c) ≠ [] :=
  fun heq => String.utf8EncodeChar_ne_nil (List.map_eq_nil_iff.mp heq)

theorem isUpper_eq_false_of_le {c : Char} (h : 128 ≤ c.toNat) : c.isUpper = false := by
  rw [Bool.eq_false_iff]
  intro hupper
  have hle := (Address.isUpper_iff_toNat.mp hupper).2
  omega

theorem isDigit_eq_false_of_le {c : Char} (h : 128 ≤ c.toNat) : c.isDigit = false := by
  rw [Bool.eq_false_iff]
  intro hdigit
  have hle := (Char.isDigit_iff_toNat.mp hdigit).2
  have hnine : '9'.toNat = 57 := rfl
  omega

theorem characters_utf8_of_ascii {text : List Char} (h : ∀ c ∈ text, c.toNat < 128) :
    characters (utf8 text) = text := by
  induction text with
  | nil => rfl
  | cons c text ih =>
    rw [List.forall_mem_cons] at h
    obtain hself | ⟨hbeyond, -⟩ := characters_utf8EncodeChar c
    · rw [characters_utf8_cons, hself, ih h.2, List.singleton_append]
    · exact absurd h.1 (Nat.not_lt.mpr hbeyond)

theorem notInFront_characters_utf8 {text : List Char} (h : NotInFront Char.isDigit text) :
    NotInFront Char.isDigit (characters (utf8 text)) := by
  cases text with
  | nil => exact Text.notInFront_nil
  | cons c text =>
    rw [characters_utf8_cons,
      Text.notInFront_append_of_ne_nil (characters_utf8EncodeChar_ne_nil c)]
    obtain hself | ⟨-, hbeyond⟩ := characters_utf8EncodeChar c
    · rw [hself]
      exact Text.notInFront_cons.mpr (Text.notInFront_cons.mp h)
    · exact Text.notInFront_of_forall fun d hd => isDigit_eq_false_of_le (hbeyond d hd)

/-- A run of ASCII characters is cut off the bytes of a text as it is cut off the text. -/
theorem takeWhile_utf8 {p : Char → Bool} (hascii : ∀ c : Char, 128 ≤ c.toNat → p c = false)
    (text : List Char) :
    (utf8 text).takeWhile (fun byte => p byte.toChar) = utf8 (text.takeWhile p) := by
  induction text with
  | nil => rfl
  | cons c text ih =>
    rw [utf8_cons]
    obtain hself | ⟨hlarge, hbeyond⟩ := characters_utf8EncodeChar c
    · obtain ⟨byte, hencode, rfl⟩ := List.map_eq_singleton_iff.mp hself
      rw [hencode, List.singleton_append, List.takeWhile_cons, List.takeWhile_cons]
      split
      · rw [ih, utf8_cons, hencode, List.singleton_append]
      · rfl
    · obtain ⟨byte, bytes, hencode⟩ := List.exists_cons_of_ne_nil (@String.utf8EncodeChar_ne_nil c)
      rw [hencode] at hbeyond
      rw [hencode, List.cons_append, List.takeWhile_cons_of_neg, List.takeWhile_cons_of_neg]
      · rfl
      · simp [hascii c hlarge]
      · simp [hascii _ (hbeyond _ List.mem_cons_self)]

theorem dropWhile_utf8 {p : Char → Bool} (hascii : ∀ c : Char, 128 ≤ c.toNat → p c = false)
    (text : List Char) :
    (utf8 text).dropWhile (fun byte => p byte.toChar) = utf8 (text.dropWhile p) := by
  refine @List.append_cancel_left _ (utf8 (text.takeWhile p)) _ _ ?_
  rw [← takeWhile_utf8 hascii, List.takeWhile_append_dropWhile, takeWhile_utf8 hascii,
    ← utf8_append, List.takeWhile_append_dropWhile]

/-- The bytes of a text without references hold none either. -/
theorem isChain_characters_utf8 {text : List Char} (h : text.IsChain Unreferenced) :
    (characters (utf8 text)).IsChain Unreferenced := by
  induction text with
  | nil => exact .nil
  | cons c text ih =>
    obtain ⟨hfirst, hothers⟩ := List.isChain_cons.mp h
    rw [characters_utf8_cons]
    obtain hself | ⟨-, hbeyond⟩ := characters_utf8EncodeChar c
    · rw [hself]
      refine List.isChain_cons.mpr ⟨fun d hd hupper => ?_, ih hothers⟩
      exact notInFront_characters_utf8 (fun e he => hfirst e he hupper) d hd
    · refine isChain_append_of_forall (fun d hd e hupper => ?_) (ih hothers)
      rw [isUpper_eq_false_of_le (hbeyond d hd)] at hupper
      cases hupper

/-! ## What the search finds -/

/-- A reference is looked for among the bytes as among the characters that they stand for. -/
theorem addressLength?_eq (bytes : List UInt8) :
    addressLength? bytes =
      (Spelling.cut? (characters bytes)).map fun found => found.1.text.length := by
  cases bytes with
  | nil => rfl
  | cons first rest =>
    simp only [addressLength?, characters, List.map_cons, Spelling.cut?, Text.spanDigits,
      List.takeWhile_map, Function.comp_def]
    by_cases hupper : first.toChar.isUpper = true
    · cases hrun : rest.takeWhile fun byte => byte.toChar.isDigit with
      | nil => simp
      | cons d digits => simp [hupper, Spelling.text]; omega
    · simp [hupper]

variable {bytes front behind : List UInt8} {text rest : List Char} {parts : List Piece}

theorem scan_of_addressLength? {length : Nat} (h : addressLength? bytes = some length) :
    scan bytes = .address (bytes.take length) :: scan (bytes.drop length) := by
  cases bytes with
  | nil => cases h
  | cons first rest =>
    rw [scan]
    split
    · next hsome =>
      rw [h] at hsome
      cases hsome
      rfl
    · next hnone =>
      rw [h] at hnone
      cases hnone

theorem scan_cons_of_addressLength?_eq_none {first : UInt8} {rest : List UInt8}
    (h : addressLength? (first :: rest) = none) :
    scan (first :: rest) =
      .other (first :: rest.take (otherLength rest)) :: scan (rest.drop (otherLength rest)) := by
  rw [scan]
  split
  · next hsome =>
    rw [h] at hsome
    cases hsome
  · rfl

theorem otherLength_eq_zero_of_addressLength? {length : Nat}
    (h : addressLength? bytes = some length) : otherLength bytes = 0 := by
  cases bytes with
  | nil => rfl
  | cons first rest =>
    rw [otherLength, h]
    rfl

theorem addressLength?_cons_append_eq_none {first : UInt8}
    (hfront : (characters (first :: front)).IsChain Unreferenced)
    (hbehind : NotInFront Char.isDigit (characters behind)) :
    addressLength? (first :: (front ++ behind)) = none := by
  rw [addressLength?_eq, Option.map_eq_none_iff, characters, List.map_cons, List.map_append]
  refine cut?_eq_none_iff.mpr fun d hd => ?_
  cases front with
  | nil => exact fun _ => hbehind d hd
  | cons e front => exact (List.isChain_cons.mp hfront).1 d hd

/-- The search passes over bytes that hold no reference. -/
theorem otherLength_append (hfront : (characters front).IsChain Unreferenced)
    (hbehind : NotInFront Char.isDigit (characters behind)) :
    otherLength (front ++ behind) = front.length + otherLength behind := by
  induction front with
  | nil => rw [List.nil_append, List.length_nil, Nat.zero_add]
  | cons first front ih =>
    rw [List.cons_append, otherLength, addressLength?_cons_append_eq_none hfront hbehind,
      ih (List.isChain_cons.mp hfront).2, List.length_cons]
    simp only [Option.isSome_none, Bool.false_eq_true, if_false]
    omega

theorem scan_append_of_isChain (hne : front ≠ [])
    (hfront : (characters front).IsChain Unreferenced)
    (hbehind : NotInFront Char.isDigit (characters behind)) (hstop : otherLength behind = 0) :
    scan (front ++ behind) = .other front :: scan behind := by
  cases front with
  | nil => exact absurd rfl hne
  | cons first front =>
    have hlength : otherLength (front ++ behind) = front.length := by
      rw [otherLength_append (List.isChain_cons.mp hfront).2 hbehind, hstop, Nat.add_zero]
    rw [List.cons_append, scan_cons_of_addressLength?_eq_none
      (addressLength?_cons_append_eq_none hfront hbehind), hlength, List.take_left, List.drop_left]

theorem toNat_lt_of_proper {spelling : Spelling} (h : spelling.Proper) :
    ∀ c ∈ spelling.text, c.toNat < 128 := by
  refine List.forall_mem_cons.mpr ⟨?_, fun c hc => ?_⟩
  · have hletter := Address.isUpper_iff_toNat.mp h.isUpper_letter
    omega
  · have hdigit := Char.isDigit_iff_toNat.mp (h.isDigit_digits c hc)
    have hnine : '9'.toNat = 57 := rfl
    omega

theorem characters_utf8_text_append {spelling : Spelling} (h : spelling.Proper) :
    characters (utf8 (spelling.text ++ rest)) = spelling.text ++ characters (utf8 rest) := by
  rw [utf8_append, characters, List.map_append, ← characters, ← characters,
    characters_utf8_of_ascii (toNat_lt_of_proper h)]

theorem addressLength?_utf8_text_append {spelling : Spelling} (h : spelling.Proper)
    (hrest : NotInFront Char.isDigit rest) :
    addressLength? (utf8 (spelling.text ++ rest)) = some (utf8 spelling.text).length := by
  have hlength := congrArg List.length (characters_utf8_of_ascii (toNat_lt_of_proper h))
  rw [characters, List.length_map] at hlength
  rw [addressLength?_eq, characters_utf8_text_append h,
    Spelling.cut?_text_append h (notInFront_characters_utf8 hrest), hlength]
  rfl

/-- In front of a reference, or at the end, there is nothing to pass over. -/
theorem Splits.otherLength_eq_zero (h : Splits text parts)
    (hreference : ∀ next ∈ parts.head?, next.IsReference) : otherLength (utf8 text) = 0 := by
  cases parts with
  | nil =>
    rw [splits_nil_iff.mp h]
    rfl
  | cons piece parts =>
    obtain ⟨spelling, rfl⟩ := hreference piece rfl
    obtain ⟨rest, rfl, -, hfits⟩ := splits_cons_iff.mp h
    have hlength := addressLength?_utf8_text_append (hfits.proper spelling rfl)
      (hfits.whole spelling rfl)
    exact otherLength_eq_zero_of_addressLength? hlength

/-- The search over bytes finds the pieces of the text. -/
theorem Splits.scan_eq (h : Splits text parts) : scan (utf8 text) = parts.map Piece.encoded := by
  induction parts generalizing text with
  | nil =>
    rw [splits_nil_iff.mp h, utf8, List.flatMap_nil, scan]
    rfl
  | cons piece parts ih =>
    obtain ⟨rest, rfl, hrest, hfits⟩ := splits_cons_iff.mp h
    cases piece with
    | address spelling =>
      have hlength := addressLength?_utf8_text_append (hfits.proper spelling rfl)
        (hfits.whole spelling rfl)
      rw [Piece.text, scan_of_addressLength? hlength, utf8_append, List.take_left, List.drop_left,
        ih hrest]
      rfl
    | other text =>
      have hne : utf8 text ≠ [] := by
        cases text with
        | nil => exact absurd rfl hfits.text_ne_nil
        | cons c text => simp [utf8_cons, String.utf8EncodeChar_ne_nil]
      have hreference := hfits.head?_isReference
      rw [Piece.text, utf8_append, scan_append_of_isChain hne
        (isChain_characters_utf8 (hfits.unreferenced text rfl))
        (notInFront_characters_utf8 (hrest.notInFront_isDigit hreference))
        (hrest.otherLength_eq_zero hreference), ih hrest]
      rfl

theorem scan_toUTF8 (text : String) :
    scan text.toUTF8.data.toList = (pieces text.toList).map Piece.encoded := by
  rw [toList_toUTF8]
  exact (splits_pieces text.toList).scan_eq

theorem flatMap_bytes_map_encoded (parts : List Piece) :
    (parts.map Piece.encoded).flatMap BytePiece.bytes = utf8 (parts.flatMap Piece.text) := by
  induction parts with
  | nil => rfl
  | cons piece parts ih =>
    rw [List.map_cons, List.flatMap_cons, List.flatMap_cons, ih, Piece.bytes_encoded, utf8_append]

/-- The search cuts a text between characters only. -/
theorem isValid_of_scan_eq_append {text : String} {before after : List BytePiece}
    (h : scan text.toUTF8.data.toList = before ++ after) :
    String.Pos.Raw.IsValid text ⟨(before.flatMap BytePiece.bytes).length⟩ := by
  rw [scan_toUTF8, List.map_eq_append_iff] at h
  obtain ⟨front, behind, hpieces, rfl, rfl⟩ := h
  refine String.Pos.Raw.isValid_iff_exists_append.mpr
    ⟨String.ofList (front.flatMap Piece.text), String.ofList (behind.flatMap Piece.text), ?_, ?_⟩
  · rw [← String.ofList_append, ← List.flatMap_append, ← hpieces, pieces_flatten,
      String.ofList_toList]
  · rw [flatMap_bytes_map_encoded, length_utf8]
    rfl

/-! ## Pieces and replacement -/

/-- The pieces of a text are the one list of parts, none of them empty, that make up the text, in
which a reference is a capital letter with all the digits behind it, no capital letter stands in
front of a digit elsewhere, and of two neighbours one is a reference. The search over bytes finds
them, and cuts the text between characters only. So a text may be cut in front of anything but a
digit before its references are replaced, and what is put in place of a reference is not
searched. -/
theorem pieces_exact :
    (∀ text parts, pieces text = parts ↔ Splits text parts) ∧
    (∀ text : String, scan text.toUTF8.data.toList = (pieces text.toList).map Piece.encoded) ∧
    (∀ (text : String) before after, scan text.toUTF8.data.toList = before ++ after →
      String.Pos.Raw.IsValid text ⟨(before.flatMap BytePiece.bytes).length⟩) ∧
    (∀ cells (x y : String), NotInFront Char.isDigit y.toList →
      replaceReferences (x ++ y) cells = replaceReferences x cells ++ replaceReferences y cells) ∧
    (∀ cells (text : String) parts, Splits text.toList parts →
      replaceReferences text cells = String.ofList (parts.flatMap (Piece.replace cells))) ∧
    ∀ cells (x y : String) (spelling : Spelling), spelling.Proper →
      NotInFront Char.isDigit y.toList →
        replaceReferences (x ++ String.ofList spelling.text ++ y) cells =
          replaceReferences x cells ++ replacement cells (String.ofList spelling.text) ++
            replaceReferences y cells := by
  refine ⟨fun text parts => pieces_eq_iff, scan_toUTF8, ?_, ?_, ?_, ?_⟩
  · exact fun text before after h => isValid_of_scan_eq_append h
  · intro cells x y hy
    rw [replaceReferences_eq, String.toList_append, filled_append hy, String.ofList_append]
    rfl
  · intro cells text parts h
    rw [replaceReferences_eq, filled, h.pieces_eq]
  · intro cells x y spelling hspelling hy
    rw [replaceReferences_eq, String.toList_append, String.toList_append, String.toList_ofList,
      List.append_assoc, filled_append_text_append hspelling hy, String.ofList_append,
      String.ofList_append, String.ofList_toList, String.append_assoc]
    rfl

/-- In `é+B2*2` the reference `B2` stands behind three bytes. The text `A1` that it is replaced by
is left as it is, although the cell of that name shows something. -/
theorem pieces_exact_displayedName :
    let cells := Snapshot.ofList [("B2", .ofText "A1"), ("A1", .ofText "7")]
    let parts : List Piece := [.other ['é', '+'], .address ⟨'B', ['2']⟩, .other ['*', '2']]
    Splits "é+B2*2".toList parts ∧
      String.Pos.Raw.IsValid "é+B2*2" ⟨3⟩ ∧
      replaceReferences ("é+B2" ++ "*2") cells = "é+A1" ++ "*2" ∧
      replaceReferences "é+B2*2" cells = "é+A1*2" ∧
      replaceReferences ("é+" ++ String.ofList ['B', '2'] ++ "*2") cells =
        "é+" ++ "A1" ++ "*2" := by
  intro cells parts
  obtain ⟨hsplits, hscan, hvalid, happend, hreplace, hsplice⟩ := pieces_exact
  have hparts : Splits "é+B2*2".toList parts := (hsplits _ _).mp (by decide +kernel)
  have hcuts : scan "é+B2*2".toUTF8.data.toList =
      [.other [195, 169, 43]] ++ [.address [66, 50], .other [42, 50]] := by
    rw [hscan, (hsplits _ _).mpr hparts]
    decide +kernel
  have hproper : Spelling.Proper ⟨'B', ['2']⟩ := ⟨by decide, by decide, by simp⟩
  have hbehind : NotInFront Char.isDigit "*2".toList := by simp
  refine ⟨hparts, hvalid _ _ _ hcuts, (happend cells _ _ hbehind).trans ?_,
    (hreplace cells _ _ hparts).trans ?_, (hsplice cells _ _ _ hproper hbehind).trans ?_⟩
  · decide +kernel
  · decide +kernel
  · decide +kernel

end Worksheet.Formula
