import Mathlib
import Scriptlet.Text.ByteString

/-! Byte strings read as UTF-8. The bytes of a text are read as its characters, and a line break in
bytes is a line break in what they show, since its byte is part of no other character. -/
namespace Scriptlet

namespace Text

theorem toList_loop (bytes : ByteArray) (start : Nat) (taken : List UInt8) :
    ByteArray.toList.loop bytes start taken = taken.reverse ++ bytes.data.toList.drop start := by
  fun_induction ByteArray.toList.loop bytes start taken with
  | case1 start taken inside ih =>
    have bound : start < bytes.data.toList.length := by simpa using inside
    have item : bytes.get! start = bytes.data.toList.get ⟨start, bound⟩ := by
      obtain ⟨data⟩ := bytes
      simp only [ByteArray.get!]
      grind
    rw [ih, List.drop_eq_getElem_cons bound, item]
    simp
  | case2 start taken outside => simpa using outside

theorem toList_eq (bytes : ByteArray) : bytes.toList = bytes.data.toList := by
  rw [ByteArray.toList, toList_loop]
  simp

theorem toList_append (first second : ByteArray) :
    (first ++ second).toList = first.toList ++ second.toList := by
  simp [toList_eq, ByteArray.data_append]

theorem toList_encode (text : List Char) :
    text.utf8Encode.toList = text.flatMap String.utf8EncodeChar := by
  simp [toList_eq, List.utf8Encode, List.data_toByteArray]

theorem continuation_byte {bits : Nat} (small : bits < 64) :
    continuation? (UInt8.ofNat (bits + 128)) = some bits := by
  have value : (UInt8.ofNat (bits + 128)).toNat = bits + 128 := by
    simp [UInt8.toNat_ofNat']
    omega
  simp only [continuation?, UInt8.le_iff_toNat_le, UInt8.lt_iff_toNat_lt, value]
  simp
  omega

theorem scalar_of_char {least code : Nat} {c : Char} (same : code = c.toNat) (enough : least ≤ c.toNat) :
    scalar? least code = some c := by
  subst same
  have valid : c.toNat.isValidChar := c.valid
  simp only [scalar?, enough, valid, and_self, dite_true]
  rfl

theorem ofNat_toNat {byte : Nat} (small : byte < 256) : (UInt8.ofNat byte).toNat = byte := by
  rw [UInt8.toNat_ofNat']
  exact Nat.mod_eq_of_lt small

/-! How a character is read, by the number of its bytes. -/

section Widths

variable {lead b₁ b₂ b₃ : UInt8} {x y z : Nat} {c : Char} (rest : List UInt8)

theorem leading_one (low : lead.toNat < 0x80) :
    leading? lead rest = some (Char.ofNat lead.toNat, 0) := by
  rw [leading?.eq_def, if_pos (UInt8.lt_iff_toNat_lt.mpr low)]

theorem leading_two (low : 0xC0 ≤ lead.toNat) (high : lead.toNat < 0xE0) (second : continuation? b₁ = some x)
    (scalar : scalar? 0x80 ((lead.toNat - 0xC0) * 64 + x) = some c) :
    leading? lead (b₁ :: rest) = some (c, 1) := by
  have notOne : ¬ lead < 0x80 := by
    rw [UInt8.lt_iff_toNat_lt]
    exact Nat.not_lt_of_le (Nat.le_trans (by decide) low)
  have two : (0xC0 ≤ lead && lead < 0xE0) = true := by
    simpa [UInt8.lt_iff_toNat_lt, UInt8.le_iff_toNat_le] using ⟨low, high⟩
  rw [leading?, if_neg notOne, if_pos two]
  simp [second, scalar]

theorem leading_three (low : 0xE0 ≤ lead.toNat) (high : lead.toNat < 0xF0)
    (second : continuation? b₁ = some x) (third : continuation? b₂ = some y)
    (scalar : scalar? 0x800 (((lead.toNat - 0xE0) * 64 + x) * 64 + y) = some c) :
    leading? lead (b₁ :: b₂ :: rest) = some (c, 2) := by
  have notOne : ¬ lead < 0x80 := by
    rw [UInt8.lt_iff_toNat_lt]
    exact Nat.not_lt_of_le (Nat.le_trans (by decide) low)
  have notTwo : ¬ (0xC0 ≤ lead && lead < 0xE0) = true := by
    simpa [UInt8.lt_iff_toNat_lt, UInt8.le_iff_toNat_le] using fun _ => low
  have three : (0xE0 ≤ lead && lead < 0xF0) = true := by
    simpa [UInt8.lt_iff_toNat_lt, UInt8.le_iff_toNat_le] using ⟨low, high⟩
  rw [leading?, if_neg notOne, if_neg notTwo, if_pos three]
  simp [second, third, scalar]

theorem leading_four (low : 0xF0 ≤ lead.toNat) (high : lead.toNat < 0xF8)
    (second : continuation? b₁ = some x) (third : continuation? b₂ = some y)
    (fourth : continuation? b₃ = some z)
    (scalar : scalar? 0x10000 ((((lead.toNat - 0xF0) * 64 + x) * 64 + y) * 64 + z) = some c) :
    leading? lead (b₁ :: b₂ :: b₃ :: rest) = some (c, 3) := by
  have notOne : ¬ lead < 0x80 := by
    rw [UInt8.lt_iff_toNat_lt]
    exact Nat.not_lt_of_le (Nat.le_trans (by decide) low)
  have notTwo : ¬ (0xC0 ≤ lead && lead < 0xE0) = true := by
    simpa [UInt8.lt_iff_toNat_lt, UInt8.le_iff_toNat_le] using fun _ => Nat.le_trans (by decide) low
  have notThree : ¬ (0xE0 ≤ lead && lead < 0xF0) = true := by
    simpa [UInt8.lt_iff_toNat_lt, UInt8.le_iff_toNat_le] using fun _ => low
  have four : (0xF0 ≤ lead && lead < 0xF8) = true := by
    simpa [UInt8.lt_iff_toNat_lt, UInt8.le_iff_toNat_le] using ⟨low, high⟩
  rw [leading?, if_neg notOne, if_neg notTwo, if_neg notThree, if_pos four]
  simp [second, third, fourth, scalar]

end Widths

theorem encode_eq (c : Char) : String.utf8EncodeChar c =
    if c.toNat ≤ 127 then [UInt8.ofNat c.toNat]
    else if c.toNat ≤ 2047 then [UInt8.ofNat (c.toNat / 64 % 32 + 192), UInt8.ofNat (c.toNat % 64 + 128)]
    else if c.toNat ≤ 65535 then
      [UInt8.ofNat (c.toNat / 4096 % 16 + 224), UInt8.ofNat (c.toNat / 64 % 64 + 128),
        UInt8.ofNat (c.toNat % 64 + 128)]
    else
      [UInt8.ofNat (c.toNat / 262144 % 8 + 240), UInt8.ofNat (c.toNat / 4096 % 64 + 128),
        UInt8.ofNat (c.toNat / 64 % 64 + 128), UInt8.ofNat (c.toNat % 64 + 128)] :=
  rfl

/-- The bytes of a character are read as the character, whatever comes after them. -/
theorem leading_encode (c : Char) (rest : List UInt8) : ∃ lead others,
    String.utf8EncodeChar c = lead :: others ∧
      leading? lead (others ++ rest) = some (c, others.length) := by
  have bound : c.toNat < 0x110000 := by
    rcases c.valid with low | high
    · exact Nat.lt_trans low (by decide)
    · exact high.2
  have six (n : Nat) : continuation? (UInt8.ofNat (n % 64 + 128)) = some (n % 64) :=
    continuation_byte (Nat.mod_lt n (by decide))
  rw [encode_eq]
  by_cases one : c.toNat ≤ 127
  · have value := ofNat_toNat (by omega : c.toNat < 256)
    refine ⟨_, _, if_pos one, ?_⟩
    rw [leading_one _ (by rw [value]; omega), value, Char.ofNat_toNat]
    rfl
  rw [if_neg one]
  by_cases two : c.toNat ≤ 2047
  · have value := ofNat_toNat (by omega : c.toNat / 64 % 32 + 192 < 256)
    refine ⟨_, _, if_pos two, ?_⟩
    exact leading_two rest (by omega) (by omega) (six _) (scalar_of_char (by omega) (by omega))
  rw [if_neg two]
  by_cases three : c.toNat ≤ 65535
  · have value := ofNat_toNat (by omega : c.toNat / 4096 % 16 + 224 < 256)
    refine ⟨_, _, if_pos three, ?_⟩
    exact leading_three rest (by omega) (by omega) (six _) (six _) (scalar_of_char (by omega) (by omega))
  · have value := ofNat_toNat (by omega : c.toNat / 262144 % 8 + 240 < 256)
    refine ⟨_, _, if_neg three, ?_⟩
    exact leading_four rest (by omega) (by omega) (six _) (six _) (six _)
      (scalar_of_char (by omega) (by omega))

theorem piecesAfter_skip (taken : List UInt8) (rest : List UInt8) :
    piecesAfter taken.length (taken ++ rest) = piecesAfter 0 rest := by
  induction taken with
  | nil => rfl
  | cons byte taken ih => exact ih

theorem piecesAfter_char (c : Char) (rest : List UInt8) :
    piecesAfter 0 (String.utf8EncodeChar c ++ rest) = .char c :: piecesAfter 0 rest := by
  obtain ⟨lead, others, bytes, leads⟩ := leading_encode c rest
  rw [bytes, List.cons_append, piecesAfter, leads]
  simp only [piecesAfter_skip]

theorem piecesAfter_text (text : List Char) :
    piecesAfter 0 (text.flatMap String.utf8EncodeChar) = text.map .char := by
  induction text with
  | nil => rfl
  | cons c text ih => rw [List.flatMap_cons, piecesAfter_char, ih, List.map_cons]

theorem toList_toUTF8 (text : String) :
    text.toUTF8.toList = text.toList.flatMap String.utf8EncodeChar := by
  rw [← toList_encode, ← String.toByteArray_ofList, String.ofList_toList]
  rfl

theorem pieces_toUTF8 (text : String) : pieces text.toUTF8 = piecesOfText text := by
  rw [pieces, toList_toUTF8, piecesAfter_text, piecesOfText]

theorem ofBytes_toUTF8 (text : String) : ofBytes text.toUTF8 = text := by
  rw [ofBytes, pieces_toUTF8, piecesOfText, List.map_map]
  simp [Function.comp_def, Piece.shown]

theorem length_toUTF8 (text : String) : text.toUTF8.toList.length = text.utf8ByteSize := by
  rw [toList_eq, Array.length_toList]
  rfl

/-! Cutting bytes at a line break. -/

theorem lineFeed_encode {c : Char} (lineFeed : 10 ∈ String.utf8EncodeChar c) : c = '\n' := by
  have value {n : Nat} (small : n < 256) (same : 10 = UInt8.ofNat n) : n = 10 := by
    rw [← ofNat_toNat small, ← same]
    rfl
  have high {n : Nat} (above : 128 ≤ n) (small : n < 256) : 10 ≠ UInt8.ofNat n := by
    intro same
    have := value small same
    omega
  rw [encode_eq] at lineFeed
  by_cases one : c.toNat ≤ 127
  · rw [if_pos one, List.mem_singleton] at lineFeed
    exact Char.toNat_inj.mp (value (by omega) lineFeed)
  · -- The bytes of a longer character are all high.
    rw [if_neg one] at lineFeed
    split_ifs at lineFeed <;> simp only [List.mem_cons, List.not_mem_nil, or_false] at lineFeed
    · rcases lineFeed with same | same <;> exact absurd same (high (by omega) (by omega))
    · rcases lineFeed with same | same | same <;> exact absurd same (high (by omega) (by omega))
    · rcases lineFeed with same | same | same | same <;> exact absurd same (high (by omega) (by omega))

theorem lineFeed_toUTF8 {text : String} (whole : '\n' ∉ text.toList) : 10 ∉ text.toUTF8.toList := by
  rw [toList_toUTF8, List.mem_flatMap]
  rintro ⟨c, inside, lineFeed⟩
  exact whole (lineFeed_encode lineFeed ▸ inside)

-- No byte of a longer character is a line break, so reading ahead stops at one.
theorem continuation_lineBreak : continuation? 10 = none := by decide

theorem leading_cut (lead : UInt8) (part rest : List UInt8) :
    leading? lead (part ++ 10 :: rest) = leading? lead part := by
  -- At most three bytes are looked at, so only where the break lies among them matters.
  unfold leading?
  match part, rest with
  | [], [] => simp [continuation_lineBreak]
  | [], [_] => simp [continuation_lineBreak]
  | [], _ :: _ :: _ => simp [continuation_lineBreak]
  | [_], [] => simp [continuation_lineBreak]
  | [_], _ :: _ => simp [continuation_lineBreak]
  | [_, _], _ => simp [continuation_lineBreak]
  | _ :: _ :: _ :: _, _ => rfl

theorem scalar_least {least code : Nat} {c : Char} (found : scalar? least code = some c) :
    least ≤ c.toNat := by
  unfold scalar? at found
  split at found
  · next valid =>
    cases found
    exact valid.1
  · cases found

/-- A character is a single byte below 128, or takes some of the bytes that follow and is above. -/
theorem leading_cases {lead : UInt8} {rest : List UInt8} {c : Char} {taken : Nat}
    (leads : leading? lead rest = some (c, taken)) :
    lead.toNat < 0x80 ∧ taken = 0 ∨ 0x80 ≤ c.toNat ∧ taken ≤ rest.length := by
  simp only [leading?, Option.bind_eq_bind, Option.pure_def] at leads
  split at leads
  · next low =>
    cases leads
    exact .inl ⟨UInt8.lt_iff_toNat_lt.mp low, rfl⟩
  right
  split at leads
  · split at leads
    · simp only [Option.bind_eq_some_iff, Option.some.injEq, Prod.mk.injEq] at leads
      obtain ⟨_, -, _, found, rfl, rfl⟩ := leads
      exact ⟨scalar_least found, by simp⟩
    · cases leads
  split at leads
  · split at leads
    · simp only [Option.bind_eq_some_iff, Option.some.injEq, Prod.mk.injEq] at leads
      obtain ⟨_, -, _, -, _, found, rfl, rfl⟩ := leads
      exact ⟨(by decide : 0x80 ≤ 0x800).trans (scalar_least found), by simp⟩
    · cases leads
  split at leads
  · split at leads
    · simp only [Option.bind_eq_some_iff, Option.some.injEq, Prod.mk.injEq] at leads
      obtain ⟨_, -, _, -, _, -, _, found, rfl, rfl⟩ := leads
      exact ⟨(by decide : 0x80 ≤ 0x10000).trans (scalar_least found), by simp⟩
    · cases leads
  · cases leads

theorem leading_taken {lead : UInt8} {rest : List UInt8} {c : Char} {taken : Nat}
    (leads : leading? lead rest = some (c, taken)) : taken ≤ rest.length := by
  rcases leading_cases leads with ⟨-, rfl⟩ | ⟨-, inside⟩
  · exact Nat.zero_le _
  · exact inside

theorem piecesAfter_cut (part rest : List UInt8) (skip : Nat) (inside : skip ≤ part.length) :
    piecesAfter skip (part ++ 10 :: rest) = piecesAfter skip part ++ .char '\n' :: piecesAfter 0 rest := by
  induction part generalizing skip with
  | nil =>
    obtain rfl := Nat.le_zero.mp inside
    rfl
  | cons lead part ih =>
    cases skip with
    | succ skip => exact ih skip (Nat.le_of_succ_le_succ inside)
    | zero =>
      rw [List.cons_append, piecesAfter, piecesAfter, leading_cut]
      cases leads : leading? lead part with
      | none => exact congrArg _ (ih 0 (Nat.zero_le _))
      | some found => exact congrArg _ (ih found.2 (leading_taken leads))

theorem leading_ascii {lead : UInt8} {rest : List UInt8} {c : Char} {taken : Nat}
    (leads : leading? lead rest = some (c, taken)) (ascii : c.toNat < 0x80) : lead.toNat < 0x80 := by
  rcases leading_cases leads with ⟨low, -⟩ | ⟨high, -⟩
  · exact low
  · exact absurd ascii (Nat.not_lt.mpr high)

theorem stray_high {skip : Nat} {bytes : List UInt8} {byte : UInt8}
    (member : Piece.stray byte ∈ piecesAfter skip bytes) : 0x80 ≤ byte.toNat := by
  fun_induction piecesAfter skip bytes with
  | case1 => cases member
  | case2 skip _ rest ih => exact ih member
  | case3 lead rest c taken leads ih =>
    rcases List.mem_cons.mp member with same | inside
    · cases same
    · exact ih inside
  | case4 lead rest fails ih =>
    rcases List.mem_cons.mp member with same | inside
    · cases same
      refine Nat.le_of_not_lt fun low => ?_
      rw [leading_one rest low] at fails
      cases fails
    · exact ih inside

theorem isBlank_stray (byte : UInt8) : isBlank (Piece.stray byte).shown = false := by
  simp only [Piece.shown]
  decide

/-! Trimming. -/

section Trimming

variable {α : Type} {blank : α → Bool} {items : List α}

theorem trimBy_isPrefix (blank : α → Bool) (items : List α) :
    trimBy blank items <+: items.dropWhile blank := by
  have suffix := List.dropWhile_suffix blank (l := (items.dropWhile blank).reverse)
  have reversed := List.reverse_prefix.mpr suffix
  rwa [List.reverse_reverse] at reversed

theorem head_trimBy {first : α} (head : (trimBy blank items).head? = some first) :
    (items.dropWhile blank).head? = some first := by
  obtain ⟨rest, whole⟩ := trimBy_isPrefix blank items
  rw [← whole, List.head?_append, head]
  rfl

theorem mem_of_mem_trimBy {item : α} (member : item ∈ trimBy blank items) : item ∈ items :=
  (List.dropWhile_sublist blank).subset ((trimBy_isPrefix blank items).subset member)

theorem trimBy_map {β : Type} (view : β → α) (sources : List β) :
    trimBy blank (sources.map view) = (trimBy (blank ∘ view) sources).map view := by
  simp only [trimBy, List.dropWhile_map, ← List.map_reverse]

theorem trimBy_eq_nil : trimBy blank items = [] ↔ ∀ item ∈ items, blank item = true := by
  simp only [trimBy, List.reverse_eq_nil_iff, List.dropWhile_eq_nil_iff, List.mem_reverse]
  constructor
  · intro rest
    have stops := List.head?_dropWhile_not blank items
    apply List.dropWhile_eq_nil_iff.mp
    cases dropped : items.dropWhile blank with
    | nil => rfl
    | cons first others =>
      rw [dropped] at rest stops
      have notBlank : blank first = false := stops
      rw [rest first List.mem_cons_self] at notBlank
      cases notBlank
  · intro all item member
    exact all item ((List.dropWhile_sublist blank).subset member)

end Trimming

end Text

namespace ByteString

theorem pieces_eq (string : ByteString) : string.pieces = Text.pieces string.bytes := by
  cases string with
  | text value => exact (Text.pieces_toUTF8 value).symm
  | raw value illFormed => rfl

theorem shown_eq (string : ByteString) :
    string.shown = String.ofList (string.pieces.map Text.Piece.shown) := by
  cases string with
  | text value => simp [shown, pieces, Text.piecesOfText, Function.comp_def, Text.Piece.shown]
  | raw value illFormed => rfl

theorem bytes_lineBreak : (text "\n").bytes.toList = [10] := by
  have encoded : "\n".toByteArray = ['\n'].utf8Encode := String.toByteArray_ofList
  show "\n".toByteArray.toList = [10]
  rw [encoded, Text.toList_encode]
  rfl

theorem shown_lines (first second : ByteString) :
    (first ++ ("\n" : ByteString) ++ second).shown = first.shown ++ "\n" ++ second.shown := by
  have bytes : (first ++ ("\n" : ByteString) ++ second).bytes.toList =
      first.bytes.toList ++ 10 :: second.bytes.toList := by
    rw [bytes_append, bytes_append, Text.toList_append, Text.toList_append, bytes_lineBreak,
      List.append_assoc, List.singleton_append]
  rw [shown_eq, shown_eq, shown_eq, pieces_eq, pieces_eq, pieces_eq, Text.pieces, bytes,
    Text.piecesAfter_cut _ _ 0 (Nat.zero_le _)]
  apply String.toList_inj.mp
  simp [Text.pieces, Text.Piece.shown]

theorem piece_bytes_char (c : Char) : (Text.Piece.char c).bytes = String.utf8EncodeChar c := by
  have encoded : c.toString.toByteArray = [c].utf8Encode := String.toByteArray_ofList
  show c.toString.toByteArray.toList = _
  rw [encoded, Text.toList_encode, List.flatMap_singleton]

theorem piece_bytes_ne_nil (piece : Text.Piece) : piece.bytes ≠ [] := by
  cases piece with
  | char c =>
    obtain ⟨lead, others, bytes, -⟩ := Text.leading_encode c []
    rw [piece_bytes_char, bytes]
    simp
  | stray byte => simp [Text.Piece.bytes]

theorem bytes_ofPieces (pieces : List Text.Piece) :
    (ofPieces pieces).bytes.toList = pieces.flatMap Text.Piece.bytes := by
  rw [ofPieces, bytes_ofBytes, Text.toList_eq]

theorem isBlankPiece_eq (piece : Text.Piece) : isBlankPiece piece = Text.isBlank piece.shown := by
  cases piece with
  | char c => rfl
  | stray byte => exact (Text.isBlank_stray byte).symm

theorem isEmpty_iff (string : ByteString) : string.isEmpty = true ↔ string.bytes.toList = [] := by
  cases string with
  | text value =>
    have none : value.toUTF8.toList = [] ↔ value = "" := by
      rw [Text.toList_toUTF8, List.flatMap_eq_nil_iff, ← String.toList_eq_nil_iff]
      constructor
      · intro nothing
        rw [List.eq_nil_iff_forall_not_mem]
        intro c member
        exact piece_bytes_ne_nil (.char c) ((piece_bytes_char c).trans (nothing c member))
      · intro same
        simp [same]
    exact String.isEmpty_iff.trans none.symm
  | raw value illFormed =>
    refine ⟨fun empty => absurd empty Bool.false_ne_true, fun none => absurd ?_ illFormed⟩
    rw [bytes, Text.toList_eq, Array.toList_eq_nil_iff] at none
    exact ⟨[], ByteArray.ext none⟩

theorem trim_bytes (string : ByteString) :
    string.trim.bytes.toList = (Text.trimBy isBlankPiece string.pieces).flatMap Text.Piece.bytes := by
  cases string with
  | text value =>
    show (Text.trim value).toUTF8.toList = _
    have blank : isBlankPiece ∘ Text.Piece.char = Text.isBlank := rfl
    rw [pieces, Text.piecesOfText, Text.trimBy_map, blank, List.flatMap_map, Text.toList_toUTF8]
    simp only [Text.trim, Text.trimChars, String.toList_ofList, piece_bytes_char]
  | raw value illFormed => exact bytes_ofPieces _

theorem trim_isEmpty (string : ByteString) :
    string.trim.isEmpty = true ↔ ∀ c ∈ string.shown.toList, Text.isBlank c = true := by
  have nothing : string.trim.isEmpty = true ↔ Text.trimBy isBlankPiece string.pieces = [] := by
    rw [isEmpty_iff, trim_bytes, List.flatMap_eq_nil_iff, List.eq_nil_iff_forall_not_mem]
    exact ⟨fun none piece member => piece_bytes_ne_nil piece (none piece member),
      fun none piece member => absurd member (none piece)⟩
  rw [nothing, Text.trimBy_eq_nil, shown_eq, String.toList_ofList, List.forall_mem_map]
  simp only [isBlankPiece_eq]

/-- A trimmed byte string starts with a colon only if what it shows does, after blanks. -/
theorem trim_colon {string : ByteString} (colon : string.trim.shown.toList.head? = some ':') :
    (string.shown.toList.dropWhile Text.isBlank).head? = some ':' := by
  rw [shown_eq, String.toList_ofList, pieces_eq, Text.pieces, trim_bytes] at colon
  have first : (Text.trimBy isBlankPiece string.pieces).head? = some (.char ':') := by
    cases trimmed : Text.trimBy isBlankPiece string.pieces with
    | nil => simp [trimmed, Text.piecesAfter] at colon
    | cons piece rest =>
      rw [trimmed, List.flatMap_cons] at colon
      cases piece with
      | char c =>
        rw [piece_bytes_char, Text.piecesAfter_char] at colon
        have same : c = ':' := by simpa [Text.Piece.shown] using colon
        rw [same]
        rfl
      | stray byte =>
        -- A stray byte is above 127, so neither it nor what it leads shows a colon.
        have member : Text.Piece.stray byte ∈ string.pieces :=
          Text.mem_of_mem_trimBy (by rw [trimmed]; exact List.mem_cons_self)
        rw [pieces_eq] at member
        have high := Text.stray_high member
        simp only [Text.Piece.bytes, List.cons_append, List.nil_append, Text.piecesAfter] at colon
        cases leads : Text.leading? byte (List.flatMap Text.Piece.bytes rest) with
        | none => simp [leads, Text.Piece.shown] at colon
        | some found =>
          have same : found.1 = ':' := by simpa [leads, Text.Piece.shown] using colon
          have low := Text.leading_ascii leads (by rw [same]; decide)
          omega
  have head := Text.head_trimBy first
  have blank : isBlankPiece = Text.isBlank ∘ Text.Piece.shown := funext isBlankPiece_eq
  rw [shown_eq, String.toList_ofList, List.dropWhile_map, List.head?_map, ← blank, head]
  rfl

end ByteString

end Scriptlet
