import Mathlib
import Scriptlet.Json.Record
import Scriptlet.Proofs.Lexemes

/-! JSON that is written is read back: strings character by character, numbers by their literals, objects
member by member. -/
namespace Scriptlet.Json

/-! Strings. -/

theorem digitChar_hex : ∀ value < 16,
    isHex (Nat.digitChar value) = true ∧ hexValue (Nat.digitChar value) = value := by
  decide

theorem hexDigit_hex (value : Nat) :
    isHex (Text.hexDigit value) = true ∧ hexValue (Text.hexDigit value) = value % 16 :=
  digitChar_hex (value % 16) (Nat.mod_lt value (by decide))

inductive Escaped (char : Char) : List Char → Prop
  | plain (noQuote : char ≠ '"') (noSlash : char ≠ '\\') (visible : ¬ char.val < 0x20) :
      Escaped char [char]
  | short {mark : Char} (listed : ['"', '\\', '/', 'b', 'f', 'n', 'r', 't'].contains mark = true)
      (stands : unescape mark = char) : Escaped char ['\\', mark]
  | unit {a b c d : Char} (hex : [a, b, c, d].all isHex = true) (stands : unit a b c d = char.toNat) :
      Escaped char ['\\', 'u', a, b, c, d]

theorem hex_escaped {char : Char} (short : char.toNat < 65536) :
    Escaped char ("\\u" ++ Text.hex 4 char.toNat).toList := by
  have same : ("\\u" ++ Text.hex 4 char.toNat).toList = ['\\', 'u',
      Text.hexDigit (char.toNat / 4096), Text.hexDigit (char.toNat / 256),
      Text.hexDigit (char.toNat / 16), Text.hexDigit (char.toNat / 1)] := by
    simp [Text.hex, List.range_succ]
  rw [same]
  refine .unit ?_ ?_
  · simp [hexDigit_hex]
  · simp only [unit, hexDigit_hex]
    omega

theorem escape_escaped (char : Char) : Escaped char (escape char).toList := by
  unfold escape
  split
  all_goals try exact .short (by decide) (by decide)
  all_goals try exact hex_escaped (by decide)
  next noQuote noSlash _ _ _ _ _ _ _ _ _ _ =>
    split
    · next low => exact hex_escaped (Nat.lt_trans low (by decide))
    · next visible =>
      rw [Char.toString, String.toList_singleton]
      exact .plain noQuote noSlash visible

theorem stringTail_plain {char : Char} (noQuote : char ≠ '"') (noSlash : char ≠ '\\')
    (visible : ¬ char.val < 0x20) (rest : List Char) :
    stringTail? (char :: rest) =
      (stringTail? rest).map fun (inside, after) => (char :: inside, after) := by
  rw [stringTail?]
  · simp [visible, noSlash]
  · exact noQuote
  · rintro mark more rfl
    exact absurd rfl noSlash

theorem stringTail_hex {char : Char} (hex : isHex char = true) (rest : List Char) :
    stringTail? (char :: rest) =
      (stringTail? rest).map fun (inside, after) => (char :: inside, after) := by
  have bounds : 48 ≤ char.toNat ∧ char.toNat ≠ 92 := by
    simp only [isHex, isDigit, Char.le_def, UInt32.le_iff_toNat_le, Bool.or_eq_true, Bool.and_eq_true,
      decide_eq_true_eq] at hex
    change (48 ≤ char.toNat ∧ char.toNat ≤ 57 ∨ 97 ≤ char.toNat ∧ char.toNat ≤ 102) ∨
      65 ≤ char.toNat ∧ char.toNat ≤ 70 at hex
    omega
  refine stringTail_plain ?_ ?_ ?_ rest
  · rintro rfl
    exact absurd bounds.1 (by decide)
  · rintro rfl
    exact absurd rfl bounds.2
  · intro low
    have below : char.toNat < 32 := low
    omega

theorem stringTail_escaped {char : Char} {shown : List Char} (escaped : Escaped char shown)
    (rest : List Char) : stringTail? (shown ++ rest) =
      (stringTail? rest).map fun (inside, after) => (shown ++ inside, after) := by
  cases escaped with
  | plain noQuote noSlash visible => exact stringTail_plain noQuote noSlash visible rest
  | @short mark listed stands =>
    have other : mark ≠ 'u' := by
      rintro rfl
      exact absurd listed (by decide)
    rw [List.cons_append, List.singleton_append, stringTail?, if_neg other, if_pos listed]
    rfl
  | @unit a b c d hex stands =>
    have first : (4 ≤ (([a, b, c, d] ++ rest).take 4).length &&
        (([a, b, c, d] ++ rest).take 4).all isHex) = true := hex
    simp only [List.all_cons, List.all_nil, Bool.and_true, Bool.and_eq_true] at hex
    obtain ⟨hexA, hexB, hexC, hexD⟩ := hex
    show stringTail? ('\\' :: 'u' :: ([a, b, c, d] ++ rest)) = _
    rw [stringTail?, if_pos rfl, if_pos first]
    simp only [List.cons_append, List.nil_append, stringTail_hex hexA, stringTail_hex hexB,
      stringTail_hex hexC, stringTail_hex hexD, Option.map_map]
    rfl

def escapedText (text : String) : List Char := text.toList.flatMap fun char => (escape char).toList

theorem quote_toList (text : String) : (quote text).toList = '"' :: (escapedText text ++ ['"']) := by
  simp [quote, escapedText, String.toList_join, List.flatMap_map]

/-- A string ends at its closing quote, not before. -/
theorem stringTail_escapedText (text : String) (rest : List Char) :
    stringTail? (escapedText text ++ '"' :: rest) = some (escapedText text, rest) := by
  unfold escapedText
  induction text.toList with
  | nil => rfl
  | cons char others ih =>
    rw [List.flatMap_cons, List.append_assoc, stringTail_escaped (escape_escaped char), ih]
    rfl

theorem escaped_line {char : Char} {shown : List Char} (escaped : Escaped char shown) : '\n' ∉ shown := by
  intro member
  cases escaped with
  | plain noQuote noSlash visible =>
    obtain rfl := List.mem_singleton.mp member
    exact visible (by decide)
  | short listed stands =>
    rcases List.mem_cons.mp member with same | inside
    · exact absurd same (by decide)
    · obtain rfl := List.mem_singleton.mp inside
      exact absurd listed (by decide)
  | @unit a b c d hex stands =>
    rcases List.mem_cons.mp member with same | inside
    · exact absurd same (by decide)
    · rcases List.mem_cons.mp inside with same | digit
      · exact absurd same (by decide)
      · exact absurd (List.all_eq_true.mp hex '\n' digit) (by decide)

theorem quote_line (text : String) : '\n' ∉ (quote text).toList := by
  rw [quote_toList, escapedText]
  simp only [List.mem_cons, List.mem_append, List.mem_flatMap, List.not_mem_nil, or_false, not_or,
    not_exists, not_and]
  exact ⟨by decide, fun char _ => escaped_line (escape_escaped char), by decide⟩

/-! What a string stands for. -/

theorem parts_escaped {char : Char} {shown : List Char} (escaped : Escaped char shown) :
    ∃ part, (part = .char char ∨ part = .unit char.toNat) ∧
      ∀ rest, parts (shown ++ rest) = part :: parts rest := by
  cases escaped with
  | plain noQuote noSlash visible =>
    refine ⟨.char char, .inl rfl, fun rest => ?_⟩
    rw [List.singleton_append, parts]
    · rintro a b c d more rfl
      exact absurd rfl noSlash
    · rintro mark more rfl
      exact absurd rfl noSlash
  | @short mark listed stands =>
    refine ⟨.char char, .inl rfl, fun rest => ?_⟩
    rw [List.cons_append, List.singleton_append, parts, stands]
    rintro a b c d more rfl
    exact absurd listed (by decide)
  | @unit a b c d hex stands => exact ⟨.unit char.toNat, .inr rfl, fun rest => stands ▸ rfl⟩

theorem joined_char {char : Char} {part : Part} (stands : part = .char char ∨ part = .unit char.toNat)
    (rest : List Part) : joined (part :: rest) = char :: joined rest := by
  -- A character's number is that of no surrogate, so it stands alone whatever comes after.
  rcases stands with rfl | rfl
  · rw [joined]
  · have valid : char.toNat < 0xD800 ∨ 0xDFFF < char.toNat ∧ char.toNat < 0x110000 := char.valid
    have high : isHighSurrogate char.toNat = false := by
      simp only [isHighSurrogate, Bool.and_eq_false_iff, decide_eq_false_iff_not]
      omega
    have low : isLowSurrogate char.toNat = false := by
      simp only [isLowSurrogate, Bool.and_eq_false_iff, decide_eq_false_iff_not]
      omega
    have alone : lone char.toNat = char := by
      rw [lone, high, low]
      exact Char.ofNat_toNat char
    cases rest with
    | nil => exact congrArg ([·]) alone
    | cons next others =>
      cases next with
      | char value => exact congrArg (· :: joined (.char value :: others)) alone
      | unit code =>
        rw [joined, high, alone]
        rfl

theorem decode_escapedText (text : String) : decode (escapedText text) = text.toList := by
  unfold decode escapedText
  induction text.toList with
  | nil => rfl
  | cons char others ih =>
    obtain ⟨part, stands, shown⟩ := parts_escaped (escape_escaped char)
    rw [List.flatMap_cons, shown, joined_char stands, ih]

theorem decodeText_escapedText (text : String) :
    decodeText (String.ofList (escapedText text)) = text := by
  rw [decodeText, String.toList_ofList, decode_escapedText, String.ofList_toList]

/-! Values. -/

def Closes (rest : List Char) : Prop :=
  ∀ c, rest.head? = some c → c = ',' ∨ c = '\x7d'

/-- The text is read as the value, whatever comes after it in an object. -/
def ReadsAs (room : Nat) (text : List Char) (json : Json) : Prop :=
  ∀ rest, Closes rest → value? room (text ++ rest) = some (json, rest)

theorem string_reads (room : Nat) (text : String) :
    ReadsAs room (quote text).toList (.string (String.ofList (escapedText text))) := by
  intro rest _
  have tail : (escapedText text ++ ['"']) ++ rest = escapedText text ++ '"' :: rest := by simp
  rw [quote_toList, List.cons_append, tail, value?]
  show Option.map _ (stringTail? _) = _
  rw [stringTail_escapedText]
  rfl

theorem word_reads (room : Nat) :
    ReadsAs room "null".toList .null ∧ ReadsAs room "true".toList (.bool true) ∧
      ReadsAs room "false".toList (.bool false) := by
  refine ⟨fun rest _ => ?_, fun rest _ => ?_, fun rest _ => ?_⟩
  all_goals
    rw [value?]
    rfl

/-! Numbers. -/

structure Digits (shown : List Char) : Prop where
  starts : shown ≠ []
  digits : ∀ c ∈ shown, isDigit c = true

structure Whole (shown : List Char) : Prop extends Digits shown where
  alone : shown.head? = some '0' → shown = ['0']

inductive Fraction : List Char → Prop
  | none : Fraction []
  | places {shown : List Char} (digits : Digits shown) : Fraction ('.' :: shown)

inductive Power : List Char → Prop
  | none : Power []
  | raised {sign : Char} {shown : List Char} (signed : sign = '+' ∨ sign = '-')
      (digits : Digits shown) : Power ('e' :: sign :: shown)

open Segment in
theorem digits_reads {shown rest : List Char} (digits : Digits shown) (stops : Bars isDigit rest) :
    digits? (shown ++ rest) = some (shown, rest) := by
  rw [digits?, takeWhile_span digits.digits stops, dropWhile_span digits.digits stops]
  cases shown with
  | nil => exact absurd rfl digits.starts
  | cons c others => rfl

open Segment in
theorem whole_reads {shown rest : List Char} (whole : Whole shown) (stops : Bars isDigit rest) :
    whole? (shown ++ rest) = some (shown, rest) := by
  obtain ⟨c, others, rfl⟩ := List.exists_cons_of_ne_nil whole.starts
  by_cases zero : c = '0'
  · subst zero
    have single := whole.alone rfl
    rw [single]
    rfl
  · rw [List.cons_append, whole?]
    · exact digits_reads whole.toDigits stops
    · intro more same
      cases same
      exact absurd rfl zero

open Segment in
theorem fraction_reads {shown rest : List Char} (fraction : Fraction shown)
    (stops : Bars isDigit rest) (noPoint : rest.head? ≠ some '.') :
    fraction? (shown ++ rest) = some (shown, rest) := by
  cases fraction with
  | none =>
    rw [List.nil_append, fraction?]
    rintro more rfl
    exact absurd rfl noPoint
  | places digits =>
    rw [List.cons_append, fraction?, digits_reads digits stops]
    rfl

theorem Closes.bars {rest : List Char} (closes : Closes rest) : Segment.Bars isDigit rest := by
  intro c first
  rcases closes c first with rfl | rfl <;> decide

theorem exponent_reads {shown rest : List Char} (power : Power shown) (closes : Closes rest) :
    exponent? (shown ++ rest) = some (shown, rest) := by
  cases power with
  | none =>
    cases rest with
    | nil => rfl
    | cons c others =>
      have other : ¬ (c = 'e' || c = 'E') = true := by
        rcases closes c rfl with rfl | rfl <;> decide
      exact if_neg other
  | raised signed digits =>
    have read := digits_reads digits closes.bars
    rcases signed with rfl | rfl
    · rw [List.cons_append, List.cons_append, exponent?, read]
      rfl
    · rw [List.cons_append, List.cons_append, exponent?, read]
      rfl

theorem power_starts {shown rest : List Char} (power : Power shown) (closes : Closes rest) :
    Segment.Bars isDigit (shown ++ rest) ∧ (shown ++ rest).head? ≠ some '.' := by
  cases power with
  | none =>
    refine ⟨closes.bars, fun point => ?_⟩
    rcases closes '.' point with wrong | wrong <;> exact absurd wrong (by decide)
  | raised signed digits => exact ⟨fun c first => by cases first; decide, by simp⟩

theorem fraction_starts {shown rest : List Char} (fraction : Fraction shown)
    (stops : Segment.Bars isDigit rest) : Segment.Bars isDigit (shown ++ rest) := by
  cases fraction with
  | none => exact stops
  | places digits => exact fun c first => by cases first; decide

structure Literal (sign whole fraction power : List Char) : Prop where
  signed : sign = [] ∨ sign = ['-']
  whole : Whole whole
  fraction : Fraction fraction
  power : Power power

theorem literal_line {sign whole fraction power : List Char}
    (literal : Literal sign whole fraction power) : '\n' ∉ sign ++ whole ++ fraction ++ power := by
  have digits {shown : List Char} (digits : Digits shown) : '\n' ∉ shown := fun member =>
    absurd (digits.digits '\n' member) (by decide)
  simp only [List.mem_append, not_or]
  refine ⟨⟨⟨?_, digits literal.whole.toDigits⟩, ?_⟩, ?_⟩
  · rcases literal.signed with rfl | rfl <;> decide
  · cases literal.fraction with
    | none => decide
    | places shown => simpa using digits shown
  · cases literal.power with
    | none => decide
    | raised signed shown =>
      rcases signed with rfl | rfl
      · simpa using digits shown
      · simpa using digits shown

theorem number_unsigned {sign whole fraction power rest : List Char}
    (literal : Literal sign whole fraction power) (closes : Closes rest) :
    (do
      let (whole, rest) ← whole? (whole ++ (fraction ++ (power ++ rest)))
      let (fraction, rest) ← fraction? rest
      let (exponent, rest) ← exponent? rest
      pure (number (String.ofList (sign ++ whole ++ fraction ++ exponent)), rest)) =
        some (number (String.ofList (sign ++ whole ++ fraction ++ power)), rest) := by
  obtain ⟨stops, noPoint⟩ := power_starts literal.power closes
  rw [whole_reads literal.whole (fraction_starts literal.fraction stops)]
  simp only [Option.bind_eq_bind, Option.bind_some, fraction_reads literal.fraction stops noPoint,
    exponent_reads literal.power closes]
  rfl

theorem number_reads {sign whole fraction power rest : List Char}
    (literal : Literal sign whole fraction power) (closes : Closes rest) :
    number? ((sign ++ whole ++ fraction ++ power) ++ rest) =
      some (number (String.ofList (sign ++ whole ++ fraction ++ power)), rest) := by
  have reads := number_unsigned literal closes
  have split : (sign ++ whole ++ fraction ++ power) ++ rest =
      sign ++ (whole ++ (fraction ++ (power ++ rest))) := by simp only [List.append_assoc]
  rw [split]
  rcases literal.signed with rfl | rfl
  · obtain ⟨c, others, same⟩ := List.exists_cons_of_ne_nil literal.whole.starts
    have digit : isDigit c = true := literal.whole.digits c (by simp [same])
    rw [List.nil_append]
    unfold number?
    split
    next apart =>
    split at apart
    · next minus =>
      rw [same] at minus
      cases minus
      exact absurd digit (by decide)
    · cases apart
      exact reads
  · exact reads

theorem literal_reads (room : Nat) {sign whole fraction power : List Char}
    (literal : Literal sign whole fraction power) :
    ReadsAs room (sign ++ whole ++ fraction ++ power)
      (.number (String.ofList (sign ++ whole ++ fraction ++ power))) := by
  intro rest closes
  have reads := number_reads literal closes
  obtain ⟨c, others, same⟩ := List.exists_cons_of_ne_nil literal.whole.starts
  have digit : isDigit c = true := literal.whole.digits c (by simp [same])
  obtain ⟨first, more, starts, leads⟩ : ∃ first more,
      (sign ++ whole ++ fraction ++ power) ++ rest = first :: more ∧
        (first = '-' ∨ isDigit first = true) := by
    rcases literal.signed with rfl | rfl
    · exact ⟨c, others ++ fraction ++ power ++ rest, by simp [same], .inr digit⟩
    · exact ⟨'-', whole ++ fraction ++ power ++ rest, by simp, .inl rfl⟩
  rw [starts] at reads ⊢
  have other {d : Char} (no : d ≠ '-' ∧ isDigit d = false) : first ≠ d := by
    rintro rfl
    rcases leads with minus | figure
    · exact no.1 minus
    · rw [figure] at no
      cases no.2
  have visible : isBlank first = false := by
    simp [isBlank, other (d := ' ') (by decide), other (d := '\t') (by decide),
      other (d := '\n') (by decide), other (d := '\r') (by decide)]
  have kept : skipBlanks (first :: more) = first :: more := by
    rw [skipBlanks, List.dropWhile_cons_of_neg (by simp [visible])]
  rw [value?, kept]
  split
  case h_7 => exact reads
  all_goals
    next same =>
    cases same
    exact absurd rfl (other (by decide))

/-! Objects. -/

structure Member where
  key : String
  text : List Char
  json : Json

namespace Member

/-- The key has nothing to escape, and the value is read back and written on one line. -/
structure Reads (room : Nat) (member : Member) : Prop where
  plain : ∀ rest, stringTail? (member.key.toList ++ '"' :: rest) = some (member.key.toList, rest)
  value : ReadsAs room member.text member.json
  oneLine : '\n' ∉ member.key.toList ++ member.text

def shown (member : Member) : List Char :=
  '"' :: (member.key.toList ++ '"' :: ':' :: member.text)

def read (member : Member) : String × Json := (member.key, member.json)

end Member

def membersText : List Member → List Char
  | [] => []
  | [member] => member.shown
  | member :: others => member.shown ++ ',' :: membersText others

theorem member_reads {room : Nat} {member : Member} (reads : member.Reads room) {rest : List Char}
    (closes : Closes rest) :
    member? (value? room) (member.shown ++ rest) = some (member.read, rest) := by
  have shape : member.shown ++ rest =
      '"' :: (member.key.toList ++ '"' :: (':' :: (member.text ++ rest))) := by
    simp [Member.shown]
  rw [shape]
  show (stringTail? _).bind _ = _
  rw [reads.plain]
  show (value? room (member.text ++ rest)).bind _ = _
  rw [reads.value rest closes]
  show some ((String.ofList member.key.toList, member.json), rest) = _
  rw [String.ofList_toList]
  rfl

theorem items_read {room : Nat} {members : List Member} (some : members ≠ [])
    (reads : ∀ member ∈ members, member.Reads room) (rest : List Char) :
    items? '\x7d' (member? (value? room)) (membersText members ++ '\x7d' :: rest) =
      Option.some (members.map Member.read, rest) := by
  induction members with
  | nil => exact absurd rfl some
  | cons member others ih =>
    have first := reads member List.mem_cons_self
    cases others with
    | nil =>
      have closes : Closes ('\x7d' :: rest) := fun c head => .inr (Option.some.inj head).symm
      rw [membersText, items?, member_reads first closes]
      rfl
    | cons next more =>
      have further := ih (List.cons_ne_nil next more) fun other inside =>
        reads other (List.mem_cons_of_mem member inside)
      have shape : membersText (member :: next :: more) ++ '\x7d' :: rest =
          member.shown ++ ',' :: (membersText (next :: more) ++ '\x7d' :: rest) := by
        simp [membersText]
      rw [shape]
      generalize membersText (next :: more) ++ '\x7d' :: rest = later at further
      have closes : Closes (',' :: later) := fun c head => .inl (Option.some.inj head).symm
      have shorter : later.length < (member.shown ++ ',' :: later).length := by
        rw [List.length_append, List.length_cons]
        omega
      rw [items?, member_reads first closes]
      show (if ',' = '\x7d' then _ else if ',' = ',' ∧ _ then _ else _) = _
      rw [if_neg (by decide), if_pos ⟨rfl, shorter⟩, further]
      rfl

theorem object_reads {room : Nat} {members : List Member} (some : members ≠ [])
    (reads : ∀ member ∈ members, member.Reads room) :
    ReadsAs (room + 1) ('\x7b' :: (membersText members ++ ['\x7d']))
      (.object (members.map Member.read)) := by
  intro rest _
  have items := items_read some reads rest
  obtain ⟨member, others, rfl⟩ := List.exists_cons_of_ne_nil some
  obtain ⟨tail, starts⟩ : ∃ tail, membersText (member :: others) ++ '\x7d' :: rest = '"' :: tail := by
    cases others <;> exact ⟨_, rfl⟩
  have shape : ('\x7b' :: (membersText (member :: others) ++ ['\x7d'])) ++ rest =
      '\x7b' :: (membersText (member :: others) ++ '\x7d' :: rest) := by simp
  rw [shape, value?]
  show (enclosed? '\x7d' _ _).map _ = _
  rw [starts] at items ⊢
  show (items? '\x7d' _ ('"' :: tail)).map _ = _
  rw [items]
  rfl

theorem object_line {room : Nat} {members : List Member}
    (reads : ∀ member ∈ members, member.Reads room) : '\n' ∉ membersText members := by
  have shown {member : Member} (reads : member.Reads room) : '\n' ∉ member.shown := by
    have line := reads.oneLine
    simp only [List.mem_append, not_or] at line
    simp [Member.shown, line]
  induction members with
  | nil => exact List.not_mem_nil
  | cons member others ih =>
    have first := shown (reads member List.mem_cons_self)
    have further := ih fun other inside => reads other (List.mem_cons_of_mem member inside)
    cases others with
    | nil => exact first
    | cons next more => simp [membersText, first, further]

theorem read_of_reads {text : List Char} {json : Json} (reads : ReadsAs maxNesting text json) :
    read? (String.ofList text) = some json := by
  have whole := reads [] fun c head => nomatch head
  rw [List.append_nil] at whole
  rw [read?, String.toList_ofList, whole]
  rfl

end Scriptlet.Json
