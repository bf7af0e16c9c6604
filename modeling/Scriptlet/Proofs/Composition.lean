import Scriptlet.Proofs.Scanning

/-! Texts put together of lexemes and blanks. Each piece is scanned as if it stood alone, as long as the
next one starts with a separator or the piece is one that nothing extends. -/
namespace Scriptlet

namespace Segment

def separators : List Char := [' ', '\n', ';', ')', '\x7d']

def Parted (rest : List Char) : Prop :=
  ∀ c, rest.head? = some c → c ∈ separators

theorem parted_nil : Parted [] := fun _ head => nomatch head

theorem parted_cons {c : Char} (separates : c ∈ separators) (rest : List Char) : Parted (c :: rest) := by
  rintro d head
  cases head
  exact separates

theorem parted_append {text rest : List Char} (parted : Parted text) (further : Parted rest) :
    Parted (text ++ rest) := by
  cases text with
  | nil => exact further
  | cons c text => exact parted_cons (parted c rfl) _

theorem bars_parted {kept : Char → Bool} {rest : List Char}
    (none : separators.any kept = false) (parted : Parted rest) : Bars kept rest :=
  fun c head => Bool.eq_false_iff.mpr (List.any_eq_false.mp none c (parted c head))

def extendsSome (c : Char) : Bool :=
  continuesWord c || c == '=' || c == '*' || c == '.'

theorem detached_of_bars (kind : TokenKind) {rest : List Char} (bars : Bars extendsSome rest) :
    Detached kind rest := by
  have narrow {kept : Char → Bool} (some : ∀ c, kept c = true → extendsSome c = true) : Bars kept rest := by
    intro c head
    refine Bool.eq_false_iff.mpr fun keeps => ?_
    exact absurd (some c keeps) (by simp [bars c head])
  have word : Bars continuesWord rest := narrow fun c continues => by simp [extendsSome, continues]
  have digit : Bars isDigit rest := narrow fun c digit => by simp [extendsSome, continuesWord, digit]
  have equals : Bars (· == '=') rest := narrow fun c same => by simp_all [extendsSome]
  -- Kind by kind: what would extend a lexeme of the kind is barred.
  unfold Detached
  split
  · exact equals
  · exact equals
  · exact equals
  · exact equals
  · exact narrow fun c same => by simp_all [extendsSome]
  · refine ⟨digit, ?_⟩
    rintro d after rfl
    exact absurd (bars '.' rfl) (by simp [extendsSome])
  · exact digit
  · exact fun _ => word

theorem detached_parted (kind : TokenKind) {rest : List Char} (parted : Parted rest) :
    Detached kind rest :=
  detached_of_bars kind (bars_parted (by decide +kernel) parted)

def blanks : List Char := [' ', '\t', '\r', '\n']

theorem detached_blank (kind : TokenKind) {c : Char} (isBlank : c ∈ blanks) (rest : List Char) :
    Detached kind (c :: rest) := by
  apply detached_of_bars
  rintro d head
  cases head
  exact Bool.eq_false_iff.mpr
    (List.any_eq_false.mp (by decide +kernel : blanks.any extendsSome = false) c isBlank)

theorem segments_longest {source text after : List Char} {kind : TokenKind}
    (longest : Longest source kind text after) : segments source = token kind text :: segments after := by
  obtain ⟨c, rest, starts⟩ := lexeme_cons longest.lexeme
  have split : source = c :: (rest ++ after) := by rw [longest.split, starts, List.cons_append]
  subst split
  rw [segments, first_of_longest longest]

/-- `Spells text parts`: before a separator, the text is scanned as the segments, and none is faulty. -/
structure Spells (text : List Char) (parts : List Segment) : Prop where
  scanned : ∀ rest, Parted rest → segments (text ++ rest) = parts ++ segments rest
  clean : ∀ cause stretch, fault cause stretch ∉ parts

namespace Spells

theorem nil : Spells [] [] :=
  ⟨fun _ _ => rfl, fun _ _ member => nomatch member⟩

theorem lexeme {kind : TokenKind} {text more : List Char} {parts : List Segment}
    (lexeme : Lexeme kind text) (detached : ∀ rest, Parted rest → Detached kind (more ++ rest))
    (further : Spells more parts) : Spells (text ++ more) (token kind text :: parts) := by
  constructor
  · intro rest parted
    rw [List.append_assoc, segments_longest ⟨lexeme, rfl, detached rest parted⟩,
      further.scanned rest parted]
    rfl
  · intro cause stretch member
    rcases List.mem_cons.mp member with same | inside
    · cases same
    · exact further.clean cause stretch inside

theorem blank {c : Char} {more : List Char} {parts : List Segment} (isBlank : c ∈ blanks)
    (further : Spells more parts) : Spells (c :: more) (.blank c :: parts) := by
  have first (rest : List Char) : first c rest = (.blank c, rest) := by
    simp only [blanks, List.mem_cons, List.not_mem_nil, or_false] at isBlank
    rcases isBlank with rfl | rfl | rfl | rfl <;> rfl
  constructor
  · intro rest parted
    rw [List.cons_append, segments, first, further.scanned rest parted]
    rfl
  · intro cause stretch member
    rcases List.mem_cons.mp member with same | inside
    · cases same
    · exact further.clean cause stretch inside

theorem append {text more : List Char} {parts others : List Segment} (spells : Spells text parts)
    (parted : Parted more) (further : Spells more others) : Spells (text ++ more) (parts ++ others) := by
  constructor
  · intro rest separated
    rw [List.append_assoc, spells.scanned _ (parted_append parted separated),
      further.scanned rest separated, List.append_assoc]
  · intro cause stretch member
    rcases List.mem_append.mp member with front | back
    · exact spells.clean cause stretch front
    · exact further.clean cause stretch back

theorem alone {text : List Char} {parts : List Segment} (spells : Spells text parts) :
    segments text = parts := by
  have scanned := spells.scanned [] parted_nil
  have nothing : segments [] = [] := by rw [segments]
  rwa [List.append_nil, nothing, List.append_nil] at scanned

end Spells

end Segment

open Segment

/-- `Yields text shape`: before a separator, the text is scanned without a fault, and its tokens have
the shape whatever line it starts on. -/
def Yields (text : List Char) (shape : List Token → Prop) : Prop :=
  ∃ parts, Spells text parts ∧ ∀ line, shape (Scan.placed line parts)

def Joined (first second : List Token → Prop) (tokens : List Token) : Prop :=
  ∃ front back, tokens = front ++ back ∧ first front ∧ second back

def Single (kind : TokenKind) (text : List Char) (tokens : List Token) : Prop :=
  ∃ line, tokens = [Scan.token line kind text]

namespace Yields

variable {text more : List Char} {shape further : List Token → Prop}

theorem weaken {wider : List Token → Prop} (yields : Yields text shape)
    (wide : ∀ tokens, shape tokens → wider tokens) : Yields text wider := by
  obtain ⟨parts, spells, holds⟩ := yields
  exact ⟨parts, spells, fun line => wide _ (holds line)⟩

theorem nil : Yields [] (· = []) :=
  ⟨[], .nil, fun _ => rfl⟩

theorem before {kind : TokenKind} (lexeme : Lexeme kind text)
    (detached : ∀ rest, Parted rest → Detached kind (more ++ rest)) (yields : Yields more shape) :
    Yields (text ++ more) (Joined (Single kind text) shape) := by
  obtain ⟨parts, spells, holds⟩ := yields
  refine ⟨_, .lexeme lexeme detached spells, fun line => ?_⟩
  exact ⟨[Scan.token line kind text], _, rfl, ⟨line, rfl⟩, holds _⟩

theorem lexeme {kind : TokenKind} (lexeme : Lexeme kind text) : Yields text (Single kind text) := by
  have alone : Yields (text ++ []) (Joined (Single kind text) (· = [])) :=
    before lexeme (fun _ parted => detached_parted kind parted) nil
  rw [List.append_nil] at alone
  refine alone.weaken ?_
  rintro _ ⟨_, _, rfl, single, rfl⟩
  simpa using single

theorem closed {kind : TokenKind} (lexeme : Lexeme kind text) (closed : kind ∈ closedKinds)
    (yields : Yields more shape) : Yields (text ++ more) (Joined (Single kind text) shape) :=
  before lexeme (fun _ _ => detached_closed closed _) yields

theorem blank {c : Char} (isBlank : c ∈ blanks) (yields : Yields more shape) :
    Yields (c :: more) shape := by
  obtain ⟨parts, spells, holds⟩ := yields
  exact ⟨_, .blank isBlank spells, fun line => holds _⟩

theorem append (yields : Yields text shape) (parted : Parted more) (also : Yields more further) :
    Yields (text ++ more) (Joined shape further) := by
  obtain ⟨parts, spells, holds⟩ := yields
  obtain ⟨others, spellsToo, holdsToo⟩ := also
  refine ⟨_, spells.append parted spellsToo, fun line => ?_⟩
  rw [Scan.placed_append]
  exact ⟨_, _, rfl, holds line, holdsToo _⟩

theorem scanned {source : String} (yields : Yields source.toList shape) :
    (∀ cause stretch, Segment.fault cause stretch ∉ segments source.toList) ∧ shape (Scan.words source) := by
  obtain ⟨parts, spells, holds⟩ := yields
  rw [Scan.words, spells.alone]
  exact ⟨spells.clean, holds 1⟩

end Yields

end Scriptlet
