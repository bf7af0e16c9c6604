import Scriptlet.Proofs.Composition
import Scriptlet.Proofs.Programs
import Scriptlet.Proofs.Utf8
import Scriptlet.Proofs.Viability

/-! Texts that are the start of a program. Every text that more lines could make a program of is one
already or is known to stop partway. Not every text that is known so can be continued: whether one can is
decided by closing what it leaves open and reading that. -/
namespace Scriptlet

namespace Segment

def kinds : Segment → List TokenKind
  | token kind _ => [kind]
  | _ => []

def closer : LexicalFault → String
  | .unterminatedRawString => "\x60"
  | .unterminatedComment => "*/"
  | _ => ""

def kindsClosed : LexicalFault → List TokenKind
  | .unterminatedRawString => [.string]
  | _ => []

theorem cutAtCommentEnd_close {inside : List Char} (uncut : cutAtCommentEnd inside = none) :
    cutAtCommentEnd (inside ++ ['\n', '*', '/']) = some (inside ++ ['\n', '*', '/'], []) := by
  fun_induction cutAtCommentEnd inside with
  | case1 => rfl
  | case2 rest => cases uncut
  | case3 c rest noEnd ih =>
    have further := ih (Option.map_eq_none_iff.mp uncut)
    rw [List.cons_append, cutAtCommentEnd]
    · rw [further]
      rfl
    · -- The comment does not end at this character: not within the text, nor at the break after it.
      rintro _ rfl same
      cases rest with
      | nil => cases same
      | cons d others =>
        cases same
        exact noEnd _ rfl rfl

theorem uncut_of_within {inside : List Char} (within : ¬ commentEnd <:+: inside) :
    cutAtCommentEnd inside = none := by
  by_contra cut
  obtain ⟨⟨body, after⟩, found⟩ := Option.ne_none_iff_exists'.mp cut
  obtain ⟨front, rfl, split, -⟩ := cutAtCommentEnd_first found
  exact within ⟨front, after, split.symm⟩

/-- An open stretch with more text below it: it is closed there, or still faulty. -/
theorem reopened {cause : LexicalFault} {text : List Char} (stands : Stands (.fault cause text) [])
    (isOpen : cause.isOpen = true) (rest : List Char) :
    ∃ segment others, segments (text ++ '\n' :: rest) = segment :: others ∧
      ((∃ reason stretch, segment = .fault reason stretch) ∨ segment.kinds = kindsClosed cause) := by
  cases stands with
  | @openRawString inside within =>
    have found : segments (rawQuote :: inside ++ '\n' :: rest) =
        (rawQuoted (inside ++ '\n' :: rest)).1 :: segments (rawQuoted (inside ++ '\n' :: rest)).2 := by
      rw [List.cons_append, segments]
      rfl
    refine ⟨_, _, found, ?_⟩
    unfold rawQuoted
    dsimp only
    split
    · exact .inr rfl
    · exact .inl ⟨_, _, rfl⟩
  | @openComment inside within =>
    have found : segments ('/' :: '*' :: inside ++ '\n' :: rest) =
        (blockComment (inside ++ '\n' :: rest)).1 ::
          segments (blockComment (inside ++ '\n' :: rest)).2 := by
      rw [List.cons_append, segments]
      rfl
    refine ⟨_, _, found, ?_⟩
    unfold blockComment
    split
    · exact .inr rfl
    · exact .inl ⟨_, _, rfl⟩
  | openString | unexpected => cases isOpen

theorem closed_below {cause : LexicalFault} {text : List Char} (stands : Stands (.fault cause text) [])
    (isOpen : cause.isOpen = true) :
    ∃ segment, segments (text ++ '\n' :: (closer cause).toList) = [segment] ∧
      segment.kinds = kindsClosed cause ∧ ∀ reason stretch, segment ≠ .fault reason stretch := by
  cases stands with
  | @openRawString inside within =>
    have plain : ∀ c ∈ inside ++ ['\n'], (c != rawQuote) = true := by
      refine List.forall_mem_append.mpr ⟨fun c member => ?_, by simp [rawQuote]⟩
      exact bne_iff_ne.mpr fun same => within (same ▸ member)
    have found : segments (rawQuote :: inside ++ '\n' :: [rawQuote]) =
        [.token .string (rawQuote :: (inside ++ ['\n', rawQuote]))] := by
      have closes : rawQuoted (inside ++ ['\n', rawQuote]) =
          (token .string (rawQuote :: (inside ++ ['\n', rawQuote])), []) := by
        simpa using rawQuoted_eq [] plain
      rw [List.cons_append, segments]
      show (rawQuoted (inside ++ ['\n', rawQuote])).1 ::
        segments (rawQuoted (inside ++ ['\n', rawQuote])).2 = _
      rw [closes, segments]
    exact ⟨_, found, rfl, by simp⟩
  | @openComment inside within =>
    have found : segments ('/' :: '*' :: inside ++ '\n' :: ['*', '/']) =
        [.comment ('/' :: '*' :: (inside ++ ['\n', '*', '/']))] := by
      rw [List.cons_append, segments]
      show (blockComment (inside ++ ['\n', '*', '/'])).1 ::
        segments (blockComment (inside ++ ['\n', '*', '/'])).2 = _
      rw [blockComment, cutAtCommentEnd_close (uncut_of_within within)]
      dsimp only
      rw [segments]
    exact ⟨_, found, rfl, by simp⟩
  | openString | unexpected => cases isOpen

end Segment

open Segment

/-- A text of some lines, with more below. What the lines leave open is last in them, and is read again
from where it starts. -/
theorem segments_below (part : List Char) :
    (∀ rest, segments (part ++ '\n' :: rest) = segments part ++ .blank '\n' :: segments rest) ∨
    ∃ front cause text, segments part = front ++ [.fault cause text] ∧ cause.isOpen = true ∧
      Stands (.fault cause text) [] ∧
      ∀ rest, segments (part ++ '\n' :: rest) = front ++ segments (text ++ '\n' :: rest) := by
  fun_induction segments part with
  | case1 =>
    left
    intro rest
    rw [List.nil_append, segments]
    rfl
  | case2 c part ih =>
    have opens := first_opens c part
    -- Only a stretch that is left open, and so is the last, is cut otherwise with more text below.
    by_cases isOpen : ∃ cause text, first c part = (fault cause text, []) ∧ cause.isOpen = true
    · right
      obtain ⟨cause, text, found, isOpen⟩ := isOpen
      rw [found] at opens
      have nothing : segments [] = [] := by rw [segments]
      have whole : c :: part = text := by simpa [Segment.text] using opens.split
      rw [found, nothing]
      exact ⟨[], cause, text, rfl, isOpen, opens.stands, fun rest => by rw [whole]; rfl⟩
    · have cut (rest : List Char) : first c (part ++ '\n' :: rest) =
          ((first c part).1, (first c part).2 ++ '\n' :: rest) := by
        rcases first_cuts c part rest with same | left
        · exact same
        · exact absurd left isOpen
      rcases ih with follows | ⟨front, cause, text, last, isOpen, stands, follows⟩
      · left
        intro rest
        rw [List.cons_append, segments, cut, follows, List.cons_append]
      · right
        refine ⟨_ :: front, cause, text, by rw [last]; rfl, isOpen, stands, fun rest => ?_⟩
        rw [List.cons_append, segments, cut, follows]
        rfl

theorem kinds_placed (line : Int) (parts : List Segment) :
    (Scan.placed line parts).map (·.kind) = parts.flatMap Segment.kinds := by
  induction parts generalizing line with
  | nil => rfl
  | cons segment rest ih =>
    rw [Scan.placed.eq_def]
    cases segment <;> simp [Segment.kinds, ih, Scan.token]

def closing (source : String) : String :=
  match (segments source.toList).getLast? with
  | some (.fault cause _) => closer cause
  | _ => ""

def closed (source : String) : String := source ++ "\n" ++ closing source

/-- More text can make a program of this one: closed, it has nothing faulty in it, nothing is assigned to
but names, and the first syntax error, if there is one, asks for more. -/
def Mendable (source : String) : Prop :=
  (scan (closed source)).errors = [] ∧ aimed (Scan.words (closed source)) = true ∧
    ∀ error, readStrict (scan (closed source)).tokens = .error error → error.asks = true

/-- The tokens of a text that is continued without a fault start with those of the text closed, kind for
kind. -/
theorem kinds_continued {source more : String}
    (clean : ∀ cause text, Segment.fault cause text ∉ segments (source ++ "\n" ++ more).toList) :
    (scan (closed source)).errors = [] ∧ ∃ others : List Segment,
      (Scan.words (source ++ "\n" ++ more)).map (·.kind) =
        (Scan.words (closed source)).map (·.kind) ++ others.flatMap Segment.kinds := by
  have text (rest : String) : (source ++ "\n" ++ rest).toList = source.toList ++ '\n' :: rest.toList := by
    simp
  rw [Scan.scan_clean]
  simp only [Scan.words, kinds_placed]
  rw [closed, text, text]
  rw [text] at clean
  rcases segments_below source.toList with cut | ⟨front, cause, stretch, last, isOpen, stands, cut⟩
  · rw [cut] at clean
    obtain ⟨cleanPart, -⟩ := clean_lineCut.mp clean
    have nothing : closing source = "" := by
      unfold closing
      split
      · next cause stretch last =>
        exact absurd (List.mem_of_getLast? last) (cleanPart cause stretch)
      · rfl
    have empty : segments [] = [] := by rw [segments]
    rw [nothing, cut, cut]
    refine ⟨?_, .blank '\n' :: segments more.toList, by simp [empty, Segment.kinds]⟩
    intro cause stretch member
    simp [empty] at member
    exact cleanPart cause stretch member
  · have closes : closing source = closer cause := by simp [closing, last]
    obtain ⟨segment, single, kinds, sound⟩ := closed_below stands isOpen
    obtain ⟨other, others, found, outcome⟩ := reopened stands isOpen more.toList
    rw [cut, found] at clean
    rw [closes, cut, cut, single, found]
    have same : other.kinds = kindsClosed cause := by
      rcases outcome with ⟨reason, text, rfl⟩ | same
      · exact absurd (by simp) (clean reason text)
      · exact same
    refine ⟨?_, others, by simp [kinds, same]⟩
    intro reason text member
    rcases List.mem_append.mp member with before | within
    · exact clean reason text (List.mem_append_left _ before)
    · exact sound reason text (List.mem_singleton.mp within).symm

theorem inner_kindred {tokens others : List Token} (inner : ∀ token ∈ tokens, token.isEnd = false)
    (same : others.map (·.kind) = tokens.map (·.kind)) : ∀ token ∈ others, token.isEnd = false := by
  intro token member
  have listed : token.kind ∈ tokens.map (·.kind) := same ▸ List.mem_map_of_mem member
  obtain ⟨other, found, kind⟩ := List.mem_map.mp listed
  have plain := inner other found
  rwa [Token.isEnd, kind] at plain

theorem mendable_of_continued {source more : String} {statements : List Stmt}
    (accepted : Program.ofSource (source ++ "\n" ++ more) = .ok statements) : Mendable source := by
  obtain ⟨clean, reads⟩ := Program.ofSource_eq_ok.mp accepted
  obtain ⟨sound, others, kinds⟩ := kinds_continued clean
  let rest := Scan.placed 1 others
  rw [← kinds_placed 1, ← List.map_append] at kinds
  -- The tokens of the text closed, with those of the rest, are of the same kinds as a program's.
  rw [Scan.scan_tokens] at reads
  have inner := Scan.words_inner (source ++ "\n" ++ more)
  have sentence := readStrict_sentence inner rfl reads
  obtain ⟨found, another, levels⟩ := sentence_kindred sentence kinds.symm
  have innerToo : ∀ token ∈ Scan.words (closed source) ++ rest, token.isEnd = false :=
    inner_kindred inner kinds.symm
  have fits : Stmt.allLevels found ≤ maxNesting := levels ▸ readStrict_levels inner rfl reads
  have readsToo := (readStrict_complete innerToo (rfl : (Token.endOfInput 1).isEnd = true) another).1 fits
  refine ⟨sound, ?_, ?_⟩
  · have passes := sentence_aim another
    rw [Aim.run_append] at passes
    obtain ⟨aim, through, -⟩ := Option.bind_eq_some_iff.mp passes
    simp [aimed, through]
  · intro error fails
    rw [Scan.scan_tokens] at fails
    exact asks_of_whole innerToo rfl rfl readsToo fails

theorem fillers_spelled {kinds : List TokenKind} (filling : ∀ kind ∈ kinds, kind ∈ Reader.fillers) :
    ∃ text, Yields text fun tokens => tokens.map (·.kind) = kinds := by
  induction kinds with
  | nil => exact ⟨[], Yields.nil.weaken fun tokens none => by simp [none]⟩
  | cons kind rest ih =>
    obtain ⟨filler, further⟩ := List.forall_mem_cons.mp filling
    obtain ⟨text, yields⟩ := ih further
    have spelled : ∃ text, Lexeme kind text := by
      simp only [Reader.fillers, Reader.closers, List.mem_cons, List.not_mem_nil, or_false] at filler
      rcases filler with rfl | rfl | rfl | rfl
      · exact ⟨['x'], @Lexeme.word 'x' [] (by decide) (by simp)⟩
      · exact ⟨[')'], .sign (by decide)⟩
      · exact ⟨[';'], .sign (by decide)⟩
      · exact ⟨['\x7d'], .sign (by decide)⟩
    obtain ⟨lexeme, isLexeme⟩ := spelled
    have blank : ' ' ∈ separators := by simp [separators]
    refine ⟨lexeme ++ ' ' :: text, (Yields.before isLexeme (fun tail _ => ?_)
      (yields.blank (by decide))).weaken ?_⟩
    · exact detached_parted kind (parted_cons blank _)
    · rintro _ ⟨_, back, rfl, ⟨line, rfl⟩, same⟩
      simp [same, Scan.token]

theorem continued_of_mendable {source : String} (mendable : Mendable source) :
    ∃ more statements, Program.ofSource (source ++ "\n" ++ more) = .ok statements := by
  obtain ⟨sound, passes, asks⟩ := mendable
  rw [Scan.scan_tokens] at asks
  obtain ⟨kinds, filling, fills⟩ := fills_of_asks (Scan.words_inner _) rfl passes asks
  obtain ⟨text, parts, spells, shape⟩ := fillers_spelled filling
  let more := String.ofList text
  have scanned : segments more.toList = parts := by simpa [more] using spells.alone
  have clean := Scan.scan_clean.mp sound
  have whole : (closed source ++ "\n" ++ more).toList =
      (closed source).toList ++ '\n' :: more.toList := by simp
  -- Nothing is left open in the text closed, so what is filled in stands on lines of its own.
  have split := segments_lineCut (closed source).toList more.toList
  rw [← whole] at split
  replace split := split.resolve_right (by
    rintro ⟨cause, stretch, member, -⟩
    exact clean cause stretch member)
  let shift := Scan.breaks (segments (closed source).toList) + 1
  have same : ((Scan.words more).map (Token.moved shift)).map (·.kind) = kinds := by
    have kindsOf : (Scan.words more).map (·.kind) = kinds := by
      rw [Scan.words, scanned]
      exact shape 1
    rw [List.map_map]
    exact kindsOf
  obtain ⟨statements, reads⟩ :=
    fills _ (.endOfInput (1 + Scan.breaks (segments (closed source ++ "\n" ++ more).toList))) same rfl
  refine ⟨closing source ++ "\n" ++ more, statements, ?_⟩
  have joined : source ++ "\n" ++ (closing source ++ "\n" ++ more) = closed source ++ "\n" ++ more := by
    simp [closed, String.append_assoc]
  rw [joined]
  refine Program.ofSource_eq_ok.mpr ⟨?_, ?_⟩
  · rw [split, clean_lineCut, scanned]
    exact ⟨clean, spells.clean⟩
  · rw [Scan.scan_tokens, words_lineCut split]
    exact reads

/-- Text that more lines make a program of is a program already, or is known to be incomplete. -/
theorem continuable_is_incomplete (source more : ByteString) {statements : List Stmt}
    (accepted : Program.ofSource (source ++ ("\n" : ByteString) ++ more).shown = .ok statements) :
    (∃ found, Program.ofSource source.shown = .ok found) ∨ isIncomplete source.shown = true := by
  rw [ByteString.shown_lines] at accepted
  rcases ofSource_lines accepted with incomplete | ⟨found, -, -, program, -⟩
  · exact .inr incomplete
  · exact .inl ⟨found, program⟩

theorem continuable_is_incomplete_comment :
    let source : ByteString := "\x7bprint (a /* two"
    let more : ByteString := "lines */ + b);\x7d"
    (∃ statements, Program.ofSource (source ++ ("\n" : ByteString) ++ more).shown = .ok statements) ∧
      isIncomplete source.shown = true := by
  intro source more
  let brace : Token := ⟨.leftBrace, "\x7b", "\x7b", 1⟩
  let print : Token := ⟨.printWord, "print", "", 1⟩
  let paren : Token := ⟨.leftParen, "(", "(", 1⟩
  let plus : Token := ⟨.plus, "+", "+", 2⟩
  let a : Expr := .reference ⟨.identifier, "a", "", 1⟩
  let b : Expr := .reference ⟨.identifier, "b", "", 2⟩
  have accepted : Program.ofSource (source ++ ("\n" : ByteString) ++ more).shown =
      .ok [.block brace [.print print (.grouping paren (.binary a plus b))]] := by cbv
  refine ⟨⟨_, accepted⟩, ?_⟩
  rcases continuable_is_incomplete source more accepted with ⟨found, program⟩ | incomplete
  · have faulty : (scan source.shown).errors = [⟨1, .unterminatedComment⟩] := by cbv
    have sound := Scan.scan_clean.mpr (Program.ofSource_eq_ok.mp program).1
    exact absurd (faulty.symm.trans sound) (by simp)
  · exact incomplete

/-- Text can be continued to a program exactly if it can be mended; and then it is a program already, or
is known to be incomplete. -/
theorem continuable_iff_mendable (source : ByteString) :
    ((∃ (more : ByteString) (statements : List Stmt),
        Program.ofSource (source ++ ("\n" : ByteString) ++ more).shown = .ok statements) ↔
      Mendable source.shown) ∧
    (Mendable source.shown →
      isIncomplete source.shown = true ∨ ∃ found, Program.ofSource source.shown = .ok found) := by
  constructor
  · constructor
    · rintro ⟨more, statements, accepted⟩
      rw [ByteString.shown_lines] at accepted
      exact mendable_of_continued accepted
    · intro mendable
      obtain ⟨more, statements, accepted⟩ := continued_of_mendable mendable
      refine ⟨.text more, statements, ?_⟩
      rw [ByteString.shown_lines]
      exact accepted
  · intro mendable
    obtain ⟨more, statements, accepted⟩ := continued_of_mendable mendable
    rcases ofSource_lines accepted with incomplete | ⟨found, -, -, program, -⟩
    · exact .inl incomplete
    · exact .inr ⟨found, program⟩

def Futile (source : String) : Prop :=
  isIncomplete source = true ∧
    ∀ more statements, Program.ofSource (source ++ "\n" ++ more) ≠ .ok statements

theorem futile_of_unmendable {source : String} (incomplete : isIncomplete source = true)
    (unmendable : ¬ Mendable source) : Futile source :=
  ⟨incomplete, fun _ _ accepted => unmendable (mendable_of_continued accepted)⟩

/-- A fault before what is left open, a syntax error before it, and an assignment to what is no name,
whole or cut short: more lines are asked for, and none help. -/
theorem incomplete_for_good :
    Futile "@ /*" ∧ Futile "a a /*" ∧ Futile "nil = a" ∧ Futile "nil =" := by
  refine ⟨?fault, ?error, ?whole, ?cut⟩
  case fault =>
    refine futile_of_unmendable (by cbv) fun mendable => ?_
    have faulty : (scan (closed "@ /*")).errors = [⟨1, .unexpectedCharacter⟩] := by cbv
    exact absurd (faulty.symm.trans mendable.1) (by simp)
  case error =>
    refine futile_of_unmendable (by cbv) fun mendable => ?_
    let second : Token := ⟨.identifier, "a", "", 1⟩
    have tokens : (scan (closed "a a /*")).tokens = [second, second, .endOfInput 2] := by cbv
    have fails : readStrict (scan (closed "a a /*")).tokens =
        .error ⟨second, .semicolonAfterExpression, false⟩ := by
      rw [tokens]
      cbv
    exact absurd (mendable.2.2 _ fails) (by decide)
  case whole =>
    refine futile_of_unmendable (by cbv) fun mendable => ?_
    have astray : aimed (Scan.words (closed "nil = a")) = false := by cbv
    exact absurd mendable.2.1 (by simp [astray])
  case cut =>
    refine futile_of_unmendable (by cbv) fun mendable => ?_
    have astray : aimed (Scan.words (closed "nil =")) = false := by cbv
    exact absurd mendable.2.1 (by simp [astray])

end Scriptlet
