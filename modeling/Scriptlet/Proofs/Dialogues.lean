import Scriptlet.Dialogue
import Scriptlet.Proofs.Sessions

/-! Dialogues fed a program line by line. The lines are cut into entries where they can be, each entry
runs where the one before left off, and in the end all is as if the program had been run at once. -/
namespace Scriptlet

/-! No program starts with a colon. -/

theorem within_disjoint {spans others : List Text.Span} {c : Char}
    (apart : ∀ span ∈ spans, ∀ other ∈ others, span.2 < other.1 ∨ other.2 < span.1)
    (inside : Text.within spans c = true) : Text.within others c = false := by
  obtain ⟨span, member, bounds⟩ := List.any_eq_true.mp inside
  refine List.any_eq_false.mpr fun other otherMember otherBounds => ?_
  simp only [Bool.and_eq_true, decide_eq_true_eq] at bounds otherBounds
  have := apart span member other otherMember
  omega

theorem blank_apart : ∀ span ∈ Text.blankSpans, ∀ other ∈ Text.letterSpans,
    span.2 < other.1 ∨ other.2 < span.1 := by
  decide +kernel

theorem blank_bounds {c : Char} (blank : Text.isBlank c = true) : c.toNat ≤ 32 ∨ 127 < c.toNat := by
  have bounds : ∀ span ∈ Text.blankSpans, span.2 ≤ 32 ∨ 127 < span.1 := by decide
  obtain ⟨span, member, inside⟩ := List.any_eq_true.mp blank
  simp only [Bool.and_eq_true, decide_eq_true_eq] at inside
  have := bounds span member
  omega

theorem blank_startsWord {c : Char} (blank : Text.isBlank c = true) : startsWord c = false := by
  have bounds := blank_bounds blank
  have noName : c ≠ '_' := by
    rintro rfl
    exact absurd blank (by decide)
  have noLetter : Text.isLetter c = false := by
    unfold Text.isLetter
    split
    · simp only [Char.isAlpha, Char.isUpper, Char.isLower, UInt32.le_iff_toNat_le, ge_iff_le]
      simp
      omega
    · exact within_disjoint blank_apart blank
  simp [startsWord, noName, noLetter]

/-- A character that is blank in some writing, but not in a program, is a fault. -/
theorem first_blank {c : Char} (blank : Text.isBlank c = true) (rest : List Char) :
    Segment.first c rest = (.blank c, rest) ∨
      Segment.first c rest = (.fault .unexpectedCharacter [c], rest) := by
  have bounds := blank_bounds blank
  have noSign : c ∉ Segment.signStarts := by
    have visible : Segment.signStarts.all (fun d => 32 < d.toNat && d.toNat ≤ 127) = true := by decide
    intro member
    have := List.all_eq_true.mp visible c member
    simp only [Bool.and_eq_true, decide_eq_true_eq] at this
    omega
  have noDigit : isDigit c = false := by
    refine Bool.eq_false_iff.mpr fun digit => ?_
    have := Segment.isDigit_iff.mp digit
    omega
  by_cases other : c ∈ Segment.untoken
  · simp only [Segment.untoken, List.mem_cons, List.not_mem_nil, or_false] at other
    rcases other with rfl | rfl | rfl | rfl | rfl | rfl | rfl | rfl
    all_goals first
      | exact .inl rfl
      | exact absurd blank (by decide)
  · exact .inr (Segment.first_unexpected noSign other noDigit (blank_startsWord blank) rest)

theorem colon_fault {text : List Char} (colon : (text.dropWhile Text.isBlank).head? = some ':') :
    ∃ cause stretch, Segment.fault cause stretch ∈ segments text := by
  induction text with
  | nil => cases colon
  | cons c rest ih =>
    cases blank : Text.isBlank c with
    | true =>
      rw [List.dropWhile_cons_of_pos blank] at colon
      rw [segments]
      rcases first_blank blank rest with found | found
      · obtain ⟨cause, stretch, member⟩ := ih colon
        rw [found]
        exact ⟨cause, stretch, List.mem_cons_of_mem _ member⟩
      · rw [found]
        exact ⟨_, _, List.mem_cons_self⟩
    | false =>
      rw [List.dropWhile_cons_of_neg (by simp [blank])] at colon
      cases colon
      rw [segments]
      exact ⟨.unexpectedCharacter, [':'], List.mem_cons_self⟩

namespace Dialogue

theorem not_command {source : ByteString} (rest : List Char)
    (clean : ∀ cause text, Segment.fault cause text ∉ segments (source.shown.toList ++ rest)) :
    isCommand source.trim = false := by
  refine Bool.eq_false_iff.mpr fun command => ?_
  have colon := ByteString.trim_colon (eq_of_beq command)
  have whole : ((source.shown.toList ++ rest).dropWhile Text.isBlank).head? = some ':' := by
    rw [List.dropWhile_append]
    split
    · next none =>
      rw [List.isEmpty_iff.mp none] at colon
      cases colon
    · rw [List.head?_append, colon]
      rfl
  -- The program would start with the colon too, and be faulty.
  obtain ⟨cause, stretch, member⟩ := colon_fault whole
  exact clean cause stretch member

/-! Lines joined to a source. -/

theorem shown_joined_cons (line : ByteString) {rest : List ByteString} (some : rest ≠ []) :
    (joined (line :: rest)).shown = line.shown ++ "\n" ++ (joined rest).shown := by
  cases rest with
  | nil => exact absurd rfl some
  | cons next others => exact ByteString.shown_lines line _

theorem shown_joined_append {early late : List ByteString} (some : early ≠ []) (more : late ≠ []) :
    (joined (early ++ late)).shown = (joined early).shown ++ "\n" ++ (joined late).shown := by
  induction early with
  | nil => exact absurd rfl some
  | cons line rest ih =>
    cases rest with
    | nil => exact shown_joined_cons line more
    | cons next others =>
      rw [List.cons_append, shown_joined_cons line (by simp), ih (by simp),
        shown_joined_cons line (by simp)]
      simp only [String.append_assoc]

theorem joined_visible {lines : List ByteString} {line : ByteString} (member : line ∈ lines)
    (visible : isBlankLine line = false) : (joined lines).trim.isEmpty = false := by
  have shows : ∀ c ∈ line.shown.toList, c ∈ (joined lines).shown.toList := by
    induction lines with
    | nil => cases member
    | cons first rest ih =>
      by_cases last : rest = []
      · subst last
        rw [List.mem_singleton.mp member]
        exact fun c inside => inside
      · rw [shown_joined_cons first last]
        intro c inside
        rcases List.mem_cons.mp member with rfl | later
        · simp [inside]
        · simp [ih later c inside]
  refine Bool.eq_false_iff.mpr fun empty => ?_
  have all := (ByteString.trim_isEmpty _).mp empty
  have blank := (ByteString.trim_isEmpty line).mpr fun c inside => all c (shows c inside)
  rw [isBlankLine, blank] at visible
  cases visible

/-! What a dialogue writes. -/

def outputOf : DialogueEvent → ByteString
  | .stdout text => text
  | _ => ""

def output (events : List DialogueEvent) : ByteString :=
  .join (events.map outputOf)

theorem output_append (first second : List DialogueEvent) :
    output (first ++ second) = output first ++ output second := by
  rw [output, List.map_append, ByteString.join_append, output, output]

theorem output_prompt (text : ByteString) (events : List DialogueEvent) :
    output (.prompt text :: events) = output events :=
  (output_append [.prompt text] events).trans (ByteString.empty_append _)

theorem output_written (text : ByteString) : output (written text) = text := by
  unfold written
  split
  · next empty =>
    cases text with
    | text value => rw [String.isEmpty_iff.mp empty]; rfl
    | raw value illFormed => cases empty
  · exact ByteString.empty_append text

structure Concludes (outcome : Dialogue × List DialogueEvent) (text : ByteString) (globals : Scope) :
    Prop where
  written : output outcome.2 = text
  quiet : ∀ text, DialogueEvent.stderr text ∉ outcome.2
  bindings : outcome.1.session.globals = globals

def advanced (dialogue : Dialogue) (globals : Scope) : Dialogue :=
  { dialogue with
    held := []
    session := { dialogue.session with globals, collector := dialogue.session.collector.reset }.reset }

theorem handle_runs {dialogue : Dialogue} {source : ByteString} {statements : List Stmt} {after : Scope}
    {lines : List ByteString} (visible : source.trim.isEmpty = false)
    (noCommand : isCommand source.trim = false)
    (accepted : Program.ofSource source.shown = .ok statements)
    (runs : RunsTo dialogue.session.settings.echo statements dialogue.session.globals after lines) :
    ∃ events, dialogue.handle source = (dialogue.advanced after, events) ∧
      output events = Session.outputOf dialogue.session.settings lines ∧
      ∀ text, DialogueEvent.stderr text ∉ events := by
  obtain ⟨effects, ran, stdout, stderr⟩ := Session.run_of_runsTo _ accepted runs
  have events : dialogue.handle source =
      (dialogue.advanced after, .history (remembered source.trim) :: written effects.stdout) := by
    have silent : reported "" = [] := rfl
    simp [handle, visible, noCommand, runSource, ran, relayed, stderr, silent, advanced]
  refine ⟨_, events, ?_, ?_⟩
  · rw [← stdout]
    exact output_written effects.stdout
  · intro text member
    unfold written at member
    split at member <;> simp at member

theorem run_cons (dialogue : Dialogue) (input : LineInput) (rest : List LineInput)
    (goesOn : (dialogue.step input).1.finished = false) :
    dialogue.run (input :: rest) =
      (((dialogue.step input).1.run rest).1,
        .prompt dialogue.prompt :: (dialogue.step input).2 ++ ((dialogue.step input).1.run rest).2) := by
  simp [run, runBy, ask, goesOn]

theorem run_nil {dialogue : Dialogue} (none : dialogue.held = []) :
    Concludes (dialogue.run []) "\n" dialogue.session.globals := by
  have ends : dialogue.run [] =
      ({ dialogue with held := [], finished := true }, [.prompt dialogue.prompt, .stdout "\n"]) := by
    simp [run, runBy, concludeBy, ask, step, none, close]
  rw [ends]
  exact ⟨rfl, by simp, rfl⟩

theorem step_line {dialogue : Dialogue} {line : ByteString} (visible : isBlankLine line = false) :
    dialogue.step (.line line) =
      if isEntry (dialogue.held ++ [line]) then dialogue.handle (joined (dialogue.held ++ [line]))
      else ({ dialogue with held := dialogue.held ++ [line] }, []) := by
  simp [step, visible]

theorem concludes_entry {dialogue : Dialogue} {line : ByteString} {rest : List LineInput}
    {found : List Stmt} {between after : Scope} {lines : List ByteString} {text : ByteString}
    (goesOn : dialogue.finished = false) (visible : isBlankLine line = false)
    (noCommand : isCommand (joined (dialogue.held ++ [line])).trim = false)
    (accepted : Program.ofSource (joined (dialogue.held ++ [line])).shown = .ok found)
    (runs : RunsTo dialogue.session.settings.echo found dialogue.session.globals between lines)
    (concludes : Concludes ((dialogue.advanced between).run rest) text after) :
    Concludes (dialogue.run (.line line :: rest))
      (Session.outputOf dialogue.session.settings lines ++ text) after := by
  have shown : (joined (dialogue.held ++ [line])).trim.isEmpty = false :=
    joined_visible (List.mem_append_right _ List.mem_cons_self) visible
  obtain ⟨events, handles, writes, quiet⟩ := handle_runs shown noCommand accepted runs
  have entry : isEntry (dialogue.held ++ [line]) = true := by
    simp [isEntry, isIncomplete_of_ok accepted]
  have steps : dialogue.step (.line line) = (dialogue.advanced between, events) := by
    rw [step_line visible, if_pos entry, handles]
  rw [run_cons dialogue _ rest (by rw [steps]; exact goesOn), steps]
  refine ⟨?_, ?_, concludes.bindings⟩
  · rw [List.cons_append, output_prompt, output_append, writes, concludes.written]
  · intro report member
    rcases List.mem_append.mp member with first | later
    · rcases List.mem_cons.mp first with same | inside
      · cases same
      · exact quiet report inside
    · exact concludes.quiet report later

theorem concludes_held {dialogue : Dialogue} {line : ByteString} {rest : List LineInput} {after : Scope}
    {text : ByteString} (goesOn : dialogue.finished = false) (visible : isBlankLine line = false)
    (incomplete : isEntry (dialogue.held ++ [line]) = false)
    (concludes : Concludes (run { dialogue with held := dialogue.held ++ [line] } rest) text after) :
    Concludes (dialogue.run (.line line :: rest)) text after := by
  have steps : dialogue.step (.line line) = ({ dialogue with held := dialogue.held ++ [line] }, []) := by
    rw [step_line visible, if_neg (by simp [incomplete])]
  rw [run_cons dialogue _ rest (by rw [steps]; exact goesOn), steps]
  refine ⟨?_, ?_, concludes.bindings⟩
  · rw [← concludes.written]
    exact output_prompt ..
  · intro report member
    rcases List.mem_cons.mp member with same | inside
    · cases same
    · exact concludes.quiet report inside

/-- Lines that complete a program with those held: the dialogue runs the program, wherever it cuts. -/
theorem concludes_lines {lines : List ByteString} (some : lines ≠ [])
    (visible : ∀ line ∈ lines, isBlankLine line = false) (dialogue : Dialogue)
    (goesOn : dialogue.finished = false) {statements : List Stmt} {after : Scope} {written : List ByteString}
    (accepted : Program.ofSource (joined (dialogue.held ++ lines)).shown = .ok statements)
    (runs : RunsTo dialogue.session.settings.echo statements dialogue.session.globals after written) :
    Concludes (dialogue.run (lines.map .line))
      (Session.outputOf dialogue.session.settings written ++ "\n") after := by
  -- On the lines; the dialogue varies with what it holds and with the bindings left so far.
  induction lines generalizing dialogue statements written with
  | nil => exact absurd rfl some
  | cons line rest ih =>
    obtain ⟨visibleLine, visibleRest⟩ := List.forall_mem_cons.mp visible
    obtain ⟨clean, -⟩ := Program.ofSource_eq_ok.mp accepted
    by_cases last : rest = []
    · subst last
      have noCommand : isCommand (joined (dialogue.held ++ [line])).trim = false :=
        not_command [] (by simpa using clean)
      exact concludes_entry goesOn visibleLine noCommand accepted runs (run_nil rfl)
    · have split : (joined (dialogue.held ++ line :: rest)).shown =
          (joined (dialogue.held ++ [line])).shown ++ "\n" ++ (joined rest).shown := by
        rw [List.append_cons, shown_joined_append (by simp) last]
      rw [split] at accepted clean
      have noCommand : isCommand (joined (dialogue.held ++ [line])).trim = false := by
        refine not_command ('\n' :: (joined rest).shown.toList) ?_
        simpa using clean
      rcases ofSource_lines accepted with
        incomplete | ⟨found, later, others, reads, readsRest, whole, respells⟩
      -- Held back: with the other lines it is still the same program.
      · have noEntry : isEntry (dialogue.held ++ [line]) = false := by
          simp [isEntry, noCommand, incomplete]
        refine concludes_held goesOn visibleLine noEntry ?_
        rw [← split, List.append_cons] at accepted
        exact ih last visibleRest { dialogue with held := dialogue.held ++ [line] } goesOn accepted runs
      -- Cut here: the entry is run, and the other lines are a program of their own.
      · subst whole
        obtain ⟨between, lines, more, runsFirst, runsRest, rfl⟩ :=
          runsTo_append (ofSource_respells reads) respells runs
        rw [Session.outputOf_append, ByteString.append_assoc]
        refine concludes_entry goesOn visibleLine noCommand reads runsFirst ?_
        exact ih last visibleRest (dialogue.advanced between) goesOn readsRest runsRest

/-- Feeding a program to a new dialogue line by line means the same as running it at once in a new
session: the same output, followed by the line break that ends the dialogue, nothing reported, and the
same bindings. -/
theorem lines_run_as_program (settings : Settings) (firstPrompt nextPrompt : ByteString)
    (lines : List ByteString) (session : Session) (effects : Effects) (some : lines ≠ [])
    (visible : ∀ line ∈ lines, isBlankLine line = false)
    (runs : (Session.new settings).run (joined lines).shown {} = (.ok (), session, effects)) :
    let outcome := run { firstPrompt, nextPrompt, session := .new settings } (lines.map .line)
    output outcome.2 = effects.stdout ++ "\n" ∧ (∀ text, DialogueEvent.stderr text ∉ outcome.2) ∧
      outcome.1.session.globals = session.globals := by
  obtain ⟨statements, written, accepted, runsTo, stdout⟩ := Session.run_eq_ok runs
  have concludes := concludes_lines some visible { firstPrompt, nextPrompt, session := .new settings } rfl
    accepted runsTo
  rw [stdout]
  exact ⟨concludes.written, concludes.quiet, concludes.bindings⟩

/-- Of three lines the first is held; with the second it is an entry, and the third is another. -/
theorem lines_run_as_program_cut :
    let lines : List ByteString := ["print", "true;", "let x;"]
    let dialogue : Dialogue := { firstPrompt := "> ", nextPrompt := ". ", session := .new {} }
    lines ≠ [] ∧ (∀ line ∈ lines, isBlankLine line = false) ∧ ∃ session effects,
      (Session.new {}).run (joined lines).shown {} = (.ok (), session, effects) ∧
      effects.stdout = "true\n" ∧ output (dialogue.run (lines.map .line)).2 = "true\n\n" ∧
      (dialogue.run (lines.map .line)).1.session.globals.names = ["x"] := by
  intro lines dialogue
  have some : lines ≠ [] := by simp [lines]
  have visible : ∀ line ∈ lines, isBlankLine line = false := by decide
  have source : (joined lines).shown = "print\ntrue;\nlet x;" := by cbv
  let print : Token := ⟨.printWord, "print", "", 1⟩
  let yes : Token := ⟨.trueWord, "true", "", 2⟩
  let word : Token := ⟨.letWord, "let", "", 3⟩
  let name : Token := ⟨.identifier, "x", "", 3⟩
  let semicolon (line : Int) : Token := ⟨.semicolon, ";", ";", line⟩
  let tokens : List Token := [print, yes, semicolon 2, word, name, semicolon 3]
  let statements : List Stmt := [.print print (.boolean yes true), .letIn name (.nil name)]
  have scanned : (scan "print\ntrue;\nlet x;").tokens = tokens ++ [.endOfInput 3] := by cbv
  have clean : ∀ cause text, Segment.fault cause text ∉ segments "print\ntrue;\nlet x;".toList := by
    have parts : segments "print\ntrue;\nlet x;".toList =
        [.token .printWord ['p', 'r', 'i', 'n', 't'], .blank '\n', .token .trueWord ['t', 'r', 'u', 'e'],
          .token .semicolon [';'], .blank '\n', .token .letWord ['l', 'e', 't'], .blank ' ',
          .token .identifier ['x'], .token .semicolon [';']] := by cbv
    rw [parts]
    simp
  have leaf : Derives 6 [yes] (.boolean yes true) := .leaf (.yes rfl)
  have value : Derives Rank.assignment [yes] (.boolean yes true) :=
    .tighter (.tighter (.tighter (.tighter (.tighter (.tighter leaf)))))
  have sentence : Sentence tokens statements := .print rfl value rfl (.declaration rfl rfl rfl .nil)
  have accepted : Program.ofSource (joined lines).shown = .ok statements := by
    rw [source]
    refine Program.ofSource_eq_ok.mpr ⟨clean, ?_⟩
    rw [scanned]
    exact (readStrict_complete (by decide) rfl sentence).1 (by decide)
  have runs : RunsTo false statements .empty (.ofList [("x", .nil)]) ["true"] := ⟨⟨.nil, rfl⟩, rfl, rfl⟩
  obtain ⟨effects, ran, stdout, -⟩ := Session.run_of_runsTo (.new {}) accepted runs
  obtain ⟨written, -, bindings⟩ := lines_run_as_program {} "> " ". " lines _ effects some visible ran
  refine ⟨some, visible, _, effects, ran, stdout, written.trans ?_, ?_⟩
  · rw [stdout]
    rfl
  · rw [bindings]
    rfl

end Dialogue

end Scriptlet
