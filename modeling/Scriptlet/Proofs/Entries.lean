import Scriptlet.Dialogue

/-! What becomes of the inputs of a dialogue. They are taken in turns: from one prompt for a first line to the
next, the lines read make up an entry, or are dropped. Every input belongs to one turn, the turns follow one
another, and the dialogue does nothing but handle their entries. -/
namespace Scriptlet

namespace Dialogue

inductive Submission
  | lastLine
  | blankLine (line : ByteString)
  | ended
deriving DecidableEq, Repr

inductive Turn
  | entry (lines : List ByteString) (submission : Submission)
  /-- Lines dropped on request. -/
  | aborted (lines : List ByteString)
  /-- Lines lost to a failure, which ends the dialogue. -/
  | failed (lines : List ByteString)
  /-- The end of the input, with no line held. -/
  | exhausted
deriving DecidableEq, Repr

/-- Lines that are held: each of them leaves the source incomplete, and none after the first is blank. -/
structure Held (lines : List ByteString) : Prop where
  incomplete : ∀ early, early <+: lines → early ≠ [] → isIncomplete (joined early).shown = true
  visible : ∀ line ∈ lines.tail, isBlankLine line = false

/-- Lines that are submitted together. Up to the last one they were held; if more text could complete them
even then, and they are no command, they did not submit themselves. -/
structure Submitted (lines : List ByteString) (submission : Submission) : Prop where
  some : lines ≠ []
  incomplete : ∀ early, early <+: lines → early ≠ [] → early ≠ lines →
    isIncomplete (joined early).shown = true
  visible : ∀ line ∈ lines.tail, isBlankLine line = false
  ready : isIncomplete (joined lines).shown = true → isCommand (joined lines).trim = false →
    submission ≠ .lastLine

namespace Submission

def inputs : Submission → List LineInput
  | lastLine => []
  | blankLine line => [.line line]
  | ended => [.ended]

def IsBlank : Submission → Prop
  | blankLine line => isBlankLine line = true
  | _ => True

end Submission

namespace Turn

def inputs : Turn → List LineInput
  | entry lines submission => lines.map .line ++ submission.inputs
  | aborted lines => lines.map .line ++ [.abort]
  | failed lines => lines.map .line ++ [.failure]
  | exhausted => [.ended]

def Sound : Turn → Prop
  | entry lines submission => Submitted lines submission ∧ submission.IsBlank
  | aborted lines => Held lines
  | failed lines => Held lines
  | exhausted => True

/-- What a turn comes to: its entry is handled, or the dialogue goes on, or ends. -/
def outcome (dialogue : Dialogue) : Turn → Dialogue × List DialogueEvent
  | entry lines _ => dialogue.handle (joined lines)
  | aborted _ => (dialogue, [])
  | failed _ => dialogue.close
  | exhausted => dialogue.close

end Turn

/-- The prompts for so many inputs of a turn: one prompt where no line is held yet, and the other from then
on. -/
def asked (dialogue : Dialogue) : Nat → List DialogueEvent
  | 0 => []
  | count + 1 => .prompt dialogue.firstPrompt :: List.replicate count (.prompt dialogue.nextPrompt)

def play (dialogue : Dialogue) (turn : Turn) : Dialogue × List DialogueEvent :=
  let (after, events) := turn.outcome dialogue
  (after, dialogue.asked turn.inputs.length ++ events)

def playAll (dialogue : Dialogue) : List Turn → Dialogue × List DialogueEvent
  | [] => (dialogue, [])
  | turn :: rest =>
    let (after, events) := dialogue.play turn
    let (last, more) := after.playAll rest
    (last, events ++ more)

/-! What lines are held and submitted. -/

theorem held_nil : Held [] where
  incomplete early beginning some := absurd (List.prefix_nil.mp beginning) some
  visible := by simp

section Lines

variable {lines : List ByteString} {line : ByteString} {submission : Submission} (held : Held lines)

include held

theorem visible_concat (visible : lines ≠ [] → isBlankLine line = false) :
    ∀ other ∈ (lines ++ [line]).tail, isBlankLine other = false := by
  cases lines with
  | nil => simp
  | cons first rest =>
    intro other member
    rcases List.mem_append.mp member with early | last
    · exact held.visible other early
    · rw [List.mem_singleton.mp last]
      exact visible (by simp)

theorem held_concat (visible : lines ≠ [] → isBlankLine line = false)
    (incomplete : isIncomplete (joined (lines ++ [line])).shown = true) : Held (lines ++ [line]) where
  incomplete early beginning some := by
    rcases List.prefix_concat_iff.mp beginning with rfl | before
    · exact incomplete
    · exact held.incomplete early before some
  visible := visible_concat held visible

theorem submitted_concat (visible : lines ≠ [] → isBlankLine line = false)
    (entry : isEntry (lines ++ [line]) = true) : Submitted (lines ++ [line]) .lastLine where
  some := by simp
  incomplete early beginning some proper := by
    rcases List.prefix_concat_iff.mp beginning with whole | before
    · exact absurd whole proper
    · exact held.incomplete early before some
  visible := visible_concat held visible
  ready incomplete noCommand := by simp [isEntry, incomplete, noCommand] at entry

theorem submitted_held (some : lines ≠ []) (other : submission ≠ .lastLine) :
    Submitted lines submission where
  some := some
  incomplete early beginning some _ := held.incomplete early beginning some
  visible := held.visible
  ready _ _ := other

end Lines

/-! One input. -/

/-- An input is a line that is held, or it ends a turn. -/
theorem step_cases (dialogue : Dialogue) (input : LineInput) (held : Held dialogue.held) :
    (∃ line, input = .line line ∧ Held (dialogue.held ++ [line]) ∧
      dialogue.step input = ({ dialogue with held := dialogue.held ++ [line] }, [])) ∨
    ∃ turn : Turn, turn.Sound ∧ turn.inputs = dialogue.held.map .line ++ [input] ∧
      dialogue.step input = turn.outcome { dialogue with held := [] } := by
  cases input with
  | abort => exact .inr ⟨.aborted dialogue.held, held, rfl, rfl⟩
  | failure => exact .inr ⟨.failed dialogue.held, held, rfl, rfl⟩
  | ended =>
    right
    by_cases none : dialogue.held = []
    · exact ⟨.exhausted, trivial, by simp [Turn.inputs, none], by simp [step, none, Turn.outcome, close]⟩
    · refine ⟨.entry dialogue.held .ended, ⟨submitted_held held none (by simp), trivial⟩, rfl, ?_⟩
      simp [step, none, Turn.outcome, handle]
  | line line =>
    by_cases submits : dialogue.held ≠ [] ∧ isBlankLine line = true
    · right
      refine ⟨.entry dialogue.held (.blankLine line), ?_, rfl, ?_⟩
      · exact ⟨submitted_held held submits.1 (by simp), submits.2⟩
      · simp [step, submits.1, submits.2, Turn.outcome, handle]
    · have visible : dialogue.held ≠ [] → isBlankLine line = false := by
        intro some
        exact Bool.eq_false_iff.mpr fun blank => submits ⟨some, blank⟩
      have steps : dialogue.step (.line line) =
          if isEntry (dialogue.held ++ [line]) then dialogue.handle (joined (dialogue.held ++ [line]))
          else ({ dialogue with held := dialogue.held ++ [line] }, []) := by
        have goesOn : (!dialogue.held.isEmpty && isBlankLine line) = false := by
          simpa using visible
        simp [step, goesOn]
      by_cases entry : isEntry (dialogue.held ++ [line]) = true
      · right
        refine ⟨.entry (dialogue.held ++ [line]) .lastLine, ⟨submitted_concat held visible entry, trivial⟩,
          by simp [Turn.inputs, Submission.inputs], ?_⟩
        rw [steps, if_pos entry]
        rfl
      · left
        refine ⟨line, rfl, held_concat held visible ?_, ?_⟩
        · simp only [isEntry, Bool.not_eq_true, Bool.or_eq_false_iff, Bool.not_eq_false'] at entry
          exact entry.2
        · rw [steps, if_neg entry]

theorem checkSource_held (dialogue : Dialogue) (source : String) :
    (dialogue.checkSource source).1.held = dialogue.held := by
  unfold checkSource
  split <;> rfl

theorem command_held (dialogue : Dialogue) (name : String) (words : List ByteString) (rest : String) :
    (dialogue.command name words rest).1.held = dialogue.held := by
  unfold command
  split
  case h_6 => exact checkSource_held dialogue _
  all_goals rfl

theorem handle_held (dialogue : Dialogue) (source : ByteString) : (dialogue.handle source).1.held = [] := by
  unfold handle
  dsimp only
  split
  · rfl
  · split
    · split
      · exact command_held _ _ _ _
      · rfl
    · rfl

theorem outcome_held {dialogue : Dialogue} (none : dialogue.held = []) (turn : Turn) :
    (turn.outcome dialogue).1.held = [] := by
  cases turn with
  | entry lines submission => exact handle_held dialogue _
  | aborted lines => exact none
  | failed lines => rfl
  | exhausted => rfl

/-! One input after another. -/

def feed (dialogue : Dialogue) : List LineInput → Dialogue × List DialogueEvent
  | [] => (dialogue, [])
  | input :: rest =>
    let (after, events) := dialogue.ask input
    if after.finished then (after, events)
    else
      let (last, more) := after.feed rest
      (last, events ++ more)

theorem run_eq_feed (dialogue : Dialogue) (inputs : List LineInput) :
    dialogue.run inputs = dialogue.feed (inputs ++ [.ended, .ended]) := by
  -- The end of the input need not be met more than twice.
  unfold run
  induction inputs generalizing dialogue with
  | nil => simp [runBy, concludeBy, feed]
  | cons input rest ih => simp [runBy, feed, ih]

theorem asked_same (dialogue : Dialogue) (held : List ByteString) (count : Nat) :
    asked { dialogue with held } count = dialogue.asked count := by
  cases count <;> rfl

theorem asked_next (dialogue : Dialogue) :
    dialogue.asked (dialogue.held.length + 1) =
      dialogue.asked dialogue.held.length ++ [.prompt dialogue.prompt] := by
  unfold prompt
  cases dialogue.held with
  | nil => rfl
  | cons line rest => simp [asked, List.replicate_succ']

/-- Turns that account for the inputs of a dialogue, and for those of the lines that it already holds. -/
structure Accounts (turns : List Turn) (dialogue : Dialogue) (inputs : List LineInput) : Prop where
  read : turns.flatMap Turn.inputs <+: dialogue.held.map .line ++ inputs
  sound : ∀ turn ∈ turns, turn.Sound
  played : playAll { dialogue with held := [] } turns =
    ((dialogue.feed inputs).1, dialogue.asked dialogue.held.length ++ (dialogue.feed inputs).2)
  finished : (dialogue.feed inputs).1.finished = true

section Accounts

variable {dialogue : Dialogue} {input : LineInput} {inputs : List LineInput} {turns : List Turn}

theorem feed_stops (inputs : List LineInput) (stops : (dialogue.step input).1.finished = true) :
    dialogue.feed (input :: inputs) =
      ((dialogue.step input).1, .prompt dialogue.prompt :: (dialogue.step input).2) := by
  simp [feed, ask, stops]

theorem feed_goesOn (inputs : List LineInput) (goesOn : (dialogue.step input).1.finished = false) :
    dialogue.feed (input :: inputs) =
      (((dialogue.step input).1.feed inputs).1,
        .prompt dialogue.prompt :: ((dialogue.step input).2 ++ ((dialogue.step input).1.feed inputs).2)) := by
  simp [feed, ask, goesOn]

theorem accounts_held {line : ByteString} (goesOn : dialogue.finished = false)
    (steps : dialogue.step (.line line) = ({ dialogue with held := dialogue.held ++ [line] }, []))
    (accounts : Accounts turns { dialogue with held := dialogue.held ++ [line] } inputs) :
    Accounts turns dialogue (.line line :: inputs) := by
  have feeds := feed_goesOn inputs (by rw [steps]; exact goesOn)
  rw [steps] at feeds
  obtain ⟨read, sound, played, finished⟩ := accounts
  constructor
  · simpa using read
  · exact sound
  · rw [played, feeds, asked_same, List.length_append, List.length_singleton, asked_next]
    simp
  · rw [feeds]
    exact finished

theorem drop_none (none : dialogue.held = []) : { dialogue with held := [] } = dialogue := by
  cases dialogue
  cases none
  rfl

variable {turn : Turn} (sound : turn.Sound) (reads : turn.inputs = dialogue.held.map .line ++ [input])
  (steps : dialogue.step input = turn.outcome { dialogue with held := [] })

include sound reads steps

theorem accounts_last (inputs : List LineInput) (stops : (dialogue.step input).1.finished = true) :
    Accounts [turn] dialogue (input :: inputs) := by
  have feeds := feed_stops inputs stops
  have count : turn.inputs.length = dialogue.held.length + 1 := by simp [reads]
  constructor
  · simp [reads]
  · simpa using sound
  · rw [feeds]
    simp [playAll, play, asked_same, count, asked_next, ← steps]
  · rw [feeds]
    exact stops

omit sound reads in
theorem step_held : (dialogue.step input).1.held = [] := by
  rw [steps]
  exact outcome_held rfl turn

theorem accounts_cons (goesOn : (dialogue.step input).1.finished = false)
    (accounts : Accounts turns (dialogue.step input).1 inputs) :
    Accounts (turn :: turns) dialogue (input :: inputs) := by
  have feeds := feed_goesOn inputs goesOn
  have count : turn.inputs.length = dialogue.held.length + 1 := by simp [reads]
  have none := step_held steps
  obtain ⟨read, soundRest, played, finished⟩ := accounts
  rw [none] at read
  rw [drop_none none, none, List.length_nil, asked, List.nil_append] at played
  constructor
  · simpa [reads] using read
  · exact List.forall_mem_cons.mpr ⟨sound, soundRest⟩
  · rw [feeds]
    simp [playAll, play, asked_same, count, asked_next, ← steps, played]
  · rw [feeds]
    exact finished

omit sound reads steps

theorem accounts_exhausted (none : dialogue.held = []) : Accounts [.exhausted] dialogue [.ended] := by
  have closes : dialogue.step .ended = dialogue.close := by simp [step, none]
  apply accounts_last
  · trivial
  · rw [none]
    rfl
  · exact closes
  · rw [closes]
    rfl

/-- Whatever the inputs are, there are turns that account for them. -/
theorem exists_accounts (dialogue : Dialogue) (inputs : List LineInput) (held : Held dialogue.held)
    (goesOn : dialogue.finished = false) :
    ∃ turns, Accounts turns dialogue (inputs ++ [.ended, .ended]) := by
  -- On the inputs; the dialogue varies with the lines it holds.
  induction inputs generalizing dialogue with
  | nil =>
    rcases dialogue.step_cases .ended held with ⟨line, same, -⟩ | ⟨turn, sound, reads, steps⟩
    · cases same
    · cases stops : (dialogue.step .ended).1.finished with
      | true => exact ⟨_, accounts_last sound reads steps _ stops⟩
      | false =>
        -- The lines held at the end did not end the dialogue; then the end of the input does.
        exact ⟨_, accounts_cons sound reads steps stops (accounts_exhausted (step_held steps))⟩
  | cons input rest ih =>
    rcases dialogue.step_cases input held with ⟨line, rfl, more, steps⟩ | ⟨turn, sound, reads, steps⟩
    · obtain ⟨turns, accounts⟩ := ih { dialogue with held := dialogue.held ++ [line] } more goesOn
      exact ⟨turns, accounts_held goesOn steps accounts⟩
    · cases stops : (dialogue.step input).1.finished with
      | true => exact ⟨_, accounts_last sound reads steps _ stops⟩
      | false =>
        obtain ⟨turns, accounts⟩ := ih _ (step_held steps ▸ held_nil) stops
        exact ⟨_, accounts_cons sound reads steps stops accounts⟩

end Accounts

/-- A dialogue over any inputs, with the end of input after them, comes to its end, and takes the inputs in
turns. The inputs of the turns, one after another, are those that are read; so every line is used at most
once and in its place, and belongs to an entry unless it was held when the lines were dropped or lost, or is
the blank line that submitted them. The dialogue does what its turns do: each asks for its first input with the
first prompt and for all others with the next one, and handles its lines, joined, if they are an entry. -/
theorem inputs_taken_in_turns (dialogue : Dialogue) (inputs : List LineInput) (none : dialogue.held = [])
    (goesOn : dialogue.finished = false) :
    (dialogue.run inputs).1.finished = true ∧
      ∃ turns : List Turn, turns.flatMap Turn.inputs <+: inputs ++ [.ended, .ended] ∧
        (∀ turn ∈ turns, turn.Sound) ∧ dialogue.run inputs = dialogue.playAll turns := by
  obtain ⟨turns, read, sound, played, finished⟩ := exists_accounts dialogue inputs (none ▸ held_nil) goesOn
  rw [none] at read
  rw [drop_none none, none] at played
  rw [run_eq_feed]
  exact ⟨finished, turns, read, sound, played.symm⟩

/-- A line dropped on request, two lines that are one entry, and a command that ends the dialogue before the last
line is read. -/
theorem inputs_taken_in_turns_quit :
    let dialogue : Dialogue := { firstPrompt := ">> ", nextPrompt := ".. ", session := .new {} }
    let inputs : List LineInput :=
      [.line "print", .abort, .line "print", .line "1;", .line ":quit", .line "print 2;"]
    dialogue.held = [] ∧ dialogue.finished = false ∧ (dialogue.run inputs).1.finished = true ∧
      ∃ turns : List Turn, turns.flatMap Turn.inputs <+: inputs ++ [.ended, .ended] ∧
        (∀ turn ∈ turns, turn.Sound) ∧ dialogue.run inputs = dialogue.playAll turns :=
  ⟨rfl, rfl, inputs_taken_in_turns _ _ rfl rfl⟩

/-- Blanks before a command do not count: it is submitted by its own line, although it is incomplete and does not
start with a colon. -/
theorem indented_command_submits :
    let entry : ByteString := " :env /*"
    let dialogue : Dialogue := { firstPrompt := ">> ", nextPrompt := ".. ", session := .new {} }
    isIncomplete entry.shown = true ∧ isCommand entry = false ∧
      (dialogue.run [.line entry]).2 =
        [.prompt ">> ", .history ":env /*", .prompt ">> ", .stdout "\n"] := by
  decide +kernel

end Dialogue

end Scriptlet
