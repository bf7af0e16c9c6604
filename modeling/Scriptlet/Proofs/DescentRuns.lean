import Scriptlet.Proofs.Agreement
import Scriptlet.Proofs.Descent
import Scriptlet.Proofs.Soundness

/-! The machine does what the readers do, on every token list, and its notes say that it does so safely.
Both are proved at once, reader by reader: a place of the machine stands for a cursor, and from there the
machine comes to an outcome, the reader's, at a place that stands for the reader's cursor. -/
namespace Scriptlet

theorem Cursor.sees_of_more {cursor : Cursor} (more : cursor.atEnd = false) (kinds : List TokenKind) :
    cursor.sees kinds = kinds.contains cursor.next.kind := by
  obtain ⟨last, ahead, final⟩ := cursor
  cases ahead with
  | nil => cases more
  | cons token rest => rfl

theorem Cursor.sees_of_end {cursor : Cursor} (finished : cursor.atEnd = true) (kinds : List TokenKind) :
    cursor.sees kinds = false := by
  obtain ⟨last, ahead, final⟩ := cursor
  cases ahead with
  | nil => rfl
  | cons token rest => cases finished

theorem Cursor.last_advance {cursor : Cursor} (more : cursor.atEnd = false) :
    cursor.advance.last = cursor.next := by
  obtain ⟨last, ahead, final⟩ := cursor
  cases ahead with
  | nil => cases more
  | cons token rest => rfl

structure Tape where
  words : List Token
  final : Token
  others : List Token
  plain : ∀ token ∈ words, token.isEnd = false
  ends : final.isEnd = true

namespace Tape

variable (tape : Tape) {position : Nat}

def tokens : List Token := tape.words ++ tape.final :: tape.others

def cursor (position : Nat) : Cursor :=
  ⟨((tape.words ++ [tape.final])[position - 1]?).getD tape.final, tape.words.drop position, tape.final⟩

theorem getElem?_next (within : position ≤ tape.words.length) :
    tape.tokens[position]? = some (tape.cursor position).next := by
  rcases Nat.lt_or_eq_of_le within with inside | same
  · rw [tokens, List.getElem?_append_left inside, List.getElem?_eq_getElem inside, cursor, Cursor.next,
      List.drop_eq_getElem_cons inside]
    rfl
  · subst same
    simp [tokens, cursor, Cursor.next]

theorem getElem?_last (within : position ≤ tape.words.length) :
    tape.tokens[position - 1]? = some (tape.cursor position).last := by
  have inside : position - 1 < (tape.words ++ [tape.final]).length := by simp; omega
  have split : tape.tokens = (tape.words ++ [tape.final]) ++ tape.others := by simp [tokens]
  rw [split, List.getElem?_append_left inside, cursor, List.getElem?_eq_getElem inside]
  rfl

theorem atEnd_iff (within : position ≤ tape.words.length) :
    (tape.cursor position).atEnd = true ↔ position = tape.words.length := by
  simp [cursor, Cursor.atEnd, List.drop_eq_nil_iff]
  omega

theorem isEnd_next (position : Nat) :
    (tape.cursor position).next.isEnd = (tape.cursor position).atEnd := by
  cases ahead : tape.words.drop position with
  | nil => simp [cursor, Cursor.next, Cursor.atEnd, ahead, tape.ends]
  | cons token rest =>
    have member : token ∈ tape.words := List.mem_of_mem_drop (ahead ▸ List.mem_cons_self)
    simp [cursor, Cursor.next, Cursor.atEnd, ahead, tape.plain token member]

theorem cursor_succ (inside : position < tape.words.length) :
    tape.cursor (position + 1) = (tape.cursor position).advance := by
  have found : (tape.words ++ [tape.final])[position]? = some tape.words[position] := by
    rw [List.getElem?_append_left inside, List.getElem?_eq_getElem inside]
  rw [cursor, cursor, List.drop_eq_getElem_cons inside, Nat.add_sub_cancel, found]
  rfl

end Tape

namespace Descent

variable {α β : Type}

/-- The machine comes to an end, with a result and in a state that are as described. -/
def Yields (machine : Descent α) (before : Progress) (holds : α → Progress → Prop) : Prop :=
  ∃ value after, machine before = some (value, after) ∧ holds value after

theorem yields_pure {value : α} {before : Progress} {holds : α → Progress → Prop}
    (held : holds value before) : Yields (pure value) before holds :=
  ⟨value, before, rfl, held⟩

theorem yields_bind {first : Descent α} {next : α → Descent β} {before : Progress}
    {holds : β → Progress → Prop}
    (yields : Yields first before fun value middle => Yields (next value) middle holds) :
    Yields (first >>= next) before holds := by
  obtain ⟨value, middle, leads, result, after, follows, held⟩ := yields
  refine ⟨result, after, ?_, held⟩
  show (first before).bind (fun pair => next pair.1 pair.2) = _
  rw [leads]
  exact follows

theorem yields_of_eq {machine : Descent α} {before after : Progress} {value : α}
    {holds : α → Progress → Prop} (leads : machine before = some (value, after))
    (held : holds value after) : Yields machine before holds :=
  ⟨value, after, leads, held⟩

theorem yields_get {before : Progress} {holds : Progress → Progress → Prop}
    (held : holds before before) : Yields get before holds :=
  ⟨before, before, rfl, held⟩

theorem bind_of_some {first : Descent α} {next : α → Descent β} {before middle : Progress} {value : α}
    (leads : first before = some (value, middle)) : (first >>= next) before = next value middle := by
  show (first before).bind (fun pair => next pair.1 pair.2) = _
  rw [leads]
  rfl

/-! Single steps. -/

section Steps

variable (tape : Tape) {progress : Progress}

def arrived (spot : Spot) (progress : Progress) : Progress :=
  { progress with spot, visited := progress.visited ++ [spot] }

def passed (progress : Progress) : Progress :=
  arrived { progress.spot with position := progress.spot.position + 1 } progress

theorem peek_eq (within : progress.spot.position ≤ tape.words.length) :
    peek tape.tokens progress = some ((tape.cursor progress.spot.position).next, progress) := by
  simp [peek, tape.getElem?_next within]

theorem previous_eq (within : progress.spot.position ≤ tape.words.length) :
    previous tape.tokens progress = some ((tape.cursor progress.spot.position).last, progress) := by
  simp [previous, tape.getElem?_last within]

theorem atEnd_eq (within : progress.spot.position ≤ tape.words.length) :
    atEnd tape.tokens progress = some ((tape.cursor progress.spot.position).atEnd, progress) := by
  rw [atEnd, bind_of_some (peek_eq tape within), ← tape.isEnd_next]
  rfl

theorem more_ahead (inside : progress.spot.position < tape.words.length) :
    (tape.cursor progress.spot.position).atEnd = false := by
  rw [Bool.eq_false_iff, Ne, tape.atEnd_iff (Nat.le_of_lt inside)]
  exact Nat.ne_of_lt inside

theorem inside_of_more (within : progress.spot.position ≤ tape.words.length)
    (more : (tape.cursor progress.spot.position).atEnd = false) :
    progress.spot.position < tape.words.length := by
  rcases Nat.lt_or_eq_of_le within with inside | finished
  · exact inside
  · rw [(tape.atEnd_iff within).mpr finished] at more
    cases more

theorem advance_eq (inside : progress.spot.position < tape.words.length) :
    advance tape.tokens progress =
      some ((tape.cursor progress.spot.position).next, passed progress) := by
  have within : (passed progress).spot.position ≤ tape.words.length := inside
  have more := more_ahead tape inside
  rw [advance, bind_of_some (atEnd_eq tape (Nat.le_of_lt inside)), more]
  show previous tape.tokens (passed progress) = _
  rw [previous_eq tape within, ← Cursor.last_advance more, ← tape.cursor_succ inside]
  rfl

theorem advance_end (finished : progress.spot.position = tape.words.length) :
    advance tape.tokens progress = some ((tape.cursor progress.spot.position).last, progress) := by
  have within := Nat.le_of_eq finished
  rw [advance, bind_of_some (atEnd_eq tape within), (tape.atEnd_iff within).mpr finished]
  exact previous_eq tape within

theorem check_eq (kind : TokenKind) (within : progress.spot.position ≤ tape.words.length) :
    check tape.tokens kind progress =
      some ((tape.cursor progress.spot.position).sees [kind], progress) := by
  rw [check, bind_of_some (atEnd_eq tape within)]
  cases finished : (tape.cursor progress.spot.position).atEnd with
  | true =>
    rw [Cursor.sees_of_end finished]
    rfl
  | false =>
    rw [Cursor.sees_of_more finished, List.contains_cons, List.contains_nil, Bool.or_false]
    exact bind_of_some (peek_eq tape within)

theorem accepts_eq (kinds : List TokenKind) (within : progress.spot.position ≤ tape.words.length) :
    accepts tape.tokens kinds progress =
      if (tape.cursor progress.spot.position).sees kinds then some (true, passed progress)
      else some (false, progress) := by
  cases finished : (tape.cursor progress.spot.position).atEnd with
  | true =>
    rw [Cursor.sees_of_end finished]
    induction kinds with
    | nil => rfl
    | cons kind others ih =>
      rw [accepts, bind_of_some (check_eq tape kind within), Cursor.sees_of_end finished]
      exact ih
  | false =>
    rw [Cursor.sees_of_more finished]
    induction kinds with
    | nil => rfl
    | cons kind others ih =>
      rw [accepts, bind_of_some (check_eq tape kind within), Cursor.sees_of_more finished,
        List.contains_cons, List.contains_cons, List.contains_nil, Bool.or_false]
      cases same : (tape.cursor progress.spot.position).next.kind == kind with
      | true =>
        have inside := inside_of_more tape within finished
        exact bind_of_some (advance_eq tape inside)
      | false =>
        rw [Bool.false_or]
        exact ih

theorem errorAt_eq (token : Token) (fault : SyntaxFault)
    (within : progress.spot.position ≤ tape.words.length) :
    errorAt tape.tokens token fault progress = some ((), { progress with
      errors := progress.errors ++ [(tape.cursor progress.spot.position).errorAt token fault] }) := by
  rw [errorAt, bind_of_some (atEnd_eq tape within)]
  rfl

end Steps

/-! What is kept all along, and what a part of the machine does beside a reader. -/

/-- The place is no further than the first end, and so were all before it; no more levels were open than
one too many, each call has put its levels back, and with errors collected a declaration has moved on. -/
structure Safe (tape : Tape) (collect : Bool) (progress : Progress) : Prop where
  within : progress.spot.position ≤ tape.words.length
  visited : ∀ spot ∈ progress.visited,
    spot.position ≤ tape.words.length ∧ spot.depth ≤ maxNesting + 1
  restored : ∀ call ∈ progress.calls, call.after.depth = call.before.depth
  moved : collect = true → ∀ call ∈ progress.calls, call.declares = true →
    call.before.position < call.after.position ∨ call.after.position = tape.words.length

/-- The outcome of a reader, told by the machine: nothing comes of an error but the error. -/
def Tells (tape : Tape) (before after : Progress) (result : Option α) :
    EStateM.Result SyntaxError Cursor α → Prop
  | .ok value cursor => result = some value ∧ after.errors = before.errors ∧
      tape.cursor after.spot.position = cursor
  | .error error cursor => result = none ∧ after.errors = before.errors ++ [error] ∧
      tape.cursor after.spot.position = cursor

structure Comes (tape : Tape) (collect keeps : Bool) (before : Progress)
    (outcome : EStateM.Result SyntaxError Cursor α) (result : Option α) (after : Progress) : Prop where
  safe : Safe tape collect after
  forward : before.spot.position ≤ after.spot.position
  kept : keeps = true → after.spot.depth = before.spot.depth
  tells : Tells tape before after result outcome

/-- With the room that its open levels leave, the machine follows the reader. `keeps` says whether it
has put its levels back. -/
def Follows (tape : Tape) (collect keeps : Bool) (room : Nat) (machine : Descent (Option α))
    (reader : Reader α) : Prop :=
  ∀ before, Safe tape collect before → before.spot.depth + room = maxNesting →
    Yields machine before
      (Comes tape collect keeps before (reader (tape.cursor before.spot.position)))

section Rules

variable {tape : Tape} {collect keeps : Bool} {room : Nat} {before : Progress}

theorem safe_arrived {spot : Spot} (safe : Safe tape collect before)
    (within : spot.position ≤ tape.words.length) (shallow : spot.depth ≤ maxNesting + 1) :
    Safe tape collect (arrived spot before) := by
  refine ⟨within, ?_, safe.restored, safe.moved⟩
  show ∀ other ∈ before.visited ++ [spot], _
  rw [List.forall_mem_append, List.forall_mem_singleton]
  exact ⟨safe.visited, within, shallow⟩

theorem safe_errors (safe : Safe tape collect before) (errors : List SyntaxError) :
    Safe tape collect { before with errors } :=
  ⟨safe.within, safe.visited, safe.restored, safe.moved⟩

theorem follows_weaken {machine : Descent (Option α)} {reader : Reader α}
    (follows : Follows tape collect true room machine reader) :
    Follows tape collect keeps room machine reader := by
  intro before safe depth
  obtain ⟨result, after, leads, comes⟩ := follows before safe depth
  exact ⟨result, after, leads, comes.safe, comes.forward, fun _ => comes.kept rfl, comes.tells⟩

theorem follows_pure (value : α) :
    Follows tape collect keeps room (pure (some value)) (pure value) := by
  intro before safe _
  exact yields_pure ⟨safe, Nat.le_refl _, fun _ => rfl, rfl, rfl, rfl⟩

theorem comes_andThen {first : Descent (Option α)} {next : α → Descent (Option β)} {reader : Reader α}
    {further : α → Reader β}
    (leads : Yields first before
      (Comes tape collect true before (reader (tape.cursor before.spot.position))))
    (goesOn : ∀ value middle, Safe tape collect middle → middle.spot.depth = before.spot.depth →
      reader (tape.cursor before.spot.position) = .ok value (tape.cursor middle.spot.position) →
      Yields (next value) middle
        (Comes tape collect keeps middle (further value (tape.cursor middle.spot.position)))) :
    Yields (andThen first next) before
      (Comes tape collect keeps before ((reader >>= further) (tape.cursor before.spot.position))) := by
  obtain ⟨result, middle, same, comes⟩ := leads
  refine yields_bind (yields_of_eq same ?_)
  have tells := comes.tells
  rw [bind_run]
  cases outcome : reader (tape.cursor before.spot.position) with
  | error error cursor =>
    rw [outcome] at tells
    obtain ⟨rfl, errors, reached⟩ := tells
    exact yields_pure ⟨comes.safe, comes.forward, fun _ => comes.kept rfl, rfl, errors, reached⟩
  | ok value cursor =>
    rw [outcome] at tells
    obtain ⟨rfl, errors, rfl⟩ := tells
    obtain ⟨final, after, follows, ends⟩ := goesOn value middle comes.safe (comes.kept rfl) outcome
    refine yields_of_eq follows ⟨ends.safe, Nat.le_trans comes.forward ends.forward, ?_, ?_⟩
    · intro restores
      rw [ends.kept restores, comes.kept rfl]
    · have told := ends.tells
      unfold Tells at told ⊢
      rwa [errors] at told

theorem follows_andThen {first : Descent (Option α)} {next : α → Descent (Option β)}
    {reader : Reader α} {further : α → Reader β} (leads : Follows tape collect true room first reader)
    (goesOn : ∀ value, Follows tape collect keeps room (next value) (further value)) :
    Follows tape collect keeps room (andThen first next) (reader >>= further) := by
  intro before safe depth
  refine comes_andThen (leads before safe depth) ?_
  intro value middle safeToo kept _
  exact goesOn value middle safeToo (by rw [kept, depth])

theorem inside_of_sees {kinds : List TokenKind} {position : Nat} (within : position ≤ tape.words.length)
    (wanted : (tape.cursor position).sees kinds = true) : position < tape.words.length := by
  rcases Nat.lt_or_eq_of_le within with inside | finished
  · exact inside
  · rw [Cursor.sees_of_end ((tape.atEnd_iff within).mpr finished)] at wanted
    cases wanted

theorem follows_ifTaken {kinds : List TokenKind} {hit : Token → Descent (Option α)}
    {miss : Descent (Option α)} {further : Option Token → Reader α}
    (hits : ∀ token, Follows tape collect keeps room (hit token) (further (some token)))
    (misses : Follows tape collect keeps room miss (further none)) :
    Follows tape collect keeps room (ifTaken tape.tokens kinds hit miss)
      (Reader.accept? kinds >>= further) := by
  intro before safe depth
  have accepts := accepts_eq tape kinds safe.within
  cases wanted : (tape.cursor before.spot.position).sees kinds with
  | false =>
    rw [wanted] at accepts
    rw [bind_of_ok _ (Reader.accept_miss wanted)]
    exact yields_bind (yields_of_eq accepts (misses before safe depth))
  | true =>
    rw [wanted] at accepts
    have inside := inside_of_sees safe.within wanted
    have after : Safe tape collect (passed before) :=
      safe_arrived safe inside (Nat.le_succ_of_le (Nat.le.intro depth))
    rw [bind_of_ok _ (Reader.accept_seen wanted),
      ← Cursor.last_advance (more_ahead tape inside), ← tape.cursor_succ inside]
    refine yields_bind (yields_of_eq accepts ?_)
    refine yields_bind (yields_of_eq (previous_eq tape after.within) ?_)
    obtain ⟨result, last, leads, comes⟩ := hits _ (passed before) after depth
    exact ⟨result, last, leads, comes.safe, Nat.le_of_succ_le comes.forward, comes.kept, comes.tells⟩

theorem follows_failAt (token : Token) (fault : SyntaxFault) :
    Follows tape collect keeps room (failAt tape.tokens token fault : Descent (Option α))
      (Reader.failAt token fault) := by
  intro before safe _
  refine yields_bind (yields_of_eq (errorAt_eq tape token fault safe.within) (yields_pure ?_))
  exact ⟨safe_errors safe _, Nat.le_refl _, fun _ => rfl, rfl, rfl, rfl⟩

theorem follows_failNext (fault : SyntaxFault) :
    Follows tape collect keeps room (failNext tape.tokens fault : Descent (Option α))
      (Reader.failNext fault) := by
  intro before safe depth
  refine yields_bind (yields_of_eq (peek_eq tape safe.within) ?_)
  exact follows_failAt _ fault before safe depth

theorem follows_failLast (fault : SyntaxFault) :
    Follows tape collect keeps room (failLast tape.tokens fault : Descent (Option α))
      (Reader.failLast fault) := by
  intro before safe depth
  refine yields_bind (yields_of_eq (previous_eq tape safe.within) ?_)
  exact follows_failAt _ fault before safe depth

theorem follows_consume (kind : TokenKind) (fault : SyntaxFault) :
    Follows tape collect keeps room (consume tape.tokens kind fault) (Reader.expect kind fault) := by
  intro before safe depth
  have checks := check_eq tape kind safe.within
  cases wanted : (tape.cursor before.spot.position).sees [kind] with
  | false =>
    rw [wanted] at checks
    rw [Reader.expect_miss fault wanted]
    exact yields_bind (yields_of_eq checks (follows_failNext fault before safe depth))
  | true =>
    rw [wanted] at checks
    have inside := inside_of_sees safe.within wanted
    have after : Safe tape collect (passed before) :=
      safe_arrived safe inside (Nat.le_succ_of_le (Nat.le.intro depth))
    rw [Reader.expect_seen fault wanted, ← tape.cursor_succ inside]
    refine yields_bind (yields_of_eq checks ?_)
    refine yields_bind (yields_of_eq (advance_eq tape inside) (yields_pure ?_))
    exact ⟨after, Nat.le_succ _, fun _ => rfl, rfl, rfl, rfl⟩

/-! What frames a part of the machine: levels put back, a call noted, a level opened. -/

theorem yields_restoring {machine : Descent α} {holds : α → Progress → Prop}
    (yields : Yields machine before fun result after =>
      holds result (arrived { after.spot with depth := before.spot.depth } after)) :
    Yields (restoring machine) before holds := by
  obtain ⟨result, after, leads, held⟩ := yields
  exact yields_bind (yields_get (yields_bind (yields_of_eq leads ⟨_, _, rfl, held⟩)))

def left (declares : Bool) (before after : Progress) : Progress :=
  { after with calls := after.calls ++ [⟨declares, before.spot, after.spot⟩] }

theorem yields_called {machine : Descent α} {declares : Bool} {holds : α → Progress → Prop}
    (yields : Yields machine before fun result after => holds result (left declares before after)) :
    Yields (called declares machine) before holds := by
  obtain ⟨result, after, leads, held⟩ := yields
  exact yields_bind (yields_get (yields_bind (yields_of_eq leads ⟨_, _, rfl, held⟩)))

def deeper (before : Progress) : Progress :=
  arrived { before.spot with depth := before.spot.depth + 1 } before

theorem yields_nested {body : Descent (Option α)} {fault : SyntaxFault}
    {holds : Option α → Progress → Prop} (enough : before.spot.depth < maxNesting)
    (yields : Yields body (deeper before) holds) :
    Yields (nested tape.tokens fault body) before holds := by
  refine yields_bind (yields_get (yields_bind ⟨(), deeper before, rfl, ?_⟩))
  rw [if_neg (Nat.not_lt_of_le enough)]
  exact yields

theorem safe_deeper (safe : Safe tape collect before) (enough : before.spot.depth ≤ maxNesting) :
    Safe tape collect (deeper before) :=
  safe_arrived safe safe.within (Nat.succ_le_succ enough)

theorem safe_left {after : Progress} {declares : Bool} (safe : Safe tape collect after)
    (kept : after.spot.depth = before.spot.depth)
    (moved : declares = true → collect = true →
      before.spot.position < after.spot.position ∨ after.spot.position = tape.words.length) :
    Safe tape collect (left declares before after) := by
  refine ⟨safe.within, safe.visited, ?_, ?_⟩
  · show ∀ call ∈ after.calls ++ [_], _
    rw [List.forall_mem_append, List.forall_mem_singleton]
    exact ⟨safe.restored, kept⟩
  · intro collects
    show ∀ call ∈ after.calls ++ [_], _
    rw [List.forall_mem_append, List.forall_mem_singleton]
    exact ⟨safe.moved collects, fun declares => moved declares collects⟩

theorem follows_restoring {machine : Descent (Option α)} {reader : Reader α}
    (follows : Follows tape collect false room machine reader) :
    Follows tape collect true room (restoring machine) reader := by
  intro before safe depth
  obtain ⟨result, after, leads, comes⟩ := follows before safe depth
  have shallow : before.spot.depth ≤ maxNesting + 1 := Nat.le_succ_of_le (Nat.le.intro depth)
  refine yields_restoring (yields_of_eq leads ?_)
  exact ⟨safe_arrived comes.safe comes.safe.within shallow, comes.forward, fun _ => rfl, comes.tells⟩

theorem follows_called {machine : Descent (Option α)} {reader : Reader α}
    (follows : Follows tape collect true room machine reader) :
    Follows tape collect true room (called false machine) reader := by
  intro before safe depth
  obtain ⟨result, after, leads, comes⟩ := follows before safe depth
  refine yields_called (yields_of_eq leads ?_)
  exact ⟨safe_left comes.safe (comes.kept rfl) nofun, comes.forward, comes.kept, comes.tells⟩

theorem follows_nested_zero (fault : SyntaxFault) (body : Descent (Option α)) :
    Follows tape collect false 0 (nested tape.tokens fault body) (Reader.failNext fault) := by
  intro before safe depth
  have deep : maxNesting < before.spot.depth + 1 := Nat.lt_succ_of_le (Nat.le_of_eq depth.symm)
  have after : Safe tape collect (deeper before) := safe_deeper safe (Nat.le_of_eq depth)
  refine yields_bind (yields_get (yields_bind ⟨(), deeper before, rfl, ?_⟩))
  rw [if_pos deep]
  refine yields_bind (yields_of_eq (peek_eq tape after.within) ?_)
  refine yields_bind (yields_of_eq (errorAt_eq tape _ fault after.within) (yields_pure ?_))
  exact ⟨safe_errors after _, Nat.le_refl _, nofun, rfl, rfl, rfl⟩

theorem follows_nested {fault : SyntaxFault} {body : Descent (Option α)} {reader : Reader α}
    (follows : Follows tape collect false room body reader) :
    Follows tape collect false (room + 1) (nested tape.tokens fault body) reader := by
  intro before safe depth
  have enough : before.spot.depth < maxNesting := by omega
  have remaining : (deeper before).spot.depth + room = maxNesting := by
    show before.spot.depth + 1 + room = maxNesting
    omega
  obtain ⟨result, after, leads, comes⟩ :=
    follows (deeper before) (safe_deeper safe (Nat.le_of_lt enough)) remaining
  refine yields_nested enough (yields_of_eq leads ?_)
  exact ⟨comes.safe, comes.forward, nofun, comes.tells⟩

/-! The readers, from the parentheses outward. -/

theorem follows_primary (inside : Follows tape collect true room (expression tape.tokens)
      (Reader.expression room)) :
    Follows tape collect true room (primary tape.tokens) (Reader.primary room) := by
  rw [primary_unfold, Reader.primary_eq]
  refine follows_called (follows_ifTaken (fun token => follows_pure _) (follows_ifTaken ?_ ?_))
  · intro paren
    refine follows_andThen inside fun inner => ?_
    exact follows_andThen (follows_consume _ _) fun _ => follows_pure _
  · exact follows_failNext _

theorem follows_unary (operand : Follows tape collect true room (primary tape.tokens)
      (Reader.primary room))
    (deeper : ∀ less, room = less + 1 →
      Follows tape collect true less (unary tape.tokens) (Reader.unary less)) :
    Follows tape collect true room (unary tape.tokens) (Reader.unary room) := by
  rw [unary_unfold, Reader.unary]
  refine follows_called (follows_ifTaken ?_ operand)
  intro operator
  cases room with
  | zero => exact follows_restoring (follows_nested_zero _ _)
  | succ less =>
    refine follows_restoring (follows_nested ?_)
    exact follows_andThen (deeper less rfl) fun _ => follows_pure _

theorem follows_chain {operators : List TokenKind} {tighter : List (List TokenKind)} {left : Expr}
    (deeper : ∀ less, room = less + 1 →
      Follows tape collect true less (operation tape.tokens tighter) (Reader.operation tighter less) ∧
      ∀ left, Follows tape collect false less (chain tape.tokens operators tighter left)
        (Reader.chain operators tighter less left)) :
    Follows tape collect false room (chain tape.tokens operators tighter left)
      (Reader.chain operators tighter room left) := by
  rw [chain_unfold, Reader.chain]
  refine follows_ifTaken ?_ (follows_pure _)
  intro operator
  cases room with
  | zero => exact follows_nested_zero _ _
  | succ less =>
    obtain ⟨operand, further⟩ := deeper less rfl
    exact follows_nested (follows_andThen operand fun right => further _)

theorem follows_assignment
    (operand : Follows tape collect true room (operation tape.tokens Reader.tiers)
      (Reader.operation Reader.tiers room))
    (deeper : ∀ less, room = less + 1 →
      Follows tape collect true less (assignment tape.tokens) (Reader.assignment less)) :
    Follows tape collect true room (assignment tape.tokens) (Reader.assignment room) := by
  rw [assignment_unfold, Reader.assignment]
  refine follows_called (follows_andThen operand fun target => follows_ifTaken ?_ (follows_pure _))
  intro equals
  cases room with
  | zero => exact follows_restoring (follows_nested_zero _ _)
  | succ less =>
    refine follows_restoring (follows_nested (follows_andThen (deeper less rfl) fun value => ?_))
    cases target with
    | reference name => exact follows_pure _
    | _ => exact follows_failAt _ _

theorem follows_expression (room : Nat) :
    Follows tape collect true room (expression tape.tokens) (Reader.expression room) := by
  refine (Reader.expression_induction
    (fun room => Follows tape collect true room (expression tape.tokens) (Reader.expression room))
    (fun room => Follows tape collect true room (assignment tape.tokens) (Reader.assignment room))
    (fun room => Follows tape collect true room (unary tape.tokens) (Reader.unary room))
    (fun room => Follows tape collect true room (primary tape.tokens) (Reader.primary room))
    (fun levels room => Follows tape collect true room (operation tape.tokens levels)
      (Reader.operation levels room))
    (fun operators tighter room => ∀ left, Follows tape collect false room
      (chain tape.tokens operators tighter left) (Reader.chain operators tighter room left))
    ?_ ?_ (fun _ => follows_primary) (fun _ => follows_unary) ?_ ?_ ?_
    (fun _ => follows_assignment) room).1
  · rw [expression_unfold, Reader.expression]
    exact follows_called (follows_restoring (follows_nested_zero _ _))
  · intro room inside
    rw [expression_unfold, Reader.expression]
    exact follows_called (follows_restoring (follows_nested (follows_weaken inside)))
  · intro operators tighter room _ deeper left
    exact follows_chain deeper
  · intro room operand
    rw [operation_nil, Reader.operation]
    exact operand
  · intro operators tighter room _ operand further
    rw [operation_cons, Reader.operation]
    exact follows_called (follows_andThen operand fun left => follows_restoring (further left))

end Rules

end Descent

end Scriptlet
