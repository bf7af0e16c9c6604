import Scriptlet.Proofs.Readers
import Scriptlet.Proofs.TokenKinds

/-! Readers with tokens yet to come. A reader is steady if it does with more tokens what it did with those
ahead, and it can be mended if, where it asks for more, there are tokens to give it. Both are kept by the
ways that readers are put together. -/
namespace Scriptlet

/-- The error is for want of more tokens, and not of room. -/
def SyntaxError.asks (error : SyntaxError) : Bool :=
  error.truncated && error.fault != .expressionTooDeep && error.fault != .blockTooDeep

namespace Reader

variable {α β : Type} {fits fitsToo : List Token → Prop} {ahead : List Token}

def closers : List TokenKind := [.rightParen, .semicolon, .rightBrace]

def fillers : List TokenKind := .identifier :: closers

/-- Where a reader stops at the end of its tokens, what comes after may tell it to go on. Anything may
come after a statement, but after an expression only what ends it. -/
def Anything (_ : List Token) : Prop := True

def Misses (kinds : List TokenKind) (rest : List Token) : Prop :=
  ∀ token, rest.head? = some token → token.kind ∉ kinds

def Closing (rest : List Token) : Prop :=
  ∀ token, rest.head? = some token → token.kind ∈ closers

/-- What a reader does with the tokens ahead, it does with others after them: it succeeds alike, unless
it came to the end of them and what comes after does not fit, and where it does not ask for more it
fails. -/
structure Steady (fits : List Token → Prop) (reader : Reader α) (ahead : List Token) : Prop where
  passes : ∀ cursor value after, cursor.ahead = ahead → reader cursor = .ok value after →
    after.ahead <:+ ahead
  keeps : ∀ part whole rest value stop, part.ahead = ahead → whole.ahead = ahead ++ rest →
    reader part = .ok value stop → stop.ahead ≠ [] ∨ fits rest →
    ∃ after, reader whole = .ok value after ∧ after.ahead = stop.ahead ++ rest
  fails : ∀ part whole rest error stop, part.ahead = ahead → whole.ahead = ahead ++ rest →
    reader part = .error error stop → error.asks = false →
    ∃ other after, reader whole = .error other after

def Fills (fits : List Token → Prop) (reader : Reader α) (ahead : List Token)
    (kinds : List TokenKind) : Prop :=
  ∀ cursor more rest, cursor.ahead = ahead ++ (more ++ rest) → more.map (·.kind) = kinds → fits rest →
    ∃ value after, reader cursor = .ok value after ∧ after.ahead = rest

/-- Where the reader asks for more, it can be filled in. -/
def Asks (fits : List Token → Prop) (reader : Reader α) (ahead : List Token) : Prop :=
  ∀ cursor error stop, cursor.ahead = ahead → reader cursor = .error error stop → error.asks = true →
    ∃ kinds, kinds ≠ [] ∧ (∀ kind ∈ kinds, kind ∈ fillers) ∧ Fills fits reader ahead kinds

/-- The tokens can be passed from some aim on, so that every equals sign has a name in front of it, unless
it is the first of them. -/
def Passable (tokens : List Token) : Prop := ∃ aim : Aim, (aim.run tokens).isSome = true

structure Mends (fits : List Token → Prop) (reader : Reader α) : Prop where
  steady : ∀ ahead, Steady fits reader ahead
  asks : ∀ ahead, Passable ahead → Asks fits reader ahead

theorem passable_suffix {tokens rest : List Token} (passable : Passable tokens)
    (suffix : rest <:+ tokens) : Passable rest := by
  obtain ⟨front, rfl⟩ := suffix
  obtain ⟨aim, passes⟩ := passable
  rw [Aim.run_append] at passes
  cases middle : aim.run front with
  | none => simp [middle] at passes
  | some between => exact ⟨between, by simpa [middle] using passes⟩

theorem closing_misses {kinds : List TokenKind} (apart : ∀ kind ∈ kinds, kind ∉ fillers)
    {rest : List Token} (closing : Closing rest) : Misses kinds rest := by
  intro token head listed
  exact apart _ listed (List.mem_cons_of_mem _ (closing token head))

theorem filled_misses {kinds filled : List TokenKind} (apart : ∀ kind ∈ kinds, kind ∉ fillers)
    (some : filled ≠ []) (filling : ∀ kind ∈ filled, kind ∈ fillers) {more : List Token}
    (same : more.map (·.kind) = filled) (rest : List Token) : Misses kinds (more ++ rest) := by
  intro token head listed
  cases more with
  | nil => exact some same.symm
  | cons first others =>
    cases head
    refine apart _ listed (filling _ ?_)
    rw [← same]
    exact List.mem_cons_self

/-! One step after another. -/

namespace Steady

theorem narrow {reader : Reader α} (steady : Steady fits reader ahead)
    (within : ∀ rest, fitsToo rest → fits rest) : Steady fitsToo reader ahead :=
  ⟨steady.passes,
    fun part whole rest value stop here there reads also =>
      steady.keeps part whole rest value stop here there reads (also.imp_right (within rest)),
    steady.fails⟩

theorem pure (value : α) : Steady fits (pure value : Reader α) ahead where
  passes := by
    rintro cursor _ _ rfl reads
    cases reads
    exact List.suffix_refl _
  keeps := by
    rintro part whole rest _ _ rfl there reads _
    cases reads
    exact ⟨whole, rfl, there⟩
  fails := by
    intro part whole rest error stop _ _ reads
    cases reads

/-- A reader that fails with these tokens ahead: it asks for more there, or fails whatever comes after. -/
theorem refusing {reader : Reader α}
    (refuses : ∀ cursor, cursor.ahead = ahead → ∃ error stop, reader cursor = .error error stop ∧
      (error.asks = false → ∀ whole rest, whole.ahead = ahead ++ rest →
        ∃ other after, reader whole = .error other after)) : Steady fits reader ahead where
  passes := by
    intro cursor value after here reads
    obtain ⟨error, stop, same, -⟩ := refuses cursor here
    rw [same] at reads
    cases reads
  keeps := by
    intro part whole rest value stop here _ reads
    obtain ⟨error, last, same, -⟩ := refuses part here
    rw [same] at reads
    cases reads
  fails := by
    intro part whole rest error stop here there reads quiet
    obtain ⟨other, last, same, still⟩ := refuses part here
    rw [same] at reads
    cases reads
    exact still quiet whole rest there

theorem failing {reader : Reader α}
    (fails : ∀ cursor rest, cursor.ahead = ahead ++ rest →
      ∃ error after, reader cursor = .error error after) : Steady fits reader ahead := by
  refine refusing fun cursor here => ?_
  obtain ⟨error, stop, same⟩ := fails cursor [] (by simp [here])
  exact ⟨error, stop, same, fun _ whole rest there => fails whole rest there⟩

end Steady

/-- With these tokens ahead, and whatever comes after them, a reader does what another does with those of
them that are left. -/
structure Hands (reader further : Reader α) (ahead left : List Token) : Prop where
  suffix : left <:+ ahead
  same : ∀ cursor rest, cursor.ahead = ahead ++ rest →
    ∃ moved : Cursor, moved.ahead = left ++ rest ∧ reader cursor = further moved

namespace Hands

variable {reader : Reader α} {left : List Token}

theorem behind (further : Reader α) {token : Token} {others : List Token}
    (hands : ∀ last rest final, reader ⟨last, token :: rest, final⟩ = further ⟨token, rest, final⟩) :
    Hands reader further (token :: others) others where
  suffix := List.suffix_cons _ _
  same := by
    rintro ⟨last, _, final⟩ rest rfl
    exact ⟨⟨token, others ++ rest, final⟩, rfl, hands last (others ++ rest) final⟩

theorem before (further : Reader α) {token : Token} {others : List Token}
    (hands : ∀ last rest final,
      reader ⟨last, token :: rest, final⟩ = further ⟨last, token :: rest, final⟩) :
    Hands reader further (token :: others) (token :: others) where
  suffix := List.suffix_refl _
  same := by
    rintro ⟨last, _, final⟩ rest rfl
    exact ⟨_, rfl, hands last (others ++ rest) final⟩

variable {further : Reader α}

theorem alone (hands : Hands reader further ahead left) {cursor : Cursor} (here : cursor.ahead = ahead) :
    ∃ moved : Cursor, moved.ahead = left ∧ reader cursor = further moved := by
  simpa using hands.same cursor [] (by simp [here])

theorem steady (hands : Hands reader further ahead left) (steady : Steady fits further left) :
    Steady fits reader ahead where
  passes := by
    intro cursor value after here reads
    obtain ⟨moved, ahead, same⟩ := hands.alone here
    rw [same] at reads
    exact (steady.passes moved value after ahead reads).trans hands.suffix
  keeps := by
    intro part whole rest value stop here there reads also
    obtain ⟨moved, ahead, same⟩ := hands.alone here
    obtain ⟨movedToo, aheadToo, sameToo⟩ := hands.same whole rest there
    rw [same] at reads
    rw [sameToo]
    exact steady.keeps moved movedToo rest value stop ahead aheadToo reads also
  fails := by
    intro part whole rest error stop here there reads quiet
    obtain ⟨moved, ahead, same⟩ := hands.alone here
    obtain ⟨movedToo, aheadToo, sameToo⟩ := hands.same whole rest there
    rw [same] at reads
    rw [sameToo]
    exact steady.fails moved movedToo rest error stop ahead aheadToo reads quiet

theorem asks (hands : Hands reader further ahead left) (asks : Asks fits further left) :
    Asks fits reader ahead := by
  intro cursor error stop here reads asking
  obtain ⟨moved, ahead, same⟩ := hands.alone here
  rw [same] at reads
  obtain ⟨kinds, some, filling, fills⟩ := asks moved error stop ahead reads asking
  refine ⟨kinds, some, filling, fun whole more rest there kindred fitting => ?_⟩
  obtain ⟨movedToo, aheadToo, sameToo⟩ := hands.same whole (more ++ rest) there
  rw [sameToo]
  exact fills movedToo more rest aheadToo kindred fitting

end Hands

/-- What a second reader does where the first has come to the end. If it succeeds there, what fits it
fits the first one too; if it fails there, it asks for more. -/
def Ending (fits fitsToo : List Token → Prop) (reader : Reader β) : Prop :=
  ∀ cursor, cursor.ahead = [] → match reader cursor with
    | .ok _ _ => ∀ rest, fitsToo rest → fits rest
    | .error error _ => error.asks = true

theorem ending_of_asking {reader : Reader β}
    (asks : ∀ cursor, cursor.ahead = [] →
      ∃ error stop, reader cursor = .error error stop ∧ error.asks = true) :
    Ending fits fitsToo reader := by
  intro cursor finished
  obtain ⟨error, stop, fails, asking⟩ := asks cursor finished
  rw [fails]
  exact asking

theorem Steady.bind {first : Reader α} {next : α → Reader β} (steady : Steady fits first ahead)
    (further : ∀ cursor value stop, cursor.ahead = ahead → first cursor = .ok value stop →
      Steady fitsToo (next value) stop.ahead)
    (ending : ∀ value, Ending fits fitsToo (next value)) : Steady fitsToo (first >>= next) ahead where
  passes := by
    intro cursor result after here reads
    obtain ⟨value, middle, starts, continues⟩ := bind_eq_ok.mp reads
    exact ((further cursor value middle here starts).passes middle result after rfl continues).trans
      (steady.passes cursor value middle here starts)
  keeps := by
    intro part whole rest result stop here there reads also
    obtain ⟨value, middle, starts, continues⟩ := bind_eq_ok.mp reads
    have onward := further part value middle here starts
    -- If the first reader came to the end, so does the second, and then what comes after fits both.
    have kept : middle.ahead ≠ [] ∨ fits rest := by
      by_cases finished : middle.ahead = []
      · right
        have ended := onward.passes middle result stop rfl continues
        rw [finished, List.suffix_nil] at ended
        have fitting := ending value middle finished
        rw [continues] at fitting
        exact fitting rest (also.resolve_left fun more => more ended)
      · exact .inl finished
    obtain ⟨between, same, left⟩ :=
      steady.keeps part whole rest value middle here there starts kept
    rw [bind_of_ok next same]
    exact onward.keeps middle between rest result stop rfl left continues also
  fails := by
    intro part whole rest error stop here there reads quiet
    rw [bind_run] at reads
    cases outcome : first part with
    | error early middle =>
      simp only [outcome] at reads
      cases reads
      obtain ⟨other, after, same⟩ := steady.fails part whole rest error stop here there outcome quiet
      exact ⟨other, after, bind_of_error next same⟩
    | ok value middle =>
      simp only [outcome] at reads
      by_cases finished : middle.ahead = []
      · have asking := ending value middle finished
        rw [reads] at asking
        exact absurd asking (by simp [quiet])
      · obtain ⟨between, same, left⟩ := steady.keeps part whole rest value middle here there outcome
          (.inl finished)
        rw [bind_of_ok next same]
        exact (further part value middle here outcome).fails middle between rest error stop rfl left reads
          quiet

namespace Asks

theorem narrow {reader : Reader α} (asks : Asks fits reader ahead)
    (within : ∀ rest, fitsToo rest → fits rest) : Asks fitsToo reader ahead := by
  intro cursor error stop here reads asking
  obtain ⟨kinds, some, filling, fills⟩ := asks cursor error stop here reads asking
  exact ⟨kinds, some, filling, fun whole more rest there same fitting =>
    fills whole more rest there same (within rest fitting)⟩

theorem pure (value : α) : Asks fits (pure value : Reader α) ahead := by
  intro cursor error stop _ reads
  cases reads

theorem quiet {reader : Reader α}
    (quiet : ∀ cursor error stop, cursor.ahead = ahead → reader cursor = .error error stop →
      error.asks = false) : Asks fits reader ahead := by
  intro cursor error stop here reads asking
  rw [quiet cursor error stop here reads] at asking
  cases asking

end Asks

/-- What is to be filled in for a second reader where the first has come to the end: nothing, or tokens
that fit the first one. -/
inductive Tails (fits fitsToo : List Token → Prop) (next : α → Reader β) : Prop
  | content (within : ∀ rest, fitsToo rest → fits rest) (nothing : fitsToo [])
      (takes : ∀ value, Fills fitsToo (next value) [] [])
  | wanting (kinds : List TokenKind) (some : kinds ≠ []) (filling : ∀ kind ∈ kinds, kind ∈ fillers)
      (ends : ∀ more rest, more.map (·.kind) = kinds → fits (more ++ rest))
      (refuses : ∀ value cursor, cursor.ahead = [] →
        ∃ error stop, next value cursor = .error error stop ∧ error.asks = true)
      (takes : ∀ value, Fills fitsToo (next value) [] kinds)

theorem Tails.ending {next : α → Reader β} (tails : Tails fits fitsToo next) (value : α) :
    Ending fits fitsToo (next value) := by
  cases tails with
  | content within nothing takes =>
    intro cursor finished
    obtain ⟨result, after, same, -⟩ := takes value cursor [] [] (by simp [finished]) rfl nothing
    rw [same]
    exact within
  | wanting kinds some filling ends refuses takes => exact ending_of_asking (refuses value)

theorem Tails.fills {next : α → Reader β} (tails : Tails fits fitsToo next) :
    ∃ kinds, (∀ kind ∈ kinds, kind ∈ fillers) ∧
      (∀ more rest, more.map (·.kind) = kinds → fitsToo rest → fits (more ++ rest)) ∧
      (∀ value, Fills fitsToo (next value) [] kinds) ∧
      ∀ value cursor error stop, cursor.ahead = [] → next value cursor = .error error stop →
        kinds ≠ [] := by
  cases tails with
  | content within nothing takes =>
    refine ⟨[], by simp, ?_, takes, ?_⟩
    · intro more rest same fitting
      obtain rfl := List.map_eq_nil_iff.mp same
      exact within rest fitting
    · intro value cursor error stop finished fails
      obtain ⟨result, after, same, -⟩ := takes value cursor [] [] (by simp [finished]) rfl nothing
      rw [same] at fails
      cases fails
  | wanting kinds some filling ends refuses takes =>
    exact ⟨kinds, filling, fun more rest same _ => ends more rest same, takes, fun _ _ _ _ _ _ => some⟩

theorem Asks.bind {first : Reader α} {next : α → Reader β} (steady : Steady fits first ahead)
    (asks : Asks fits first ahead)
    (further : ∀ cursor value stop, cursor.ahead = ahead → first cursor = .ok value stop →
      stop.ahead ≠ [] → Asks fitsToo (next value) stop.ahead)
    (tails : Tails fits fitsToo next) : Asks fitsToo (first >>= next) ahead := by
  intro cursor error stop here reads asking
  obtain ⟨tail, filling, ends, takes, some⟩ := tails.fills
  rw [bind_run] at reads
  cases outcome : first cursor with
  | error early middle =>
    -- The first reader asks, and the second may ask on top of it.
    simp only [outcome] at reads
    cases reads
    obtain ⟨kinds, someToo, fillingToo, fills⟩ := asks cursor error stop here outcome asking
    refine ⟨kinds ++ tail, by simp [someToo], List.forall_mem_append.mpr ⟨fillingToo, filling⟩, ?_⟩
    intro whole more rest there same fitting
    obtain ⟨front, back, rfl, sameFront, sameBack⟩ := List.map_eq_append_iff.mp same
    rw [List.append_assoc] at there
    obtain ⟨value, between, reads, left⟩ :=
      fills whole front (back ++ rest) there sameFront (ends back rest sameBack fitting)
    rw [bind_of_ok next reads]
    exact takes value between back rest left sameBack fitting
  | ok value middle =>
    simp only [outcome] at reads
    by_cases finished : middle.ahead = []
    · -- The first reader came through with nothing left, so the second one alone is to be given more.
      refine ⟨tail, some value middle error stop finished reads, filling, ?_⟩
      intro whole more rest there same fitting
      obtain ⟨between, readsToo, left⟩ := steady.keeps cursor whole (more ++ rest) value middle here
        there outcome (.inr (ends more rest same fitting))
      rw [bind_of_ok next readsToo]
      exact takes value between more rest (by simpa [finished] using left) same fitting
    · obtain ⟨kinds, someToo, fillingToo, fills⟩ :=
        further cursor value middle here outcome finished middle error stop rfl reads asking
      refine ⟨kinds, someToo, fillingToo, ?_⟩
      intro whole more rest there same fitting
      obtain ⟨between, readsToo, left⟩ := steady.keeps cursor whole (more ++ rest) value middle here
        there outcome (.inl finished)
      rw [bind_of_ok next readsToo]
      exact fills between more rest left same fitting

theorem Mends.narrow {reader : Reader α} (mends : Mends fits reader)
    (within : ∀ rest, fitsToo rest → fits rest) : Mends fitsToo reader :=
  ⟨fun ahead => (mends.steady ahead).narrow within,
    fun ahead passable => (mends.asks ahead passable).narrow within⟩

theorem Mends.bind {first : Reader α} {next : α → Reader β} (mends : Mends fits first)
    (further : ∀ value, Mends fitsToo (next value)) (tails : Tails fits fitsToo next) :
    Mends fitsToo (first >>= next) where
  steady := fun ahead =>
    (mends.steady ahead).bind (fun _ value stop _ _ => (further value).steady stop.ahead) tails.ending
  asks := by
    intro ahead passable
    refine Asks.bind (mends.steady ahead) (mends.asks ahead passable) ?_ tails
    intro cursor value stop here reads _
    have suffix := (mends.steady ahead).passes cursor value stop here reads
    exact (further value).asks stop.ahead (passable_suffix passable suffix)

theorem Mends.pure (value : α) : Mends fits (pure value : Reader α) :=
  ⟨fun _ => .pure value, fun _ _ => .pure value⟩

/-- A reader that fails where nothing is left, and otherwise is told by the first token what to do. -/
theorem Mends.byFirst {reader : Reader α} {kinds : List TokenKind} (some : kinds ≠ [])
    (filling : ∀ kind ∈ kinds, kind ∈ fillers)
    (refuses : ∀ cursor, cursor.ahead = [] →
      ∃ error stop, reader cursor = .error error stop ∧ error.asks = true)
    (takes : Fills fits reader [] kinds)
    (starts : ∀ token others,
      (∃ further left, Mends fits further ∧ Hands reader further (token :: others) left) ∨
      ∀ cursor rest, cursor.ahead = token :: rest →
        ∃ error stop, reader cursor = .error error stop ∧ error.asks = false) : Mends fits reader where
  steady := by
    intro ahead
    cases ahead with
    | nil =>
      refine .refusing fun cursor finished => ?_
      obtain ⟨error, stop, fails, asking⟩ := refuses cursor finished
      exact ⟨error, stop, fails, fun quiet => absurd asking (by simp [quiet])⟩
    | cons token others =>
      rcases starts token others with ⟨further, left, mends, hands⟩ | fails
      · exact hands.steady (mends.steady left)
      · refine .failing fun cursor rest here => ?_
        obtain ⟨error, stop, same, -⟩ := fails cursor (others ++ rest) here
        exact ⟨error, stop, same⟩
  asks := by
    intro ahead passable
    cases ahead with
    | nil => exact fun cursor error stop _ _ _ => ⟨kinds, some, filling, takes⟩
    | cons token others =>
      rcases starts token others with ⟨further, left, mends, hands⟩ | fails
      · exact hands.asks (mends.asks left (passable_suffix passable hands.suffix))
      · refine .quiet fun cursor error stop here reads => ?_
        obtain ⟨other, last, same, quiet⟩ := fails cursor others here
        rw [same] at reads
        cases reads
        exact quiet

theorem tails_pure {γ : Type} (nothing : fits []) (result : α → γ) :
    Tails fits fits fun value => (pure (result value) : Reader γ) :=
  .content (fun _ fitting => fitting) nothing fun value cursor more rest there same _ => by
    obtain rfl := List.map_eq_nil_iff.mp same
    exact ⟨result value, cursor, rfl, there⟩

/-! Looking at a token. -/

theorem miss_of_misses {kinds : List TokenKind} {cursor : Cursor} (misses : Misses kinds cursor.ahead) :
    accept? kinds cursor = .ok none cursor := by
  obtain ⟨last, ahead, final⟩ := cursor
  cases ahead with
  | nil => exact accept_miss rfl
  | cons token rest =>
    refine accept_miss ?_
    have unlisted := misses token rfl
    simpa [sees_cons] using unlisted

section Looking

variable {kinds : List TokenKind} {next : Option Token → Reader α} {token : Token} {others : List Token}

theorem hands_hit (listed : token.kind ∈ kinds) :
    Hands (accept? kinds >>= next) (next (some token)) (token :: others) others :=
  .behind _ fun last rest final => bind_of_ok _ (accept_hit last final rest (by simpa using listed))

theorem hands_miss (unlisted : token.kind ∉ kinds) :
    Hands (accept? kinds >>= next) (next none) (token :: others) (token :: others) :=
  .before _ fun _ _ _ => bind_of_ok _ (accept_miss (by simpa [sees_cons] using unlisted))

end Looking

theorem Steady.accept {kinds : List TokenKind} {next : Option Token → Reader α}
    (hit : ∀ token rest, token.kind ∈ kinds → Steady fits (next (some token)) rest)
    (miss : ∀ rest, Steady fits (next none) rest)
    (ending : Ending (Misses kinds) fits (next none)) (ahead : List Token) :
    Steady fits (accept? kinds >>= next) ahead := by
  cases ahead with
  | cons token others =>
    by_cases listed : token.kind ∈ kinds
    · exact (hands_hit listed).steady (hit token others listed)
    · exact (hands_miss listed).steady (miss (token :: others))
  | nil =>
    -- There is no token to look at, and the way without is taken. It is taken with the rest as well, as
    -- long as no token of the kinds is the first of it.
    have stays {cursor : Cursor} (finished : cursor.ahead = []) :
        (accept? kinds >>= next) cursor = next none cursor :=
      bind_of_ok _ (miss_of_misses (by simp [finished, Misses]))
    constructor
    · intro cursor value after here reads
      rw [stays here] at reads
      exact (miss []).passes cursor value after here reads
    · intro part whole rest value stop here there reads also
      rw [stays here] at reads
      have none := (miss []).passes part value stop here reads
      have fitting := ending part here
      rw [reads] at fitting
      have fitted := also.resolve_left fun more => more (List.suffix_nil.mp none)
      have misses : Misses kinds whole.ahead := by simpa [there] using fitting rest fitted
      rw [bind_of_ok _ (miss_of_misses misses)]
      exact (miss []).keeps part whole rest value stop here there reads also
    · intro part whole rest error stop here _ reads quiet
      rw [stays here] at reads
      have asking := ending part here
      rw [reads] at asking
      exact absurd asking (by simp [quiet])

theorem Asks.accept {kinds : List TokenKind} {next : Option Token → Reader α}
    (apart : ∀ kind ∈ kinds, kind ∉ fillers)
    (hit : ∀ token rest, token.kind ∈ kinds → ahead = token :: rest → Asks fits (next (some token)) rest)
    (miss : Asks fits (next none) ahead) : Asks fits (accept? kinds >>= next) ahead := by
  cases ahead with
  | cons token others =>
    by_cases listed : token.kind ∈ kinds
    · exact (hands_hit listed).asks (hit token others listed rfl)
    · exact (hands_miss listed).asks miss
  | nil =>
    intro cursor error stop here reads asking
    rw [bind_of_ok _ (miss_of_misses (by simp [here, Misses]))] at reads
    obtain ⟨filled, some, filling, fills⟩ := miss cursor error stop here reads asking
    refine ⟨filled, some, filling, ?_⟩
    intro whole more rest there same fitting
    have misses : Misses kinds whole.ahead := by
      rw [there]
      exact filled_misses apart some filling same rest
    rw [bind_of_ok _ (miss_of_misses misses)]
    exact fills whole more rest there same fitting

theorem Mends.accept {kinds : List TokenKind} {next : Option Token → Reader α}
    (apart : ∀ kind ∈ kinds, kind ∉ fillers)
    (hit : ∀ token, token.kind ∈ kinds → Mends fits (next (some token)))
    (miss : Mends fits (next none)) (ending : Ending (Misses kinds) fits (next none)) :
    Mends fits (accept? kinds >>= next) where
  steady := Steady.accept (fun token rest listed => (hit token listed).steady rest) miss.steady ending
  asks := by
    intro ahead passable
    refine Asks.accept apart ?_ (miss.asks ahead passable)
    rintro token rest listed rfl
    exact (hit token listed).asks rest (passable_suffix passable (List.suffix_cons _ _))

/-! A token that must come. -/

def deepFaults : List SyntaxFault := [.expressionTooDeep, .blockTooDeep]

theorem asks_errorAt {fault : SyntaxFault} (shallow : fault ∉ deepFaults) (cursor : Cursor)
    (token : Token) : (cursor.errorAt token fault).asks = cursor.atEnd := by
  simp only [deepFaults, List.mem_cons, List.not_mem_nil, or_false, not_or,
    ← bne_iff_ne] at shallow
  simp [SyntaxError.asks, Cursor.errorAt, shallow]

def demandLast (kind : TokenKind) (fault : SyntaxFault) (result : β) : Reader β := do
  match ← accept? [kind] with
  | some _ => pure result
  | none => failLast fault

structure Demands (kind : TokenKind) (result : Token → β) (reader : Reader β) : Prop where
  hit : ∀ last token rest final, token.kind = kind →
    reader ⟨last, token :: rest, final⟩ = .ok (result token) ⟨token, rest, final⟩
  miss : ∀ cursor, cursor.sees [kind] = false →
    ∃ error, reader cursor = .error error cursor ∧ error.asks = cursor.atEnd

namespace Demands

variable {kind : TokenKind}

theorem expect {fault : SyntaxFault} (shallow : fault ∉ deepFaults) (result : β) :
    Demands kind (fun _ => result) (do
      let _ ← expect kind fault
      pure result) where
  hit := fun last _ rest final same => bind_of_ok _ (expect_hit fault last final rest same)
  miss := by
    intro cursor unseen
    refine ⟨cursor.errorAt cursor.next fault, ?_, asks_errorAt shallow cursor _⟩
    exact bind_of_error _ (expect_miss fault unseen)

theorem name {fault : SyntaxFault} (shallow : fault ∉ deepFaults) :
    Demands kind id (Reader.expect kind fault) where
  hit := fun last _ rest final same => expect_hit fault last final rest same
  miss := fun cursor unseen =>
    ⟨cursor.errorAt cursor.next fault, expect_miss fault unseen, asks_errorAt shallow cursor _⟩

theorem last {fault : SyntaxFault} (shallow : fault ∉ deepFaults) (result : β) :
    Demands kind (fun _ => result) (demandLast kind fault result) where
  hit := fun last _ rest final same =>
    bind_of_ok _ (accept_hit last final rest (by simp [same]))
  miss := fun cursor unseen =>
    ⟨cursor.errorAt cursor.last fault, bind_of_ok _ (accept_miss unseen), asks_errorAt shallow cursor _⟩

variable {reader : Reader β} {result : Token → β}

theorem refuses (demands : Demands kind result reader) {cursor : Cursor} (finished : cursor.ahead = []) :
    ∃ error stop, reader cursor = .error error stop ∧ error.asks = true := by
  obtain ⟨error, fails, asks⟩ := demands.miss cursor (by simp [Cursor.sees, finished])
  exact ⟨error, cursor, fails, by simp [asks, Cursor.atEnd, finished]⟩

theorem takes (demands : Demands kind result reader) : Fills Anything reader [] [kind] := by
  rintro ⟨last, _, final⟩ more rest rfl same _
  obtain ⟨token, rfl, wanted⟩ := List.map_eq_singleton_iff.mp same
  exact ⟨_, _, demands.hit last token rest final wanted, rfl⟩

theorem mends (demands : Demands kind result reader) (filler : kind ∈ fillers) :
    Mends Anything reader := by
  refine Mends.byFirst (List.cons_ne_nil kind []) (by simpa using filler)
    (fun cursor finished => demands.refuses finished) demands.takes fun token others => ?_
  by_cases same : token.kind = kind
  · exact .inl ⟨pure (result token), others, .pure _,
      .behind _ fun last rest final => demands.hit last token rest final same⟩
  · refine .inr fun cursor rest here => ?_
    obtain ⟨error, fails, asks⟩ := demands.miss cursor (by simpa [Cursor.sees, here] using same)
    exact ⟨error, cursor, fails, by simp [asks, Cursor.atEnd, here]⟩

theorem tails {next : α → Reader β} {results : α → Token → β}
    (demands : ∀ value, Demands kind (results value) (next value)) (filler : kind ∈ fillers)
    (ends : ∀ token rest, token.kind = kind → fits (token :: rest)) : Tails fits Anything next := by
  refine .wanting [kind] (by simp) (by simpa using filler) ?_
    (fun value cursor finished => (demands value).refuses finished) fun value => (demands value).takes
  intro more rest same
  obtain ⟨token, rfl, wanted⟩ := List.map_eq_singleton_iff.mp same
  exact ends token rest wanted

end Demands

theorem closing_cons {kind : TokenKind} (closes : kind ∈ closers) (token : Token) (rest : List Token)
    (same : token.kind = kind) : Closing (token :: rest) := by
  rintro other head
  cases head
  exact same ▸ closes

theorem closing_nil : Closing [] := fun _ head => nomatch head

theorem mends_tooDeep {fault : SyntaxFault} (deep : fault ∈ deepFaults) :
    Mends fits (failNext fault : Reader α) where
  steady := fun _ => .failing fun cursor _ _ => ⟨_, cursor, rfl⟩
  asks := by
    intro ahead _
    refine .quiet fun cursor error stop _ reads => ?_
    cases reads
    simp only [deepFaults, List.mem_cons, List.not_mem_nil, or_false] at deep
    rcases deep with rfl | rfl <;> simp [SyntaxError.asks, Cursor.errorAt]

end Reader
end Scriptlet
