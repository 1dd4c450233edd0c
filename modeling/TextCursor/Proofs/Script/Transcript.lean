import TextCursor.Proofs.Script.LineRun

/-!
# Transcripts of runs

A run that succeeds has executed the commands of its lines one after the other and has recorded what
they came to, one step for each line with a token: this is `Session.Completes`. A run that fails has
completed the lines before one that stops it. The lines after that one play no part, because
`Session.runLines_append` lets a run go on from wherever the lines before have led.
-/

namespace TextCursor

namespace Text

/-- The bytes of lines that all end in a line break. -/
def linesSize : List Text → Nat
  | [] => 0
  | line :: rest => utf8Size line + 1 + linesSize rest

@[simp]
theorem linesSize_nil : linesSize [] = 0 := rfl

@[simp]
theorem linesSize_cons (line : Text) (lines : List Text) :
    linesSize (line :: lines) = utf8Size line + 1 + linesSize lines := rfl

end Text

namespace Session

open Script

/-- Commands that succeed one after the other, with what they come to. -/
inductive Performs : Session → List Command → List Outcome → Session → Prop where
  | nil (session : Session) : Performs session [] [] session
  | cons {session next final : Session} {command : Command} {outcome : Outcome}
      {commands : List Command} {outcomes : List Outcome}
      (executed : session.execute command = (.ok outcome, next))
      (others : Performs next commands outcomes final) :
      Performs session (command :: commands) (outcome :: outcomes) final

/--
Whether lines are run to their end: each is read and expects nothing without a command, and those
with a token are commands that succeed in their order and are the steps.
-/
def Completes (session : Session) (lines : List PlacedLine) (steps : List Step)
    (final : Session) : Prop :=
  (∀ placed ∈ lines, ∃ line, placed.read = .ok line ∧
      (line.tokens = [] → line.expectation? = none)) ∧
    ∃ entries : List Entry, entries.map Entry.placed = lines.filter PlacedLine.hasToken ∧
      session.Performs (entries.map Entry.command) (entries.map Entry.outcome) final ∧
      entries.map Entry.step = steps

variable {session next final : Session} {placed : PlacedLine} {lines : List PlacedLine}
  {steps : List Step}

theorem completes_nil_iff : session.Completes [] steps final ↔ steps = [] ∧ final = session := by
  constructor
  · rintro ⟨-, entries, places, performs, rfl⟩
    rw [List.filter_nil, List.map_eq_nil_iff] at places
    subst places
    cases performs
    exact ⟨rfl, rfl⟩
  · rintro ⟨rfl, rfl⟩
    exact ⟨by simp, [], rfl, .nil final, rfl⟩

theorem completes_cons_of_passes {step? : Option Step} (passes : session.Passes placed step? next)
    (completes : next.Completes lines steps final) :
    session.Completes (placed :: lines) (step?.toList ++ steps) final := by
  rcases completes with ⟨readable, entries, places, performs, rfl⟩
  cases passes with
  | empty read =>
      have noToken : placed.hasToken = false := by simp [PlacedLine.hasToken, read]
      refine ⟨?_, entries, ?_, performs, rfl⟩
      · intro other mem
        rcases List.mem_cons.1 mem with rfl | mem
        · exact ⟨_, read, fun _ => rfl⟩
        · exact readable other mem
      · rw [List.filter_cons_of_neg (by simp [noToken]), places]
  | command entry same executed =>
      subst same
      refine ⟨?_, entry :: entries, ?_, .cons executed performs, rfl⟩
      · intro other mem
        rcases List.mem_cons.1 mem with rfl | mem
        · exact ⟨_, entry.read, fun empty => absurd empty entry.tokens_ne_nil⟩
        · exact readable other mem
      · rw [List.filter_cons_of_pos entry.hasToken, List.map_cons, places]

theorem exists_passes_of_completes_cons
    (completes : session.Completes (placed :: lines) steps final) :
    ∃ step? next others, session.Passes placed step? next ∧ next.Completes lines others final ∧
      steps = step?.toList ++ others := by
  rcases completes with ⟨readable, entries, places, performs, rfl⟩
  have othersReadable : ∀ other ∈ lines, ∃ line, other.read = .ok line ∧
      (line.tokens = [] → line.expectation? = none) := by
    intro other mem
    exact readable other (by simp [mem])
  rcases readable placed (by simp) with ⟨line, read, bare⟩
  by_cases empty : line.tokens = []
  · have noToken : placed.hasToken = false := by simp [PlacedLine.hasToken, read, empty]
    have whole : line = ⟨[], none⟩ := by rw [← empty, ← bare empty]
    rw [List.filter_cons_of_neg (by simp [noToken])] at places
    rw [whole] at read
    exact ⟨none, session, _, .empty read, ⟨othersReadable, entries, places, performs, rfl⟩, rfl⟩
  · have token : placed.hasToken = true := by simp [PlacedLine.hasToken, read, empty]
    rw [List.filter_cons_of_pos token] at places
    rcases List.map_eq_cons_iff.1 places with ⟨entry, others, rfl, same, otherPlaces⟩
    cases performs with
    | cons executed performs =>
        exact ⟨some entry.step, _, _, .command entry same executed,
          ⟨othersReadable, others, otherPlaces, performs, rfl⟩, rfl⟩

variable {number start : Nat} {text : Text} {texts before : List Text} {error : Error}

theorem runLines_cons_of_passes {step? : Option Step}
    (passes : session.Passes ⟨number, start, text⟩ step? next) (rest : List Text) :
    session.runLines number start (text :: rest) =
      ((next.runLines (number + 1) (start + text.utf8Size + 1) rest).1.map (step?.toList ++ ·),
        (next.runLines (number + 1) (start + text.utf8Size + 1) rest).2) := by
  simp only [runLines, runLine_of_passes passes]

theorem runLines_cons_of_stops (stops : session.Stops ⟨number, start, text⟩ error final)
    (rest : List Text) : session.runLines number start (text :: rest) = (.error error, final) := by
  simp only [runLines, runLine_of_stops stops]

/-- A run of lines goes on from where the lines before have led. -/
theorem runLines_append
    (completes : session.Completes (PlacedLine.place number start before) steps next)
    (after : List Text) :
    session.runLines number start (before ++ after) =
      ((next.runLines (number + before.length) (start + Text.linesSize before) after).1.map
          (steps ++ ·),
        (next.runLines (number + before.length) (start + Text.linesSize before) after).2) := by
  induction before generalizing session number start steps with
  | nil =>
      rcases completes_nil_iff.1 completes with ⟨rfl, rfl⟩
      cases ran : next.runLines number start after with
      | mk result final => cases result <;> simp [ran, Except.map]
  | cons text rest ih =>
      rcases exists_passes_of_completes_cons completes with
        ⟨step?, middle, others, passes, restCompletes, rfl⟩
      rw [List.cons_append, runLines_cons_of_passes passes, ih restCompletes, List.length_cons,
        Text.linesSize_cons]
      have number_eq : number + 1 + rest.length = number + (rest.length + 1) := by omega
      have start_eq : start + text.utf8Size + 1 + Text.linesSize rest =
          start + (text.utf8Size + 1 + Text.linesSize rest) := by omega
      rw [number_eq, start_eq]
      cases ran : next.runLines (number + (rest.length + 1))
          (start + (text.utf8Size + 1 + Text.linesSize rest)) after with
      | mk result final => cases result <;> simp [Except.map]

theorem runLines_of_completes
    (completes : session.Completes (PlacedLine.place number start texts) steps final) :
    session.runLines number start texts = (.ok steps, final) := by
  have whole := runLines_append completes []
  rw [List.append_nil] at whole
  simpa [runLines, Except.map] using whole

theorem runLines_of_stops
    (completes : session.Completes (PlacedLine.place number start before) steps next)
    (stops : next.Stops ⟨number + before.length, start + Text.linesSize before, text⟩ error final)
    (after : List Text) :
    session.runLines number start (before ++ text :: after) = (.error error, final) := by
  rw [runLines_append completes, runLines_cons_of_stops stops]
  rfl

/-- Every run of lines completes them or stops at one, after having completed those before it. -/
theorem completes_or_stops (session : Session) (number start : Nat) (texts : List Text) :
    (∃ steps final, session.Completes (PlacedLine.place number start texts) steps final) ∨
      ∃ before text after steps next error final, texts = before ++ text :: after ∧
        session.Completes (PlacedLine.place number start before) steps next ∧
        next.Stops ⟨number + before.length, start + Text.linesSize before, text⟩ error final := by
  induction texts generalizing session number start with
  | nil => exact Or.inl ⟨[], session, completes_nil_iff.2 ⟨rfl, rfl⟩⟩
  | cons text rest ih =>
      rcases passes_or_stops session ⟨number, start, text⟩ with
        ⟨step?, middle, passes⟩ | ⟨error, final, stops⟩
      · rcases ih middle (number + 1) (start + text.utf8Size + 1) with
          ⟨steps, final, completes⟩ | ⟨before, other, after, steps, next, error, final, rfl,
            completes, stops⟩
        · exact Or.inl ⟨_, final, completes_cons_of_passes passes completes⟩
        · right
          refine ⟨text :: before, other, after, _, next, error, final, rfl,
            completes_cons_of_passes passes completes, ?_⟩
          have number_eq : number + (before.length + 1) = number + 1 + before.length := by omega
          have start_eq : start + (text.utf8Size + 1 + Text.linesSize before) =
              start + text.utf8Size + 1 + Text.linesSize before := by omega
          rw [List.length_cons, Text.linesSize_cons, number_eq, start_eq]
          exact stops
      · exact Or.inr ⟨[], text, rest, [], session, error, final, rfl,
          completes_nil_iff.2 ⟨rfl, rfl⟩, stops⟩

theorem runLines_eq_ok_iff :
    session.runLines number start texts = (.ok steps, final) ↔
      session.Completes (PlacedLine.place number start texts) steps final := by
  refine ⟨?_, runLines_of_completes⟩
  intro ran
  rcases completes_or_stops session number start texts with
    ⟨others, last, completes⟩ | ⟨before, text, after, others, next, error, last, rfl, completes,
      stops⟩
  · rw [runLines_of_completes completes] at ran
    cases ran
    exact completes
  · rw [runLines_of_stops completes stops] at ran
    cases ran

theorem exists_stops_of_runLines_eq_error
    (ran : session.runLines number start texts = (.error error, final)) :
    ∃ before text after steps next, texts = before ++ text :: after ∧
      session.Completes (PlacedLine.place number start before) steps next ∧
      next.Stops ⟨number + before.length, start + Text.linesSize before, text⟩ error final := by
  rcases completes_or_stops session number start texts with
    ⟨others, last, completes⟩ | ⟨before, text, after, others, next, other, last, rfl, completes,
      stops⟩
  · rw [runLines_of_completes completes] at ran
    cases ran
  · rw [runLines_of_stops completes stops] at ran
    cases ran
    exact ⟨before, text, after, others, next, rfl, completes, stops⟩

theorem executes_of_stops_of_comparison (stops : session.Stops placed error final)
    (compared : error.value.stage = .comparison) :
    ∃ line command outcome, placed.read = .ok line ∧ Command.ofTokens line.tokens = .ok command ∧
      session.execute command = (.ok outcome, final) := by
  cases stops with
  | unreadable unread =>
      rw [Line.stage_of_read_error unread] at compared
      cases compared
  | bare read => cases compared
  | unparsed read nonempty unparsed =>
      rw [Command.stage_of_ofTokens_error unparsed] at compared
      cases compared
  | failed read parsed executed =>
      have failed := stage_of_execute_error executed
      rw [failed] at compared
      cases compared
  | unexpected read parsed executed expected differ => exact ⟨_, _, _, read, parsed, executed⟩

theorem session_of_stops (stops : session.Stops placed error final)
    (notCompared : error.value.stage ≠ .comparison) : final = session := by
  cases stops with
  | unreadable unread => rfl
  | bare read => rfl
  | unparsed read nonempty unparsed => rfl
  | failed read parsed executed => exact session_of_execute_error executed
  | unexpected read parsed executed expected differ => exact absurd rfl notCompared

/--
A run succeeds exactly if it completes the lines of its script. A run that fails completes the lines
before one that stops it, and leaves the session of these lines; if that line was compared with its
expectation, it has been executed as well. What comes after the line changes nothing.
-/
theorem run_refines_execute (session : Session) (script : Text) :
    (∀ steps final, session.run script = (.ok steps, final) ↔
        session.Completes (PlacedLine.place 1 0 script.lines) steps final) ∧
      ∀ error final, session.run script = (.error error, final) →
        ∃ before text after steps next, script.lines = before ++ text :: after ∧
          session.Completes (PlacedLine.place 1 0 before) steps next ∧
          next.Stops ⟨before.length + 1, Text.linesSize before, text⟩ error final ∧
          ((∃ expected actual, error.value = .expectationFailed expected actual) →
            ∃ line command outcome, Line.read (Text.linesSize before) text = .ok line ∧
              Command.ofTokens line.tokens = .ok command ∧
              next.execute command = (.ok outcome, final)) ∧
          ((¬∃ expected actual, error.value = .expectationFailed expected actual) →
            final = next) ∧
          ∀ other : Text, before ++ [text] <+: other.lines →
            session.run other = (.error error, final) := by
  refine ⟨fun steps final => runLines_eq_ok_iff, ?_⟩
  intro error final ran
  rcases exists_stops_of_runLines_eq_error ran with
    ⟨before, text, after, steps, next, lines, completes, stops⟩
  have stopsHere : next.Stops ⟨before.length + 1, Text.linesSize before, text⟩ error final := by
    rw [Nat.add_comm, Nat.zero_add] at stops
    exact stops
  refine ⟨before, text, after, steps, next, lines, completes, stopsHere, ?_, ?_, ?_⟩
  · intro compared
    exact executes_of_stops_of_comparison stopsHere (Fault.stage_eq_comparison_iff.2 compared)
  · intro notCompared
    apply session_of_stops stopsHere
    intro compared
    exact notCompared (Fault.stage_eq_comparison_iff.1 compared)
  · rintro other ⟨rest, otherLines⟩
    rw [List.append_assoc, List.singleton_append] at otherLines
    rw [run, ← otherLines]
    exact runLines_of_stops completes stops rest

end Session

end TextCursor
