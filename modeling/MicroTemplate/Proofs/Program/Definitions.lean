import MicroTemplate.Program.Run
import MicroTemplate.Proofs.Program.CommandLine
import MicroTemplate.Proofs.Template.Embedding

/-!
# Three ways to define a variable

A variable can be defined by a directive of a template, by a word of the command line and by a line
of a variables file. Each is cut apart by a scanner of its own: the directive ends at its bracket,
the word is one definition as a whole, and the line loses the white space at its ends. All of them
find the same name and, but for that white space, the same expression. So they bind the name to the
same value, or fail for the same cause. Each of them comes at its own moment, so this holds of
expressions that do not tell the moments apart, and of those only whose evaluation is not stopped.
-/

namespace MicroTemplate.Environment

variable {α : Type}

/-- Binding a name leaves the other bindings as they are, in their order. -/
theorem unset_set (env : Environment α) (name : String) (value : Value α) :
    (env.set name value).unset name = env.unset name := by
  refine Environment.ext ?_
  change Bindings.erase name (Bindings.insert name value env.bindings) =
    Bindings.erase name env.bindings
  induction env.bindings with
  | nil => simp [Bindings.insert, Bindings.erase]
  | cons b bs ih =>
    obtain ⟨n, v⟩ := b
    by_cases hn : n = name
    · simp [Bindings.insert, Bindings.erase, hn]
    · simp [Bindings.insert, Bindings.erase, hn, ih]

end MicroTemplate.Environment

/-! ## The word -/

namespace MicroTemplate.CommandLine

open Expression Template

/-- A word that defines a variable, on its own. -/
theorem ofWords_definition {name : String} (hname : isName name.toList = true) (e : String) :
    Arguments.ofWords ["-D" ++ name ++ "=" ++ e] =
      .ok { Draft.start.options with defines := [(name, e)] } := by
  have writable : (Switch.define name e).Writable := by
    refine ⟨fun empty => ne_nil_of_isName hname (String.toList_eq_nil_iff.2 empty), fun hm => ?_⟩
    exact ne_equals_of_isName hname '=' hm rfl
  have last : ∀ next ∈ ([] : List String).head?, Hyphened next :=
    fun next hn => absurd hn (Option.not_mem_none next)
  have taken := takeWords_word writable Draft.start last
  rw [Switch.word] at taken
  rw [Arguments.ofWords, taken, Draft.takeWords]
  rfl

end MicroTemplate.CommandLine

/-! ## The line -/

namespace MicroTemplate.Text

/-- Nothing is left to be trimmed. -/
theorem trimEnd_trimEnd (cs : List Char) : trimEnd (trimEnd cs) = trimEnd cs := by
  rw [trimEnd, trimEnd, List.reverse_reverse, List.dropWhile_idempotent]

end MicroTemplate.Text

namespace MicroTemplate.VariablesFile

open Expression Template Text

/-- The text of a line that binds a name. -/
def setLine (name e : List Char) : List Char :=
  '/' :: 's' :: 'e' :: 't' :: ' ' :: (name ++ '=' :: e)

variable {name : List Char} (hname : isName name = true)

include hname

/-- A name is cut off at the equals sign behind it. -/
theorem splitAssignment_of_isName (e : List Char) :
    splitAssignment (name ++ '=' :: e) = .ok (name, e) := by
  have apart : ∀ c ∈ name, (!endsName c) = true := by
    intro c hc
    have solid := isSpace_of_isWordChar (isWordChar_of_isName hname c hc)
    have space : isAsciiSpace c = false := by
      by_contra h
      rw [isSpace_of_isAsciiSpace (by simpa using h)] at solid
      cases solid
    simp [endsName, ne_equals_of_isName hname c hc, space]
  have ends : ∀ c ∈ ('=' :: e).head?, (!endsName c) = false := by
    rintro c ⟨⟩
    decide
  have some : (name ++ '=' :: e).isEmpty = false := by simp
  rw [splitAssignment, some, if_neg Bool.false_ne_true, takeWhile_run apart ends,
    dropWhile_run apart ends]
  dsimp only
  rw [if_pos hname]
  rfl

/-- White space at the end of a line is not part of its expression. -/
theorem ofText_assignment (e : List Char) :
    Line.ofText (setLine name e) = .set (name ++ '=' :: trimEnd e) := by
  have line : trim (setLine name e) = setLine name (trimEnd e) :=
    trimEnd_append_cons ('/' :: 's' :: 'e' :: 't' :: ' ' :: name) (by decide) e
  have start : trimStart (' ' :: (name ++ '=' :: trimEnd e)) = name ++ '=' :: trimEnd e := by
    obtain ⟨c, cs, rfl⟩ := List.exists_cons_of_ne_nil (ne_nil_of_isName hname)
    have solid := isSpace_of_isWordChar (isWordChar_of_isName hname c List.mem_cons_self)
    have space : isSpace ' ' = true := by decide
    simp [trimStart, space, solid]
  have arguments : trim (' ' :: (name ++ '=' :: trimEnd e)) = name ++ '=' :: trimEnd e := by
    rw [trim, start, trimEnd_append_cons name (by decide), trimEnd_trimEnd]
  rw [Line.ofText, line]
  change Line.set (trim (' ' :: (name ++ '=' :: trimEnd e))) = _
  rw [arguments]

/-- A text with one assignment has one line. -/
theorem lines_assignment {e : List Char} (he : '\n' ∉ e) :
    lines (setLine name e) = [setLine name e] := by
  refine lines_of_not_mem ?_
  have word : '\n' ∉ name := by
    intro hm
    have hw := isWordChar_of_isName hname _ hm
    revert hw
    decide
  simp [setLine, word, he]

/-- A line that binds a name evaluates its expression first. -/
theorem apply_assignment {α : Type} [HostObject α] (engine : Engine α) (env : Environment α)
    (e : List Char) :
    (Line.set (name ++ '=' :: e)).apply engine env =
      (engine.evaluate env (.ofList e)).mapError .unevaluated >>=
        fun v => .ok (env.set (.ofList name) v) := by
  rw [Line.apply, splitAssignment_of_isName hname, ok_bind]
  rfl

/-- A line binds a name to the value of its expression, also where white space follows that. -/
theorem apply_setLine_of_ok {α : Type} [HostObject α] {engine : Engine α} {env : Environment α}
    {e : List Char} {v : Value α} (h : evaluate (engine.context env) e = .ok v)
    {blanks : List Char} (hb : isBlank blanks = true) :
    (Line.ofText (setLine name (e ++ blanks))).apply engine env =
      .ok (env.set (.ofList name) v) := by
  rw [ofText_assignment hname, apply_assignment hname, trimEnd_append_blank e hb, Engine.evaluate,
    String.toList_ofList, evaluate_trimEnd h]
  rfl

end MicroTemplate.VariablesFile

/-! ## The three of them -/

namespace MicroTemplate.Program

open Calendar CommandLine Expression Template Text VariablesFile

variable {α : Type} [HostObject α] {engine : Engine α} {env : Environment α} {name e : String}

/-- What a word of the command line defines is bound. -/
theorem defineAll_of_ok {v : Value α} (h : engine.evaluate env e = .ok v)
    (rest : List (String × String)) :
    defineAll engine env ((name, e) :: rest) = defineAll engine (env.set name v) rest := by
  rw [defineAll, h]
  rfl

/-- If the expression of a definition fails, the run does. -/
theorem defineAll_of_error {error : Error} (h : engine.evaluate env e = .error error)
    (going : error.abort? = none) (rest : List (String × String)) :
    defineAll engine env ((name, e) :: rest) = .error (.definition name error) := by
  have failure : Failure.ofError (.definition name) error = .definition name error := by
    rw [Failure.ofError, going]
  rw [defineAll, h, ← failure]
  rfl

section

variable (hname : isName name.toList = true) (line : '\n' ∉ e.toList)

include hname line

/-- The definition is the only line of its text. -/
theorem lines_definition :
    lines ("/set " ++ name ++ "=" ++ e).toList = [setLine name.toList e.toList] := by
  rw [← lines_assignment hname line]
  simp [setLine]

/-- What a line of the variables file defines is bound. -/
theorem loadLines_of_ok {v : Value α} (h : engine.evaluate env e = .ok v) (number : ℕ)
    (rest : List (List Char)) :
    loadLines engine number env (lines ("/set " ++ name ++ "=" ++ e).toList ++ rest) =
      loadLines engine (number + 1) (env.set name v) rest := by
  have applied : (Line.ofText (setLine name.toList e.toList)).apply engine env =
      .ok (env.set name v) := by
    have bound := apply_setLine_of_ok hname h (show isBlank [] = true from rfl)
    rwa [List.append_nil, String.ofList_toList] at bound
  rw [lines_definition hname line, List.singleton_append, loadLines, applied]

/-- If the expression of a line fails, the line is reported. -/
theorem loadLines_of_error {cause : Cause}
    (h : engine.evaluate env e = .error (.evaluation e cause)) (going : cause.abort? = none)
    (number : ℕ) (rest : List (List Char)) :
    loadLines engine number env (lines ("/set " ++ name ++ "=" ++ e).toList ++ rest) =
      (loadLines engine (number + 1) env rest).map
        (.behind ⟨number, .unevaluated (.evaluation (.ofList (trimEnd e.toList)) cause)⟩) := by
  have whole : evaluate (engine.context env) e.toList =
      .error (.evaluation (.ofList e.toList) cause) := by
    rw [String.ofList_toList]
    exact h
  have applied : (Line.ofText (setLine name.toList e.toList)).apply engine env =
      .error (.unevaluated (.evaluation (.ofList (trimEnd e.toList)) cause)) := by
    rw [ofText_assignment hname, apply_assignment hname, Engine.evaluate, String.toList_ofList,
      evaluate_trimEnd_of_error whole]
    rfl
  have reported : (Fault.unevaluated (.evaluation (.ofList (trimEnd e.toList)) cause)).abort? =
      none := going
  rw [lines_definition hname line, List.singleton_append, loadLines, applied]
  simp only [reported]

end

/-- The three ways to define a variable, each at its moment, bind it to a value. -/
structure Binds (engine : Engine α) (now : Stage → DateTime) (env : Environment α)
    (name e : String) (v : Value α) : Prop where
  /-- The directive shows nothing. -/
  directive : ∀ o, (∃ fuel, (engine.withClock (now .template)).render fuel
      ("@[SET:" ++ name ++ "=" ++ e ++ "]") env = some o) ↔
    o = ⟨.ok "", env.set name v, (), engine.withClock (now .template)⟩
  /-- The definitions that follow on the command line find the variable bound. -/
  definition : ∀ rest, defineAll (engine.withClock (now .definitions)) env ((name, e) :: rest) =
    defineAll (engine.withClock (now .definitions)) (env.set name v) rest
  /-- The lines that follow in the variables file find the variable bound. -/
  line : ∀ number rest, loadLines (engine.withClock (now .variablesFile)) number env
      (lines ("/set " ++ name ++ "=" ++ e).toList ++ rest) =
    loadLines (engine.withClock (now .variablesFile)) (number + 1) (env.set name v) rest
  /-- The variable has the value. -/
  bound : (env.set name v).get? name = some v
  /-- The other variables are as they were, in their order. -/
  others : (env.set name v).unset name = env.unset name

/-- The three ways to define a variable, each at its moment, fail for a cause. Around the expression
that the errors show there may be white space or not. -/
structure Fails (engine : Engine α) (now : Stage → DateTime) (env : Environment α)
    (name e : String) (cause : Cause) : Prop where
  /-- The render fails and leaves the variables as they were. -/
  directive : ∀ o, (∃ fuel, (engine.withClock (now .template)).render fuel
      ("@[SET:" ++ name ++ "=" ++ e ++ "]") env = some o) ↔
    o = ⟨.error (.evaluation (.ofList (trimEnd e.toList)) cause), env, (),
      engine.withClock (now .template)⟩
  /-- The run fails. -/
  definition : ∀ rest, defineAll (engine.withClock (now .definitions)) env ((name, e) :: rest) =
    .error (.definition name (.evaluation e cause))
  /-- The line is reported, and those that follow find the variables as they were. -/
  line : ∀ number rest, loadLines (engine.withClock (now .variablesFile)) number env
      (lines ("/set " ++ name ++ "=" ++ e).toList ++ rest) =
    (loadLines (engine.withClock (now .variablesFile)) (number + 1) env rest).map
      (.behind ⟨number, .unevaluated (.evaluation (.ofList (trimEnd e.toList)) cause)⟩)

/-- The three ways to define a variable agree. The word of the command line is read as one
definition of the name by the expression. If the expression has the same result at the three
moments, and its evaluation is not stopped, then all three bind the name to its value, or all three
fail for its cause. -/
theorem definitions_agree (engine : Engine α) (hr : engine.rendering = false)
    (now : Stage → DateTime) (env : Environment α) (name e : String)
    (hname : isName name.toList = true) (line : '\n' ∉ e.toList) (he : Enclosed e.toList)
    (still : ∀ stage stage', (engine.withClock (now stage)).evaluate env e =
      (engine.withClock (now stage')).evaluate env e)
    (going : ∀ stage error, (engine.withClock (now stage)).evaluate env e = .error error →
      error.abort? = none) :
    Arguments.ofWords ["-D" ++ name ++ "=" ++ e] =
        .ok { Draft.start.options with defines := [(name, e)] } ∧
      ((∃ v, (∀ stage, (engine.withClock (now stage)).evaluate env e = .ok v) ∧
          Binds engine now env name e v) ∨
        ∃ cause, (∀ stage, (engine.withClock (now stage)).evaluate env e =
            .error (.evaluation e cause)) ∧
          Fails engine now env name e cause) := by
  have idle : (engine.withClock (now .template)).rendering = false := hr
  refine ⟨ofWords_definition hname e, ?_⟩
  cases result : (engine.withClock (now .template)).evaluate env e with
  | ok v =>
    have value (stage : Stage) : (engine.withClock (now stage)).evaluate env e = .ok v :=
      (still stage .template).trans result
    exact .inl ⟨v, value, exists_render_assignment idle (value .template) hname,
      defineAll_of_ok (value .definitions), loadLines_of_ok hname line (value .variablesFile),
      env.get?_set_self name v, env.unset_set name v⟩
  | error error =>
    obtain ⟨cause, rfl⟩ := error_of_evaluate result
    rw [String.ofList_toList] at result
    have failure (stage : Stage) :
        (engine.withClock (now stage)).evaluate env e = .error (.evaluation e cause) :=
      (still stage .template).trans result
    have reported : (Error.evaluation e cause).abort? = none := going .template _ result
    have trimmed : evaluate ((engine.withClock (now .template)).context env) (trimEnd e.toList) =
        .error (.evaluation (.ofList (trimEnd e.toList)) cause) := by
      refine evaluate_trimEnd_of_error ?_
      rw [String.ofList_toList]
      exact result
    exact .inr ⟨cause, failure, exists_render_assignment_failed idle he.seamless hname trimmed,
      defineAll_of_error (failure .definitions) reported,
      loadLines_of_error hname line (failure .variablesFile) reported⟩

/-- Three moments, one hour after the other, for examples. -/
def ticking : Stage → DateTime
  | .variablesFile => Engine.firstMoment
  | .definitions => { Engine.firstMoment with second := 3600, second_lt := by decide }
  | .template => { Engine.firstMoment with second := 7200, second_lt := by decide }

/-- An expression with the marks of all three scanners between its quotation marks and white space
around it has a value; one that begins with an equals sign and goes on with brackets has none. -/
theorem definitions_agree_marks :
    let engine := Engine.stocked Engine.firstMoment
    Binds engine ticking (.ofList [("y", .int 2)]) "x" " \"]=:;/set\" . y " (.text "]=:;/set2") ∧
      Fails engine ticking (.ofList [("y", .int 2)]) "x" "=[;] " (.unknownOperator "=[;]") := by
  intro engine
  have value (stage : Stage) : (engine.withClock (ticking stage)).evaluate (.ofList [("y", .int 2)])
      " \"]=:;/set\" . y " = .ok (.text "]=:;/set2") := by
    cases stage <;> cbv
  have failure (stage : Stage) :
      (engine.withClock (ticking stage)).evaluate (.ofList [("y", .int 2)]) "=[;] " =
        .error (.evaluation "=[;] " (.unknownOperator "=[;]")) := by
    cases stage <;> cbv
  constructor
  · have going (stage : Stage) (error : Error)
        (h : (engine.withClock (ticking stage)).evaluate (.ofList [("y", .int 2)])
          " \"]=:;/set\" . y " = .error error) : error.abort? = none := by
      cases (value stage).symm.trans h
    rcases (definitions_agree engine rfl ticking (.ofList [("y", .int 2)]) "x"
      " \"]=:;/set\" . y " (by decide) (by decide) (by decide)
      (fun stage stage' => (value stage).trans (value stage').symm) going).2 with
      ⟨v, hv, binds⟩ | ⟨cause, hc, _⟩
    · cases (value .template).symm.trans (hv .template)
      exact binds
    · cases (value .template).symm.trans (hc .template)
  · have going (stage : Stage) (error : Error)
        (h : (engine.withClock (ticking stage)).evaluate (.ofList [("y", .int 2)]) "=[;] " =
          .error error) : error.abort? = none := by
      cases (failure stage).symm.trans h
      rfl
    rcases (definitions_agree engine rfl ticking (.ofList [("y", .int 2)]) "x" "=[;] " (by decide)
      (by decide) (by decide) (fun stage stage' => (failure stage).trans (failure stage').symm)
      going).2 with ⟨v, hv, _⟩ | ⟨cause, hc, fails⟩
    · cases (failure .template).symm.trans (hv .template)
    · cases (failure .template).symm.trans (hc .template)
      exact fails

/-- An expression that asks for the present moment is bound to three values. -/
theorem definitions_of_now :
    let engine := Engine.stocked Engine.firstMoment
    ((∃ fuel, (engine.withClock (ticking .template)).render fuel "@[SET:x=now()]" .empty =
          some ⟨.ok "", Environment.empty.set "x" (.dateTime (ticking .template)), (),
            engine.withClock (ticking .template)⟩) ∧
        defineAll (engine.withClock (ticking .definitions)) .empty [("x", "now()")] =
          .ok (Environment.empty.set "x" (.dateTime (ticking .definitions))) ∧
        load (engine.withClock (ticking .variablesFile)) "/set x=now()" =
          .ok ⟨Environment.empty.set "x" (.dateTime (ticking .variablesFile)), []⟩) ∧
      ticking .template ≠ ticking .definitions ∧ ticking .definitions ≠ ticking .variablesFile := by
  refine ⟨⟨⟨2, ?_⟩, ?_, ?_⟩, by decide, by decide⟩ <;> cbv

end MicroTemplate.Program
