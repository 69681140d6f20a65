import MicroTemplate.Proofs.Template.Step
import MicroTemplate.VariablesFile

/-!
# Lines without effect

A line of a variables file that fails is reported and has no other effect. So the lines fall into
those that take effect and those that could as well be empty: blank lines, comments, plain text,
unknown commands and all that are reported. The variables are what the lines that take effect make
of an empty environment, one after the other; and since each of them binds a name that an expression
can ask for, or removes one, only such names are bound. All this is said of files that load. A file
does not load exactly if one of its lines stops the program, and then nothing of it is left.
-/

namespace MicroTemplate.Text

/-- A text is cut into lines at every line feed. -/
theorem lines_eq_splitOn (cs : List Char) : lines cs = cs.splitOn '\n' := by
  induction cs with
  | nil => rfl
  | cons c cs ih =>
    rw [lines, ih, List.splitOn_cons_eq_if_modifyHead]
    by_cases hc : c = '\n'
    · simp [hc]
    · rw [if_neg hc, if_neg (by simpa using hc)]
      cases hs : cs.splitOn '\n' with
      | nil => exact absurd hs (List.splitOn_ne_nil _ _)
      | cons line rest => rfl

/-- There is no line feed in a line. -/
theorem not_mem_of_mem_lines {cs line : List Char} (h : line ∈ lines cs) : '\n' ∉ line := by
  fun_induction lines cs generalizing line with
  | case1 => simp_all
  | case2 cs ih =>
    rcases List.mem_cons.1 h with rfl | hm
    · exact List.not_mem_nil
    · exact ih hm
  | case3 c cs hc hn ih => exact absurd hn (lines_ne_nil cs)
  | case4 c cs hc first rest hl ih =>
    rw [hl] at ih
    rcases List.mem_cons.1 h with rfl | hm
    · exact fun hm => (List.mem_cons.1 hm).elim (Ne.symm hc) (ih List.mem_cons_self)
    · exact ih (List.mem_cons_of_mem _ hm)

/-- Lines that are joined by line feeds are the lines of the text. -/
theorem lines_intercalate {ls : List (List Char)} (h : ∀ line ∈ ls, '\n' ∉ line) (hne : ls ≠ []) :
    lines (['\n'].intercalate ls) = ls := by
  rw [lines_eq_splitOn, List.splitOn_intercalate '\n' h hne]

end MicroTemplate.Text

namespace MicroTemplate.VariablesFile

open Expression Text

variable {α : Type} [HostObject α]

/-! ## Lines that load -/

/-- How lines load one after the other: each takes effect, or it fails and is reported. -/
inductive Loads (engine : Engine α) : ℕ → Environment α → List (List Char) → Loaded α → Prop where
  /-- There are no lines. -/
  | nil (number env) : Loads engine number env [] ⟨env, []⟩
  /-- Behind a line that takes effect, the others go on from the variables that it leaves. -/
  | takes {number env next line rest loaded}
    (applied : (Line.ofText line).apply engine env = .ok next)
    (later : Loads engine (number + 1) next rest loaded) :
    Loads engine number env (line :: rest) loaded
  /-- Behind a line that fails, the others go on from the variables before it. -/
  | fails {number env fault line rest loaded}
    (applied : (Line.ofText line).apply engine env = .error fault) (going : fault.abort? = none)
    (later : Loads engine (number + 1) env rest loaded) :
    Loads engine number env (line :: rest) (loaded.behind ⟨number, fault⟩)

section

variable {engine : Engine α} {number : ℕ} {env : Environment α} {loaded : Loaded α}

/-- Lines load as they are taken one after the other. -/
theorem loads_iff {ls : List (List Char)} :
    Loads engine number env ls loaded ↔ loadLines engine number env ls = .ok loaded := by
  constructor
  · intro h
    induction h with
    | nil => rfl
    | takes applied _ ih => rw [loadLines, applied, ← ih]
    | fails applied going _ ih => rw [loadLines, applied]; simp only [going, ih]; rfl
  · intro h
    induction ls generalizing number env loaded with
    | nil =>
      cases h
      exact .nil number env
    | cons line rest ih =>
      rw [loadLines] at h
      cases applied : (Line.ofText line).apply engine env with
      | ok next =>
        rw [applied] at h
        exact .takes applied (ih h)
      | error fault =>
        rw [applied] at h
        cases going : fault.abort? with
        | some reason => simp [going] at h
        | none =>
          simp only [going] at h
          cases later : loadLines engine (number + 1) env rest with
          | error reason =>
            rw [later] at h
            cases h
          | ok behind =>
            rw [later] at h
            cases h
            exact .fails applied going (ih later)

/-- Lines do not load exactly if one of them, with the variables that those before it leave, stops
the program. -/
theorem loadLines_eq_error_iff {ls : List (List Char)} {reason : Abort} :
    loadLines engine number env ls = .error reason ↔
      ∃ front line back before fault, ls = front ++ line :: back ∧
        Loads engine number env front before ∧
        (Line.ofText line).apply engine before.env = .error fault ∧ fault.abort? = some reason := by
  constructor
  · intro h
    induction ls generalizing number env with
    | nil => cases h
    | cons first rest ih =>
      rw [loadLines] at h
      cases applied : (Line.ofText first).apply engine env with
      | ok next =>
        rw [applied] at h
        obtain ⟨front, line, back, before, fault, rfl, fine, stops⟩ := ih h
        exact ⟨first :: front, line, back, before, fault, rfl, .takes applied fine, stops⟩
      | error fault =>
        rw [applied] at h
        cases going : fault.abort? with
        | some other =>
          simp only [going, Except.error.injEq] at h
          exact ⟨[], first, rest, ⟨env, []⟩, fault, rfl, .nil number env, applied, h ▸ going⟩
        | none =>
          simp only [going] at h
          obtain ⟨front, line, back, before, last, rfl, fine, stops⟩ := ih (error_of_map h)
          exact ⟨first :: front, line, back, _, last, rfl, .fails applied going fine, stops⟩
  · rintro ⟨front, line, back, before, fault, rfl, fine, applied, stops⟩
    induction fine with
    | nil => rw [List.nil_append, loadLines, applied]; simp only [stops]
    | takes first _ ih => rw [List.cons_append, loadLines, first]; exact ih applied
    | fails first going _ ih =>
      rw [List.cons_append, loadLines, first]
      simp only [going, ih applied]
      rfl

/-- Lines go on from the variables that those before them leave. -/
theorem Loads.append {ls more : List (List Char)} {before : Loaded α}
    (h : Loads engine number env ls before)
    (later : Loads engine (number + ls.length) before.env more loaded) :
    Loads engine number env (ls ++ more) ⟨loaded.env, before.reports ++ loaded.reports⟩ := by
  induction h with
  | nil => exact later
  | @takes number _ _ _ rest _ applied _ ih =>
    rw [List.length_cons, ← Nat.add_assoc, Nat.add_right_comm] at later
    exact .takes applied (ih later)
  | @fails number _ _ _ rest _ applied going _ ih =>
    rw [List.length_cons, ← Nat.add_assoc, Nat.add_right_comm] at later
    exact .fails applied going (ih later)

/-- Lines that load do so up to any place, and then go on from there. -/
theorem Loads.exists_append {ls more : List (List Char)}
    (h : Loads engine number env (ls ++ more) loaded) :
    ∃ before after, Loads engine number env ls before ∧
      Loads engine (number + ls.length) before.env more after ∧
        loaded = ⟨after.env, before.reports ++ after.reports⟩ := by
  induction ls generalizing number env loaded with
  | nil => exact ⟨_, loaded, .nil number env, h, rfl⟩
  | cons line ls ih =>
    rw [List.length_cons, ← Nat.add_assoc, Nat.add_right_comm]
    cases h with
    | takes applied later =>
      obtain ⟨before, after, front, back, rfl⟩ := ih later
      exact ⟨before, after, .takes applied front, back, rfl⟩
    | fails applied going later =>
      obtain ⟨before, after, front, back, rfl⟩ := ih later
      exact ⟨_, after, .fails applied going front, back, rfl⟩

/-! ## Reports -/

/-- The reports are about some of the lines, in their order. -/
theorem Loads.reports_ascend {ls : List (List Char)} (h : Loads engine number env ls loaded) :
    (∀ r ∈ loaded.reports, number ≤ r.line) ∧ loaded.reports.Pairwise (·.line < ·.line) := by
  induction h with
  | nil => exact ⟨fun r hr => absurd hr List.not_mem_nil, .nil⟩
  | takes _ _ ih => exact ⟨fun r hr => Nat.le_of_succ_le (ih.1 r hr), ih.2⟩
  | fails _ _ _ ih =>
    exact ⟨List.forall_mem_cons.2 ⟨Nat.le_refl _, fun r hr => Nat.le_of_succ_le (ih.1 r hr)⟩,
      .cons ih.1 ih.2⟩

/-- A line is reported exactly if it fails with the variables that the lines before it leave. -/
theorem Loads.mem_reports_iff {ls : List (List Char)} (h : Loads engine number env ls loaded)
    {r : Report} :
    r ∈ loaded.reports ↔
      ∃ front line back before, ls = front ++ line :: back ∧ r.line = number + front.length ∧
        Loads engine number env front before ∧
        (Line.ofText line).apply engine before.env = .error r.fault := by
  induction h with
  | nil number env =>
    refine iff_of_false List.not_mem_nil ?_
    rintro ⟨front, line, back, before, whole, _⟩
    exact absurd whole.symm (by simp)
  | @takes number env next first ls loaded applied _ ih =>
    rw [ih]
    constructor
    · rintro ⟨front, line, back, before, rfl, hn, fine, fails⟩
      refine ⟨first :: front, line, back, before, rfl, ?_, .takes applied fine, fails⟩
      rw [hn, List.length_cons, Nat.add_assoc, Nat.add_comm 1]
    · rintro ⟨front, line, back, before, whole, hn, fine, fails⟩
      cases fine with
      | nil =>
        cases whole
        cases applied.symm.trans fails
      | takes applied' fine =>
        cases whole
        cases applied.symm.trans applied'
        refine ⟨_, line, back, before, rfl, ?_, fine, fails⟩
        rw [hn, List.length_cons, Nat.add_assoc, Nat.add_comm 1]
      | fails applied' =>
        cases whole
        cases applied.symm.trans applied'
  | @fails number env fault first ls loaded applied going _ ih =>
    rw [Loaded.behind, List.mem_cons, ih]
    constructor
    · rintro (rfl | ⟨front, line, back, before, rfl, hn, fine, fails⟩)
      · exact ⟨[], first, ls, ⟨env, []⟩, rfl, rfl, .nil number env, applied⟩
      · refine ⟨first :: front, line, back, _, rfl, ?_, .fails applied going fine, fails⟩
        rw [hn, List.length_cons, Nat.add_assoc, Nat.add_comm 1]
    · rintro ⟨front, line, back, before, whole, hn, fine, fails⟩
      cases fine with
      | nil =>
        cases whole
        cases applied.symm.trans fails
        obtain ⟨n, cause⟩ := r
        obtain rfl : n = number := hn
        exact .inl rfl
      | takes applied' =>
        cases whole
        cases applied.symm.trans applied'
      | fails applied' going' fine =>
        cases whole
        cases applied.symm.trans applied'
        refine .inr ⟨_, line, back, _, rfl, ?_, fine, fails⟩
        rw [hn, List.length_cons, Nat.add_assoc, Nat.add_comm 1]

end

/-! ## Lines that take effect -/

/-- Whether a line with its number takes effect: it asks for something and has not been reported. -/
def takesEffect (reports : List Report) (line : List Char × ℕ) : Bool :=
  Line.ofText line.1 != .idle && reports.all fun r => r.line != line.2

/-- Lines with an empty one in place of each that takes no effect; `number` is that of the first. -/
def blanked (reports : List Report) (number : ℕ) (ls : List (List Char)) : List (List Char) :=
  (ls.zipIdx number).map fun line => if takesEffect reports line then line.1 else []

/-- What the lines that take effect ask for; `number` is that of the first line. -/
def commands (reports : List Report) (number : ℕ) (ls : List (List Char)) : List Line :=
  ((ls.zipIdx number).filter (takesEffect reports)).map fun line => Line.ofText line.1

section

variable {reports : List Report} {number : ℕ} {line : List Char}

/-- A line before all that are reported takes effect if it asks for something. -/
theorem takesEffect_of_lt (h : ∀ r ∈ reports, number < r.line) :
    takesEffect reports (line, number) = (Line.ofText line != .idle) := by
  have apart : (reports.all fun r => r.line != number) = true :=
    List.all_eq_true.2 fun r hr => bne_iff_ne.2 (Nat.ne_of_gt (h r hr))
  rw [takesEffect, apart, Bool.and_true]

/-- For the lines after one that is reported, its report is of no account. -/
theorem takesEffect_cons {r : Report} (h : r.line < number) :
    takesEffect (r :: reports) (line, number) = takesEffect reports (line, number) := by
  have apart : (r.line != number) = true := bne_iff_ne.2 (Nat.ne_of_lt h)
  rw [takesEffect, List.all_cons, apart, Bool.true_and, takesEffect]

/-- A line is kept or replaced by an empty one. -/
theorem mem_blanked {ls : List (List Char)} (h : line ∈ blanked reports number ls) :
    line ∈ ls ∨ line = [] := by
  obtain ⟨⟨kept, n⟩, hm, same⟩ := List.mem_map.1 h
  dsimp only at same
  split at same
  · exact .inl (same ▸ List.fst_mem_of_mem_zipIdx hm)
  · exact .inr same.symm

theorem blanked_cons {r : Report} (h : r.line < number) (ls : List (List Char)) :
    blanked (r :: reports) number ls = blanked reports number ls := by
  refine List.map_congr_left ?_
  rintro ⟨line, n⟩ hm
  rw [takesEffect_cons (Nat.lt_of_lt_of_le h (List.le_snd_of_mem_zipIdx hm))]

theorem commands_cons {r : Report} (h : r.line < number) (ls : List (List Char)) :
    commands (r :: reports) number ls = commands reports number ls := by
  refine congrArg (List.map _) (List.filter_congr ?_)
  rintro ⟨line, n⟩ hm
  rw [takesEffect_cons (Nat.lt_of_lt_of_le h (List.le_snd_of_mem_zipIdx hm))]

end

/-- Without the lines that take no effect, the others leave the same variables and none fails. -/
theorem Loads.blanked {engine : Engine α} {number : ℕ} {env : Environment α}
    {ls : List (List Char)} {loaded : Loaded α} (h : Loads engine number env ls loaded) :
    Loads engine number env (blanked loaded.reports number ls) ⟨loaded.env, []⟩ ∧
      (commands loaded.reports number ls).foldlM (Line.apply engine) env = .ok loaded.env := by
  have empty (env : Environment α) : (Line.ofText []).apply engine env = .ok env := rfl
  induction h with
  | nil number env => exact ⟨.nil number env, rfl⟩
  | @takes number env next line ls loaded applied later ih =>
    obtain ⟨alike, fold⟩ := ih
    -- The reports to come are about later lines, so they do not decide about this one.
    have effect : takesEffect loaded.reports (line, number) = (Line.ofText line != .idle) :=
      takesEffect_of_lt later.reports_ascend.1
    rw [VariablesFile.blanked, commands, List.zipIdx_cons, List.map_cons, List.filter_cons, effect]
    by_cases hi : Line.ofText line = .idle
    · rw [hi] at applied
      cases applied
      rw [hi]
      exact ⟨.takes (empty env) alike, fold⟩
    · have asks : (Line.ofText line != .idle) = true := bne_iff_ne.2 hi
      rw [asks, if_pos rfl, if_pos rfl, List.map_cons, List.foldlM_cons, applied]
      exact ⟨.takes applied alike, fold⟩
  | @fails number env fault line ls loaded applied going later ih =>
    obtain ⟨alike, fold⟩ := ih
    have skipped : takesEffect (⟨number, fault⟩ :: loaded.reports) (line, number) = false := by
      simp [takesEffect]
    have below : (⟨number, fault⟩ : Report).line < number + 1 := Nat.lt_succ_self number
    rw [Loaded.behind, VariablesFile.blanked, commands, List.zipIdx_cons, List.map_cons,
      List.filter_cons, skipped]
    rw [← blanked_cons below] at alike
    rw [← commands_cons below] at fold
    exact ⟨.takes (empty env) alike, fold⟩

/-! ## Bound names -/

/-- Whether only names that an expression can ask for are bound. -/
def Named (env : Environment α) : Prop :=
  ∀ name ∈ env.bindings.map Prod.fst, Expression.isName name.toList = true

omit [HostObject α] in
theorem Named.set {env : Environment α} (h : Named env) {name : String}
    (hn : Expression.isName name.toList = true) (value : Value α) : Named (env.set name value) := by
  intro other hm
  rw [Environment.set, Bindings.map_fst_insert] at hm
  split at hm
  · exact h other hm
  · rcases List.mem_append.1 hm with hm | hm
    · exact h other hm
    · rwa [List.mem_singleton.1 hm]

omit [HostObject α] in
theorem Named.unset {env : Environment α} (h : Named env) (name : String) :
    Named (env.unset name) :=
  fun other hm => h other (((Bindings.erase_sublist name env.bindings).map Prod.fst).subset hm)

/-- What stands before the expression of a line is checked to be a name. -/
theorem isName_of_splitAssignment {arguments name expression : List Char}
    (h : splitAssignment arguments = .ok (name, expression)) : Expression.isName name = true := by
  rw [splitAssignment] at h
  split at h
  · cases h
  · dsimp only at h
    split at h
    · cases h
    · split at h
      · next hn =>
        cases h
        exact hn
      · cases h

/-- A line that takes effect binds a name or removes a binding. -/
theorem Named.apply {engine : Engine α} {env next : Environment α} {line : Line}
    (h : Named env) (applied : line.apply engine env = .ok next) : Named next := by
  cases line with
  | set arguments =>
    rw [Line.apply] at applied
    obtain ⟨⟨name, expression⟩, split, applied⟩ := bind_eq_ok applied
    obtain ⟨value, _, applied⟩ := bind_eq_ok applied
    cases applied
    refine h.set ?_ value
    rw [String.toList_ofList]
    exact isName_of_splitAssignment split
  | unset arguments =>
    rw [Line.apply] at applied
    split at applied
    · cases applied
    · cases applied
      exact h.unset _
  | idle =>
    cases applied
    exact h

/-- A file binds only names that an expression can ask for. -/
theorem Loads.named {engine : Engine α} {number : ℕ} {env : Environment α}
    {ls : List (List Char)} {loaded : Loaded α} (h : Loads engine number env ls loaded)
    (named : Named env) : Named loaded.env := by
  induction h with
  | nil => exact named
  | takes applied _ ih => exact ih (named.apply applied)
  | fails _ _ _ ih => exact ih named

/-! ## The whole file -/

/-- What a line asks for is read off the word after its slash. -/
theorem ofText_ne_idle_iff {line : List Char} :
    Line.ofText line ≠ .idle ↔
      ∃ command, trim line = '/' :: command ∧
        (String.ofList (command.takeWhile fun c => !isAsciiSpace c) = "set" ∨
          String.ofList (command.takeWhile fun c => !isAsciiSpace c) = "unset") := by
  rw [Line.ofText]
  split
  · next command whole =>
    rw [whole]
    dsimp only
    split
    · next word => exact iff_of_true (by simp) ⟨command, rfl, .inl word⟩
    · next word => exact iff_of_true (by simp) ⟨command, rfl, .inr word⟩
    · next apart apart' =>
      refine iff_of_false (not_not_intro rfl) ?_
      rintro ⟨other, same, word⟩
      cases same
      exact word.elim apart apart'
  · next other =>
    refine iff_of_false (not_not_intro rfl) ?_
    rintro ⟨command, whole, _⟩
    exact other command whole

/-- A line that fails begins with a slash and a command that is known. -/
theorem ofText_ne_idle_of_error {engine : Engine α} {env : Environment α} {line : List Char}
    {fault : Fault} (h : (Line.ofText line).apply engine env = .error fault) :
    Line.ofText line ≠ .idle := by
  intro idle
  rw [idle] at h
  cases h

/-- In a file that loads, a line that fails has no effect but its report. The reports are about
lines in their order, and about exactly those that ask for a binding or the removal of one and fail
with the variables that the lines before them leave. With empty lines in place of them and of the
idle ones, the same variables are bound in the same order and nothing is reported; they are what the
lines that are left make of no variables, one after the other; and each has a name that an
expression can ask for. A file does not load exactly if the expression of one of its lines stops the
program. -/
theorem failed_lines_inert (engine : Engine α) (text : String) :
    (∀ loaded, load engine text = .ok loaded →
      loaded.reports.Pairwise (·.line < ·.line) ∧
        (∀ n fault, ⟨n, fault⟩ ∈ loaded.reports ↔
          ∃ front line back before, lines text.toList = front ++ line :: back ∧
            n = 1 + front.length ∧
            (∃ command, trim line = '/' :: command ∧
              (String.ofList (command.takeWhile fun c => !isAsciiSpace c) = "set" ∨
                String.ofList (command.takeWhile fun c => !isAsciiSpace c) = "unset")) ∧
            loadLines engine 1 .empty front = .ok before ∧
            (Line.ofText line).apply engine before.env = .error fault) ∧
        load engine (.ofList (['\n'].intercalate
            (blanked loaded.reports 1 (lines text.toList)))) = .ok ⟨loaded.env, []⟩ ∧
        (commands loaded.reports 1 (lines text.toList)).foldlM (Line.apply engine) .empty =
          .ok loaded.env ∧
        Named loaded.env) ∧
      ∀ reason, load engine text = .error reason ↔
        ∃ front line back before fault, lines text.toList = front ++ line :: back ∧
          loadLines engine 1 .empty front = .ok before ∧
          (Line.ofText line).apply engine before.env = .error fault ∧
          fault.abort? = some reason := by
  constructor
  · intro loaded h
    have loads := loads_iff.2 h
    obtain ⟨alike, fold⟩ := loads.blanked
    refine ⟨loads.reports_ascend.2, fun n fault => loads.mem_reports_iff.trans ⟨?_, ?_⟩, ?_, fold,
      loads.named fun name hm => absurd hm List.not_mem_nil⟩
    · rintro ⟨front, line, back, before, whole, hn, fine, fails⟩
      exact ⟨front, line, back, before, whole, hn,
        ofText_ne_idle_iff.1 (ofText_ne_idle_of_error fails), loads_iff.1 fine, fails⟩
    · rintro ⟨front, line, back, before, whole, hn, _, fine, fails⟩
      exact ⟨front, line, back, before, whole, hn, loads_iff.2 fine, fails⟩
    · have solid : ∀ line ∈ blanked loaded.reports 1 (lines text.toList), '\n' ∉ line := by
        rintro line hm
        rcases mem_blanked hm with hm | rfl
        · exact not_mem_of_mem_lines hm
        · exact List.not_mem_nil
      have some : blanked loaded.reports 1 (lines text.toList) ≠ [] := by
        simp [blanked, lines_ne_nil]
      rw [load, String.toList_ofList, lines_intercalate solid some]
      exact loads_iff.1 alike
  · intro reason
    simp only [load, loadLines_eq_error_iff, loads_iff]

/-- Three lines fail, and the binding that one of the others has made is removed again. With those
lines and the idle ones emptied the file leaves the same variable. -/
theorem failed_lines_inert_three :
    let text := "/set a=2\n\n/set 9x=1\n; b\n/set b=1 +\r\n/set c=a.a\n/unset a\n/unset"
    let env := Environment.empty.set "c" (.text "22")
    load Engine.bare text =
        .ok ⟨env, [⟨3, .invalidName "9x"⟩, ⟨5, .unevaluated (.evaluation "1 +" .missingOperand)⟩,
          ⟨8, .nothingToUnset⟩]⟩ ∧
      load Engine.bare "/set a=2\n\n\n\n\n/set c=a.a\n/unset a\n" = .ok ⟨env, []⟩ := by
  intro text env
  have loaded : load Engine.bare text =
      .ok ⟨env, [⟨3, .invalidName "9x"⟩, ⟨5, .unevaluated (.evaluation "1 +" .missingOperand)⟩,
        ⟨8, .nothingToUnset⟩]⟩ := by
    cbv
  have emptied := ((failed_lines_inert Engine.bare text).1 _ loaded).2.2.1
  refine ⟨loaded, (congrArg (load Engine.bare) ?_).trans emptied⟩
  cbv

/-- A line that asks for a longer list than there is room for takes the whole file with it: of the
two lines, the one that binds `y` would load alone. -/
theorem load_long_range :
    load (.stocked Engine.firstMoment) "/set x=range(0,9223372036854775807)\n/set y=1" =
        .error .room ∧
      load (.stocked Engine.firstMoment) "\n/set y=1" =
        .ok ⟨Environment.empty.set "y" (.int 1), []⟩ := by
  constructor <;> cbv

end MicroTemplate.VariablesFile
