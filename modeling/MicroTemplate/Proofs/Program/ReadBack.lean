import MicroTemplate.Proofs.Expression.Entry
import MicroTemplate.Proofs.Program.Definitions
import MicroTemplate.Proofs.Program.VariablesFile

/-!
# Bindings read back

What the last line of a variables file binds is what an expression reads and a directive shows
afterwards. The line goes by its own rule for names and the expression by another; the only names
that pass the one and are not looked up by the other are the three that stand for values of their
own.
-/

namespace MicroTemplate.Text

/-- A line feed ends a line whatever comes after it. -/
theorem lines_append_cons (cs ds : List Char) :
    lines (cs ++ '\n' :: ds) = lines cs ++ lines ds := by
  induction cs with
  | nil => rfl
  | cons c cs ih =>
    rw [List.cons_append, lines, lines, ih]
    by_cases hc : c = '\n'
    · rw [if_pos hc, if_pos hc]
      rfl
    · obtain ⟨line, rest, some⟩ := List.exists_cons_of_ne_nil (lines_ne_nil cs)
      rw [if_neg hc, if_neg hc, some]
      rfl

end MicroTemplate.Text

namespace MicroTemplate.VariablesFile

open Expression Template Text

variable {α : Type} [HostObject α]

/-- What may stand behind the last line of a file. -/
def fileEnds : List String := ["", "\n", "\r\n"]

/-- What the last line of a file binds is bound, and nothing is reported. -/
theorem loads_last {engine : Engine α} {env : Environment α} {name e : List Char}
    (hname : isName name = true) (line : '\n' ∉ e) {ending : String} (he : ending ∈ fileEnds)
    {v : Value α} (hv : evaluate (engine.context env) e = .ok v) (number : ℕ) :
    Loads engine number env (lines (setLine name (e ++ ending.toList)))
      ⟨env.set (.ofList name) v, []⟩ := by
  have ended (blanks : List Char) (hb : isBlank blanks = true) (hn : '\n' ∉ blanks) :
      Loads engine number env (lines (setLine name (e ++ (blanks ++ ['\n']))))
        ⟨env.set (.ofList name) v, []⟩ := by
    have whole : '\n' ∉ e ++ blanks := by simp [line, hn]
    have cut := lines_append_cons (setLine name (e ++ blanks)) []
    rw [lines_assignment hname whole] at cut
    have text : setLine name (e ++ (blanks ++ ['\n'])) = setLine name (e ++ blanks) ++ ['\n'] := by
      simp [setLine]
    rw [text, cut]
    exact .takes (apply_setLine_of_ok hname hv hb) (.takes rfl (.nil _ _))
  simp only [fileEnds, List.mem_cons, List.not_mem_nil, or_false] at he
  rcases he with rfl | rfl | rfl
  · rw [String.toList_empty, List.append_nil, lines_assignment hname line]
    have alone := apply_setLine_of_ok hname hv (show isBlank [] = true from rfl)
    rw [List.append_nil] at alone
    exact .takes alone (.nil _ _)
  · exact ended [] rfl (by simp)
  · exact ended ['\r'] (by decide) (by decide)

/-- What stands behind a line feed loads as lines that follow those before it. -/
theorem load_append {engine : Engine α} {front : String} {before after : Loaded α}
    (hf : front = "" ∨ front.toList.getLast? = some '\n') (h : load engine front = .ok before)
    {rest : List Char} (later : ∀ number, Loads engine number before.env (lines rest) after) :
    load engine (.ofList (front.toList ++ rest)) =
      .ok ⟨after.env, before.reports ++ after.reports⟩ := by
  have loads := loads_iff.2 h
  rcases hf with rfl | hf
  · cases h
    rw [load, String.toList_ofList]
    exact loads_iff.1 (later 1)
  · obtain ⟨cs, hcs⟩ := List.getLast?_eq_some_iff.1 hf
    have whole : lines (front.toList ++ rest) = lines cs ++ lines rest := by
      rw [hcs, List.append_assoc, List.singleton_append, lines_append_cons]
    have lines_front : lines front.toList = lines cs ++ [[]] := by
      rw [hcs, lines_append_cons]
      rfl
    -- The last line of the front is the empty one behind its line feed.
    rw [lines_front] at loads
    obtain ⟨filled, left, fine, empty, rfl⟩ := loads.exists_append
    obtain rfl : left = ⟨filled.env, []⟩ := by
      cases loads_iff.1 empty
      rfl
    have joined := fine.append (later _)
    rw [load, String.toList_ofList, whole, List.append_nil]
    exact loads_iff.1 joined

/-- What the last line of a file binds is read back, for every name but those of the literals: if
the lines before it load, the file does; the line is not reported, the name evaluates to the value
that its expression has over the variables before the line, and a directive that shows the name
shows the text form of that value. -/
theorem binding_read_back (engine : Engine α) (hr : engine.rendering = false)
    (front name e ending : String) (hf : front = "" ∨ front.toList.getLast? = some '\n')
    (hname : isName name.toList = true) (hl : name ∉ literals) (line : '\n' ∉ e.toList)
    (he : ending ∈ fileEnds) {before : Loaded α} (hb : load engine front = .ok before) {v : Value α}
    (hv : engine.evaluate before.env e = .ok v) :
    ∃ loaded, load engine (front ++ "/set " ++ name ++ "=" ++ e ++ ending) = .ok loaded ∧
      loaded.reports = before.reports ∧
        engine.evaluate loaded.env name = .ok v ∧
          ∀ o, (∃ fuel, engine.render fuel ("@[=" ++ name ++ "]") loaded.env = some o) ↔
            o = ⟨.ok v.write, loaded.env, (), engine⟩ := by
  have text : front ++ "/set " ++ name ++ "=" ++ e ++ ending =
      .ofList (front.toList ++ setLine name.toList (e.toList ++ ending.toList)) := by
    rw [← String.toList_inj]
    simp [setLine]
  have file := load_append hf hb (loads_last hname line he hv)
  rw [← text, String.ofList_toList, List.append_nil] at file
  have read : engine.evaluate (before.env.set name v) name = .ok v := by
    rw [Engine.evaluate, evaluate_of_isName _ hname (by rwa [String.ofList_toList]),
      String.ofList_toList]
    exact congrArg (fun found => Except.ok (Option.getD found Value.empty))
      (Environment.get?_set_self before.env name v)
  exact ⟨_, file, rfl, read, exists_render_output hr read⟩

/-- The last line of a file that has a fault reads the variable that it binds anew. -/
theorem binding_read_back_anew :
    ∃ before loaded, load Engine.bare "; a\r\n/set x=2\n/set y=1/0\n" = .ok before ∧
      load Engine.bare "; a\r\n/set x=2\n/set y=1/0\n/set x= x*x.x \r\n" = .ok loaded ∧
      loaded.reports = before.reports ∧
        Engine.bare.evaluate loaded.env "x" = .ok (.text "42") ∧
          ∀ o, (∃ fuel, Engine.bare.render fuel "@[=x]" loaded.env = some o) ↔
            o = ⟨.ok "42", loaded.env, (), .bare⟩ := by
  obtain ⟨before, hb, hv⟩ : ∃ before,
      load Engine.bare "; a\r\n/set x=2\n/set y=1/0\n" = .ok before ∧
        Engine.bare.evaluate before.env " x*x.x " = .ok (.text "42") :=
    ⟨_, by cbv, by cbv⟩
  obtain ⟨loaded, read⟩ := binding_read_back .bare rfl "; a\r\n/set x=2\n/set y=1/0\n" "x"
    " x*x.x " "\r\n" (.inr (by decide)) (by decide) (by decide) (by decide) (by decide) hb hv
  exact ⟨before, loaded, hb, read⟩

/-- A literal can be bound and is not read back. -/
theorem binding_true :
    ¬ ∀ (front name e ending : String) (before loaded : Loaded Empty) (v : Value Empty),
      (front = "" ∨ front.toList.getLast? = some '\n') → isName name.toList = true →
      '\n' ∉ e.toList → ending ∈ fileEnds → load Engine.bare front = .ok before →
      Engine.bare.evaluate before.env e = .ok v →
      load Engine.bare (front ++ "/set " ++ name ++ "=" ++ e ++ ending) = .ok loaded →
      Engine.bare.evaluate loaded.env name = .ok v := by
  intro reads
  obtain ⟨loaded, file, literal⟩ : ∃ loaded,
      load Engine.bare ("" ++ "/set " ++ "true" ++ "=" ++ "5" ++ "") = .ok loaded ∧
        Engine.bare.evaluate loaded.env "true" = .ok (.bool true) :=
    ⟨_, by cbv, by cbv⟩
  have five := reads "" "true" "5" "" ⟨.empty, []⟩ loaded (.int 5) (.inl rfl) (by decide)
    (by decide) (by decide) rfl (by cbv) file
  cases five.symm.trans literal

end MicroTemplate.VariablesFile
