import MicroTemplate.Proofs.Template.Embedding

/-!
# Every text can be produced by a template

Text without a marker is rendered as it is. A marker can be shown by a directive with the marker
between quotation marks: there it does not begin a directive, and its bracket does not count. So a
template for any text is found by writing this directive for each marker in it. What stands around
the marker does not matter: the text before it has no marker up to its end, and what comes after it
begins anew behind the bracket that closes the directive.
-/

namespace MicroTemplate.Template

open Expression Text

/-! ## The template of a text -/

/-- The directive that shows a marker. -/
def markerShown : List Char := "@[=\"@[\"]".toList

/-- A template for a text: each marker is shown by a directive. -/
def verbatim (s : String) : String := .ofList (replaceAll marker markerShown s.toList)

theorem verbatim_eq_self {s : String} (h : ¬marker <:+: s.toList) : verbatim s = s := by
  rw [verbatim, replaceAll_eq_self h, String.ofList_toList]

variable {α σ : Type} [HostObject α]

/-- A marker between quotation marks evaluates to itself. -/
theorem evaluate_marker (ctx : Context α) :
    evaluate ctx ('"' :: (marker ++ ['"'])) = .ok (.text (.ofList marker)) := by
  have unquoted : '"' ∉ marker := by decide
  have spells : Spells ('"' :: (marker ++ ['"'])) (Tree.quoted marker).tokens :=
    .quoted unquoted .nil
  exact evaluate_of_spells spells trivial (Nat.zero_le _)

/-- The directive ends with its last bracket. -/
theorem splitBody?_markerShown (rest : List Char) :
    splitBody? 0 false ('=' :: '"' :: (marker ++ ['"']) ++ ']' :: rest) =
      some ('=' :: '"' :: (marker ++ ['"']), rest) := by
  have unquoted : '"' ∉ marker := by decide
  exact ((seamless_quoted unquoted).cons (by decide) (by decide) (by decide)).splitBody? rest

section

variable {r : Setting α σ} (hm : r.mode = .interpret) (env : Environment α) (memory : σ)

/-- At the end of a template, text without a marker is shown. -/
theorem reaches_unmarked (offset : Nat) (output : String) {text : List Char}
    (h : ¬marker <:+: text) :
    r.Reaches ⟨segmentsFrom offset [] text, [], true, output, env, memory⟩
      ⟨[], [], true, output ++ .ofList text, env, memory⟩ := by
  have literal : segmentsFrom offset [] text = literalBefore text [] := by
    have last : ([] : List Char).head? ≠ some '[' := nofun
    have whole := segmentsFrom_literal offset [] h last
    rw [List.append_nil, List.append_nil, segmentsFrom, List.reverse_reverse] at whole
    exact whole
  rw [literal]
  exact Setting.reaches_literalBefore r ⟨[], [], true, output, env, memory⟩ text []

include hm

/-- Text without a marker and then a marker that is shown. -/
theorem reaches_markerShown (offset : Nat) (output : String) {text : List Char}
    (h : ¬marker <:+: text) (rest : List Char) :
    ∃ stop, r.Reaches
      ⟨segmentsFrom offset [] (text ++ (markerShown ++ rest)), [], true, output, env, memory⟩
      ⟨segmentsFrom stop [] rest, [], true, output ++ .ofList (text ++ marker), env, memory⟩ := by
  obtain ⟨start, stop, cut⟩ : ∃ start stop,
      segmentsFrom offset [] (text ++ (markerShown ++ rest)) =
        literalBefore text (.directive ('=' :: '"' :: (marker ++ ['"'])) start stop ::
          segmentsFrom stop [] rest) :=
    segmentsFrom_literal_directive offset text h (splitBody?_markerShown rest)
  have literal := Setting.reaches_literalBefore r ⟨[], [], true, output, env, memory⟩ text
    (.directive ('=' :: '"' :: (marker ++ ['"'])) start stop :: segmentsFrom stop [] rest)
  have shown : r.step ⟨.directive ('=' :: '"' :: (marker ++ ['"'])) start stop ::
        segmentsFrom stop [] rest, [], true, output ++ .ofList text, env, memory⟩ =
      .next ⟨segmentsFrom stop [] rest, [], true,
        output ++ .ofList text ++ .ofList marker, env, memory⟩ :=
    step_output hm rfl (evaluate_marker _) rfl
  rw [cut, String.ofList_append, ← String.append_assoc]
  exact ⟨stop, literal.tail shown⟩

/-- The template of a text is rendered to that text, with the variables unchanged. -/
theorem reaches_verbatim (offset : Nat) (output : String) (cs : List Char) :
    r.Reaches
      ⟨segmentsFrom offset [] (replaceAll marker markerShown cs), [], true, output, env, memory⟩
      ⟨[], [], true, output ++ .ofList cs, env, memory⟩ := by
  fun_induction replaceAll marker markerShown cs generalizing offset output with
  | case1 cs none => exact reaches_unmarked env memory offset output (splitAt?_eq_none_iff.1 none)
  | case2 cs before after found empty => cases empty
  | case3 cs before after found marked ih =>
    obtain ⟨stop, first⟩ := reaches_markerShown hm env memory offset output
      (not_isInfix_of_splitAt? marked found) (replaceAll marker markerShown after)
    have last := ih stop (output ++ .ofList (before ++ marker))
    rw [String.append_assoc, ← String.ofList_append, List.append_assoc,
      ← eq_append_of_splitAt? found] at last
    exact first.trans last

end

/-- Every text is what some template is rendered to, from all variables and with all functions: the
template of the text. Text without a marker is its own template. The variables are unchanged. -/
theorem render_verbatim (engine : Engine α) (hr : engine.rendering = false) (env : Environment α)
    (s : String) :
    (∀ o, (∃ fuel, engine.render fuel (verbatim s) env = some o) ↔ o = ⟨.ok s, env, (), engine⟩) ∧
    (¬marker <:+: s.toList →
      ∀ o, (∃ fuel, engine.render fuel s env = some o) ↔ o = ⟨.ok s, env, (), engine⟩) := by
  have rendered : ∀ o,
      (∃ fuel, engine.render fuel (verbatim s) env = some o) ↔ o = ⟨.ok s, env, (), engine⟩ := by
    have reached : (engine.setting (verbatim s)).Reaches
        (Setting.start (verbatim s).toList env ()) ⟨[], [], true, s, env, ()⟩ := by
      have whole := reaches_verbatim (r := engine.setting (verbatim s)) rfl env () 0 "" s.toList
      simpa [verbatim, Setting.start, segments] using whole
    exact Engine.exists_render_iff hr reached rfl rfl
  refine ⟨rendered, fun unmarked => ?_⟩
  rwa [verbatim_eq_self unmarked] at rendered

/-- The marker after a lone at sign and before another bracket; at signs alone. -/
theorem render_verbatim_at_signs :
    (verbatim "@@[[@" = "@@[=\"@[\"][@" ∧ Engine.bare.rendering = false ∧
      ∃ fuel, Engine.bare.render fuel "@@[=\"@[\"][@" .empty =
        some ⟨.ok "@@[[@", .empty, (), .bare⟩) ∧
    (¬marker <:+: "é@@".toList ∧
      ∃ fuel, Engine.bare.render fuel "é@@" .empty = some ⟨.ok "é@@", .empty, (), .bare⟩) := by
  have written : verbatim "@@[[@" = "@@[=\"@[\"][@" := by cbv
  have unmarked : ¬marker <:+: "é@@".toList := by decide
  have shown := (render_verbatim .bare rfl .empty "@@[[@").1
  rw [written] at shown
  exact ⟨⟨written, rfl, (shown _).2 rfl⟩, unmarked,
    ((render_verbatim .bare rfl .empty "é@@").2 unmarked _).2 rfl⟩

end MicroTemplate.Template
