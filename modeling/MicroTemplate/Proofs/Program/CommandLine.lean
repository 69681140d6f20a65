import MicroTemplate.CommandLine
import MicroTemplate.Proofs.Expression.Stacks

/-!
# Command lines written out

Whatever a command line can ask for can be written as one: an option in a word of its own, with its
argument in the same word, and behind two hyphens the template. Such a word is taken as a whole. It
leaves nothing for its neighbours to say and takes nothing from them, not even the one option that
looks at the word after it, since all that can come there begins with a hyphen. So the order of the
words does not count, but for the definitions among each other.
-/

namespace MicroTemplate.CommandLine

open Expression Text

/-- An option with its argument. -/
inductive Switch where
  /-- The variables file of a path. -/
  | variablesFile (path : String)
  /-- No variables file. -/
  | skip
  /-- One more definition. -/
  | define (name expression : String)
  /-- The file that the text is written to. -/
  | output (path : String)
  /-- A log of the run. -/
  | debug
  deriving DecidableEq, Repr

namespace Switch

/-- The word of an option, with its argument in it. -/
def word : Switch → String
  | variablesFile path => "-f" ++ path
  | skip => "-f"
  | define name expression => "-D" ++ name ++ "=" ++ expression
  | output path => "-o" ++ path
  | debug => "-d"

/-- Whether the argument of an option can stand in its word. -/
def Writable : Switch → Prop
  | variablesFile path => path ≠ ""
  | skip => True
  | define name _ => name ≠ "" ∧ '=' ∉ name.toList
  | output path => path ≠ ""
  | debug => True

/-- What a command line asks for with one option more. -/
def apply (d : Draft) : Switch → Draft
  | variablesFile path => d.withVariables (.file path)
  | skip => d.withVariables .skip
  | define name expression =>
    { d with options := { d.options with defines := d.options.defines ++ [(name, expression)] } }
  | output path => d.withOutput path
  | debug => { d with options := { d.options with debug := true } }

/-- The variables file that an option asks for. -/
def source? : Switch → Option VariablesSource
  | variablesFile path => some (.file path)
  | skip => some .skip
  | _ => none

/-- The definition of an option. -/
def definition? : Switch → Option (String × String)
  | define name expression => some (name, expression)
  | _ => none

/-- The output that an option asks for. -/
def path? : Switch → Option String
  | output path => some path
  | _ => none

end Switch

/-! ## One word -/

/-- Whether a word begins with a hyphen. -/
def Hyphened (word : String) : Prop := word.toList.head? = some '-'

/-- A definition is cut at its first equals sign. -/
theorem splitDefinition_append {name : List Char} (some : name ≠ []) (h : '=' ∉ name)
    (e : List Char) : splitDefinition (name ++ '=' :: e) = .ok (.ofList name, .ofList e) := by
  rw [splitDefinition, splitFirst?_append_cons h]
  obtain ⟨c, cs, rfl⟩ := List.exists_cons_of_ne_nil some
  rfl

/-- An option of the variables file at the end of its word takes no word that begins with a
hyphen. -/
theorem takeLetters_bare (d : Draft) {following : List String}
    (hf : ∀ next ∈ following.head?, Hyphened next) :
    d.takeLetters following ['f'] = .ok (d.withVariables .skip, 0) := by
  cases following with
  | nil => rfl
  | cons next rest =>
    cases rest with
    | nil => rfl
    | cons other rest =>
      have look : next.toList.head? = some '-' := hf next rfl
      rw [Draft.takeLetters, if_pos look]

/-- An option that can be written takes the rest of its word, and no other word. -/
theorem takeLetters_word {s : Switch} (hs : s.Writable) (d : Draft) {following : List String}
    (hf : ∀ next ∈ following.head?, Hyphened next) :
    ∃ letter letters, s.word.toList = '-' :: letter :: letters ∧ letter ≠ '-' ∧
      d.takeLetters following (letter :: letters) = .ok (s.apply d, 0) := by
  cases s with
  | variablesFile path =>
    refine ⟨'f', path.toList, by simp [Switch.word], by decide, ?_⟩
    rw [Draft.takeLetters, String.ofList_toList]
    · rfl
    · exact fun empty => hs (String.toList_eq_nil_iff.1 empty)
  | skip => exact ⟨'f', [], rfl, by decide, takeLetters_bare d hf⟩
  | define name expression =>
    have letters : name.toList ≠ [] := fun empty => hs.1 (String.toList_eq_nil_iff.1 empty)
    refine ⟨'D', name.toList ++ '=' :: expression.toList, by simp [Switch.word], by decide, ?_⟩
    rw [Draft.takeLetters, Draft.define, splitDefinition_append letters hs.2,
      String.ofList_toList, String.ofList_toList]
    · rfl
    · exact fun empty => letters (List.append_eq_nil_iff.1 empty).1
  | output path =>
    refine ⟨'o', path.toList, by simp [Switch.word], by decide, ?_⟩
    rw [Draft.takeLetters, String.ofList_toList]
    · rfl
    · exact fun empty => hs (String.toList_eq_nil_iff.1 empty)
  | debug => exact ⟨'d', [], rfl, by decide, rfl⟩

theorem Switch.hyphened_word (s : Switch) : Hyphened s.word := by
  cases s <;> simp [Switch.word, Hyphened]

/-- An option in a word of its own leaves the words behind it to be taken for themselves. -/
theorem takeWords_word {s : Switch} (hs : s.Writable) (d : Draft) {rest : List String}
    (hr : ∀ next ∈ rest.head?, Hyphened next) :
    d.takeWords (s.word :: rest) = (s.apply d).takeWords rest := by
  obtain ⟨letter, letters, word, option, taken⟩ := takeLetters_word hs d hr
  have apart : s.word ≠ "--" := by
    intro same
    rw [same] at word
    cases word
    exact option rfl
  rw [Draft.takeWords, if_neg apart]
  split
  · next letter letters same =>
    rw [word] at same
    cases same
    rw [taken, ok_bind]
    rfl
  · next other => exact absurd word (other _ _)

/-! ## All words -/

/-- Options in words of their own are taken one after the other. -/
theorem takeWords_map_word {options : List Switch} (h : ∀ s ∈ options, s.Writable)
    {rest : List String} (hr : ∀ next ∈ rest.head?, Hyphened next) (d : Draft) :
    d.takeWords (options.map Switch.word ++ rest) =
      (options.foldl Switch.apply d).takeWords rest := by
  induction options generalizing d with
  | nil => rfl
  | cons s options ih =>
    have next : ∀ next ∈ (options.map Switch.word ++ rest).head?, Hyphened next := by
      cases options with
      | nil => exact hr
      | cons s' options =>
        rintro _ ⟨⟩
        exact s'.hyphened_word
    rw [List.map_cons, List.cons_append, takeWords_word (h s List.mem_cons_self) d next,
      ih (fun s hs => h s (List.mem_cons_of_mem _ hs)), List.foldl_cons]

/-- The last option of a kind counts, but all definitions do. -/
theorem foldl_apply (options : List Switch) (d : Draft) :
    options.foldl Switch.apply d =
      ⟨⟨(options.filterMap Switch.source?).getLast?.getD d.options.variablesFile,
        d.options.defines ++ options.filterMap Switch.definition?,
        (options.filterMap Switch.path?).getLast?.or d.options.output,
        d.options.debug || decide (.debug ∈ options), d.options.template⟩, d.others⟩ := by
  induction options generalizing d with
  | nil => simp
  | cons s options ih =>
    rw [List.foldl_cons, ih]
    cases s <;>
      simp [Switch.apply, Switch.source?, Switch.definition?, Switch.path?, Draft.withVariables,
        Draft.withOutput, List.filterMap_cons, List.getLast?_cons]

/-- There is only one order of a list with at most one element. -/
theorem eq_of_perm_of_length_le_one {β : Type} {l l' : List β} (p : l.Perm l')
    (h : l'.length ≤ 1) : l = l' := by
  cases l' with
  | nil => exact p.eq_nil
  | cons b rest =>
    have none : rest = [] := List.length_eq_zero_iff.1 (Nat.le_zero.1 (Nat.le_of_succ_le_succ h))
    rw [none] at p ⊢
    exact List.perm_singleton.1 p

/-- The order of the options does not count as long as the definitions keep theirs and nothing else
is asked for twice. -/
theorem foldl_apply_of_perm {options options' : List Switch} (order : options.Perm options')
    (definitions : options.filterMap Switch.definition? = options'.filterMap Switch.definition?)
    (source : (options'.filterMap Switch.source?).length ≤ 1)
    (path : (options'.filterMap Switch.path?).length ≤ 1) (d : Draft) :
    options.foldl Switch.apply d = options'.foldl Switch.apply d := by
  rw [foldl_apply, foldl_apply, definitions,
    eq_of_perm_of_length_le_one (order.filterMap Switch.source?) source,
    eq_of_perm_of_length_le_one (order.filterMap Switch.path?) path,
    decide_eq_decide.2 order.mem_iff]

/-! ## Command lines -/

/-- The options that ask for a variables file. None does for the usual places. -/
def VariablesSource.switches : VariablesSource → List Switch
  | search => []
  | skip => [.skip]
  | file path => [.variablesFile path]

/-- The words that ask for a template. Nothing has to be said for the standard input. -/
def TemplateSource.tails : TemplateSource → List (List String)
  | standardInput => [[], ["--"]]
  | file path => [["--", path]]

/-- The words behind the options begin with the one that ends them. -/
theorem TemplateSource.hyphened_of_mem_tails {t : TemplateSource} {tail : List String}
    (ht : tail ∈ t.tails) : ∀ next ∈ tail.head?, Hyphened next := by
  cases t with
  | standardInput =>
    rcases List.mem_pair.1 ht with rfl | rfl
    · exact fun next hn => absurd hn (Option.not_mem_none next)
    · rintro _ ⟨⟩
      rfl
  | file path =>
    cases List.mem_singleton.1 ht
    rintro _ ⟨⟩
    rfl

/-- The words behind the options say where the template is. -/
theorem TemplateSource.finish_of_mem_tails {t : TemplateSource} (h : t ≠ .file "-")
    {tail : List String} (ht : tail ∈ t.tails) (options : Arguments) :
    (Draft.takeWords ⟨{ options with template := .standardInput }, []⟩ tail >>= Draft.finish) =
      .ok { options with template := t } := by
  cases t with
  | standardInput =>
    rcases List.mem_pair.1 ht with rfl | rfl
    · rw [Draft.takeWords]
      rfl
    · rw [Draft.takeWords]
      rfl
  | file path =>
    cases List.mem_singleton.1 ht
    have named : path ≠ "-" := fun same => h (congrArg _ same)
    rw [Draft.takeWords, if_pos rfl, ok_bind, List.nil_append, Draft.finish]
    dsimp only
    rw [if_neg named]

namespace Arguments

/-- The options of a command line. -/
def switches (args : Arguments) : List Switch :=
  args.variablesFile.switches ++ args.defines.map (fun d => .define d.1 d.2) ++
    args.output.toList.map .output ++ if args.debug then [.debug] else []

/-- Whether a command line can be written. -/
structure Writable (args : Arguments) : Prop where
  /-- An empty path would be none. -/
  variablesFile : args.variablesFile ≠ .file ""
  /-- Names end at the first equals sign. -/
  defines : ∀ d ∈ args.defines, d.1 ≠ "" ∧ '=' ∉ d.1.toList
  /-- An empty path would be none. -/
  output : args.output ≠ some ""
  /-- A lone hyphen stands for the standard input. -/
  template : args.template ≠ .file "-"

theorem Writable.switches {args : Arguments} (h : args.Writable) :
    ∀ s ∈ args.switches, s.Writable := by
  obtain ⟨variablesFile, defines, output, debug, template⟩ := args
  intro s hs
  simp only [Arguments.switches, List.mem_append, List.mem_map, Option.mem_toList] at hs
  rcases hs with ((hs | ⟨d, hd, rfl⟩) | ⟨path, rfl, rfl⟩) | hs
  · cases variablesFile with
    | search => cases hs
    | skip => cases List.mem_singleton.1 hs; trivial
    | file path =>
      cases List.mem_singleton.1 hs
      exact fun empty => h.variablesFile (congrArg _ empty)
  · exact h.defines d hd
  · exact fun empty => h.output (congrArg _ empty)
  · cases debug with
    | false => cases hs
    | true => cases List.mem_singleton.1 hs; trivial

section

variable (args : Arguments)

/-- The options of a command line ask for at most one variables file. -/
theorem filterMap_source?_switches :
    args.switches.filterMap Switch.source? =
      args.variablesFile.switches.filterMap Switch.source? := by
  cases hd : args.debug <;>
    simp [switches, hd, Switch.source?, List.filterMap_map, Function.comp_def]

theorem filterMap_definition?_switches :
    args.switches.filterMap Switch.definition? = args.defines := by
  cases hv : args.variablesFile <;> cases hd : args.debug <;>
    simp [switches, hv, hd, VariablesSource.switches, Switch.definition?, List.filterMap_cons,
      List.filterMap_map, Function.comp_def]

theorem filterMap_path?_switches :
    args.switches.filterMap Switch.path? = args.output.toList := by
  cases hv : args.variablesFile <;> cases hd : args.debug <;>
    simp [switches, hv, hd, VariablesSource.switches, Switch.path?, List.filterMap_cons,
      List.filterMap_map, Function.comp_def]

theorem debug_mem_switches : .debug ∈ args.switches ↔ args.debug = true := by
  cases hv : args.variablesFile <;> cases hd : args.debug <;>
    simp [switches, hv, hd, VariablesSource.switches]

/-- The options of a command line ask for all of it but the template. -/
theorem foldl_switches :
    args.switches.foldl Switch.apply Draft.start =
      ⟨{ args with template := .standardInput }, []⟩ := by
  have source : (args.variablesFile.switches.filterMap Switch.source?).getLast?.getD .search =
      args.variablesFile := by
    cases args.variablesFile <;> rfl
  have path : args.output.toList.getLast?.or none = args.output := by
    cases args.output <;> rfl
  have debug : (false || decide (Switch.debug ∈ args.switches)) = args.debug := by
    simp [debug_mem_switches]
  rw [foldl_apply, filterMap_source?_switches, filterMap_definition?_switches,
    filterMap_path?_switches, Draft.start, source, path, debug, List.nil_append]

end

/-- A command line that is written out is read back. -/
theorem ofWords_of_switches {args : Arguments} (h : args.Writable) {options : List Switch}
    (order : options.Perm args.switches)
    (definitions : options.filterMap Switch.definition? = args.defines) {tail : List String}
    (ht : tail ∈ args.template.tails) :
    Arguments.ofWords (options.map Switch.word ++ tail) = .ok args := by
  have writable : ∀ s ∈ options, s.Writable := fun s hs => h.switches s (order.subset hs)
  have source : (args.switches.filterMap Switch.source?).length ≤ 1 := by
    rw [filterMap_source?_switches]
    cases args.variablesFile <;> simp [VariablesSource.switches, Switch.source?]
  have path : (args.switches.filterMap Switch.path?).length ≤ 1 := by
    rw [filterMap_path?_switches]
    exact Option.length_toList_le
  rw [Arguments.ofWords, takeWords_map_word writable (TemplateSource.hyphened_of_mem_tails ht),
    foldl_apply_of_perm order (definitions.trans args.filterMap_definition?_switches.symm)
      source path, foldl_switches]
  exact TemplateSource.finish_of_mem_tails h.template ht args

/-- The option that looks at the words after it comes last, and all texts begin with a hyphen. -/
theorem ofWords_of_switches_hyphens :
    Arguments.ofWords ["-d", "-D-f==-", "-o--", "-Dx= -D", "-f", "--", "-D"] =
      .ok ⟨.skip, [("-f", "=-"), ("x", " -D")], some "--", true, .file "-D"⟩ := by
  let args : Arguments :=
    ⟨.skip, [("-f", "=-"), ("x", " -D")], some "--", true, .file "-D"⟩
  let options : List Switch :=
    [.debug, .define "-f" "=-", .output "--", .define "x" " -D", .skip]
  have writable : args.Writable := ⟨by decide, by decide, by decide, by decide⟩
  have order : options.Perm args.switches := by decide
  have read := ofWords_of_switches writable order rfl (List.mem_singleton.2 rfl)
  exact read

end Arguments

end MicroTemplate.CommandLine
