import MicroTemplate.Proofs.Program.CommandLine

/-!
# An option that looks ahead

`Reads` says how the words of a command line fall into options with their arguments and other words,
one after the other. All that an option takes is decided where it stands, but for the option of the
variables file at the end of its word: there the next word is a variables file or the template,
whichever the rest of the command line makes of it. What it goes by is whether any word is left
behind that next word, and not whether a template is.
-/

namespace MicroTemplate.CommandLine

/-- What is read in a command line. -/
inductive Item where
  /-- A log of the run. -/
  | debug
  /-- One more definition. -/
  | define (definition : String)
  /-- The file that the text is written to. -/
  | output (path : String)
  /-- The variables file of a path in the word of its option. -/
  | file (path : String)
  /-- The option of the variables file at the end of its word, and the next word, which begins with
  no hyphen. -/
  | lone (next : String)
  /-- The option of the variables file at the end of its word, and no such word behind it. -/
  | bare
  /-- The word that ends the options. -/
  | ended
  /-- A word that is neither an option nor the argument of one. -/
  | other (word : String)
  deriving DecidableEq, Repr

/-- The argument of an option and the number of words that it takes: what is left of the word of the
option, or the next word if nothing is left. -/
inductive Argument (following : List String) : List Char → String → Nat → Prop where
  /-- The argument stands in the word of the option. -/
  | same {letters} (h : letters ≠ []) : Argument following letters (.ofList letters) 0
  /-- The argument is the next word. -/
  | next {word rest} (h : following = word :: rest) : Argument following [] word 1

/-- What is read in the letters of a word, and the number of words behind it that are arguments. -/
inductive ReadsLetters (following : List String) : List Char → List Item → Nat → Prop where
  /-- No letter is left. -/
  | nil : ReadsLetters following [] [] 0
  /-- An option without an argument leaves the word to others. -/
  | debug {letters items taken} (h : ReadsLetters following letters items taken) :
    ReadsLetters following ('d' :: letters) (.debug :: items) taken
  /-- A definition. -/
  | define {letters text taken} (h : Argument following letters text taken) :
    ReadsLetters following ('D' :: letters) [.define text] taken
  /-- An output. -/
  | output {letters text taken} (h : Argument following letters text taken) :
    ReadsLetters following ('o' :: letters) [.output text] taken
  /-- A variables file. -/
  | file {letters} (h : letters ≠ []) :
    ReadsLetters following ('f' :: letters) [.file (.ofList letters)] 0
  /-- A word that may be the variables file. -/
  | lone {word rest} (h : following = word :: rest) (hw : ¬Hyphened word) :
    ReadsLetters following ['f'] [.lone word] 1
  /-- No such word. -/
  | bare (h : ∀ next ∈ following.head?, Hyphened next) : ReadsLetters following ['f'] [.bare] 0

/-- What is read in the words of a command line, in order. -/
inductive Reads : List String → List Item → Prop where
  /-- No word is left. -/
  | nil : Reads [] []
  /-- Two hyphens end the options. -/
  | ended (words : List String) : Reads ("--" :: words) (.ended :: words.map .other)
  /-- A word without a hyphen, or nothing but a hyphen. -/
  | other {word words items} (hw : ¬Hyphened word ∨ word = "-") (h : Reads words items) :
    Reads (word :: words) (.other word :: items)
  /-- A word of options. -/
  | options {word letters words items more taken} (hw : word.toList = '-' :: letters)
    (hn : letters ≠ []) (he : word ≠ "--") (hl : ReadsLetters words letters items taken)
    (h : Reads (words.drop taken) more) : Reads (word :: words) (items ++ more)

/-! ## What is read decides what is asked for -/

/-- What a command line asks for with one item more; `last` says that it is the last one. -/
def Item.take (d : Draft) (last : Bool) : Item → Except Fault Draft
  | debug => .ok { d with options := { d.options with debug := true } }
  | define definition => d.define definition.toList
  | output path => .ok (d.withOutput path)
  | file path => .ok (d.withVariables (.file path))
  | lone next =>
    .ok (if last then { d.withVariables .skip with others := d.others ++ [next] }
      else d.withVariables (.file next))
  | bare => .ok (d.withVariables .skip)
  | ended => .ok d
  | other word => .ok { d with others := d.others ++ [word] }

/-- Takes items one after the other. -/
def Draft.takeItems (d : Draft) : List Item → Except Fault Draft
  | [] => .ok d
  | item :: items => do
    let d ← item.take d items.isEmpty
    d.takeItems items

open Expression

theorem takeItems_others (d : Draft) (words : List String) :
    d.takeItems (words.map .other) = .ok { d with others := d.others ++ words } := by
  induction words generalizing d with
  | nil => simp [Draft.takeItems]
  | cons word words ih =>
    rw [List.map_cons, Draft.takeItems, Item.take, ok_bind, ih]
    simp

/-- Something is read in letters. -/
theorem ReadsLetters.ne_nil {following : List String} {letters : List Char} {items : List Item}
    {taken : ℕ} (h : ReadsLetters following letters items taken) (hn : letters ≠ []) :
    items ≠ [] := by
  cases h with
  | nil => exact absurd rfl hn
  | _ => exact List.cons_ne_nil _ _

/-- Something is read in words. -/
theorem Reads.isEmpty_eq {words : List String} {items : List Item} (h : Reads words items) :
    items.isEmpty = words.isEmpty := by
  cases h with
  | nil => rfl
  | ended => rfl
  | other => rfl
  | options hw hn he hl h => simp [hl.ne_nil hn]

/-- A word of options is not the one that ends them, nor one that is no option. -/
theorem takeWords_options {word : String} {letters : List Char}
    (hw : word.toList = '-' :: letters) (hn : letters ≠ []) (he : word ≠ "--") (d : Draft)
    (words : List String) :
    d.takeWords (word :: words) =
      d.takeLetters words letters >>= fun (d, taken) => d.takeWords (words.drop taken) := by
  obtain ⟨letter, letters, rfl⟩ := List.exists_cons_of_ne_nil hn
  rw [Draft.takeWords, if_neg he]
  split
  · next same =>
    rw [hw] at same
    cases same
    rfl
  · next other => exact absurd hw (other _ _)

/-- A word that is no option is kept. -/
theorem takeWords_other {word : String} (hw : ¬Hyphened word ∨ word = "-") (d : Draft)
    (words : List String) :
    d.takeWords (word :: words) = { d with others := d.others ++ [word] }.takeWords words := by
  have apart (letter : Char) (letters : List Char) : word.toList ≠ '-' :: letter :: letters := by
    intro same
    rcases hw with hw | rfl
    · exact hw (by rw [Hyphened, same]; rfl)
    · cases same
  have goes : word ≠ "--" := by
    rintro rfl
    exact apart '-' [] rfl
  rw [Draft.takeWords, if_neg goes]
  split
  · next same => exact absurd same (apart _ _)
  · rfl

/-- The option at the end of its word goes by the words that are left. -/
theorem takeLetters_lone (d : Draft) {word : String} (hw : ¬Hyphened word) (rest : List String) :
    d.takeLetters (word :: rest) ['f'] =
      .ok (if rest.isEmpty then (d.withVariables .skip, 0)
        else (d.withVariables (.file word), 1)) := by
  cases rest with
  | nil => rfl
  | cons next rest =>
    have look : word.toList.head? ≠ some '-' := hw
    rw [Draft.takeLetters, if_neg look]
    rfl

/-- Letters and the words behind them are taken as they are read. -/
theorem takeLetters_of_reads {words : List String} {letters : List Char} {items more : List Item}
    {taken : ℕ} (h : ReadsLetters words letters items taken) (rest : Reads (words.drop taken) more)
    (ih : ∀ d : Draft, d.takeWords (words.drop taken) = d.takeItems more) (d : Draft) :
    (d.takeLetters words letters >>= fun (d, taken) => d.takeWords (words.drop taken)) =
      d.takeItems (items ++ more) := by
  induction h generalizing d with
  | nil => exact ih d
  | debug _ h =>
    rw [Draft.takeLetters, List.cons_append, Draft.takeItems]
    exact h rest ih _
  | define h =>
    rw [List.singleton_append, Draft.takeItems, Item.take]
    cases h with
    | same h =>
      rw [Draft.takeLetters, String.toList_ofList]
      · cases d.define _ with
        | error fault => rfl
        | ok d => exact ih d
      · exact h
    | next h =>
      rw [h] at ih ⊢
      rw [Draft.takeLetters]
      cases d.define _ with
      | error fault => rfl
      | ok d => exact ih d
  | output h =>
    rw [List.singleton_append, Draft.takeItems, Item.take, ok_bind, ← ih]
    cases h with
    | same h =>
      rw [Draft.takeLetters, ok_bind]
      exact h
    | next h =>
      rw [h, Draft.takeLetters]
      rfl
  | file h =>
    rw [List.singleton_append, Draft.takeItems, Item.take, ok_bind, ← ih, Draft.takeLetters,
      ok_bind]
    exact h
  | @lone word following h hw =>
    rw [h] at rest ih ⊢
    rw [takeLetters_lone d hw, ok_bind, List.singleton_append, Draft.takeItems, Item.take, ok_bind,
      rest.isEmpty_eq, ← ih]
    cases following with
    | nil => exact takeWords_other (.inl hw) _ []
    | cons next following => rfl
  | bare h =>
    rw [takeLetters_bare d h, ok_bind]
    exact ih _

/-- Words are taken as they are read. -/
theorem takeWords_of_reads {words : List String} {items : List Item} (h : Reads words items)
    (d : Draft) : d.takeWords words = d.takeItems items := by
  induction h generalizing d with
  | nil =>
    rw [Draft.takeWords]
    rfl
  | ended words =>
    rw [Draft.takeWords, if_pos rfl, Draft.takeItems, Item.take, ok_bind, takeItems_others]
  | other hw _ ih =>
    rw [takeWords_other hw, ih]
    rfl
  | options hw hn he hl rest ih =>
    rw [takeWords_options hw hn he]
    exact takeLetters_of_reads hl rest ih d

/-! ## What is taken can be read -/

/-- Letters that are taken are read. The last word of a command line may be read as an argument
without being taken as one. -/
theorem exists_readsLetters {d d' : Draft} {following : List String} {letters : List Char} {n : ℕ}
    (h : d.takeLetters following letters = .ok (d', n)) :
    ∃ items taken, ReadsLetters following letters items taken ∧
      (taken = n ∨ following.drop taken = []) := by
  fun_induction Draft.takeLetters d following letters with
  | case1 d =>
    cases h
    exact ⟨[], 0, .nil, .inl rfl⟩
  | case2 d letters ih =>
    obtain ⟨items, taken, reads, hn⟩ := ih h
    exact ⟨.debug :: items, taken, .debug reads, hn⟩
  | case3 d word next rest words hyphened =>
    cases h
    rw [words]
    exact ⟨[.bare], 0, .bare (by rintro _ ⟨⟩; exact hyphened), .inl rfl⟩
  | case4 d word next rest words plain =>
    cases h
    exact ⟨[.lone word], 1, .lone words plain, .inl rfl⟩
  | case5 d few =>
    cases h
    cases following with
    | nil =>
      exact ⟨[.bare], 0, .bare (fun next hn => absurd hn (Option.not_mem_none next)), .inl rfl⟩
    | cons word rest =>
      cases rest with
      | nil =>
        by_cases hyphened : Hyphened word
        · exact ⟨[.bare], 0, .bare (by rintro _ ⟨⟩; exact hyphened), .inl rfl⟩
        · exact ⟨[.lone word], 1, .lone rfl hyphened, .inr rfl⟩
      | cons next rest => exact absurd rfl (few word next rest)
  | case6 d path hp =>
    cases h
    exact ⟨_, 0, .file hp, .inl rfl⟩
  | case7 d definition rest words =>
    obtain ⟨_, _, taken⟩ := bind_eq_ok h
    cases taken
    exact ⟨_, 1, .define (.next words), .inl rfl⟩
  | case8 => cases h
  | case9 d definition hd =>
    obtain ⟨_, _, taken⟩ := bind_eq_ok h
    cases taken
    exact ⟨_, 0, .define (.same hd), .inl rfl⟩
  | case10 d path rest words =>
    cases h
    exact ⟨_, 1, .output (.next words), .inl rfl⟩
  | case11 => cases h
  | case12 d path hp =>
    cases h
    exact ⟨_, 0, .output (.same hp), .inl rfl⟩
  | case13 => cases h

/-- A command line whose words are all taken can be read. -/
theorem exists_reads {d d' : Draft} {words : List String} (h : d.takeWords words = .ok d') :
    ∃ items, Reads words items := by
  fun_induction Draft.takeWords d words generalizing d' with
  | case1 => exact ⟨[], .nil⟩
  | case2 d words => exact ⟨_, .ended words⟩
  | case3 d word words hword letter letters split ih =>
    obtain ⟨⟨next, n⟩, taken, rest⟩ := bind_eq_ok h
    obtain ⟨items, m, reads, hm⟩ := exists_readsLetters taken
    rcases hm with rfl | last
    · obtain ⟨more, hmore⟩ := ih next m rest
      exact ⟨_, .options split (List.cons_ne_nil _ _) hword reads hmore⟩
    · have none : Reads (words.drop m) [] := by
        rw [last]
        exact .nil
      exact ⟨_, .options split (List.cons_ne_nil _ _) hword reads none⟩
  | case4 d word words hword plain ih =>
    obtain ⟨items, reads⟩ := ih h
    refine ⟨_, .other ?_ reads⟩
    by_cases hyphened : Hyphened word
    · obtain ⟨letters, split⟩ := List.head?_eq_some_iff.1 hyphened
      cases letters with
      | nil => exact .inr (String.toList_inj.1 split)
      | cons letter letters => exact absurd split (plain letter letters)
    · exact .inl hyphened

/-! ## There is one way to read -/

theorem Argument.unique {following : List String} {letters : List Char} {text text' : String}
    {taken taken' : ℕ} (h : Argument following letters text taken)
    (h' : Argument following letters text' taken') : text = text' ∧ taken = taken' := by
  cases h with
  | same hn =>
    cases h' with
    | same => exact ⟨rfl, rfl⟩
    | next => exact absurd rfl hn
  | next hw =>
    cases h' with
    | same hn => exact absurd rfl hn
    | next hw' =>
      rw [hw] at hw'
      cases hw'
      exact ⟨rfl, rfl⟩

theorem ReadsLetters.unique {following : List String} {letters : List Char}
    {items items' : List Item} {taken taken' : ℕ} (h : ReadsLetters following letters items taken)
    (h' : ReadsLetters following letters items' taken') : items = items' ∧ taken = taken' := by
  induction h generalizing items' with
  | nil =>
    cases h'
    exact ⟨rfl, rfl⟩
  | debug _ ih =>
    cases h' with
    | debug h' =>
      obtain ⟨rfl, rfl⟩ := ih h'
      exact ⟨rfl, rfl⟩
  | define ha =>
    cases h' with
    | define ha' =>
      obtain ⟨rfl, rfl⟩ := ha.unique ha'
      exact ⟨rfl, rfl⟩
  | output ha =>
    cases h' with
    | output ha' =>
      obtain ⟨rfl, rfl⟩ := ha.unique ha'
      exact ⟨rfl, rfl⟩
  | file hn =>
    cases h' with
    | file => exact ⟨rfl, rfl⟩
    | lone => exact absurd rfl hn
    | bare => exact absurd rfl hn
  | lone hf hw =>
    cases h' with
    | file hn => exact absurd rfl hn
    | lone hf' hw' =>
      rw [hf] at hf'
      cases hf'
      exact ⟨rfl, rfl⟩
    | bare hb => exact absurd (hb _ (by rw [hf]; rfl)) hw
  | bare hb =>
    cases h' with
    | file hn => exact absurd rfl hn
    | lone hf hw => exact absurd (hb _ (by rw [hf]; rfl)) hw
    | bare => exact ⟨rfl, rfl⟩

/-- Words are read in at most one way. -/
theorem Reads.unique {words : List String} {items items' : List Item} (h : Reads words items)
    (h' : Reads words items') : items = items' := by
  have option {word : String} {letters : List Char} (hw : word.toList = '-' :: letters)
      (hn : letters ≠ []) : ¬(¬Hyphened word ∨ word = "-") := by
    rintro (plain | rfl)
    · exact plain (by rw [Hyphened, hw]; rfl)
    · cases hw
      exact hn rfl
  have ends : ¬(¬Hyphened "--" ∨ "--" = "-") := option rfl (List.cons_ne_nil _ _)
  induction h generalizing items' with
  | nil =>
    cases h'
    rfl
  | ended words =>
    cases h' with
    | ended => rfl
    | other hw => exact absurd hw ends
    | options _ _ he => exact absurd rfl he
  | other hw _ ih =>
    cases h' with
    | ended => exact absurd hw ends
    | other _ rest => rw [ih rest]
    | options split hn => exact absurd hw (option split hn)
  | options split hn he hl _ ih =>
    cases h' with
    | ended => exact absurd rfl he
    | other hw => exact absurd hw (option split hn)
    | options split' _ _ hl' rest =>
      rw [split] at split'
      cases split'
      obtain ⟨rfl, rfl⟩ := hl.unique hl'
      rw [ih rest]

/-! ## The option at the end of its word -/

/-- Whether an item is an option of the variables file. -/
def Item.isVariables : Item → Bool
  | file _ | lone _ | bare => true
  | _ => false

/-- The word of an item that is neither an option nor the argument of one. -/
def Item.other? : Item → Option String
  | other word => some word
  | _ => none

/-- The template that the words ask for that are no options, if they are not too many. -/
def TemplateSource.ofOthers? : List String → Option TemplateSource
  | [] => some standardInput
  | [path] => some (if path = "-" then standardInput else file path)
  | _ => none

/-- That the word behind an option of the variables file is that file if a template stands behind
the word, and the template if none does. -/
def TemplateDecides (next : String) (behind : List Item) (args : Arguments) : Prop :=
  ((∃ word, .other word ∈ behind) → args.variablesFile = .file next) ∧
    ((∀ word, .other word ∉ behind) →
      args.variablesFile = .skip ∧ args.template = .file next)

/-- An item that is no option of the variables file leaves that file as it is. -/
theorem Item.take_quiet {item : Item} (h : item.isVariables = false) {d d' : Draft} {last : Bool}
    (taken : item.take d last = .ok d') :
    d'.options.variablesFile = d.options.variablesFile ∧
      d'.options.template = d.options.template ∧ d'.others = d.others ++ item.other?.toList := by
  cases item with
  | define definition =>
    obtain ⟨_, _, done⟩ := bind_eq_ok taken
    cases done
    exact ⟨rfl, rfl, (List.append_nil _).symm⟩
  | file | lone | bare => cases h
  | other word =>
    cases taken
    exact ⟨rfl, rfl, rfl⟩
  | _ =>
    cases taken
    exact ⟨rfl, rfl, (List.append_nil _).symm⟩

/-- Items that are no options of the variables file leave that file as it is. -/
theorem takeItems_quiet {items : List Item} (h : ∀ item ∈ items, item.isVariables = false)
    {d d' : Draft} {more : List Item} (taken : d.takeItems (items ++ more) = .ok d') :
    ∃ d₁ : Draft, d₁.takeItems more = .ok d' ∧
      d₁.options.variablesFile = d.options.variablesFile ∧
      d₁.options.template = d.options.template ∧
      d₁.others = d.others ++ items.filterMap Item.other? := by
  induction items generalizing d with
  | nil => exact ⟨d, taken, rfl, rfl, (List.append_nil _).symm⟩
  | cons item items ih =>
    obtain ⟨d₀, first, rest⟩ := bind_eq_ok taken
    obtain ⟨hv, ht, ho⟩ := Item.take_quiet (h item List.mem_cons_self) first
    obtain ⟨d₁, hd, hv', ht', ho'⟩ := ih (fun i hi => h i (List.mem_cons_of_mem _ hi)) rest
    refine ⟨d₁, hd, hv'.trans hv, ht'.trans ht, ?_⟩
    rw [ho', ho, List.append_assoc]
    cases hi : item.other? <;> simp [hi]

/-- The words that are no options say where the template is, and nothing else. -/
theorem finish_eq_ok {d : Draft} {args : Arguments} (h : d.finish = .ok args)
    (start : d.options.template = .standardInput) :
    args.variablesFile = d.options.variablesFile ∧
      TemplateSource.ofOthers? d.others = some args.template := by
  obtain ⟨options, others⟩ := d
  match others with
  | [] =>
    cases h
    exact ⟨rfl, congrArg some start.symm⟩
  | [path] =>
    cases h
    dsimp only [TemplateSource.ofOthers?] at start ⊢
    split
    · exact ⟨rfl, congrArg some start.symm⟩
    · exact ⟨rfl, rfl⟩
  | _ :: _ :: _ => cases h

/-- The last of the words that are no options is the only one. -/
theorem ofOthers?_append_eq_some {others : List String} {path : String} {t : TemplateSource}
    (h : TemplateSource.ofOthers? (others ++ [path]) = some t) (named : path ≠ "-") :
    t = .file path := by
  match others with
  | [] =>
    rw [List.nil_append, TemplateSource.ofOthers?, if_neg named] at h
    exact (Option.some_inj.1 h).symm
  | [_] => cases h
  | _ :: _ :: _ => cases h

/-- A word that may be the variables file begins with no hyphen. -/
theorem ReadsLetters.not_hyphened {following : List String} {letters : List Char}
    {items : List Item} {taken : ℕ} (h : ReadsLetters following letters items taken)
    {next : String} (hi : .lone next ∈ items) : ¬Hyphened next := by
  induction h with
  | debug _ ih => exact ih ((List.mem_cons.1 hi).resolve_left nofun)
  | lone _ hw =>
    cases List.mem_singleton.1 hi
    exact hw
  | nil | define | output | file | bare => simp at hi

/-- A word that may be the variables file begins with no hyphen. -/
theorem Reads.not_hyphened {words : List String} {items : List Item} (h : Reads words items)
    {next : String} (hi : .lone next ∈ items) : ¬Hyphened next := by
  induction h with
  | nil | ended => simp at hi
  | other _ _ ih => exact ih ((List.mem_cons.1 hi).resolve_left nofun)
  | options _ _ _ hl _ ih => exact (List.mem_append.1 hi).elim hl.not_hyphened ih

/-- A command line that asks for something can be read in exactly one way. If the only option of the
variables file stands at the end of its word, the next word is the template if it is the last word
of all, and the variables file if any word follows. So it goes by whether a template follows just if
nothing follows or a template does. -/
theorem lone_variables_option {words : List String} {args : Arguments}
    (taken : Arguments.ofWords words = .ok args) :
    (∃! items, Reads words items) ∧
      ∀ before next behind, Reads words (before ++ .lone next :: behind) →
        (∀ item ∈ before ++ behind, item.isVariables = false) →
        (behind = [] → args.variablesFile = .skip ∧ args.template = .file next) ∧
        (behind ≠ [] → args.variablesFile = .file next ∧
          TemplateSource.ofOthers? ((before ++ behind).filterMap Item.other?) =
            some args.template) ∧
        (TemplateDecides next behind args ↔
          behind = [] ∨ ∃ word, .other word ∈ behind) := by
  obtain ⟨d, hd, finish⟩ := bind_eq_ok taken
  obtain ⟨items, reads⟩ := exists_reads hd
  refine ⟨⟨items, reads, fun _ h => h.unique reads⟩, ?_⟩
  intro before next behind reads quiet
  have plain : ¬Hyphened next :=
    reads.not_hyphened (List.mem_append_right _ List.mem_cons_self)
  have named : next ≠ "-" := by
    rintro rfl
    exact plain rfl
  rw [takeWords_of_reads reads] at hd
  obtain ⟨d₁, hd₁, -, ht₁, ho₁⟩ :=
    takeItems_quiet (fun i hi => quiet i (List.mem_append_left _ hi)) hd
  rw [Draft.takeItems, Item.take, ok_bind] at hd₁
  have last : behind = [] → args.variablesFile = .skip ∧ args.template = .file next := by
    rintro rfl
    cases hd₁
    obtain ⟨hv, ht⟩ := finish_eq_ok finish ht₁
    exact ⟨hv, ofOthers?_append_eq_some ht named⟩
  have more : behind ≠ [] → args.variablesFile = .file next ∧
      TemplateSource.ofOthers? ((before ++ behind).filterMap Item.other?) =
        some args.template := by
    intro some
    rw [if_neg (by simpa using some), ← List.append_nil behind] at hd₁
    obtain ⟨d₂, hd₂, hv₂, ht₂, ho₂⟩ :=
      takeItems_quiet (fun i hi => quiet i (List.mem_append_right _ hi)) hd₁
    cases hd₂
    obtain ⟨hv, ht⟩ := finish_eq_ok finish (ht₂.trans ht₁)
    have others : d.others = (before ++ behind).filterMap Item.other? := by
      rw [ho₂, List.filterMap_append]
      exact congrArg (· ++ _) ho₁
    exact ⟨hv.trans hv₂, others ▸ ht⟩
  refine ⟨last, more, ?_, ?_⟩
  · intro decides
    by_contra neither
    obtain ⟨some, none⟩ := not_or.1 neither
    have skipped := (decides.2 (not_exists.1 none)).1
    rw [(more some).1] at skipped
    cases skipped
  · rintro (rfl | ⟨word, hw⟩)
    · exact ⟨fun ⟨_, hw⟩ => absurd hw List.not_mem_nil, fun _ => last rfl⟩
    · exact ⟨fun _ => (more (List.ne_nil_of_mem hw)).1, fun none => absurd hw (none word)⟩

/-- The word that ends the options is no template, but the one behind it is. -/
theorem lone_variables_option_ended :
    Arguments.ofWords ["-do", "out", "-f", "v", "--", "-t"] =
        .ok ⟨.file "v", [], some "out", true, .file "-t"⟩ ∧
      Reads ["-do", "out", "-f", "v", "--", "-t"]
        ([.debug, .output "out"] ++ .lone "v" :: [.ended, .other "-t"]) ∧
      TemplateDecides "v" [.ended, .other "-t"] ⟨.file "v", [], some "out", true, .file "-t"⟩ := by
  have reads : Reads ["-do", "out", "-f", "v", "--", "-t"]
      ([.debug, .output "out"] ++ .lone "v" :: [.ended, .other "-t"]) :=
    .options rfl (by decide) (by decide) (.debug (.output (.next rfl)))
      (.options rfl (by decide) (by decide) (.lone rfl (by unfold Hyphened; decide))
        (.ended ["-t"]))
  have taken : Arguments.ofWords ["-do", "out", "-f", "v", "--", "-t"] =
      .ok ⟨.file "v", [], some "out", true, .file "-t"⟩ := by
    rw [Arguments.ofWords, takeWords_of_reads reads]
    rfl
  refine ⟨taken, reads, ?_⟩
  exact ((lone_variables_option taken).2 _ _ _ reads (by decide)).2.2.2 (.inr ⟨"-t", by decide⟩)

/-- An option that follows is no template, and still the word before it is taken for the variables
file. -/
theorem lone_variables_option_debug :
    ¬∀ words args, Arguments.ofWords words = .ok args →
      ∀ before next behind, Reads words (before ++ .lone next :: behind) →
        (∀ item ∈ before ++ behind, item.isVariables = false) →
        TemplateDecides next behind args := by
  intro all
  have letters : ReadsLetters [] ['d'] [.debug] 0 := .debug .nil
  have option : Reads ["-d"] [.debug] := .options rfl (by decide) (by decide) letters .nil
  have letters : ReadsLetters ["page.tpl", "-d"] ['f'] [.lone "page.tpl"] 1 :=
    .lone rfl (by unfold Hyphened; decide)
  have reads : Reads ["-f", "page.tpl", "-d"] [.lone "page.tpl", .debug] :=
    .options rfl (by decide) (by decide) letters option
  have taken : Arguments.ofWords ["-f", "page.tpl", "-d"] =
      .ok ⟨.file "page.tpl", [], none, true, .standardInput⟩ := by
    rw [Arguments.ofWords, takeWords_of_reads reads]
    rfl
  have skipped := ((all _ _ taken [] "page.tpl" [.debug] reads (by decide)).2 (by simp)).1
  cases skipped

end MicroTemplate.CommandLine
