import MicroTemplate.Proofs.Expression.Arguments
import MicroTemplate.Proofs.Expression.Reading
import MicroTemplate.Proofs.Text.CharClass

/-!
# How a text spells its tokens

`Spells` says which texts are cut into tokens to their end, one rule for each kind of token, without
a scanner: a text is put together from words, quoted texts, calls, operators, parentheses and white
space, each with what may come after it. The scanner finds these parts and no others. The rules are
what the other scanners of the same text are compared with: the one that looks for the end of an
argument and the one that looks for the end of a directive.
-/

namespace MicroTemplate.Expression

open Text

/-! ## Runs of characters of one class -/

section

variable {p : Char → Bool} {run rest : List Char}

/-- A run of characters of a kind is taken as a whole if the next character is of another kind. -/
theorem takeWhile_run (hr : ∀ c ∈ run, p c = true) (hn : ∀ c ∈ rest.head?, p c = false) :
    (run ++ rest).takeWhile p = run := by
  rw [List.takeWhile_append_of_pos hr]
  cases rest with
  | nil => simp
  | cons c rest => simp [hn c rfl]

/-- What is behind such a run is left. -/
theorem dropWhile_run (hr : ∀ c ∈ run, p c = true) (hn : ∀ c ∈ rest.head?, p c = false) :
    (run ++ rest).dropWhile p = rest := by
  rw [List.dropWhile_append_of_pos hr]
  cases rest with
  | nil => rfl
  | cons c rest => simp [hn c rfl]

/-- What is left after a run of a class does not begin with a character of the class. -/
theorem head?_dropWhile (cs : List Char) : ∀ c ∈ (cs.dropWhile p).head?, p c = false := by
  induction cs with
  | nil => simp
  | cons d cs ih =>
    by_cases hd : p d = true
    · simpa [hd] using ih
    · intro c hc
      have hf : p d = false := by simpa using hd
      rw [List.dropWhile_cons, if_neg hd] at hc
      cases hc
      exact hf

/-- A text is the run of a class at its beginning and what is left. -/
theorem cons_takeWhile_append_dropWhile (p : Char → Bool) (c : Char) (cs : List Char) :
    c :: cs.takeWhile p ++ cs.dropWhile p = c :: cs :=
  congrArg (c :: ·) List.takeWhile_append_dropWhile

/-- A run has characters of its kind only. -/
theorem forall_mem_cons_takeWhile {c : Char} (hc : p c = true) (cs : List Char) :
    ∀ d ∈ c :: cs.takeWhile p, p d = true :=
  List.forall_mem_cons.2 ⟨hc, fun _ => List.mem_takeWhile_imp⟩

end

/-- More text without a character that satisfies `p` is left behind the first one. -/
theorem splitFirst?_append {p : Char → Bool} {more : List Char} (h : ∀ c ∈ more, p c = false)
    (cs : List Char) : splitFirst? p (cs ++ more) =
      (splitFirst? p cs).map fun (before, after) => (before, after ++ more) := by
  induction cs with
  | nil => exact splitFirst?_eq_none h
  | cons c cs ih =>
    rw [List.cons_append, splitFirst?, splitFirst?, ih]
    split
    · rfl
    · cases splitFirst? p cs <;> rfl

/-! ## The relation -/

/-- The texts that are cut into tokens to their end, with these tokens. -/
inductive Spells : List Char → List Token → Prop where
  /-- Nothing is left. -/
  | nil : Spells [] []
  /-- White space is passed over. -/
  | space {c cs ts} (hc : isSpace c = true) (h : Spells cs ts) : Spells (c :: cs) ts
  /-- An opening parenthesis that makes no call. -/
  | openGroup {cs ts} (h : Spells cs ts) : Spells ('(' :: cs) (.openGroup :: ts)
  /-- A closing parenthesis. -/
  | closeGroup {cs ts} (h : Spells cs ts) : Spells (')' :: cs) (.closeGroup :: ts)
  /-- A text between quotation marks. -/
  | quoted {text cs ts} (ht : '"' ∉ text) (h : Spells cs ts) :
    Spells ('"' :: (text ++ '"' :: cs)) (.quoted text :: ts)
  /-- A whole word, with no parenthesis right after it if it is a name. -/
  | word {word cs ts} (hw : word ≠ []) (hc : ∀ c ∈ word, isWordChar c = true)
    (hn : ∀ c ∈ cs.head?, isWordChar c = false ∧ (isName word = true → c ≠ '('))
    (h : Spells cs ts) : Spells (word ++ cs) (.word word :: ts)
  /-- A name with arguments. -/
  | call {name inner args rest ts} (hname : isName name = true)
    (ha : callArguments inner = .ok (args, rest)) (h : Spells rest ts) :
    Spells (name ++ '(' :: inner) (.call name (args.map Phrase.read) :: ts)
  /-- A whole run of operator characters. -/
  | operators {run cs ops ts} (hr : run ≠ []) (hc : ∀ c ∈ run, isOperatorChar c = true)
    (hn : ∀ c ∈ cs.head?, isOperatorChar c = false) (ho : splitOperators? run = some ops)
    (h : Spells cs ts) : Spells (run ++ cs) (ops.map .operator ++ ts)

theorem isWordChar_openParen : isWordChar '(' = false := by decide

/-- A character is that of an operator if it has no other use. -/
theorem isOperatorChar_eq {c : Char} :
    isOperatorChar c = true ↔
      isWordChar c = false ∧ isSpace c = false ∧ c ≠ '"' ∧ c ≠ '(' ∧ c ≠ ')' := by
  simp [isOperatorChar, and_assoc]

/-- A character of a word is not one of an operator. -/
theorem isOperatorChar_of_isWordChar {c : Char} (h : isWordChar c = true) :
    isOperatorChar c = false := by
  simp [isOperatorChar, h]

theorem isOperatorChar_of_isSpace {c : Char} (h : isSpace c = true) : isOperatorChar c = false := by
  simp [isOperatorChar, h]

/-- What begins no other token is an operator character. -/
theorem isOperatorChar_of_not {c : Char} (hs : ¬isSpace c = true) (ho : ¬c = '(') (hc : ¬c = ')')
    (hq : ¬c = '"') (hw : ¬isWordChar c = true) : isOperatorChar c = true :=
  isOperatorChar_eq.2 ⟨by simpa using hw, by simpa using hs, hq, ho, hc⟩

/-- A name is not empty. -/
theorem ne_nil_of_isName {name : List Char} (h : isName name = true) : name ≠ [] := by
  rintro rfl
  cases h

/-! ## What the scanner finds -/

/-- What a word at the beginning of a text is read as: a call if it is a name and an opening
parenthesis follows. -/
def wordTokens (word rest : List Char) : List Token × Option Fault :=
  match rest with
  | '(' :: inner =>
    if isName word then
      match callArguments inner with
      | .error fault => ([], some fault)
      | .ok (args, rest) => before [.call word (args.map Phrase.read)] (tokensOf rest)
    else before [.word word] (tokensOf ('(' :: inner))
  | rest => before [.word word] (tokensOf rest)

/-- What a run of operator characters at the beginning of a text is read as: operators, if it spells
some as a whole. -/
def operatorTokens (run rest : List Char) : List Token × Option Fault :=
  match splitOperators? run with
  | none => ([], some (.unknownOperator run))
  | some ops => before (ops.map .operator) (tokensOf rest)

/-- A text is read to its end if the rest of it is. -/
theorem before_eq_ok {tokens : List Token} {rest : List Token × Option Fault} {ts : List Token}
    (h : before tokens rest = (ts, none)) : ∃ us, rest = (us, none) ∧ ts = tokens ++ us := by
  obtain ⟨us, fault⟩ := rest
  simp only [before, Prod.mk.injEq] at h
  obtain ⟨rfl, rfl⟩ := h
  exact ⟨us, rfl, rfl⟩

/-- The arguments of a call are read each by itself. -/
theorem map_attach_read (args : List (List Char)) :
    args.attach.map (fun ⟨arg, _⟩ =>
      let (tokens, fault) := tokensOf arg
      Phrase.mk arg tokens fault) = args.map Phrase.read := by
  exact List.attach_map_val (f := Phrase.read)

/-- What the scanner cuts into tokens to its end is spelled by these tokens. -/
theorem spells_of_tokensOf {cs : List Char} {ts : List Token} (h : tokensOf cs = (ts, none)) :
    Spells cs ts := by
  fun_induction tokensOf cs generalizing ts with
  | case1 =>
    cases h
    exact .nil
  | case2 c cs hc ih => exact .space hc (ih h)
  | case3 cs _ ih =>
    obtain ⟨us, hu, rfl⟩ := before_eq_ok h
    exact .openGroup (ih hu)
  | case4 cs _ _ ih =>
    obtain ⟨us, hu, rfl⟩ := before_eq_ok h
    exact .closeGroup (ih hu)
  | case5 => cases h
  | case6 cs text rest hs _ _ _ ih =>
    obtain ⟨us, hu, rfl⟩ := before_eq_ok h
    obtain ⟨c, hc, rfl, ht⟩ := splitFirst?_eq_some_iff.1 hs
    have hq : c = '"' := by simpa using hc
    subst hq
    have hm : '"' ∉ text := fun hmem => by simpa using ht _ hmem
    exact .quoted hm (ih hu)
  | case7 => cases h
  | case8 c cs _ _ _ _ hc word inner hd hname args rest ha phrases _ =>
    rename_i ih
    obtain ⟨us, hu, rfl⟩ := before_eq_ok h
    rw [← cons_takeWhile_append_dropWhile isWordChar c cs, hd, List.singleton_append,
      show phrases = args.map Phrase.read from map_attach_read args]
    exact .call hname ha (ih hu)
  | case9 c cs _ _ _ _ hc word inner hd hname =>
    rename_i ih
    obtain ⟨us, hu, rfl⟩ := before_eq_ok h
    rw [← cons_takeWhile_append_dropWhile isWordChar c cs, hd]
    refine .word (List.cons_ne_nil _ _) (forall_mem_cons_takeWhile hc cs) ?_ (ih hu)
    intro d hd
    cases hd
    exact ⟨isWordChar_openParen, fun hn => absurd hn hname⟩
  | case10 c cs _ _ _ _ hc word hd =>
    rename_i ih
    obtain ⟨us, hu, rfl⟩ := before_eq_ok h
    rw [← cons_takeWhile_append_dropWhile isWordChar c cs]
    refine .word (List.cons_ne_nil _ _) (forall_mem_cons_takeWhile hc cs) ?_ (ih hu)
    intro d hd'
    refine ⟨head?_dropWhile cs d hd', ?_⟩
    rintro _ rfl
    obtain ⟨inner, hi⟩ := List.head?_eq_some_iff.1 hd'
    exact hd inner hi
  | case11 => cases h
  | case12 c cs hs ho hc hq hw ops hsplit ih =>
    obtain ⟨us, hu, rfl⟩ := before_eq_ok h
    have run := forall_mem_cons_takeWhile (isOperatorChar_of_not hs ho hc hq hw) cs
    rw [← cons_takeWhile_append_dropWhile isOperatorChar c cs]
    exact .operators (List.cons_ne_nil _ _) run (head?_dropWhile cs) hsplit (ih hu)

/-- A word character is none of the characters that begin other tokens. -/
theorem isWordChar_apart {c : Char} (h : isWordChar c = true) :
    isSpace c = false ∧ c ≠ '(' ∧ c ≠ ')' ∧ c ≠ '"' := by
  refine ⟨isSpace_of_isWordChar h, ?_, ?_, ?_⟩ <;>
    · rintro rfl
      revert h
      decide

/-- A text that begins with a word. -/
theorem tokensOf_word {word rest : List Char} (hw : word ≠ [])
    (hc : ∀ c ∈ word, isWordChar c = true) (hn : ∀ c ∈ rest.head?, isWordChar c = false) :
    tokensOf (word ++ rest) = wordTokens word rest := by
  obtain ⟨c, cs, rfl⟩ := List.exists_cons_of_ne_nil hw
  have first : isWordChar c = true := hc c List.mem_cons_self
  have run : ∀ d ∈ cs, isWordChar d = true := fun d hd => hc d (List.mem_cons_of_mem _ hd)
  obtain ⟨hs, ho, hp, hq⟩ := isWordChar_apart first
  rw [List.cons_append, tokensOf, if_neg (by simp [hs]), if_neg ho, if_neg hp, if_neg hq,
    if_pos first]
  dsimp only
  split
  · next inner hd =>
    rw [dropWhile_run run hn] at hd
    rw [takeWhile_run run hn, hd, wordTokens]
    split
    · split
      · next ha => rw [ha]
      · next args after ha =>
        rw [ha]
        dsimp only
        rw [map_attach_read args]
    · rfl
  · next hd =>
    rw [dropWhile_run run hn] at hd ⊢
    rw [takeWhile_run run hn, wordTokens]
    exact fun inner hi => hd inner hi

/-- A text that begins with a quotation mark. -/
theorem tokensOf_quoted (cs : List Char) :
    tokensOf ('"' :: cs) =
      match splitFirst? (· == '"') cs with
      | none => ([], some .unterminatedString)
      | some (text, rest) => before [.quoted text] (tokensOf rest) := by
  have hs : ¬isSpace '"' = true := by decide
  rw [tokensOf, if_neg hs, if_neg (by decide), if_neg (by decide), if_pos rfl]
  split
  · next hn => rw [hn]
  · next hr => rw [hr]

/-- A text that begins with a run of operator characters. -/
theorem tokensOf_operators {run rest : List Char} (hr : run ≠ [])
    (hc : ∀ c ∈ run, isOperatorChar c = true) (hn : ∀ c ∈ rest.head?, isOperatorChar c = false) :
    tokensOf (run ++ rest) = operatorTokens run rest := by
  obtain ⟨c, cs, rfl⟩ := List.exists_cons_of_ne_nil hr
  obtain ⟨hw, hs, hq, hopen, hclose⟩ := isOperatorChar_eq.1 (hc c List.mem_cons_self)
  have run : ∀ d ∈ cs, isOperatorChar d = true := fun d hd => hc d (List.mem_cons_of_mem _ hd)
  have cut := takeWhile_run run hn
  have left := dropWhile_run run hn
  rw [operatorTokens]
  cases ho : splitOperators? (c :: cs) with
  | none =>
    rw [List.cons_append, tokensOf, if_neg (by simp [hs]), if_neg hopen, if_neg hclose, if_neg hq,
      if_neg (by simp [hw]), cut, ho]
  | some ops =>
    rw [List.cons_append, tokensOf, if_neg (by simp [hs]), if_neg hopen, if_neg hclose, if_neg hq,
      if_neg (by simp [hw]), cut, ho, left]

/-- The scanner cuts a text into the tokens that spell it. -/
theorem tokensOf_of_spells {cs : List Char} {ts : List Token} (h : Spells cs ts) :
    tokensOf cs = (ts, none) := by
  induction h with
  | nil => rw [tokensOf]
  | space hc _ ih => rw [tokensOf, if_pos hc, ih]
  | openGroup _ ih =>
    have hs : ¬isSpace '(' = true := by decide
    rw [tokensOf, if_neg hs, if_pos rfl, ih]
    rfl
  | closeGroup _ ih =>
    have hs : ¬isSpace ')' = true := by decide
    rw [tokensOf, if_neg hs, if_neg (by decide), if_pos rfl, ih]
    rfl
  | @quoted text cs ts ht _ ih =>
    rw [tokensOf_quoted, splitFirst?_append_cons ht]
    dsimp only
    rw [ih]
    rfl
  | @word word cs ts hw hc hn _ ih =>
    rw [tokensOf_word hw hc fun c hm => (hn c hm).1, wordTokens.eq_def]
    split
    · next inner =>
      have hname : ¬isName word = true := fun h => (hn '(' rfl).2 h rfl
      rw [if_neg hname, ih]
      rfl
    · rw [ih]
      rfl
  | @call name inner args rest ts hname ha _ ih =>
    have stop : ∀ c ∈ ('(' :: inner).head?, isWordChar c = false := by
      intro c hc
      cases hc
      exact isWordChar_openParen
    rw [tokensOf_word (ne_nil_of_isName hname) (isWordChar_of_isName hname) stop, wordTokens,
      if_pos hname, ha]
    dsimp only
    rw [ih]
    rfl
  | operators hr hc hn ho _ ih =>
    rw [tokensOf_operators hr hc hn, operatorTokens, ho]
    dsimp only
    rw [ih]
    rfl

/-- The scanner cuts a text into tokens to its end exactly if they spell it. -/
theorem tokensOf_eq_iff {cs : List Char} {ts : List Token} :
    tokensOf cs = (ts, none) ↔ Spells cs ts :=
  ⟨spells_of_tokensOf, tokensOf_of_spells⟩

/-- Reading finds the tokens that a text spells. -/
theorem read_of_spells {cs : List Char} {ts : List Token} (h : Spells cs ts) :
    Phrase.read cs = .mk cs ts none := by
  rw [Phrase.read, tokensOf_of_spells h]

/-! ## White space -/

/-- Where there are characters of operators, there are operators. -/
theorem ne_nil_of_splitOperators? {run : List Char} {ops : List Operator} (hr : run ≠ [])
    (h : splitOperators? run = some ops) : ops ≠ [] := by
  rw [splitOperators?, if_neg hr] at h
  split at h
  · cases h
  · obtain ⟨rest, _, rfl⟩ := Option.map_eq_some_iff.1 h
    exact List.cons_ne_nil _ _

/-- White space spells nothing. -/
theorem spells_of_isBlank {cs : List Char} (h : isBlank cs = true) : Spells cs [] := by
  induction cs with
  | nil => exact .nil
  | cons c cs ih =>
    simp only [isBlank, List.all_cons, Bool.and_eq_true] at h
    exact .space h.1 (ih h.2)

/-- Only a blank text has no tokens. -/
theorem Spells.blank {cs : List Char} {ts : List Token} (h : Spells cs ts) (ht : ts = []) :
    isBlank cs = true := by
  induction h with
  | nil => rfl
  | space hc _ ih =>
    have rest := ih ht
    simp only [Text.isBlank, List.all_cons, Bool.and_eq_true]
    exact ⟨hc, rest⟩
  | openGroup | closeGroup | quoted | word | call => cases ht
  | operators hr _ _ ho _ _ =>
    have none := (List.append_eq_nil_iff.1 ht).1
    exact absurd (List.map_eq_nil_iff.1 none) (ne_nil_of_splitOperators? hr ho)

/-! ## One text after another -/

/-- The head of a text that follows another one. -/
theorem head?_append_of {P : Char → Prop} {cs ds : List Char} (hc : ∀ c ∈ cs.head?, P c)
    (hd : ∀ c ∈ ds.head?, P c) : ∀ c ∈ (cs ++ ds).head?, P c := by
  cases cs with
  | nil => exact hd
  | cons c cs => exact hc

/-- Two texts one after the other have the tokens of both, if the second does not begin with what
would belong to the last token of the first. -/
theorem Spells.append {cs ds : List Char} {ts us : List Token} (h : Spells cs ts)
    (hd : Spells ds us)
    (apart : ∀ c ∈ ds.head?, isWordChar c = false ∧ isOperatorChar c = false ∧ c ≠ '(') :
    Spells (cs ++ ds) (ts ++ us) := by
  induction h with
  | nil => exact hd
  | space hc _ ih => exact .space hc ih
  | openGroup _ ih => exact .openGroup ih
  | closeGroup _ ih => exact .closeGroup ih
  | quoted ht _ ih =>
    rw [List.cons_append, List.append_assoc]
    exact .quoted ht ih
  | word hw hc hn _ ih =>
    rw [List.append_assoc]
    exact .word hw hc
      (head?_append_of hn fun c hm => ⟨(apart c hm).1, fun _ => (apart c hm).2.2⟩) ih
  | call hname ha _ ih =>
    obtain ⟨text, all, rfl, rfl, ended⟩ := exists_callArguments ha
    rw [List.append_assoc, List.cons_append, List.append_assoc, List.cons_append]
    exact .call hname (ended.callArguments _) ih
  | operators hr hc hn ho _ ih =>
    rw [List.append_assoc, List.append_assoc]
    exact .operators hr hc (head?_append_of hn fun c hm => (apart c hm).2.1) ho ih

/-! ## Characters without a meaning for the other scanners -/

/-- A character of a class that no mark is in. -/
theorem not_mem_marks_of {p : Char → Bool} (none : marks.all (fun d => !p d) = true) {c : Char}
    (h : p c = true) : c ∉ marks := by
  intro hm
  have hn := List.all_eq_true.1 none c hm
  rw [h] at hn
  cases hn

theorem not_mem_marks_of_isWordChar {c : Char} (h : isWordChar c = true) : c ∉ marks :=
  not_mem_marks_of (by decide) h

theorem not_mem_marks_of_isSpace {c : Char} (h : isSpace c = true) : c ∉ marks :=
  not_mem_marks_of (by decide) h

/-- The operator found first is spelled at the beginning of the text. -/
theorem exists_of_firstOperator? {cs rest : List Char} {op : Operator}
    {table : List (List Char × Operator)} (h : firstOperator? cs table = some (op, rest)) :
    ∃ spelling, (spelling, op) ∈ table ∧ cs = spelling ++ rest := by
  induction table with
  | nil => cases h
  | cons entry table ih =>
    obtain ⟨spelling, o⟩ := entry
    rw [firstOperator?] at h
    split at h
    · next r hr =>
      cases h
      exact ⟨spelling, List.mem_cons_self, stripStart?_eq_some_iff.1 hr⟩
    · obtain ⟨s, hm, hs⟩ := ih h
      exact ⟨s, List.mem_cons_of_mem _ hm, hs⟩

/-- Operators are spelled without the marks that arguments go by. -/
theorem not_mem_marks_of_splitOperators? {run : List Char} {ops : List Operator}
    (h : splitOperators? run = some ops) : ∀ c ∈ run, c ∉ marks := by
  have none : spellings.all (fun entry => entry.1.all (· ∉ marks)) = true := by decide
  fun_induction splitOperators? run generalizing ops with
  | case1 => simp
  | case2 => cases h
  | case3 run _ op rest hf ih =>
    obtain ⟨more, hmore, _⟩ := Option.map_eq_some_iff.1 h
    obtain ⟨spelling, hm, rfl⟩ := exists_of_firstOperator? hf
    intro c hc
    rcases List.mem_append.1 hc with hc | hc
    · have apart := List.all_eq_true.1 (List.all_eq_true.1 none _ hm) c hc
      exact of_decide_eq_true apart
    · exact ih hmore c hc

/-! ## White space at the end -/

/-- Arguments with more text behind the call. -/
def Arguments.append (r : Arguments) (more : List Char) : Arguments :=
  r.map fun (args, rest) => (args, rest ++ more)

/-- Text behind arguments is not in the way of text before them. -/
theorem Arguments.append_push (c : Char) (r : Arguments) (more : List Char) :
    (Arguments.push c r).append more = .push c (r.append more) := by
  cases r <;> rfl

theorem Arguments.append_begin (r : Arguments) (more : List Char) :
    r.begin.append more = (r.append more).begin := by
  cases r <;> rfl

/-- White space does not close a call. -/
theorem splitArguments_blank {blanks : List Char} (hb : isBlank blanks = true) (depth : Nat)
    (quoted : Bool) : splitArguments depth quoted blanks = .error (openCall quoted) := by
  induction blanks with
  | nil => rw [splitArguments]
  | cons c cs ih =>
    simp only [isBlank, List.all_cons, Bool.and_eq_true] at hb
    have apart := not_mem_marks_of_isSpace hb.1
    simp only [marks, List.mem_cons, not_or] at apart
    obtain ⟨hs, hq, ho, hp, hm, _⟩ := apart
    have inner : ¬(c = ',' ∧ depth = 0) := fun h => hm h.1
    rw [splitArguments_cons hs, if_neg hq, if_neg ho, if_neg hp, if_neg inner, ih hb.2, ite_self]
    rfl

/-- White space at the end of a text is left behind a call, or does not close it. -/
theorem splitArguments_append_blank {blanks : List Char} (hb : isBlank blanks = true) (depth : Nat)
    (quoted : Bool) (cs : List Char) :
    splitArguments depth quoted (cs ++ blanks) =
      (splitArguments depth quoted cs).append blanks := by
  fun_induction splitArguments depth quoted cs with
  | case1 depth quoted => exact splitArguments_blank hb depth quoted
  | case2 depth quoted =>
    cases blanks with
    | nil => rfl
    | cons b blanks =>
      simp only [isBlank, List.all_cons, Bool.and_eq_true] at hb
      rw [List.singleton_append, splitArguments, splitArguments_blank hb.2]
      rfl
  | case3 depth quoted c cs ih =>
    rw [List.cons_append, List.cons_append, splitArguments, ih, Arguments.append_push,
      Arguments.append_push]
  | case4 depth quoted cs _ _ ih =>
    rw [List.cons_append, splitArguments_cons (by decide), if_pos rfl, ih, Arguments.append_push]
  | case5 depth c cs h₁ h₂ hq ih =>
    rw [List.cons_append, splitArguments_cons (ne_backslash h₁ h₂), if_neg hq, if_pos rfl, ih,
      Arguments.append_push]
  | case6 depth quoted cs hq _ _ _ ih =>
    rw [List.cons_append, splitArguments_cons (by decide), if_neg (by decide), if_neg hq,
      if_pos rfl, ih, Arguments.append_push]
  | case7 quoted cs hq =>
    rw [List.cons_append, splitArguments_cons (by decide), if_neg (by decide), if_neg hq,
      if_neg (by decide), if_pos rfl]
    rfl
  | case8 quoted cs hq depth _ _ _ _ ih =>
    rw [List.cons_append, splitArguments_cons (by decide), if_neg (by decide), if_neg hq,
      if_neg (by decide), if_pos rfl, Arguments.append_push]
    dsimp only
    rw [ih]
  | case9 depth quoted c cs _ _ _ hq _ _ hc ih =>
    obtain ⟨rfl, rfl⟩ := hc
    rw [List.cons_append, splitArguments_cons (by decide), if_neg (by decide), if_neg hq,
      if_neg (by decide), if_neg (by decide), if_pos ⟨rfl, rfl⟩, ih, Arguments.append_begin]
  | case10 depth quoted c cs h₁ h₂ hq hnq ho hp hc ih =>
    rw [List.cons_append, splitArguments_cons (ne_backslash h₁ h₂), if_neg hq, if_neg hnq,
      if_neg ho, if_neg hp, if_neg hc, ih, Arguments.append_push]

/-- White space behind arguments stays behind them. -/
theorem callArguments_append_blank {blanks : List Char} (hb : isBlank blanks = true)
    (cs : List Char) : callArguments (cs ++ blanks) = (callArguments cs).append blanks := by
  rw [callArguments, callArguments, splitArguments_append_blank hb]
  cases splitArguments 0 false cs <;> rfl

/-- White space at the end of a text changes nothing about its tokens, nor about where they end. -/
theorem tokensOf_append_blank {blanks : List Char} (hb : isBlank blanks = true) (cs : List Char) :
    tokensOf (cs ++ blanks) = tokensOf cs := by
  have space : ∀ c ∈ blanks, isSpace c = true := List.all_eq_true.1 hb
  have unquoted : ∀ c ∈ blanks, (c == '"') = false := by
    intro c hc
    rw [beq_eq_false_iff_ne]
    rintro rfl
    exact absurd (space _ hc) (by decide)
  have whole (p : Char → Bool) (c : Char) (cs : List Char) :
      c :: cs ++ blanks = c :: cs.takeWhile p ++ (cs.dropWhile p ++ blanks) := by
    rw [← List.append_assoc, cons_takeWhile_append_dropWhile]
  have ends {p : Char → Bool} (apart : ∀ c, isSpace c = true → p c = false) (cs : List Char) :
      ∀ c ∈ (cs.dropWhile p ++ blanks).head?, p c = false :=
    head?_append_of (head?_dropWhile cs) fun c hc => apart c (space c (List.mem_of_head? hc))
  have word {c : Char} (hc : isWordChar c = true) (cs : List Char) : tokensOf (c :: cs ++ blanks) =
      wordTokens (c :: cs.takeWhile isWordChar) (cs.dropWhile isWordChar ++ blanks) := by
    rw [whole isWordChar]
    exact tokensOf_word (List.cons_ne_nil _ _) (forall_mem_cons_takeWhile hc cs)
      (ends (fun _ => isWordChar_of_isSpace) cs)
  have operators {c : Char} (hc : isOperatorChar c = true) (cs : List Char) :
      tokensOf (c :: cs ++ blanks) = operatorTokens (c :: cs.takeWhile isOperatorChar)
        (cs.dropWhile isOperatorChar ++ blanks) := by
    rw [whole isOperatorChar]
    exact tokensOf_operators (List.cons_ne_nil _ _) (forall_mem_cons_takeWhile hc cs)
      (ends (fun _ => isOperatorChar_of_isSpace) cs)
  fun_induction tokensOf cs with
  | case1 => exact tokensOf_of_spells (spells_of_isBlank hb)
  | case2 c cs hc ih => rw [List.cons_append, tokensOf, if_pos hc, ih]
  | case3 cs _ ih => rw [List.cons_append, tokensOf, if_neg (by decide), if_pos rfl, ih]
  | case4 cs _ _ ih =>
    rw [List.cons_append, tokensOf, if_neg (by decide), if_neg (by decide), if_pos rfl, ih]
  | case5 cs hs =>
    rw [List.cons_append, tokensOf_quoted, splitFirst?_append unquoted, hs]
    rfl
  | case6 cs text rest hs _ _ _ ih =>
    rw [List.cons_append, tokensOf_quoted, splitFirst?_append unquoted, hs, Option.map_some]
    dsimp only
    rw [ih]
  | case7 c cs _ _ _ _ hc _ inner hd hname fault ha =>
    rw [word hc, hd, List.cons_append, wordTokens, if_pos hname, callArguments_append_blank hb, ha]
    rfl
  | case8 c cs _ _ _ _ hc _ inner hd hname args rest ha phrases _ =>
    rename_i ih
    rw [word hc, hd, List.cons_append, wordTokens, if_pos hname, callArguments_append_blank hb, ha,
      show phrases = _ from map_attach_read _]
    dsimp only [Arguments.append, Except.map]
    rw [ih]
  | case9 c cs _ _ _ _ hc _ inner hd hname =>
    rename_i ih
    rw [word hc, hd, List.cons_append, wordTokens, if_neg hname, ← List.cons_append, ih]
  | case10 c cs _ _ _ _ hc _ hd =>
    rename_i ih
    rw [word hc, wordTokens.eq_def]
    split
    · next inner hi =>
      -- The parenthesis is none of the white space, so it would have stood behind the word.
      cases hr : cs.dropWhile isWordChar with
      | nil =>
        rw [hr, List.nil_append] at hi
        exact absurd (space '(' (by simp [hi])) (by decide)
      | cons d rest =>
        rw [hr] at hi
        cases hi
        exact absurd hr (hd rest)
    · rw [ih]
  | case11 c cs hs ho hc hq hw hsplit =>
    rw [operators (isOperatorChar_of_not hs ho hc hq hw), operatorTokens, hsplit]
  | case12 c cs hs ho hc hq hw ops hsplit ih =>
    rw [operators (isOperatorChar_of_not hs ho hc hq hw), operatorTokens, hsplit]
    dsimp only
    rw [ih]

/-! ## Evaluation -/

variable {α : Type} [HostObject α] {ctx : Context α}

/-- A text evaluates to a value exactly if it is cut into tokens to its end and these leave the
value. -/
theorem evaluate_eq_ok_iff {text : List Char} {v : Value α} :
    evaluate ctx text = .ok v ↔
      ∃ ts m, Spells text ts ∧ feedAll ctx ts .start = .ok m ∧ m.finish ctx = .ok v := by
  rw [evaluate, Phrase.read, Phrase.evaluate]
  constructor
  · intro h
    obtain ⟨m, hm, hf⟩ := bind_eq_ok (ok_of_mapError h)
    cases hfault : (tokensOf text).2 with
    | some fault =>
      rw [hfault] at hf
      cases hf
    | none =>
      rw [hfault] at hf
      exact ⟨_, m, spells_of_tokensOf (Prod.ext rfl hfault), hm, hf⟩
  · rintro ⟨ts, m, spells, hm, hf⟩
    rw [tokensOf_of_spells spells, hm, ok_bind, hf]
    rfl

/-- White space at the end of a text changes nothing about its evaluation but the text that an error
shows. -/
theorem evaluate_append_blank (ctx : Context α) (text : List Char) {blanks : List Char}
    (hb : isBlank blanks = true) :
    ∃ result : Except Cause (Value α),
      evaluate ctx text = result.mapError (.evaluation (.ofList text)) ∧
        evaluate ctx (text ++ blanks) =
          result.mapError (.evaluation (.ofList (text ++ blanks))) := by
  rw [evaluate, evaluate, Phrase.read, Phrase.read, tokensOf_append_blank hb, Phrase.evaluate,
    Phrase.evaluate]
  exact ⟨_, rfl, rfl⟩

end MicroTemplate.Expression
