import MicroTemplate.Proofs.Expression.Call

/-!
# Variables, and entries behind arrows

A name by itself is read as a variable, unless it is one of the three that stand for values of their
own. Behind an arrow it is not read as a variable, whatever is bound: a map is asked for its entry
of that name, and a chain of arrows follows a path of names through maps inside maps. The name
`null` is the exception there. It has become nothing before the arrow is applied, and what nothing
is written as is the empty text.
-/

namespace MicroTemplate.Value

variable {α : Type}

/-- The value at the end of a path of names that goes from a value through maps. Where a map has no
entry of a name there is null, and from null every path leads to null. -/
def follow? : Value α → List String → Option (Value α)
  | v, [] => some v
  | map entries, name :: names => ((entries.lookup name).getD null).follow? names
  | null, _ :: names => null.follow? names
  | _, _ :: _ => none

end MicroTemplate.Value

namespace MicroTemplate.Expression

open Number Text

/-- The names that stand for values of their own. -/
def literals : List String := ["true", "false", "null"]

/-- The name of the entry that a word asks for behind an arrow. -/
def entryName (word : List Char) : String :=
  match String.ofList word with
  | "null" => ""
  | name => name

/-- What follows the receiver of a chain of arrows. -/
def arrows (names : List (List Char)) : List Char := names.flatMap fun name => '-' :: '>' :: name

/-- A tree with a chain of arrows behind it. -/
def Tree.through (root : Tree) (names : List (List Char)) : Tree :=
  names.foldl (fun t name => .member t (.word name)) root

/-! ## Names -/

/-- Digits are no letters. -/
theorem isAlphabetic_of_isDigit {c : Char} (h : c.isDigit = true) : isAlphabetic c = false := by
  simp only [Char.isDigit, Bool.and_eq_true, decide_eq_true_eq] at h
  have low : 48 ≤ c.toNat := h.1
  have high : c.toNat ≤ 57 := h.2
  have digits : ∀ n, 48 ≤ n ∧ n ≤ 57 → isAlphabetic (Char.ofNat n) = false := by
    intro n ⟨hl, hu⟩
    interval_cases n <;> decide
  have digit := digits c.toNat ⟨low, high⟩
  rwa [Char.ofNat_toNat] at digit

/-- A name is no number. -/
theorem isDigits_of_isName {name : List Char} (h : isName name = true) : isDigits name = false := by
  obtain ⟨c, cs, rfl⟩ := List.exists_cons_of_ne_nil (ne_nil_of_isName h)
  simp only [isName, Bool.and_eq_true, Bool.or_eq_true, beq_iff_eq] at h
  by_contra digits
  simp only [isDigits, List.all_cons, Bool.not_eq_false, Bool.and_eq_true] at digits
  obtain ⟨_, digit, _⟩ := digits
  rcases h.1 with letter | rfl
  · rw [isAlphabetic_of_isDigit digit] at letter
    cases letter
  · cases digit

/-- Every name but `null` asks for the entry of that name. -/
theorem entryName_eq_iff {word : List Char} :
    entryName word = .ofList word ↔ word ≠ "null".toList := by
  rw [entryName]
  split
  · next same =>
    rw [same]
    refine iff_of_false (by decide) (not_not_intro ?_)
    rw [← same, String.toList_ofList]
  · next apart =>
    refine iff_of_true rfl ?_
    rintro rfl
    exact apart (by rw [String.ofList_toList])

section

variable {α : Type} [HostObject α] (ctx : Context α)

/-- A name that is no literal is looked up. -/
theorem name?_of_isName {name : List Char} (hn : isName name = true)
    (hl : String.ofList name ∉ literals) : (Tree.word name).name? = some (.ofList name) := by
  simp only [literals, List.mem_cons, List.not_mem_nil, or_false, not_or] at hl
  rw [Tree.name?, wordName?, isDigits_of_isName hn, if_neg Bool.false_ne_true]
  split
  · next same => exact absurd same hl.1
  · next same => exact absurd same hl.2.1
  · next same => exact absurd same hl.2.2
  · rfl

/-- A name is one word. -/
theorem spells_of_isName {name : List Char} (hn : isName name = true) :
    Spells name (Tree.word name).tokens := by
  have spells : Spells (name ++ []) (Tree.word name).tokens :=
    .word (ne_nil_of_isName hn) (isWordChar_of_isName hn) (fun c hc => absurd hc (by simp)) .nil
  rwa [List.append_nil] at spells

/-- The name by itself has the value of the variable. -/
theorem evaluate_of_isName {name : List Char} (hn : isName name = true)
    (hl : String.ofList name ∉ literals) :
    evaluate ctx name = .ok ((ctx.valueOf (.ofList name)).getD .empty) := by
  rw [evaluate_of_spells (spells_of_isName hn) trivial (Nat.zero_le _),
    Tree.value_of_name? ctx _ _ (name?_of_isName hn hl)]
  rfl

/-- Behind an arrow, a name is the operand that spells the name of an entry. -/
theorem operand_word {name : List Char} (hn : isName name = true) :
    ∃ a, Tree.operand ctx (.word name) = .ok a ∧ a.spelling = entryName name := by
  rw [← ofWord_eq_operand, Operand.ofWord, isDigits_of_isName hn, if_neg Bool.false_ne_true,
    entryName]
  generalize String.ofList name = text
  split
  · exact ⟨_, rfl, rfl⟩
  · exact ⟨_, rfl, rfl⟩
  · exact ⟨_, rfl, rfl⟩
  · next hnull =>
    refine ⟨_, rfl, ?_⟩
    split
    · next same => exact absurd rfl (hnull ·)
    · rfl

/-! ## Chains -/

theorem tokens_through (root : Tree) (names : List (List Char)) :
    (root.through names).tokens =
      root.tokens ++ names.flatMap fun name => [.operator .arrow, .word name] := by
  induction names generalizing root with
  | nil => simp [Tree.through]
  | cons name names ih =>
    have next := ih (.member root (.word name))
    rw [Tree.through] at next ⊢
    rw [List.foldl_cons, next]
    simp [Tree.tokens]

/-- A chain of arrows groups to the left. -/
theorem placed_through {root : Tree} (hp : root.Placed)
    (hb : root.StandsBefore Operator.arrow.priority) (names : List (List Char)) :
    (root.through names).Placed := by
  induction names generalizing root with
  | nil => exact hp
  | cons name names ih =>
    rw [Tree.through, List.foldl_cons]
    exact ih ⟨hp, trivial, hb, trivial⟩ ⟨Nat.le_refl _, trivial⟩

/-- Arrows open no groups. -/
theorem nesting_through (root : Tree) (names : List (List Char)) :
    (root.through names).nesting = root.nesting := by
  induction names generalizing root with
  | nil => rfl
  | cons name names ih =>
    rw [Tree.through, List.foldl_cons]
    exact (ih _).trans (max_eq_left (Nat.zero_le _))

/-- A word ends before an arrow. -/
theorem stops_at_arrows (word : List Char) (names : List (List Char)) :
    ∀ c ∈ (arrows names).head?, isWordChar c = false ∧ (isName word = true → c ≠ '(') := by
  intro c hc
  cases names with
  | nil => cases hc
  | cons name names =>
    cases hc
    exact ⟨by decide, fun _ => by decide⟩

/-- A chain of arrows is cut into its arrows and names. -/
theorem spells_arrows {names : List (List Char)} (h : ∀ name ∈ names, isName name = true) :
    Spells (arrows names) (names.flatMap fun name => [.operator .arrow, .word name]) := by
  induction names with
  | nil => exact .nil
  | cons name names ih =>
    have first := h name List.mem_cons_self
    have rest := ih fun n hn => h n (List.mem_cons_of_mem _ hn)
    have word := Spells.word (ne_nil_of_isName first) (isWordChar_of_isName first)
      (stops_at_arrows name names) rest
    have arrow : ∀ c ∈ ['-', '>'], isOperatorChar c = true := List.all_eq_true.1 (by decide)
    have whole := Spells.operators (by simp) arrow (head?_append_of_isName first (arrows names))
      (by cbv) word
    simpa [arrows] using whole

/-- An arrow takes one step on a path. -/
theorem property_of_follow? {types : Option (TypeRegistry α)} {v w : Value α} {name : String}
    {names : List String} (h : v.follow? (name :: names) = some w) :
    (v.property types name).follow? names = some w := by
  cases v with
  | map entries => exact h
  | null => exact h
  | _ => cases h

/-- An arrow asks for what the name behind it spells. -/
theorem value_member_word {left : Tree} {v : Value α} (hv : left.value ctx = .ok v)
    {name : List Char} (hn : isName name = true) :
    Tree.value ctx (.member left (.word name)) =
      .ok (v.property ctx.types (entryName name)) := by
  obtain ⟨b, hb, spelled⟩ := operand_word ctx hn
  rw [Tree.value_eq_operand] at hv
  rw [Tree.value_member, hb, ← spelled]
  cases ha : left.operand ctx with
  | error e =>
    rw [ha] at hv
    cases hv
  | ok a =>
    rw [ha] at hv
    cases hv
    rfl

/-- A chain of arrows leads where the path of its names does. -/
theorem value_through {root : Tree} {v w : Value α} (hv : root.value ctx = .ok v)
    {names : List (List Char)} (h : ∀ name ∈ names, isName name = true)
    (hw : v.follow? (names.map entryName) = some w) : (root.through names).value ctx = .ok w := by
  induction names generalizing root v with
  | nil =>
    cases hw
    exact hv
  | cons name names ih =>
    have first := value_member_word ctx hv (h name List.mem_cons_self)
    rw [Tree.through, List.foldl_cons]
    exact ih first (fun n hn => h n (List.mem_cons_of_mem _ hn)) (property_of_follow? hw)

variable {ctx}

section

variable {v w : Value α} {names : List (List Char)} (h : ∀ name ∈ names, isName name = true)
  (hw : v.follow? (names.map entryName) = some w)

include h hw

/-- A text that is a tree with a chain of arrows behind it. -/
theorem evaluate_of_spells_through {text : List Char} {root : Tree}
    (spells : Spells text
      (root.tokens ++ names.flatMap fun name => [.operator .arrow, .word name]))
    (hp : root.Placed) (hb : root.StandsBefore Operator.arrow.priority)
    (room : root.nesting ≤ maxDepth) (hv : root.value ctx = .ok v) :
    evaluate ctx text = .ok w := by
  rw [← tokens_through] at spells
  rw [← nesting_through root names] at room
  rw [evaluate_of_spells spells (placed_through hp hb names) room, value_through ctx hv h hw]
  rfl

/-- A chain of arrows behind an expression between parentheses. -/
theorem evaluate_group_arrows {e : List Char} (hv : evaluate ctx e = .ok v)
    (hb : isBlank e = false) (room : nesting e < maxDepth) :
    evaluate ctx ('(' :: (e ++ ')' :: arrows names)) = .ok w := by
  obtain ⟨root, placed, value, inside⟩ := exists_tree_of_evaluate hv hb
  have joined := inside.append (.closeGroup (spells_arrows h)) (by simp; decide)
  have spells : Spells ('(' :: (e ++ ')' :: arrows names)) ((Tree.group root).tokens ++
      names.flatMap fun name => [.operator .arrow, .word name]) := by
    simpa [Tree.tokens] using Spells.openGroup joined
  rw [nesting_of_spells inside] at room
  exact evaluate_of_spells_through h hw spells placed trivial room value

end

/-- A chain of arrows reads map entries by the names as they are written, through maps inside maps,
whatever the names are bound to; the map may be given by a variable with parentheses around it or
without. The only name for which another entry is read is `null`: it asks for the entry of the empty
name. -/
theorem evaluate_arrows {m : List Char} (hm : isName m = true) (hl : String.ofList m ∉ literals)
    {entries : List (String × Value α)} (bound : ctx.valueOf (.ofList m) = some (.map entries))
    {names : List (List Char)} (h : ∀ name ∈ names, isName name = true) {w : Value α}
    (hw : (Value.map entries).follow? (names.map entryName) = some w) :
    (evaluate ctx (m ++ arrows names) = .ok w ∧
        evaluate ctx ('(' :: (m ++ ')' :: arrows names)) = .ok w) ∧
      ∀ name, entryName name = .ofList name ↔ name ≠ "null".toList := by
  have value : evaluate ctx m = .ok (.map entries) := by
    rw [evaluate_of_isName ctx hm hl, bound]
    rfl
  have solid : isBlank m = false := by
    obtain ⟨c, cs, rfl⟩ := List.exists_cons_of_ne_nil (ne_nil_of_isName hm)
    simp [isBlank, isSpace_of_isWordChar (isWordChar_of_isName hm c List.mem_cons_self)]
  have spells : Spells (m ++ arrows names) ((Tree.word m).tokens ++
      names.flatMap fun name => [.operator .arrow, .word name]) :=
    .word (ne_nil_of_isName hm) (isWordChar_of_isName hm) (stops_at_arrows m names)
      (spells_arrows h)
  have root : (Tree.word m).value ctx = .ok (.map entries) := by
    rw [Tree.value_of_name? ctx _ _ (name?_of_isName hm hl), bound]
    rfl
  have shallow : nesting m < maxDepth := by
    rw [nesting_of_spells (spells_of_isName hm)]
    exact show 0 < maxDepth by decide
  exact ⟨⟨evaluate_of_spells_through h hw spells trivial trivial (Nat.zero_le _) root,
    evaluate_group_arrows h hw value solid shallow⟩, fun _ => entryName_eq_iff⟩

end

/-- Entries with the name of a literal, of a variable and of no variable, in maps inside maps, and
one that is missing. -/
theorem evaluate_arrows_nested :
    let inner : Value Empty := .map [("k", .int 7), ("e", .map [("_1", .text "x")])]
    let ctx : Context Empty :=
      ⟨(List.lookup · [("m", .map [("true", inner)]), ("k", .text "e"), ("_1", .null)]),
        fun _ _ => .ok .null, none⟩
    (evaluate ctx "m->true->k".toList = .ok (.int 7) ∧
        evaluate ctx "(m)->true->k".toList = .ok (.int 7)) ∧
      (evaluate ctx "m->true->e->_1".toList = .ok (.text "x") ∧
        evaluate ctx "(m)->true->e->_1".toList = .ok (.text "x")) ∧
      evaluate ctx "m->true->m".toList = .ok .null ∧
        evaluate ctx "(m)->true->m".toList = .ok .null := by
  intro inner ctx
  have name : isName ['m'] = true := by decide
  have free : String.ofList ['m'] ∉ literals := by decide
  have bound : ctx.valueOf (.ofList ['m']) = some (.map [("true", inner)]) := by cbv
  have first : ∀ name ∈ ["true".toList, ['k']], isName name = true := by decide
  have second : ∀ name ∈ ["true".toList, ['e'], "_1".toList], isName name = true := by decide
  have third : ∀ name ∈ ["true".toList, ['m']], isName name = true := by decide
  exact ⟨(evaluate_arrows name free bound first rfl).1,
    (evaluate_arrows name free bound second rfl).1, (evaluate_arrows name free bound third rfl).1⟩

/-- An entry with the name `null` is not read. -/
theorem arrow_null :
    ¬ ∀ (ctx : Context Empty) (m k : List Char) (entries : List (String × Value Empty)),
      isName m = true → String.ofList m ∉ literals → isName k = true →
      ctx.valueOf (.ofList m) = some (.map entries) →
      evaluate ctx (m ++ '-' :: '>' :: k) = .ok ((entries.lookup (.ofList k)).getD .null) := by
  intro reads
  have read : evaluate (α := Empty)
      ⟨(List.lookup · [("m", .map [("null", .int 1)])]), fun _ _ => .ok .null, none⟩
      "m->null".toList = .ok .null := by
    cbv
  have entry := reads ⟨(List.lookup · [("m", .map [("null", .int 1)])]), fun _ _ => .ok .null, none⟩
    ['m'] "null".toList [("null", .int 1)] (by decide) (by decide) (by decide) (by cbv)
  have null_eq_one := read.symm.trans entry
  cases null_eq_one

end MicroTemplate.Expression
