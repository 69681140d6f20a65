import MicroTemplate.Function.Registry
import MicroTemplate.Proofs.Expression.Spelling

/-!
# The arguments of a call

The scanner that cuts the arguments of a call apart counts parentheses and quotation marks and knows
nothing else of expressions. An expression without backslashes that evaluates leads it back to the
depth it came from and past every comma, so a list of such expressions, written with commas between
them, is cut into the same list again. What a call of a function or of a method gives is then what
they give for the values that the arguments have at the moment of the call.
-/

namespace MicroTemplate.Expression

open Text

/-! ## The depth of parentheses -/

/-- The most parentheses that are open at once among some tokens, with `depth` of them open before
the first. -/
def openAtOnce (depth : ℕ) : List Token → ℕ
  | [] => depth
  | .openGroup :: ts => openAtOnce (depth + 1) ts
  | .closeGroup :: ts => max depth (openAtOnce (depth - 1) ts)
  | _ :: ts => openAtOnce depth ts

/-- The most groups of a text that stand inside one another, not counting those in arguments. -/
def nesting (text : List Char) : ℕ := openAtOnce 0 (Phrase.read text).tokens

theorem le_openAtOnce (depth : ℕ) (ts : List Token) : depth ≤ openAtOnce depth ts := by
  induction ts generalizing depth with
  | nil => exact le_rfl
  | cons t ts ih =>
    cases t with
    | openGroup => exact (Nat.le_succ depth).trans (ih (depth + 1))
    | closeGroup => exact le_max_left _ _
    | _ => exact ih depth

/-- A tree opens as many groups at once as its nesting says, and closes them again. -/
theorem openAtOnce_tokens (t : Tree) (depth : ℕ) (ts : List Token) :
    openAtOnce depth (t.tokens ++ ts) = max (depth + t.nesting) (openAtOnce depth ts) := by
  have reached := le_openAtOnce depth ts
  induction t using Tree.nesting.induct generalizing depth ts with
  | case1 inner ih =>
    rw [Tree.tokens, Tree.nesting, List.cons_append, List.append_assoc, List.singleton_append,
      openAtOnce, ih _ _ (le_openAtOnce _ _), openAtOnce, Nat.add_sub_cancel]
    omega
  | case2 operand ih => exact ih depth ts reached
  | case3 op left right ihl ihr =>
    have behind : openAtOnce depth (.operator (.binary op) :: (right.tokens ++ ts)) = _ :=
      ihr depth ts reached
    rw [Tree.tokens, Tree.nesting, List.append_assoc, List.cons_append,
      ihl _ _ (le_openAtOnce _ _), behind]
    omega
  | case4 left right ihl ihr =>
    have behind : openAtOnce depth (.operator .arrow :: (right.tokens ++ ts)) = _ :=
      ihr depth ts reached
    rw [Tree.tokens, Tree.nesting, List.append_assoc, List.cons_append,
      ihl _ _ (le_openAtOnce _ _), behind]
    omega
  | case5 left name args ih =>
    rw [Tree.tokens, Tree.nesting, List.append_assoc, ih _ _ (le_openAtOnce _ _)]
    rfl
  | case6 t _ _ _ _ _ =>
    cases t with
    | word text | quoted text | call name args => exact (max_eq_right reached).symm
    | _ => simp_all

section

variable {α : Type} [HostObject α] {ctx : Context α}

end

/-! ## Lists of arguments -/

/-- An argument is only dropped if it is blank. -/
theorem mem_dropBlankLast_or {args : List (List Char)} {a : List Char} (h : a ∈ args) :
    a ∈ dropBlankLast args ∨ isBlank a = true := by
  rw [dropBlankLast]
  split
  · next last hl =>
    split
    · next hb =>
      obtain ⟨front, rfl⟩ := List.getLast?_eq_some_iff.1 hl
      rw [List.dropLast_concat]
      rcases List.mem_append.1 h with h | h
      · exact .inl h
      · exact .inr (by rwa [List.mem_singleton.1 h])
    · exact .inl h
  · exact .inl h

section

variable {α : Type} [HostObject α] {ctx : Context α}

/-- Where all arguments evaluate, each of them does. -/
theorem exists_value_of_mem {ps : List Phrase} {vs : List (Value α)}
    (h : evaluateAll ctx ps = .ok vs) {p : Phrase} (hp : p ∈ ps) :
    ∃ v, p.evaluate ctx = .ok v := by
  induction ps generalizing vs with
  | nil => cases hp
  | cons q ps ih =>
    rw [evaluateAll] at h
    obtain ⟨v, hv, hr⟩ := bind_eq_ok h
    obtain ⟨ws, hws, _⟩ := bind_eq_ok hr
    rcases List.mem_cons.1 hp with rfl | hp
    · exact ⟨v, ok_of_mapError hv⟩
    · exact ih hws hp

/-- A call is taken only if its arguments evaluate. -/
theorem evaluateAll_of_feed {name : List Char} {args : List Phrase} {m n : Machine α}
    (h : feed ctx (.call name args) m = .ok n) : ∃ vs, evaluateAll ctx args = .ok vs := by
  rw [feed] at h
  split at h
  · obtain ⟨vs, hvs, _⟩ := bind_eq_ok h
    exact ⟨vs, hvs⟩
  · cases h

/-- The nesting of a text is that of its tree. -/
theorem nesting_of_spells {text : List Char} {root : Tree} (h : Spells text root.tokens) :
    nesting text = root.nesting := by
  have whole := openAtOnce_tokens root 0 []
  rw [List.append_nil, openAtOnce, Nat.zero_add, max_eq_left (Nat.zero_le _)] at whole
  rw [nesting, read_of_spells h]
  exact whole

/-- An expression that evaluates and is not blank has a tree. -/
theorem exists_tree_of_evaluate {text : List Char} {v : Value α} (h : evaluate ctx text = .ok v)
    (hb : isBlank text = false) :
    ∃ root : Tree, root.Placed ∧ root.value ctx = .ok v ∧ Spells text root.tokens := by
  obtain ⟨ts, _, spells, _, _⟩ := evaluate_eq_ok_iff.1 h
  rw [evaluate] at h
  obtain ⟨r, hr, hp⟩ := Phrase.exists_reading _ h
  rw [← hr, r.evaluate_phrase ctx hp] at h
  rw [read_of_spells spells] at hr
  cases r with
  | blank _ =>
    cases hr
    have blank := spells.blank rfl
    rw [hb] at blank
    cases blank
  | tree _ root =>
    cases hr
    exact ⟨root, hp.1, ok_of_mapError h, spells⟩

/-- A text whose tokens are those of a well placed tree evaluates to the value of the tree. -/
theorem evaluate_of_spells {text : List Char} {root : Tree} (h : Spells text root.tokens)
    (hp : root.Placed) (room : root.nesting ≤ maxDepth) :
    evaluate ctx text = (root.value ctx).mapError (.evaluation (.ofList text)) := by
  have reading := Reading.evaluate_phrase ctx (.tree text root) ⟨hp, room⟩
  rw [evaluate, read_of_spells h]
  exact reading

/-- A call as it is written: a name, and between parentheses the arguments with commas between them
and maybe one more comma. -/
def callText (f : List Char) (es : List (List Char)) (tail : List Char) : List Char :=
  f ++ '(' :: ([','].intercalate es ++ tail ++ [')'])

/-- What stands right of an arrow begins with no operator character if it begins with a name. -/
theorem head?_append_of_isName {f : List Char} (hf : isName f = true) (rest : List Char) :
    ∀ c ∈ (f ++ rest).head?, isOperatorChar c = false := by
  obtain ⟨d, ds, rfl⟩ := List.exists_cons_of_ne_nil (ne_nil_of_isName hf)
  intro c hc
  cases hc
  exact isOperatorChar_of_isWordChar (isWordChar_of_isName hf d List.mem_cons_self)

end

end MicroTemplate.Expression
