import MicroTemplate.Proofs.Expression.Operands
import MicroTemplate.Proofs.Template.Step

/-!
# What an expression reads

The variables that an expression reads are among the words that stand in its text. A name waits on
the stack until its value is needed, and to the right of an arrow it never is; the arguments of a
call are read apart, by an evaluation of their own. But every name on a stack was a token, and every
token that is a word, in the arguments of calls too, is a run of word characters of the whole text
that could not be longer. So two evaluations that agree about these words take the same steps.
-/

namespace MicroTemplate.Expression

open Text

/-! ## The words of a text -/

/-- Whether a word stands in a text: a run of word characters with no other word character right
before or behind it. -/
def IsWordOf (word text : List Char) : Prop :=
  ∃ front back, text = front ++ word ++ back ∧ word ≠ [] ∧ (∀ c ∈ word, isWordChar c = true) ∧
    (∀ c ∈ front.getLast?, isWordChar c = false) ∧ ∀ c ∈ back.head?, isWordChar c = false

instance (word text : List Char) : Decidable (IsWordOf word text) :=
  decidable_of_iff
    (∃ n < text.length + 1, text = text.take n ++ word ++ text.drop (n + word.length) ∧ word ≠ [] ∧
      word.all isWordChar = true ∧ (text.take n).getLast?.any isWordChar = false ∧
      (text.drop (n + word.length)).head?.any isWordChar = false) <| by
    simp only [List.all_eq_true, Option.any_eq_false]
    constructor
    · rintro ⟨n, _, whole, apart⟩
      exact ⟨_, _, whole, apart⟩
    · rintro ⟨front, back, rfl, apart⟩
      have behind : (front ++ word ++ back).drop (front.length + word.length) = back := by
        rw [← List.length_append, List.drop_left]
      refine ⟨front.length, by simp, ?_⟩
      rw [behind, List.append_assoc, List.take_left, ← List.append_assoc]
      exact ⟨rfl, apart⟩

section

variable {word text : List Char}

/-- A word stays one with more text before it, if no word goes on across the seam. -/
theorem IsWordOf.append_left (h : IsWordOf word text) {front : List Char}
    (apart : ∀ c ∈ front.getLast?, ∀ d ∈ text.head?, isWordChar d = true → isWordChar c = false) :
    IsWordOf word (front ++ text) := by
  obtain ⟨before, after, rfl, hne, hw, hb, ha⟩ := h
  refine ⟨front ++ before, after, by simp, hne, hw, fun c hc => ?_, ha⟩
  obtain rfl | ⟨initial, last, rfl⟩ := List.eq_nil_or_concat' before
  · -- The word is the beginning of the text, so the seam is right before it.
    obtain ⟨first, others, rfl⟩ := List.exists_cons_of_ne_nil hne
    rw [List.append_nil] at hc
    exact apart c hc first rfl (hw first List.mem_cons_self)
  · rw [← List.append_assoc, List.getLast?_concat] at hc
    exact hb c (by rw [List.getLast?_concat]; exact hc)

/-- A word stays one with more text behind it, if that does not begin with a word character. -/
theorem IsWordOf.append_right (h : IsWordOf word text) {back : List Char}
    (apart : ∀ c ∈ back.head?, isWordChar c = false) : IsWordOf word (text ++ back) := by
  obtain ⟨before, after, rfl, hne, hw, hb, ha⟩ := h
  exact ⟨before, after ++ back, by simp, hne, hw, hb, head?_append_of ha apart⟩

/-- A word stays one behind a text that ends in something else. -/
theorem IsWordOf.behind (h : IsWordOf word text) (front : List Char) {c : Char}
    (hc : isWordChar c = false) : IsWordOf word (front ++ c :: text) := by
  have seam : ∀ d ∈ (front ++ [c]).getLast?, ∀ e ∈ text.head?,
      isWordChar e = true → isWordChar d = false := by
    intro d hd _ _ _
    rw [List.getLast?_concat] at hd
    cases hd
    exact hc
  have longer := h.append_left seam
  rwa [List.append_assoc, List.singleton_append] at longer

/-- An argument of a call stands between parentheses and commas. -/
theorem IsWordOf.argument {args : List (List Char)} (h : IsWordOf word text) (hm : text ∈ args)
    (rest : List Char) : IsWordOf word ([','].intercalate args ++ ')' :: rest) := by
  have apart (c : Char) (cs : List Char) (hc : isWordChar c = false) :
      ∀ d ∈ (c :: cs).head?, isWordChar d = false := by
    rintro d ⟨⟩
    exact hc
  induction args with
  | nil => cases hm
  | cons first args ih =>
    cases args with
    | nil =>
      obtain rfl := List.mem_singleton.1 hm
      rw [List.intercalate_singleton]
      exact h.append_right (apart ')' rest (by decide))
    | cons next args =>
      rw [List.intercalate_cons_cons, List.append_assoc, List.append_assoc, List.singleton_append]
      rcases List.mem_cons.1 hm with rfl | hm
      · exact h.append_right (apart ',' _ (by decide))
      · exact (ih hm).behind first (by decide)

end

/-! ## The words of tokens -/

mutual

/-- Whether a word is one of a token, or of the arguments of a call. -/
inductive Token.Mentions (text : List Char) : Token → Prop where
  /-- The token is the word. -/
  | word : Token.Mentions text (.word text)
  /-- An argument mentions the word. -/
  | call {name args p} (hp : p ∈ args) (h : Phrase.Mentions text p) :
    Token.Mentions text (.call name args)

/-- Whether a word is one of the tokens of an expression, or of the arguments of a call. -/
inductive Phrase.Mentions (text : List Char) : Phrase → Prop where
  /-- A token mentions the word. -/
  | mk {whole tokens fault t} (ht : t ∈ tokens) (h : Token.Mentions text t) :
    Phrase.Mentions text (.mk whole tokens fault)

end

/-- A word that the first token or one of the others mentions. -/
theorem mentions_before {tokens : List Token} {rest : List Token × Option Fault} {t : Token}
    (h : t ∈ (before tokens rest).1) : t ∈ tokens ∨ t ∈ rest.1 := List.mem_append.1 h

/-- A run of word characters with none behind it. -/
theorem isWordOf_run {c : Char} {cs rest : List Char} (hc : isWordChar c = true)
    (hn : ∀ d ∈ rest.head?, isWordChar d = false) :
    IsWordOf (c :: cs.takeWhile isWordChar) ((c :: cs.takeWhile isWordChar) ++ rest) :=
  ⟨[], rest, rfl, List.cons_ne_nil _ _, forall_mem_cons_takeWhile hc cs, nofun, hn⟩

/-- The words that the tokens of a text mention stand in the text. -/
theorem isWordOf_of_mentions {cs : List Char} {t : Token} (ht : t ∈ (tokensOf cs).1)
    {word : List Char} (h : t.Mentions word) : IsWordOf word cs := by
  fun_induction tokensOf cs generalizing t word with
  | case1 => cases ht
  | case2 c cs hc ih => exact (ih ht h).behind [] (isWordChar_of_isSpace hc)
  | case3 cs _ ih =>
    rcases mentions_before ht with hm | hm
    · cases List.mem_singleton.1 hm
      cases h
    · exact (ih hm h).behind [] (by decide)
  | case4 cs _ _ ih =>
    rcases mentions_before ht with hm | hm
    · cases List.mem_singleton.1 hm
      cases h
    · exact (ih hm h).behind [] (by decide)
  | case5 => cases ht
  | case6 cs text rest hs _ _ _ ih =>
    obtain ⟨c, hc, rfl, _⟩ := splitFirst?_eq_some_iff.1 hs
    have hq : c = '"' := by simpa using hc
    subst hq
    rcases mentions_before ht with hm | hm
    · cases List.mem_singleton.1 hm
      cases h
    · exact (ih hm h).behind ('"' :: text) (by decide)
  | case7 => cases ht
  | case8 c cs _ _ _ _ hc run inner hd hname args rest ha phrases ihArgs =>
    rename_i ih
    obtain ⟨text, all, rfl, rfl, ended⟩ := exists_callArguments ha
    rw [← cons_takeWhile_append_dropWhile isWordChar c cs, hd]
    rcases mentions_before ht with hm | hm
    · cases List.mem_singleton.1 hm
      cases h with
      | call hp h =>
        rw [show phrases = _ from map_attach_read _] at hp
        obtain ⟨arg, harg, rfl⟩ := List.mem_map.1 hp
        cases h with
        | mk ht h =>
          have inside := ihArgs arg harg ht h
          rw [ended.text_eq]
          exact (inside.argument (mem_of_mem_dropBlankLast harg) rest).behind run (by decide)
    · rw [← List.cons_append, ← List.append_assoc]
      exact (ih hm h).behind (run ++ '(' :: text) (by decide)
  | case9 c cs _ _ _ _ hc run inner hd hname =>
    rename_i ih
    rw [← cons_takeWhile_append_dropWhile isWordChar c cs, hd]
    rcases mentions_before ht with hm | hm
    · cases List.mem_singleton.1 hm
      cases h with
      | word => exact isWordOf_run hc (by rintro d ⟨⟩; decide)
    · exact (ih hm h).append_left (by rintro d _ e ⟨⟩ he; cases he)
  | case10 c cs _ _ _ _ hc run hd =>
    rename_i ih
    rw [← cons_takeWhile_append_dropWhile isWordChar c cs]
    rcases mentions_before ht with hm | hm
    · cases List.mem_singleton.1 hm
      cases h with
      | word => exact isWordOf_run hc (head?_dropWhile cs)
    · refine (ih hm h).append_left fun _ _ e he hw => ?_
      rw [head?_dropWhile cs e he] at hw
      cases hw
  | case11 => cases ht
  | case12 c cs hs ho hc hq hw ops hsplit ih =>
    rw [← cons_takeWhile_append_dropWhile isOperatorChar c cs]
    rcases mentions_before ht with hm | hm
    · obtain ⟨op, _, rfl⟩ := List.mem_map.1 hm
      cases h
    · refine (ih hm h).append_left fun d hd _ _ _ => ?_
      have run := forall_mem_cons_takeWhile (isOperatorChar_of_not hs ho hc hq hw) cs
      exact (isOperatorChar_eq.1 (run d (List.mem_of_getLast? hd))).1

/-- The words of a trimmed text are words of the text. -/
theorem isWordOf_of_trim {word cs : List Char} (h : IsWordOf word (trim cs)) :
    IsWordOf word cs := by
  obtain ⟨blanks, back, hb⟩ := exists_of_trimEnd (trimStart cs)
  have apart : ∀ c ∈ blanks.head?, isWordChar c = false := fun c hc =>
    isWordChar_of_isSpace (List.all_eq_true.1 hb c (List.mem_of_head? hc))
  have trimmed : IsWordOf word (trimStart cs) := back ▸ h.append_right apart
  have front : cs.takeWhile isSpace ++ trimStart cs = cs := List.takeWhile_append_dropWhile
  rw [← front]
  exact trimmed.append_left fun c hc _ _ _ =>
    isWordChar_of_isSpace (List.mem_takeWhile_imp (List.mem_of_getLast? hc))

/-! ## Two evaluations -/

variable {α : Type}

/-- The surroundings of an evaluation with other values for the variables. -/
def Context.withValues (ctx : Context α) (look : String → Option (Value α)) : Context α :=
  { ctx with valueOf := look }

/-- Two evaluations with the same result, and with a property of it if it is a success. -/
structure Agree {β : Type} (post : β → Prop) (x y : Except Cause β) : Prop where
  /-- The results are the same. -/
  eq : x = y
  /-- A success has the property. -/
  holds : ∀ b, x = .ok b → post b

namespace Agree

variable {β γ : Type} {post : β → Prop}

/-- A success that has the property agrees with itself. -/
theorem ok {b : β} (h : post b) : Agree post (.ok b) (.ok b) := by
  refine ⟨rfl, ?_⟩
  rintro _ ⟨⟩
  exact h

/-- A failure agrees with itself. -/
theorem error (cause : Cause) : Agree post (.error cause) (.error cause) := ⟨rfl, nofun⟩

/-- Two evaluations that never looked at a variable. -/
theorem refl (x : Except Cause β) : Agree (fun _ => True) x x := ⟨rfl, fun _ _ => trivial⟩

/-- Chains agree if their steps do. -/
theorem bind {next : γ → Prop} {x y : Except Cause β} {f g : β → Except Cause γ}
    (h : Agree post x y) (hf : ∀ b, post b → Agree next (f b) (g b)) :
    Agree next (x >>= f) (y >>= g) := by
  obtain ⟨rfl, holds⟩ := h
  cases x with
  | error cause => exact .error cause
  | ok b => exact hf b (holds b rfl)

end Agree

section

variable (ctx : Context α) (look : String → Option (Value α))

/-- Whether an operand has the same value if the variables have the other values. -/
def Operand.Settled (a : Operand α) : Prop := a.resolve ctx = a.resolve (ctx.withValues look)

/-- Whether all operands of an evaluation have the same value if the variables have the other
values. -/
def Machine.Settled (m : Machine α) : Prop := ∀ a ∈ m.operands, a.Settled ctx look

end

variable {ctx : Context α} {look : String → Option (Value α)}

theorem Operand.settled_value (v : Value α) : (Operand.value v).Settled ctx look := rfl

theorem Machine.settled_start : Machine.start.Settled ctx look := nofun

/-- A word is settled if it has one value as a variable. -/
theorem Operand.settled_of_ofWord {word : List Char} {a : Operand α} (h : ofWord word = .ok a)
    (hv : ctx.valueOf (.ofList word) = look (.ofList word)) : a.Settled ctx look := by
  unfold ofWord at h
  split at h
  · split at h
    · cases h
      exact settled_value _
    · cases h
  · split at h
    · cases h
      exact settled_value _
    · cases h
      exact settled_value _
    · cases h
      exact settled_value _
    · cases h
      exact congrArg (Option.getD · .empty) hv

namespace Machine

variable {m : Machine α}

/-- Parentheses look at no operand. -/
theorem Settled.openGroup (h : m.Settled ctx look) :
    Agree (Settled ctx look) m.openGroup m.openGroup := by
  rw [Machine.openGroup]
  split
  · split
    · exact .ok h
    · exact .error _
  · exact .error _

theorem Settled.closeGroup (h : m.Settled ctx look) :
    Agree (Settled ctx look) m.closeGroup m.closeGroup := by
  rw [Machine.closeGroup]
  split
  · exact .error _
  · split
    · exact .error _
    · exact .ok h

/-- An operand that both sides read the same way can be put on the stack. -/
theorem Settled.pushOperand (h : m.Settled ctx look) (text : List Char)
    {operand : Except Cause (Operand α)} (ho : ∀ a, operand = .ok a → a.Settled ctx look) :
    Agree (Settled ctx look) (m.pushOperand text operand) (m.pushOperand text operand) := by
  rw [Machine.pushOperand]
  split
  · have pushed : Agree (·.Settled ctx look) operand operand := ⟨rfl, ho⟩
    exact pushed.bind fun a ha => .ok (List.forall_mem_cons.2 ⟨ha, h⟩)
  · exact .error _

/-- What a call with settled operands leaves. -/
theorem agree_returned (m : Machine α) (name : String) {xs : List (Operand α)}
    (h : ∀ a ∈ xs, a.Settled ctx look) (ps : List Pending) (result : Except CallFault (Value α)) :
    Agree (Settled ctx look) (m.returned name xs ps result) (m.returned name xs ps result) := by
  cases result with
  | error fault => exact .error _
  | ok v => exact .ok (List.forall_mem_cons.2 ⟨Operand.settled_value v, h⟩)

end Machine

/-! ## Steps -/

variable [HostObject α]

/-- The name to the right of an arrow is spelled and not looked up, so only the operands whose
values an operator asks for have to be settled. -/
theorem agree_applyOperator (op : Operator) {xs : List (Operand α)}
    (h : ∀ a ∈ xs, a.Settled ctx look) :
    Agree (∀ a ∈ ·, a.Settled ctx look) (applyOperator ctx op xs)
      (applyOperator (ctx.withValues look) op xs) := by
  have left (v : Value α) {rest : List (Operand α)} (hr : ∀ a ∈ rest, a.Settled ctx look) :
      ∀ a ∈ Operand.value v :: rest, a.Settled ctx look :=
    List.forall_mem_cons.2 ⟨Operand.settled_value v, hr⟩
  match op, xs, h with
  | .not, [], _ => exact .error _
  | .not, a :: rest, h =>
    obtain ⟨ha, hr⟩ := List.forall_mem_cons.1 h
    rw [applyOperator, applyOperator, ha]
    exact .ok (left _ hr)
  | .arrow, [], _ => exact .error _
  | .arrow, [b], _ => exact .error _
  | .arrow, b :: a :: rest, h =>
    obtain ⟨_, hx⟩ := List.forall_mem_cons.1 h
    obtain ⟨ha, hr⟩ := List.forall_mem_cons.1 hx
    rw [applyOperator, applyOperator, ha]
    exact .ok (left _ hr)
  | .binary op, [], _ => exact .error _
  | .binary op, [b], _ => exact .error _
  | .binary op, b :: a :: rest, h =>
    obtain ⟨hb, hx⟩ := List.forall_mem_cons.1 h
    obtain ⟨ha, hr⟩ := List.forall_mem_cons.1 hx
    rw [applyOperator, applyOperator, ha, hb]
    exact (Agree.refl _).bind fun v _ => .ok (left v hr)

/-- Waiting operators are applied alike to operands that both sides read the same way. -/
theorem agree_unwind (priority : Nat) (ps : List Pending) {xs : List (Operand α)}
    (h : ∀ a ∈ xs, a.Settled ctx look) :
    Agree (∀ a ∈ ·.2, a.Settled ctx look) (unwind ctx priority ps xs)
      (unwind (ctx.withValues look) priority ps xs) := by
  induction ps generalizing xs with
  | nil => exact .ok h
  | cons p ps ih =>
    rw [unwind, unwind]
    split
    · exact (agree_applyOperator p.op h).bind fun ys hy => ih hy
    · exact .ok h

/-- The same of all of them. -/
theorem agree_drain (ps : List Pending) {xs : List (Operand α)}
    (h : ∀ a ∈ xs, a.Settled ctx look) :
    Agree (∀ a ∈ ·, a.Settled ctx look) (drain ctx ps xs)
      (drain (ctx.withValues look) ps xs) := by
  induction ps generalizing xs with
  | nil => exact .ok h
  | cons p ps ih =>
    rw [drain, drain]
    exact (agree_applyOperator p.op h).bind fun ys hy => ih hy

namespace Machine

variable {m : Machine α}

/-- An operator applies those that wait, and waits in its turn. -/
theorem Settled.pushOperator (h : m.Settled ctx look) (op : Operator) :
    Agree (Settled ctx look) (m.pushOperator ctx op)
      (m.pushOperator (ctx.withValues look) op) := by
  rw [Machine.pushOperator, Machine.pushOperator]
  split
  · split
    · exact .ok h
    · exact .error _
  · split
    · exact .error _
    · exact (agree_unwind _ m.operators h).bind fun r hr => .ok hr

/-- A method is called of the value of its operand, a function of none. -/
theorem Settled.call (h : m.Settled ctx look) (name : String) (args : List (Value α)) :
    Agree (Settled ctx look) (m.call ctx name args)
      (m.call (ctx.withValues look) name args) := by
  rw [Machine.call, Machine.call]
  split
  · next p ps hp =>
    split
    · split
      · next a xs hx =>
        have ha : ∀ b ∈ a :: xs, b.Settled ctx look := fun b hb => h b (hx ▸ hb)
        obtain ⟨ha, hxs⟩ := List.forall_mem_cons.1 ha
        rw [ha]
        exact agree_returned m name hxs ps _
      · exact .error _
    · exact agree_returned m name h _ _
  · exact agree_returned m name h _ _

/-- The value at the end is the same. -/
theorem Settled.finish (h : m.Settled ctx look) :
    Agree (fun _ => True) (m.finish ctx) (m.finish (ctx.withValues look)) := by
  rw [Machine.finish, Machine.finish]
  split
  · exact .error _
  · split
    · exact .ok trivial
    · split
      · exact .error _
      · refine (agree_drain m.operators h).bind fun xs hx => ?_
        cases xs with
        | nil => exact .error _
        | cons a xs =>
          obtain ⟨ha, _⟩ := List.forall_mem_cons.1 hx
          change Agree _ (.ok (a.resolve ctx)) (.ok (a.resolve (ctx.withValues look)))
          rw [ha]
          exact .ok trivial

end Machine

/-! ## Runs -/

mutual

/-- An expression that has been read into tokens has the same value if the words that it mentions
have. -/
theorem Phrase.evaluate_withValues : ∀ p : Phrase,
    (∀ w, p.Mentions w → ctx.valueOf (.ofList w) = look (.ofList w)) →
    p.evaluate ctx = p.evaluate (ctx.withValues look)
  | .mk text tokens fault, h => by
    have agree : Agree (fun _ => True)
        (do
          let m ← feedAll ctx tokens .start
          match fault with
          | some f => .error f.cause
          | none => m.finish ctx)
        (do
          let m ← feedAll (ctx.withValues look) tokens .start
          match fault with
          | some f => .error f.cause
          | none => m.finish (ctx.withValues look)) := by
      have taken := agree_feedAll tokens Machine.settled_start fun t ht w hw => h w (.mk ht hw)
      refine taken.bind fun m hm => ?_
      cases fault with
      | some f => exact .error _
      | none => exact hm.finish
    rw [Phrase.evaluate, Phrase.evaluate]
    exact congrArg (Except.mapError _) agree.eq

/-- Tokens keep the operands settled. -/
theorem agree_feedAll : ∀ (ts : List Token) {m : Machine α}, m.Settled ctx look →
    (∀ t ∈ ts, ∀ w, t.Mentions w → ctx.valueOf (.ofList w) = look (.ofList w)) →
    Agree (Machine.Settled ctx look) (feedAll ctx ts m) (feedAll (ctx.withValues look) ts m)
  | [], m, hm, _ => .ok hm
  | t :: ts, m, hm, h => by
    obtain ⟨ht, hts⟩ := List.forall_mem_cons.1 h
    rw [feedAll, feedAll]
    exact (agree_feed t hm ht).bind fun n hn => agree_feedAll ts hn hts

/-- A token keeps the operands settled. -/
theorem agree_feed : ∀ (t : Token) {m : Machine α}, m.Settled ctx look →
    (∀ w, t.Mentions w → ctx.valueOf (.ofList w) = look (.ofList w)) →
    Agree (Machine.Settled ctx look) (feed ctx t m) (feed (ctx.withValues look) t m)
  | .openGroup, m, hm, _ => hm.openGroup
  | .closeGroup, m, hm, _ => hm.closeGroup
  | .word text, m, hm, h =>
    hm.pushOperand text fun a ha => Operand.settled_of_ofWord ha (h text .word)
  | .quoted text, m, hm, _ => hm.pushOperand _ (by rintro a ⟨⟩; exact Operand.settled_value _)
  | .operator op, m, hm, _ => hm.pushOperator op
  | .call name args, m, hm, h => by
    rw [feed, feed]
    split
    · have same := evaluateAll_withValues args fun p hp w hw => h w (.call hp hw)
      rw [← same]
      exact (Agree.refl _).bind fun values _ => hm.call _ values
    · exact .error _

/-- Arguments have the same values if the words that they mention have. -/
theorem evaluateAll_withValues : ∀ ps : List Phrase,
    (∀ p ∈ ps, ∀ w, p.Mentions w → ctx.valueOf (.ofList w) = look (.ofList w)) →
    evaluateAll ctx ps = evaluateAll (ctx.withValues look) ps
  | [], _ => rfl
  | p :: ps, h => by
    obtain ⟨hp, hps⟩ := List.forall_mem_cons.1 h
    rw [evaluateAll, evaluateAll, Phrase.evaluate_withValues p hp, evaluateAll_withValues ps hps]

end

/-- An expression has the same value, or fails in the same way, if the words of its text have the
same values. -/
theorem evaluate_withValues {text : List Char}
    (h : ∀ w, IsWordOf w text → ctx.valueOf (.ofList w) = look (.ofList w)) :
    evaluate ctx text = evaluate (ctx.withValues look) text := by
  refine Phrase.evaluate_withValues (Phrase.read text) ?_
  rintro w ⟨ht, hw⟩
  exact h w (isWordOf_of_mentions ht hw)

/-- An expression reads only the variables it spells: its value, and all that is made of the value,
are the same for two environments that agree on every word of its text. -/
theorem evaluate_eq_of_agree (engine : Engine α) (text : String) {env env' : Environment α}
    (h : ∀ w, IsWordOf w text.toList → env.get? (.ofList w) = env'.get? (.ofList w)) :
    engine.evaluate env text = engine.evaluate env' text ∧
      evaluateText (engine.context env) text.toList =
        evaluateText (engine.context env') text.toList ∧
      evaluateBool (engine.context env) text.toList =
        evaluateBool (engine.context env') text.toList ∧
      evaluateInt (engine.context env) text.toList =
        evaluateInt (engine.context env') text.toList ∧
      evaluateFloat (engine.context env) text.toList =
        evaluateFloat (engine.context env') text.toList ∧
      evaluateName (engine.context env) text.toList =
        evaluateName (engine.context env') text.toList := by
  have same : evaluate (engine.context env) text.toList =
      evaluate (engine.context env') text.toList := evaluate_withValues h
  have trimmed : evaluate (engine.context env) (trim text.toList) =
      evaluate (engine.context env') (trim text.toList) :=
    evaluate_withValues fun w hw => h w (isWordOf_of_trim hw)
  refine ⟨same, ?_, ?_, ?_, ?_, ?_⟩
  · rw [evaluateText, evaluateText, same]
  · rw [evaluateBool, evaluateBool, same]
  · rw [evaluateInt, evaluateInt, same]
  · rw [evaluateFloat, evaluateFloat, same]
  · rw [evaluateName, evaluateName, evaluateText, evaluateText, trimmed]

/-- The letter `y` stands in `xy . "y2" . f(xy->y_)` four times and is never a word there, so a
variable of that name is not read. -/
theorem evaluate_eq_of_agree_inside_words :
    (⟨[("y", .int 1), ("xy", .text "a")], by decide⟩ : Environment Empty).get? "y" ≠
        (⟨[("xy", .text "a")], by decide⟩ : Environment Empty).get? "y" ∧
      Engine.bare.evaluate ⟨[("xy", .text "a")], by decide⟩ "xy . \"y2\" . f(xy->y_)" =
        .ok (.text "ay2") ∧
      Engine.bare.evaluate ⟨[("y", .int 1), ("xy", .text "a")], by decide⟩
          "xy . \"y2\" . f(xy->y_)" =
        Engine.bare.evaluate ⟨[("xy", .text "a")], by decide⟩ "xy . \"y2\" . f(xy->y_)" := by
  have apart : ¬IsWordOf ['y'] "xy . \"y2\" . f(xy->y_)".toList := by decide
  refine ⟨nofun, by cbv, (evaluate_eq_of_agree _ _ fun w hw => ?_).1⟩
  have hne : String.ofList w ≠ "y" := by
    intro heq
    obtain rfl : w = ['y'] := by rw [← String.toList_ofList (l := w), heq]; rfl
    exact apart hw
  have other : (String.ofList w == "y") = false := beq_eq_false_iff_ne.2 hne
  simp only [Environment.get?, List.lookup, other]

end MicroTemplate.Expression
