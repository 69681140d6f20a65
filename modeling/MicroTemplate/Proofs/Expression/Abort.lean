import MicroTemplate.Proofs.Expression.Failure

/-!
# Why an evaluation is stopped

An evaluation is stopped, and gives neither a value nor an error, for one of two reasons: a group is
opened while as many are open as can be counted, or a function that is called stops the program. In
the first case the text has more opening parentheses than that, in the second it has the name of
the function in it.
-/

namespace MicroTemplate.Expression

open Text

/-! ## Opening parentheses -/

/-- Whether a token opens a group. -/
def Token.opens : Token → Bool
  | openGroup => true
  | _ => false

/-- Each group that the tokens of a text open is opened by a parenthesis of the text. -/
theorem countP_opens_tokensOf (cs : List Char) :
    (tokensOf cs).1.countP Token.opens ≤ cs.count '(' := by
  have later (tokens : List Token) (front : List Char) {rest : List Char}
      (h : tokens.countP Token.opens ≤ front.count '(')
      (ih : (tokensOf rest).1.countP Token.opens ≤ rest.count '(') :
      (before tokens (tokensOf rest)).1.countP Token.opens ≤ (front ++ rest).count '(' := by
    rw [before, List.countP_append, List.count_append]
    exact Nat.add_le_add h ih
  fun_induction tokensOf cs with
  | case1 => exact le_rfl
  | case2 c cs hc ih => exact ih.trans (List.count_le_count_cons)
  | case3 cs _ ih => exact later [.openGroup] ['('] le_rfl ih
  | case4 cs _ _ ih => exact later [.closeGroup] [')'] (Nat.zero_le _) ih
  | case5 => exact Nat.zero_le _
  | case6 cs text rest hs _ _ _ ih =>
    obtain ⟨c, _, rfl, _⟩ := splitFirst?_eq_some_iff.1 hs
    have whole := later [.quoted text] ('"' :: text ++ [c]) (Nat.zero_le _) ih
    rwa [List.append_assoc] at whole
  | case7 => exact Nat.zero_le _
  | case8 c cs _ _ _ _ hc run inner hd hname args rest ha phrases' _ =>
    rename_i ih
    rw [← cons_takeWhile_append_dropWhile isWordChar c cs, hd]
    obtain ⟨text, all, rfl, rfl, _⟩ := exists_callArguments ha
    have whole := later [.call run phrases'] (run ++ '(' :: text ++ [')']) (Nat.zero_le _) ih
    rwa [List.append_assoc, List.append_assoc] at whole
  | case9 c cs _ _ _ _ hc run inner hd hname =>
    rename_i ih
    rw [← cons_takeWhile_append_dropWhile isWordChar c cs, hd]
    exact later [.word run] run (Nat.zero_le _) ih
  | case10 c cs _ _ _ _ hc run hd =>
    rename_i ih
    rw [← cons_takeWhile_append_dropWhile isWordChar c cs]
    exact later [.word run] run (Nat.zero_le _) ih
  | case11 => exact Nat.zero_le _
  | case12 c cs _ _ _ _ _ ops hsplit ih =>
    rw [← cons_takeWhile_append_dropWhile isOperatorChar c cs]
    refine later (ops.map .operator) (c :: cs.takeWhile isOperatorChar) ?_ ih
    have none : (ops.map Token.operator).countP Token.opens = 0 := by
      simp [List.countP_eq_zero, Token.opens]
    exact none.trans_le (Nat.zero_le _)

variable {α : Type} [HostObject α] {ctx : Context α}

/-- No more groups are open than have been opened. -/
theorem depth_le_of_feedAll {ts : List Token} {m n : Machine α} (h : feedAll ctx ts m = .ok n) :
    n.depth ≤ m.depth + ts.countP Token.opens := by
  induction ts generalizing m with
  | nil =>
    cases h
    exact le_rfl
  | cons t ts ih =>
    rw [feedAll] at h
    obtain ⟨m', taken, h⟩ := bind_eq_ok h
    have rest := ih h
    have shift := shifts_of_feed taken
    rw [List.countP_cons]
    cases t with
    | openGroup =>
      have := shift.1
      simp only [Token.opens, if_true]
      omega
    | closeGroup =>
      have : m.depth = m'.depth + 1 := shift
      omega
    | _ =>
      have : m'.depth = m.depth := shift
      omega

/-! ## Where an evaluation is stopped -/

/-- Why the evaluation of a text is stopped. -/
inductive StoppedBy (ctx : Context α) (text : List Char) : Abort → Prop where
  /-- The text has more opening parentheses than can be open at once. -/
  | depth (many : maxDepth < text.count '(') : StoppedBy ctx text .depth
  /-- A function whose name is in the text stops the program. -/
  | call {name values reason} (named : name <:+: text)
    (stopped : ctx.call (.ofList name) values = .error (.aborted reason)) :
    StoppedBy ctx text reason

omit [HostObject α] in
/-- What stops the evaluation of a part stops that of the whole. -/
theorem StoppedBy.of_isInfix {part text : List Char} {reason : Abort}
    (h : StoppedBy ctx part reason) (hp : part <:+: text) : StoppedBy ctx text reason := by
  cases h with
  | depth many => exact .depth (many.trans_le (hp.sublist.count_le '('))
  | call named stopped => exact .call (named.trans hp) stopped

/-- An evaluation that is stopped has a reason for it in its text. -/
theorem stoppedBy_of_evaluate (text : List Char) {e : Error} {reason : Abort}
    (h : evaluate ctx text = .error e) (stopped : e.abort? = some reason) :
    StoppedBy ctx text reason := by
  obtain ⟨cause, rfl⟩ := error_of_evaluate h
  cases cause with
  | nested inner =>
    obtain ⟨arg, stops⟩ := exists_stopsAt h
    obtain ⟨part, shorter, fails⟩ := stops.part
    exact (stoppedBy_of_evaluate arg fails stopped).of_isInfix part
  | aborted other =>
    obtain rfl : other = reason := Option.some.inj stopped
    obtain ⟨taken, t, left, n, tokens, hn, fed⟩ := exists_feed_of_evaluate h rfl
    rcases feed_eq_error fed rfl with ⟨rfl, heq, full⟩ | ⟨name, args, rfl, _, hargs | called⟩
    · cases heq
      have opened := depth_le_of_feedAll hn
      have counted := countP_opens_tokensOf text
      rw [tokens, List.countP_append, List.countP_cons] at counted
      refine .depth ?_
      simp only [Machine.start, Token.opens, if_true] at opened counted
      omega
    · obtain ⟨_, _, _, _, _, _, _, heq⟩ := exists_first_of_evaluateAll hargs
      cases heq
    · obtain ⟨values, _, _, heq, stops⟩ := called
      cases heq
      have among : .call name args ∈ (tokensOf text).1 := by
        rw [tokens]
        exact List.mem_append_right _ List.mem_cons_self
      obtain ⟨_, _, front, behind, rest, rfl, _⟩ := hasCall_of_mem_tokensOf among
      exact .call ⟨front, '(' :: behind, rfl⟩ stops
  | _ => cases stopped
termination_by text.length

end MicroTemplate.Expression
