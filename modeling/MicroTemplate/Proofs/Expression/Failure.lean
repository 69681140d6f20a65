import MicroTemplate.Proofs.Expression.Operands

/-!
# Why an expression failed

The failure of an expression carries its text. An error inside this failure is that of an argument
of a call: the arguments are evaluated one after the other, so it is the first of them that fails,
and what stands before the call has been taken by then. An argument is a part of the text that is
shorter than the whole, so the errors one inside the other come to an end, in a cause that no other
error is behind; and whether the failure is one of arithmetic is decided by that cause.
-/

namespace MicroTemplate

/-- Whether a cause lies in an expression itself: it is not the error of an argument, nor is the
program stopped. -/
def Cause.isOwn : Cause → Bool
  | .nested _ | .aborted _ => false
  | _ => true

namespace Expression

open Number Text

/-! ## Parts of a text -/

/-- A text of several that are joined is a part of the whole. -/
theorem isInfix_intercalate {separator text : List Char} {texts : List (List Char)}
    (h : text ∈ texts) : text <:+: separator.intercalate texts := by
  induction texts with
  | nil => cases h
  | cons first texts ih =>
    rcases List.mem_cons.1 h with rfl | hm
    · cases texts with
      | nil => rw [List.intercalate_singleton]
      | cons next texts =>
        rw [List.intercalate_cons_cons, List.append_assoc]
        exact (List.prefix_append _ _).isInfix
    · rw [List.intercalate_cons_of_ne_nil (List.ne_nil_of_mem hm)]
      exact (ih hm).trans (List.suffix_append _ _).isInfix

/-- An argument of a call is a part of what follows the opening parenthesis. -/
theorem isInfix_of_callArguments {cs rest arg : List Char} {args : List (List Char)}
    (h : callArguments cs = .ok (args, rest)) (hm : arg ∈ args) : arg <:+: cs := by
  obtain ⟨text, all, rfl, rfl, ended⟩ := exists_callArguments h
  have inside : arg <:+: text := by
    rw [ended.text_eq]
    exact isInfix_intercalate (mem_of_mem_dropBlankLast hm)
  exact inside.trans (List.prefix_append _ _).isInfix

/-- Whether a call of a name with these arguments stands in a text. -/
def HasCall (text name : List Char) (args : List (List Char)) : Prop :=
  ∃ front behind rest, text = front ++ name ++ '(' :: behind ∧
    callArguments behind = .ok (args, rest)

section

variable {text name arg : List Char} {args : List (List Char)}

/-- A call stands in a text wherever that begins. -/
theorem HasCall.append_left (h : HasCall text name args) (front : List Char) :
    HasCall (front ++ text) name args := by
  obtain ⟨before, behind, rest, rfl, cut⟩ := h
  exact ⟨front ++ before, behind, rest, by simp, cut⟩

/-- An argument of a call that stands in a text is a part of the text, and shorter than it. -/
theorem HasCall.part (h : HasCall text name args) (hm : arg ∈ args) :
    arg <:+: text ∧ arg.length < text.length := by
  obtain ⟨front, behind, rest, rfl, cut⟩ := h
  have shorter := (callArguments_length cut).2 arg hm
  refine ⟨?_, ?_⟩
  · have inside : behind <:+ front ++ name ++ '(' :: behind :=
      (List.suffix_cons _ _).trans (List.suffix_append _ _)
    exact (isInfix_of_callArguments cut hm).trans inside.isInfix
  · simp only [List.length_append, List.length_cons]
    omega

end

/-- A call among the tokens of a text stands in the text, and its arguments have been read each by
itself. -/
theorem hasCall_of_mem_tokensOf {cs name : List Char} {phrases : List Phrase}
    (h : .call name phrases ∈ (tokensOf cs).1) :
    ∃ args, phrases = args.map Phrase.read ∧ HasCall cs name args := by
  -- The call is not one of the first tokens, so it is one of those of the rest.
  have later (front : List Char) {rest : List Char} {tokens : List Token}
      (ih : .call name phrases ∈ (tokensOf rest).1 →
        ∃ args, phrases = args.map Phrase.read ∧ HasCall rest name args)
      (apart : .call name phrases ∉ tokens)
      (h : .call name phrases ∈ (before tokens (tokensOf rest)).1) :
      ∃ args, phrases = args.map Phrase.read ∧ HasCall (front ++ rest) name args := by
    obtain ⟨args, read, stands⟩ := ih ((List.mem_append.1 h).resolve_left apart)
    exact ⟨args, read, stands.append_left front⟩
  fun_induction tokensOf cs with
  | case1 => cases h
  | case2 c cs hc ih =>
    obtain ⟨args, read, stands⟩ := ih h
    exact ⟨args, read, stands.append_left [c]⟩
  | case3 cs _ ih => exact later ['('] ih (by simp) h
  | case4 cs _ _ ih => exact later [')'] ih (by simp) h
  | case5 => cases h
  | case6 cs text rest hs _ _ _ ih =>
    obtain ⟨c, _, rfl, _⟩ := splitFirst?_eq_some_iff.1 hs
    have inside := later ('"' :: text ++ [c]) ih (by simp) h
    rwa [List.append_assoc] at inside
  | case7 => cases h
  | case8 c cs _ _ _ _ hc run inner hd hname args rest ha phrases' _ =>
    rename_i ih
    rw [← cons_takeWhile_append_dropWhile isWordChar c cs, hd]
    by_cases hm : Token.call name phrases = .call run phrases'
    · obtain ⟨rfl, rfl⟩ := Token.call.inj hm
      exact ⟨args, map_attach_read args, [], inner, rest, rfl, ha⟩
    · obtain ⟨text, all, rfl, rfl, _⟩ := exists_callArguments ha
      have inside := later (run ++ '(' :: text ++ [')']) ih (by simpa using hm) h
      rwa [List.append_assoc, List.append_assoc] at inside
  | case9 c cs _ _ _ _ hc run inner hd hname =>
    rename_i ih
    rw [← cons_takeWhile_append_dropWhile isWordChar c cs, hd]
    exact later run ih (by simp) h
  | case10 c cs _ _ _ _ hc run hd =>
    rename_i ih
    rw [← cons_takeWhile_append_dropWhile isWordChar c cs]
    exact later run ih (by simp) h
  | case11 => cases h
  | case12 c cs _ _ _ _ _ ops hsplit ih =>
    rw [← cons_takeWhile_append_dropWhile isOperatorChar c cs]
    exact later (c :: cs.takeWhile isOperatorChar) ih (by simp) h

/-! ## Failures that lie in the expression -/

/-- A result, or a failure that lies in the expression itself. -/
def Plain {β : Type} : Except Cause β → Prop
  | .ok _ => True
  | .error cause => cause.isOwn = true

namespace Plain

variable {β γ : Type} {x : Except Cause β}

theorem ok (b : β) : Plain (.ok b) := trivial

/-- Such a result does not fail for another reason. -/
theorem ne_error (h : Plain x) {cause : Cause} (hc : cause.isOwn = false) : x ≠ .error cause := by
  rintro rfl
  cases h.symm.trans hc

theorem bind {f : β → Except Cause γ} (h : Plain x) (hf : ∀ b, Plain (f b)) :
    Plain (x >>= f) := by
  cases x with
  | error cause => exact h
  | ok b => exact hf b

/-- What is computed from values has no argument that could fail, and is not stopped. -/
theorem of_computed (h : Computed x) : Plain x := by
  cases x with
  | ok b => trivial
  | error cause =>
    cases cause with
    | cast source target => rfl
    | arithmetic fault => rfl
    | _ => cases h

end Plain

variable {α : Type}

/-- A word is no call. -/
theorem Operand.plain_ofWord (word : List Char) :
    Plain (Operand.ofWord word : Except Cause (Operand α)) := by
  unfold Operand.ofWord
  split
  · split
    · trivial
    · rfl
  · split <;> trivial

namespace Machine

/-- A group is opened unless as many are open as can be. -/
theorem openGroup_eq_error {m : Machine α} {cause : Cause} (h : m.openGroup = .error cause)
    (hc : cause.isOwn = false) : cause = .aborted .depth ∧ maxDepth ≤ m.depth := by
  rw [Machine.openGroup] at h
  split at h
  · split at h
    · cases h
    · next full =>
      cases h
      exact ⟨rfl, Nat.not_lt.1 full⟩
  · cases h
    cases hc

theorem plain_closeGroup (m : Machine α) : Plain m.closeGroup := by
  rw [Machine.closeGroup]
  split
  · rfl
  · split
    · rfl
    · trivial

theorem plain_pushOperand (m : Machine α) (text : List Char) {operand : Except Cause (Operand α)}
    (ho : Plain operand) : Plain (m.pushOperand text operand) := by
  rw [Machine.pushOperand]
  split
  · exact ho.bind fun a => trivial
  · rfl

/-- What a call gives is taken, or the machine is stopped as the call is. -/
theorem returned_eq_error {m : Machine α} {name : String} {xs : List (Operand α)}
    {ps : List Pending} {result : Except CallFault (Value α)} {cause : Cause}
    (h : m.returned name xs ps result = .error cause) (hc : cause.isOwn = false) :
    ∃ reason, cause = .aborted reason ∧ result = .error (.aborted reason) := by
  cases result with
  | ok v => cases h
  | error fault =>
    cases h
    cases fault with
    | refused message => cases hc
    | aborted reason => exact ⟨reason, rfl, rfl⟩

end Machine

section

variable [HostObject α] (ctx : Context α)

theorem plain_applyOperator (op : Operator) (xs : List (Operand α)) :
    Plain (applyOperator ctx op xs) := by
  fun_cases applyOperator ctx op xs with
  | case1 | case2 => trivial
  | case3 op b a rest => exact (Plain.of_computed (op.computed_apply _ _)).bind fun v => trivial
  | case4 => rfl

/-- Applying operators calls nothing. -/
theorem plain_unwind (priority : Nat) (ps : List Pending) (xs : List (Operand α)) :
    Plain (unwind ctx priority ps xs) := by
  induction ps generalizing xs with
  | nil => trivial
  | cons p ps ih =>
    rw [unwind]
    split
    · exact (plain_applyOperator ctx p.op xs).bind ih
    · trivial

theorem plain_drain (ps : List Pending) (xs : List (Operand α)) : Plain (drain ctx ps xs) := by
  induction ps generalizing xs with
  | nil => trivial
  | cons p ps ih =>
    rw [drain]
    exact (plain_applyOperator ctx p.op xs).bind ih

namespace Machine

theorem plain_pushOperator (m : Machine α) (op : Operator) : Plain (m.pushOperator ctx op) := by
  rw [Machine.pushOperator]
  split
  · split
    · trivial
    · rfl
  · split
    · rfl
    · exact (plain_unwind ctx _ _ _).bind fun r => trivial

/-- A call whose arguments have values is stopped only as a function is. -/
theorem call_eq_error {m : Machine α} {name : String} {args : List (Value α)} {cause : Cause}
    (h : m.call ctx name args = .error cause) (hc : cause.isOwn = false) :
    ∃ reason, cause = .aborted reason ∧ ctx.call name args = .error (.aborted reason) := by
  rw [Machine.call] at h
  split at h
  · split at h
    · split at h
      · obtain ⟨reason, rfl, refused⟩ := returned_eq_error h hc
        obtain ⟨_, _, heq⟩ := error_of_mapError refused
        cases heq
      · cases h
        cases hc
    · exact returned_eq_error h hc
  · exact returned_eq_error h hc

/-- The end of an expression calls nothing. -/
theorem plain_finish (m : Machine α) : Plain (m.finish ctx) := by
  rw [Machine.finish]
  split
  · rfl
  · split
    · trivial
    · split
      · rfl
      · refine (plain_drain ctx _ _).bind fun xs => ?_
        cases xs with
        | nil => rfl
        | cons a xs => trivial

end Machine

end

/-! ## Where an error inside comes from -/

section

variable [HostObject α] {ctx : Context α}

/-- Arguments fail for the first of them that fails, and wrap its error. -/
theorem exists_first_of_evaluateAll {ps : List Phrase} {cause : Cause}
    (h : evaluateAll ctx ps = .error cause) :
    ∃ done p more inner, ps = done ++ p :: more ∧ (∀ q ∈ done, ∃ v, q.evaluate ctx = .ok v) ∧
      p.evaluate ctx = .error inner ∧ cause = .nested inner := by
  induction ps with
  | nil => cases h
  | cons p ps ih =>
    rw [evaluateAll] at h
    rcases bind_eq_error h with hp | ⟨v, hv, hps⟩
    · obtain ⟨inner, he, rfl⟩ := error_of_mapError hp
      exact ⟨[], p, ps, inner, rfl, nofun, he, rfl⟩
    · rcases bind_eq_error hps with hps | ⟨vs, _, hvs⟩
      · obtain ⟨done, q, more, inner, rfl, values, fails, rfl⟩ := ih hps
        have first : ∃ v, p.evaluate ctx = .ok v := ⟨v, ok_of_mapError hv⟩
        exact ⟨p :: done, q, more, inner, rfl, List.forall_mem_cons.2 ⟨first, values⟩, fails, rfl⟩
      · cases hvs

/-- A token at which an evaluation fails for no reason of the expression's own opens one group too
many, or is a call: an argument fails, or the function is stopped. -/
theorem feed_eq_error {t : Token} {m : Machine α} {cause : Cause}
    (h : feed ctx t m = .error cause) (hc : cause.isOwn = false) :
    (t = .openGroup ∧ cause = .aborted .depth ∧ maxDepth ≤ m.depth) ∨
      ∃ name args, t = .call name args ∧ m.expectOperand = true ∧
        (evaluateAll ctx args = .error cause ∨ ∃ values reason, evaluateAll ctx args = .ok values ∧
          cause = .aborted reason ∧ ctx.call (.ofList name) values = .error (.aborted reason)) := by
  cases t with
  | openGroup =>
    obtain ⟨rfl, full⟩ := Machine.openGroup_eq_error h hc
    exact .inl ⟨rfl, rfl, full⟩
  | closeGroup => exact absurd h (m.plain_closeGroup.ne_error hc)
  | word text =>
    exact absurd h ((m.plain_pushOperand text (Operand.plain_ofWord text)).ne_error hc)
  | quoted text => exact absurd h ((m.plain_pushOperand _ (.ok _)).ne_error hc)
  | operator op => exact absurd h ((m.plain_pushOperator ctx op).ne_error hc)
  | call name args =>
    rw [feed] at h
    split at h
    · next he =>
      refine .inr ⟨name, args, rfl, he, ?_⟩
      rcases bind_eq_error h with hargs | ⟨values, hargs, hcall⟩
      · exact .inl hargs
      · obtain ⟨reason, rfl, stopped⟩ := Machine.call_eq_error ctx hcall hc
        exact .inr ⟨values, reason, hargs, rfl, stopped⟩
    · cases h
      cases hc

/-- Tokens that fail do so at one of them, and have been taken up to it. -/
theorem exists_feed_of_feedAll {ts : List Token} {m : Machine α} {cause : Cause}
    (h : feedAll ctx ts m = .error cause) :
    ∃ taken t left n, ts = taken ++ t :: left ∧ feedAll ctx taken m = .ok n ∧
      feed ctx t n = .error cause := by
  induction ts generalizing m with
  | nil => cases h
  | cons t ts ih =>
    rw [feedAll] at h
    rcases bind_eq_error h with ht | ⟨n, hn, hts⟩
    · exact ⟨[], t, ts, m, rfl, rfl, ht⟩
    · obtain ⟨taken, u, left, n', rfl, hn', hu⟩ := ih hts
      refine ⟨t :: taken, u, left, n', rfl, ?_, hu⟩
      rw [feedAll, hn, ok_bind, hn']

/-- An expression that fails for no reason of its own does so at one of its tokens. -/
theorem exists_feed_of_evaluate {text : List Char} {expression : String} {cause : Cause}
    (h : evaluate ctx text = .error (.evaluation expression cause)) (hc : cause.isOwn = false) :
    ∃ taken t left n, (tokensOf text).1 = taken ++ t :: left ∧
      feedAll ctx taken .start = .ok n ∧ feed ctx t n = .error cause := by
  rw [evaluate, Phrase.read, Phrase.evaluate] at h
  obtain ⟨_, failed, heq⟩ := error_of_mapError h
  cases heq
  rcases bind_eq_error failed with hf | ⟨m, _, hend⟩
  · exact exists_feed_of_feedAll hf
  · cases hfault : (tokensOf text).2 with
    | none =>
      rw [hfault] at hend
      exact absurd hend ((m.plain_finish ctx).ne_error hc)
    | some fault =>
      rw [hfault] at hend
      cases fault <;> · cases hend; cases hc

/-- Whether an expression stops at an argument of a call: what stands before the call is taken, the
arguments before it have values, and it fails with an error. -/
inductive StopsAt (ctx : Context α) (text arg : List Char) (inner : Error) : Prop where
  /-- The call and its arguments, with what comes before and after. -/
  | intro {name args taken left m done more}
    (stands : HasCall text name args)
    (tokens : (Phrase.read text).tokens = taken ++ .call name (args.map Phrase.read) :: left)
    (before : feedAll ctx taken .start = .ok m)
    (expects : m.expectOperand = true)
    (split : args = done ++ arg :: more)
    (values : ∀ a ∈ done, ∃ v, evaluate ctx a = .ok v)
    (fails : evaluate ctx arg = .error inner) : StopsAt ctx text arg inner

/-- An error inside that of an expression is the error of an argument at which it stops. -/
theorem exists_stopsAt {text : List Char} {expression : String} {inner : Error}
    (h : evaluate ctx text = .error (.evaluation expression (.nested inner))) :
    ∃ arg, StopsAt ctx text arg inner := by
  obtain ⟨taken, t, left, m, tokens, hm, fed⟩ := exists_feed_of_evaluate h rfl
  obtain ⟨name, phrases, rfl, he, hargs⟩ : ∃ name phrases, t = .call name phrases ∧
      m.expectOperand = true ∧ evaluateAll ctx phrases = .error (.nested inner) := by
    rcases feed_eq_error fed rfl with ⟨_, heq, _⟩ | ⟨name, phrases, ht, he, hargs | stopped⟩
    · cases heq
    · exact ⟨name, phrases, ht, he, hargs⟩
    · obtain ⟨_, _, _, heq, _⟩ := stopped
      cases heq
  have called : .call name phrases ∈ (tokensOf text).1 := by
    rw [tokens]
    exact List.mem_append_right _ List.mem_cons_self
  obtain ⟨args, rfl, stands⟩ := hasCall_of_mem_tokensOf called
  obtain ⟨before, p, after, error, read, values, fails, heq⟩ := exists_first_of_evaluateAll hargs
  cases heq
  obtain ⟨done, tail, rfl, rfl, htail⟩ := List.map_eq_append_iff.1 read
  obtain ⟨arg, more, rfl, rfl, rfl⟩ := List.map_eq_cons_iff.1 htail
  exact ⟨arg, .intro stands tokens hm he rfl (fun a ha => values _ (List.mem_map_of_mem ha)) fails⟩

/-- The argument at which an expression stops is a part of the expression, and shorter. -/
theorem StopsAt.part {text arg : List Char} {inner : Error} (h : StopsAt ctx text arg inner) :
    arg <:+: text ∧ arg.length < text.length ∧ evaluate ctx arg = .error inner := by
  obtain ⟨stands, _, _, _, rfl, _, fails⟩ := h
  obtain ⟨part, shorter⟩ := stands.part (List.mem_append_right _ List.mem_cons_self)
  exact ⟨part, shorter, fails⟩

/-! ## The errors one inside the other -/

/-- The errors one inside the other that an expression fails with, down to the cause behind all of
them. Each carries the text of its expression, and the one inside it is that of an argument at which
this expression stops, a shorter part of the text. -/
inductive Traced (ctx : Context α) : List Char → Error → Cause → Prop where
  /-- The cause has no error inside. -/
  | own {text root} (plain : ∀ inner, root ≠ .nested inner) :
    Traced ctx text (.evaluation (.ofList text) root) root
  /-- The error of an argument is inside. -/
  | argument {text arg inner root} (stops : StopsAt ctx text arg inner) (part : arg <:+: text)
    (shorter : arg.length < text.length) (behind : Traced ctx arg inner root) :
    Traced ctx text (.evaluation (.ofList text) (.nested inner)) root

/-- A failure of arithmetic is one that has such a cause behind it. -/
theorem Traced.isArithmetic_iff {text : List Char} {e : Error} {root : Cause}
    (h : Traced ctx text e root) :
    e.isArithmetic = true ↔
      root = .arithmetic .divisionByZero ∨ root = .arithmetic .overflow := by
  induction h with
  | @own text root plain =>
    rw [Error.isArithmetic]
    cases root with
    | arithmetic fault => cases fault <;> simp [Cause.isArithmetic]
    | nested inner => exact absurd rfl (plain inner)
    | _ => simp [Cause.isArithmetic]
  | argument stops part shorter behind ih => rwa [Error.isArithmetic, Cause.isArithmetic]

/-- Errors one inside the other come to an end, since the texts that they carry get shorter. -/
theorem exists_traced (text : List Char) {e : Error} (h : evaluate ctx text = .error e) :
    ∃ root, Traced ctx text e root := by
  obtain ⟨cause, rfl⟩ := error_of_evaluate h
  cases cause with
  | nested inner =>
    obtain ⟨arg, stops⟩ := exists_stopsAt h
    obtain ⟨part, shorter, fails⟩ := stops.part
    obtain ⟨root, behind⟩ := exists_traced arg fails
    exact ⟨root, .argument stops part shorter behind⟩
  | _ => exact ⟨_, .own nofun⟩
termination_by text.length

/-- Whether an expression fails with an error, whatever it is evaluated for. -/
inductive FailsWith (ctx : Context α) (text : List Char) (e : Error) : Prop where
  /-- For its value. -/
  | value (h : evaluate ctx text = .error e)
  /-- For the text form of its value. -/
  | text (h : evaluateText ctx text = .error e)
  /-- For whether its value counts as true. -/
  | truth (h : evaluateBool ctx text = .error e)
  /-- For the integer that its value stands for. -/
  | integer (h : evaluateInt ctx text = .error e)
  /-- For the floating-point number that its value stands for. -/
  | float (h : evaluateFloat ctx text = .error e)

/-- What is asked for beyond the value can fail by itself, and then has no error inside. -/
theorem FailsWith.exists_traced {text : List Char} {e : Error} (h : FailsWith ctx text e) :
    ∃ root, Traced ctx text e root := by
  have coerced {β : Type} {f : Value α → Except Cause β} (hf : ∀ v, Computed (f v))
      (h : (do let v ← evaluate ctx text; (f v).mapError (.evaluation (.ofList text))) =
        .error e) : ∃ root, Traced ctx text e root := by
    rcases bind_eq_error h with hv | ⟨v, _, hc⟩
    · exact Expression.exists_traced text hv
    · obtain ⟨cause, fails, rfl⟩ := error_of_mapError hc
      refine ⟨cause, .own ?_⟩
      rintro inner rfl
      exact (Plain.of_computed (hf v)).ne_error rfl fails
  cases h with
  | value h => exact Expression.exists_traced text h
  | text h => exact Expression.exists_traced text (error_of_map h)
  | truth h => exact Expression.exists_traced text (error_of_map h)
  | integer h => exact coerced Value.computed_toInt h
  | float h => exact coerced Value.computed_toFloat h

end

end Expression

end MicroTemplate
