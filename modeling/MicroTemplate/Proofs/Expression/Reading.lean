import MicroTemplate.Proofs.Expression.Completion

/-!
# Evaluation is the value of the reading

The two stacks compute what the structure of an expression means. A text that has a reading
evaluates to the value of that reading, or fails as the reading does: with the failure of the part
that comes first when parts are computed from left to right and operands before their operator. A
text without a reading fails to evaluate.
-/

namespace MicroTemplate.Expression

/-! ## Tokens as the beginning of a tree -/

/-- Whether tokens are the beginning of a tree: openings alone where an operand has to come, and
openings with an operand that is open to nothing on its right where an operator has to come. -/
def Begun (ts : List Token) (depth : Nat) (expectOperand : Bool) : Prop :=
  if expectOperand then ∃ fs, Waiting fs ∧ groups fs = depth ∧ written fs = ts
  else ∃ fs t, Partial fs t ∧ (∀ k, t.StandsBefore k) ∧ groups fs = depth ∧
    written fs ++ t.tokens = ts

/-- Nothing has been begun before the first token. -/
theorem begun_nil : Begun [] 0 true := ⟨[], trivial, rfl, rfl⟩

/-- An opening parenthesis is an opening of its own. -/
theorem Begun.openGroup {ts : List Token} {depth : Nat} (h : Begun ts depth true) :
    Begun (ts ++ [.openGroup]) (depth + 1) true := by
  obtain ⟨fs, hw, rfl, rfl⟩ := h
  exact ⟨.group :: fs, hw, rfl, rfl⟩

/-- A closing parenthesis makes a tree of all up to the last open one. -/
theorem Begun.closeGroup {ts : List Token} {depth : Nat} (h : Begun ts (depth + 1) false) :
    Begun (ts ++ [.closeGroup]) depth false := by
  obtain ⟨fs, t, hp, _, hg, rfl⟩ := h
  obtain ⟨gs, inner, hi, hd, hw⟩ := hp.exists_group hg
  refine ⟨gs, .group inner, hi.plug, fun _ => trivial, hd, ?_⟩
  rw [← hw]
  simp [Tree.tokens]

/-- A negation opens where an operand has to come. -/
theorem Begun.negation {ts : List Token} {depth : Nat} (h : Begun ts depth true) :
    Begun (ts ++ [.operator .not]) depth true := by
  obtain ⟨fs, hw, rfl, rfl⟩ := h
  exact ⟨.negation :: fs, hw, rfl, rfl⟩

/-- Another operator takes the tree before it as its left operand. -/
theorem Begun.operator {ts : List Token} {depth : Nat} (h : Begun ts depth false)
    {op : Operator} (hn : op ≠ .not) : Begun (ts ++ [.operator op]) depth true := by
  obtain ⟨fs, t, hp, ht, rfl, rfl⟩ := h
  obtain ⟨gs, left, hl, hb, htight, hd, hw⟩ := hp.exists_left hn (ht _)
  rw [← hw]
  cases op with
  | not => exact absurd rfl hn
  | arrow =>
    refine ⟨.arrow left :: gs, ⟨hl.waiting, hl.placed, hb, htight⟩, hd, ?_⟩
    simp [written, Opening.tokens]
  | binary op =>
    refine ⟨.binary op left :: gs, ⟨hl.waiting, hl.placed, hb, htight⟩, hd, ?_⟩
    simp [written, Opening.tokens]

/-- A word or a quoted text can be the operand of any opening. -/
theorem Begun.leaf {ts : List Token} {depth : Nat} (h : Begun ts depth true) {t : Tree}
    {token : Token} (ht : t.tokens = [token]) (hp : t.Placed) (ha : ∀ k, t.StandsAfter k)
    (hb : ∀ k, t.StandsBefore k) : Begun (ts ++ [token]) depth false := by
  obtain ⟨fs, hw, rfl, rfl⟩ := h
  exact ⟨fs, t, ⟨hw, hp, fun _ _ op _ => ha op.priority⟩, hb, rfl, by rw [ht]⟩

/-- A call right of an arrow is its method, and elsewhere an operand. -/
theorem Begun.call {ts : List Token} {depth : Nat} (h : Begun ts depth true) (name : List Char)
    {args : List Reading} (ha : AllPlaced args) :
    Begun (ts ++ [.call name (phrasesOf args)]) depth false := by
  obtain ⟨fs, hw, rfl, rfl⟩ := h
  by_cases hf : ∃ left gs, fs = .arrow left :: gs
  · obtain ⟨left, gs, rfl⟩ := hf
    refine ⟨gs, .method left name args, ⟨hw.1, ⟨hw.2.1, ha, hw.2.2.1⟩, hw.2.2.2⟩,
      fun _ => trivial, rfl, ?_⟩
    simp [written, Opening.tokens, Tree.tokens]
  · refine ⟨fs, .call name args, ⟨hw, ha, fun f hm op ho => ?_⟩, fun _ => trivial, rfl, ?_⟩
    · cases f with
      | group => cases ho
      | negation => cases ho; exact show Operator.not.priority ≠ Operator.arrow.priority by decide
      | binary o left => cases ho; exact Nat.ne_of_lt o.priority_lt_arrow
      | arrow left =>
        obtain ⟨gs, rfl⟩ := List.head?_eq_some_iff.1 hm
        exact absurd ⟨left, gs, rfl⟩ hf
    · simp [Tree.tokens]

variable {α : Type}

/-- A group is opened where an operand has to come, as long as the open ones can be counted. -/
theorem eq_of_openGroup {m n : Machine α} (h : m.openGroup = .ok n) :
    m.expectOperand = true ∧ m.depth < maxDepth ∧ n = { m with depth := m.depth + 1 } := by
  rw [Machine.openGroup] at h
  split at h
  · next he =>
    split at h
    · next lt =>
      cases h
      exact ⟨he, lt, rfl⟩
    · cases h
  · cases h

/-- What is known of the machine after some tokens. -/
structure Taken (ts : List Token) (m : Machine α) : Prop where
  /-- The tokens are the beginning of a tree. -/
  begun : Begun ts m.depth m.expectOperand
  /-- Where an operator has to come, there is an operand. -/
  operand : m.expectOperand = false → m.operands ≠ []
  /-- As long as there is neither operand nor operator, there were only opening parentheses. -/
  bare : m.operands = [] → m.operators = [] → ts.length = m.depth

theorem taken_start : Taken [] (Machine.start : Machine α) :=
  ⟨begun_nil, nofun, fun _ _ => rfl⟩

theorem Taken.openGroup {ts : List Token} {m n : Machine α} (h : Taken ts m)
    (hn : m.openGroup = .ok n) : Taken (ts ++ [.openGroup]) n := by
  obtain ⟨he, _, rfl⟩ := eq_of_openGroup hn
  have hb := h.begun
  rw [he] at hb
  refine ⟨by rw [he]; exact hb.openGroup, h.operand, fun hx hp => ?_⟩
  rw [List.length_append, h.bare hx hp]
  rfl

theorem Taken.closeGroup {ts : List Token} {m n : Machine α} (h : Taken ts m)
    (hn : m.closeGroup = .ok n) : Taken (ts ++ [.closeGroup]) n := by
  rw [Machine.closeGroup] at hn
  split at hn
  · cases hn
  · next depth hd =>
    split at hn
    · cases hn
    · next he =>
      cases hn
      have hf : m.expectOperand = false := by simpa using he
      have hb := h.begun
      rw [hd, hf] at hb
      exact ⟨by rw [hf]; exact hb.closeGroup, h.operand, fun hx => absurd hx (h.operand hf)⟩

/-- Where an operand has been taken, only the tokens have to be looked at. -/
theorem Taken.ofOperand {ts : List Token} {m : Machine α} (hb : Begun ts m.depth m.expectOperand)
    (hx : m.operands ≠ []) : Taken ts m :=
  ⟨hb, fun _ => hx, fun hn => absurd hn hx⟩

/-- A leaf is an operand. -/
theorem Taken.pushOperand {ts : List Token} {m n : Machine α} (h : Taken ts m) {t : Tree}
    {token : Token} {text : List Char} {operand : Except Cause (Operand α)}
    (hn : m.pushOperand text operand = .ok n) (ht : t.tokens = [token]) (hp : t.Placed)
    (ha : ∀ k, t.StandsAfter k) (hs : ∀ k, t.StandsBefore k) : Taken (ts ++ [token]) n := by
  rw [Machine.pushOperand] at hn
  split at hn
  · next he =>
    obtain ⟨a, _, hn⟩ := bind_eq_ok hn
    cases hn
    have hb := h.begun
    rw [he] at hb
    exact .ofOperand (hb.leaf ht hp ha hs) (List.cons_ne_nil _ _)
  · cases hn

variable [HostObject α]

/-- An operator that is taken is one that could be begun. -/
theorem Taken.pushOperator {ctx : Context α} {ts : List Token} {m n : Machine α}
    (h : Taken ts m) {op : Operator} (hn : m.pushOperator ctx op = .ok n) :
    Taken (ts ++ [.operator op]) n := by
  have hb := h.begun
  rw [Machine.pushOperator] at hn
  split at hn
  · next ho =>
    subst ho
    split at hn
    · next he =>
      cases hn
      rw [he] at hb
      exact ⟨by rw [he]; exact hb.negation, fun hf => absurd (he.symm.trans hf) nofun, nofun⟩
    · cases hn
  · next ho =>
    split at hn
    · cases hn
    · next he =>
      obtain ⟨⟨operators, operands⟩, _, hn⟩ := bind_eq_ok hn
      cases hn
      have hf : m.expectOperand = false := by simpa using he
      rw [hf] at hb
      exact ⟨hb.operator ho, nofun, nofun⟩

/-- A call leaves an operand. -/
theorem expectOperand_of_call {ctx : Context α} {m n : Machine α} {name : String}
    {values : List (Value α)} (h : m.call ctx name values = .ok n) :
    n.depth = m.depth ∧ n.expectOperand = false ∧ n.operands ≠ [] := by
  have finish {operands : List (Operand α)} {operators : List Pending}
      {result : Except CallFault (Value α)}
      (h : m.returned name operands operators result = .ok n) :
      n.depth = m.depth ∧ n.expectOperand = false ∧ n.operands ≠ [] := by
    cases result with
    | error fault => cases h
    | ok v => cases h; exact ⟨rfl, rfl, List.cons_ne_nil _ _⟩
  rw [Machine.call] at h
  split at h
  · split at h
    · split at h
      · exact finish h
      · cases h
    · exact finish h
  · exact finish h

/-- So is a call whose arguments have readings. -/
theorem Taken.call {ctx : Context α} {ts : List Token} {m n : Machine α} (h : Taken ts m)
    (he : m.expectOperand = true) {name : List Char} {args : List Reading} (ha : AllPlaced args)
    {values : List (Value α)} (hn : m.call ctx (.ofList name) values = .ok n) :
    Taken (ts ++ [.call name (phrasesOf args)]) n := by
  obtain ⟨hd, hf, hx⟩ := expectOperand_of_call hn
  have hb := h.begun
  rw [he] at hb
  refine .ofOperand ?_ hx
  rw [hd, hf]
  exact hb.call name ha

/-! ## The depth of groups -/

/-- Whether a token leads from one number of open parentheses to another. -/
def Token.Shifts : Token → Nat → Nat → Prop
  | .openGroup, before, after => after = before + 1 ∧ after ≤ maxDepth
  | .closeGroup, before, after => before = after + 1
  | _, before, after => after = before

/-- The machine counts the parentheses that are open. -/
theorem shifts_of_feed {ctx : Context α} {t : Token} {m n : Machine α}
    (h : feed ctx t m = .ok n) : t.Shifts m.depth n.depth := by
  have operand {text : List Char} {operand : Except Cause (Operand α)}
      (h : m.pushOperand text operand = .ok n) : n.depth = m.depth := by
    rw [Machine.pushOperand] at h
    split at h
    · obtain ⟨a, _, ha⟩ := bind_eq_ok h
      cases ha
      rfl
    · cases h
  cases t with
  | openGroup =>
    obtain ⟨_, lt, rfl⟩ := eq_of_openGroup h
    exact ⟨rfl, lt⟩
  | closeGroup =>
    rw [feed, Machine.closeGroup] at h
    split at h
    · cases h
    · next depth hd =>
      split at h
      · cases h
      · cases h
        exact hd
  | word text => exact operand h
  | quoted text => exact operand h
  | operator op =>
    rw [feed, Machine.pushOperator] at h
    split at h
    · split at h
      · cases h
        rfl
      · cases h
    · split at h
      · cases h
      · obtain ⟨⟨ps, xs⟩, _, hn⟩ := bind_eq_ok h
        cases hn
        rfl
  | call name args =>
    rw [feed] at h
    split at h
    · obtain ⟨values, _, hc⟩ := bind_eq_ok h
      exact (expectOperand_of_call hc).1
    · cases h

/-- The tokens of a tree close the groups that they open, and could only be taken if these can be
open at once. -/
theorem Tree.depth_of_feedAll {ctx : Context α} :
    ∀ (t : Tree) {m n : Machine α}, feedAll ctx t.tokens m = .ok n → m.depth ≤ maxDepth →
      n.depth = m.depth ∧ m.depth + t.nesting ≤ maxDepth
  | .word text, m, n, h, le | .quoted text, m, n, h, le | .call name args, m, n, h, le => by
    rw [Tree.tokens, feedAll_singleton] at h
    exact ⟨shifts_of_feed h, le⟩
  | .group inner, m, n, h, le => by
    rw [Tree.tokens, feedAll] at h
    obtain ⟨o, opened, h⟩ := bind_eq_ok h
    rw [feedAll_append] at h
    obtain ⟨c, taken, closed⟩ := bind_eq_ok h
    rw [feedAll_singleton] at closed
    obtain ⟨deeper, room⟩ : o.depth = m.depth + 1 ∧ o.depth ≤ maxDepth := shifts_of_feed opened
    obtain ⟨same, inside⟩ := Tree.depth_of_feedAll inner taken room
    have higher : c.depth = n.depth + 1 := shifts_of_feed closed
    rw [Tree.nesting]
    constructor <;> omega
  | .negation operand, m, n, h, le => by
    rw [Tree.tokens, feedAll] at h
    obtain ⟨o, pushed, h⟩ := bind_eq_ok h
    have same : o.depth = m.depth := shifts_of_feed pushed
    rw [← same] at le ⊢
    exact Tree.depth_of_feedAll operand h le
  | .binary op left right, m, n, h, le | .member left right, m, n, h, le => by
    rw [Tree.tokens, feedAll_append] at h
    obtain ⟨k, first, h⟩ := bind_eq_ok h
    rw [feedAll] at h
    obtain ⟨o, pushed, h⟩ := bind_eq_ok h
    obtain ⟨sameLeft, roomLeft⟩ := Tree.depth_of_feedAll left first le
    have same : o.depth = k.depth := shifts_of_feed pushed
    obtain ⟨sameRight, roomRight⟩ := Tree.depth_of_feedAll right h (by omega)
    rw [Tree.nesting]
    constructor <;> omega
  | .method left name args, m, n, h, le => by
    rw [Tree.tokens, feedAll_append] at h
    obtain ⟨k, first, h⟩ := bind_eq_ok h
    rw [feedAll] at h
    obtain ⟨o, pushed, h⟩ := bind_eq_ok h
    rw [feedAll_singleton] at h
    obtain ⟨sameLeft, room⟩ := Tree.depth_of_feedAll left first le
    have same : o.depth = k.depth := shifts_of_feed pushed
    have called : n.depth = o.depth := shifts_of_feed h
    exact ⟨by omega, room⟩

/-- Tokens at the end of which there is a value have a reading. -/
theorem Taken.exists_reading {ctx : Context α} {ts : List Token} {m : Machine α}
    (h : Taken ts m) (taken : feedAll ctx ts .start = .ok m) {v : Value α}
    (hv : m.finish ctx = .ok v) (text : List Char) :
    ∃ r : Reading, r.phrase = .mk text ts none ∧ r.Placed := by
  rw [Machine.finish] at hv
  split at hv
  · cases hv
  · next hd =>
    have hd : m.depth = 0 := Decidable.not_not.1 hd
    split at hv
    · next he =>
      simp only [Bool.and_eq_true, List.isEmpty_iff] at he
      have hl : ts = [] := List.eq_nil_of_length_eq_zero ((h.bare he.1 he.2).trans hd)
      subst hl
      exact ⟨.blank text, rfl, trivial⟩
    · split at hv
      · cases hv
      · next he =>
        have hf : m.expectOperand = false := by simpa using he
        have hb := h.begun
        rw [hd, hf] at hb
        obtain ⟨fs, t, hp, _, hg, rfl⟩ := hb
        obtain ⟨u, hu, hup⟩ := hp.exists_tree hg
        rw [← hu] at taken
        obtain ⟨_, room⟩ := u.depth_of_feedAll taken (Nat.zero_le _)
        exact ⟨.tree text u, by rw [Reading.phrase, hu], hup, (Nat.zero_add _).symm.trans_le room⟩

mutual

/-- A text that evaluates to a value has a reading. -/
theorem Phrase.exists_reading {ctx : Context α} :
    ∀ (p : Phrase) {v : Value α}, p.evaluate ctx = .ok v →
      ∃ r : Reading, r.phrase = p ∧ r.Placed
  | .mk text tokens fault, v, h => by
    rw [Phrase.evaluate] at h
    have hc := ok_of_mapError h
    obtain ⟨m, hm, hf⟩ := bind_eq_ok hc
    cases fault with
    | some f => cases hf
    | none =>
      have ht := Taken.feedAll tokens taken_start hm
      exact ht.exists_reading hm hf text

/-- Tokens that are taken without a failure continue the beginning of a tree. -/
theorem Taken.feedAll {ctx : Context α} :
    ∀ (us : List Token) {ts : List Token} {m n : Machine α}, Taken ts m →
      feedAll ctx us m = .ok n → Taken (ts ++ us) n
  | [], ts, m, n, h, hn => by
    rw [Expression.feedAll] at hn
    cases hn
    rwa [List.append_nil]
  | u :: us, ts, m, n, h, hn => by
    rw [Expression.feedAll] at hn
    obtain ⟨o, ho, hn⟩ := bind_eq_ok hn
    have hr := Taken.feedAll us (Taken.feed u h ho) hn
    rwa [List.append_assoc] at hr

/-- A token that is taken without a failure continues the beginning of a tree. -/
theorem Taken.feed {ctx : Context α} :
    ∀ (u : Token) {ts : List Token} {m n : Machine α}, Taken ts m →
      feed ctx u m = .ok n → Taken (ts ++ [u]) n
  | .openGroup, ts, m, n, h, hn => h.openGroup hn
  | .closeGroup, ts, m, n, h, hn => h.closeGroup hn
  | .word text, ts, m, n, h, hn =>
    h.pushOperand (t := .word text) hn rfl trivial (fun _ => trivial) (fun _ => trivial)
  | .quoted text, ts, m, n, h, hn =>
    h.pushOperand (t := .quoted text) hn rfl trivial (fun _ => trivial) (fun _ => trivial)
  | .operator op, ts, m, n, h, hn => h.pushOperator hn
  | .call name args, ts, m, n, h, hn => by
    rw [Expression.feed] at hn
    split at hn
    · next he =>
      obtain ⟨values, hv, hc⟩ := bind_eq_ok hn
      obtain ⟨rs, hrs, hp⟩ := exists_readings args hv
      rw [← hrs]
      exact h.call he hp hc
    · cases hn

/-- Arguments that evaluate to values have readings. -/
theorem exists_readings {ctx : Context α} :
    ∀ (ps : List Phrase) {vs : List (Value α)}, evaluateAll ctx ps = .ok vs →
      ∃ rs : List Reading, phrasesOf rs = ps ∧ AllPlaced rs
  | [], vs, h => ⟨[], rfl, trivial⟩
  | p :: ps, vs, h => by
    rw [evaluateAll] at h
    obtain ⟨v, hv, hr⟩ := bind_eq_ok h
    obtain ⟨ws, hws, _⟩ := bind_eq_ok hr
    obtain ⟨r, rfl, hp⟩ := Phrase.exists_reading p (ok_of_mapError hv)
    obtain ⟨rs, rfl, hps⟩ := exists_readings ps hws
    exact ⟨r :: rs, rfl, hp, hps⟩

end

/-- Evaluating a text gives exactly what its reading means: the same value, or the same failure. A
text that has no reading fails to evaluate. -/
theorem evaluate_reading (ctx : Context α) (text : List Char) :
    (∀ r : Reading, Reads text r → evaluate ctx text = r.value ctx) ∧
      ((∃ r : Reading, Reads text r) ∨
        ∃ cause, evaluate ctx text = .error (.evaluation (.ofList text) cause)) := by
  constructor
  · rintro r ⟨hr, hp⟩
    rw [evaluate, ← hr]
    exact r.evaluate_phrase ctx hp
  · cases he : evaluate ctx text with
    | ok v => exact .inl (Phrase.exists_reading (Phrase.read text) he)
    | error e =>
      obtain ⟨cause, rfl⟩ := error_of_evaluate he
      exact .inr ⟨cause, rfl⟩

/-- In `1 * !0 + 2` the negation takes the whole sum to its right, and its value is multiplied. -/
theorem evaluate_negation_in_product :
    Reads "1 * !0 + 2".toList (.tree "1 * !0 + 2".toList
        (.binary .mul (.word ['1']) (.negation (.binary .add (.word ['0']) (.word ['2']))))) ∧
      evaluate (α := Empty) ⟨fun _ => none, fun _ _ => .ok .empty, none⟩ "1 * !0 + 2".toList =
        .ok (.int 0) := by
  have reads : Reads "1 * !0 + 2".toList (.tree "1 * !0 + 2".toList
      (.binary .mul (.word ['1']) (.negation (.binary .add (.word ['0']) (.word ['2']))))) := by
    refine ⟨by cbv, ?_⟩
    simp [Reading.Placed, Tree.Placed, Tree.StandsBefore, Tree.StandsAfter, Operator.priority,
      BinaryOperator.priority, Tree.nesting]
  refine ⟨reads, ?_⟩
  rw [(evaluate_reading ⟨fun _ => none, fun _ _ => .ok .empty, none⟩ _).1 _ reads]
  rfl

end MicroTemplate.Expression
