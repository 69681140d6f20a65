import MicroTemplate.Proofs.Expression.Call
import MicroTemplate.Proofs.Template.Step

/-!
# The segments of a template that is put together

Literal text without a marker is taken over as it is, and a directive is cut off at its closing
bracket. The scanner that looks for this bracket counts brackets and quotation marks and knows
nothing else of expressions: it cuts off exactly the bodies that close what is open. It never stops
inside an expression that evaluates: quotation marks come in pairs there, and brackets only between
them, in the arguments of calls too.
-/

namespace MicroTemplate.Template

open Expression Text

/-! ## Texts that no directive ends in -/

/-- A body with more text at its beginning, and the text after it. -/
def prependBody (text : List Char) (split : Option (List Char × List Char)) :
    Option (List Char × List Char) :=
  split.map fun (body, rest) => (text ++ body, rest)

theorem prependBody_nil (split : Option (List Char × List Char)) :
    prependBody [] split = split := by
  cases split <;> rfl

theorem prependBody_append (text more : List Char) (split : Option (List Char × List Char)) :
    prependBody (text ++ more) split = prependBody text (prependBody more split) := by
  cases split <;> simp [prependBody]

/-- What the scanner of directives does at a character. -/
theorem splitBody?_cons (depth : Nat) (quoted : Bool) (c : Char) (cs : List Char) :
    splitBody? depth quoted (c :: cs) =
      if c = '"' then pushBody c (splitBody? depth (!quoted) cs)
      else if quoted then pushBody c (splitBody? depth quoted cs)
      else if c = '[' then pushBody c (splitBody? (depth + 1) quoted cs)
      else if c = ']' then
        match depth with
        | 0 => some ([], cs)
        | depth + 1 => pushBody c (splitBody? depth quoted cs)
      else pushBody c (splitBody? depth quoted cs) := by
  cases depth with
  | zero => rw [splitBody?]
  | succ depth => rw [splitBody?]

/-- Whether the scanner of directives passes over a text as if each character of it stood for
itself. -/
def Seamless (text : List Char) : Prop :=
  ∀ depth rest, splitBody? depth false (text ++ rest) =
    prependBody text (splitBody? depth false rest)

theorem seamless_nil : Seamless [] := fun _ _ => (prependBody_nil _).symm

/-- What the scanner passes over can be joined. -/
theorem Seamless.append {text more : List Char} (h : Seamless text) (h' : Seamless more) :
    Seamless (text ++ more) := by
  intro depth rest
  rw [List.append_assoc, h, h', prependBody_append]

/-- A character that is no mark is passed over. -/
theorem seamless_singleton {c : Char} (hq : c ≠ '"') (ho : c ≠ '[') (hc : c ≠ ']') :
    Seamless [c] := by
  intro depth rest
  rw [List.singleton_append, splitBody?_cons, if_neg hq, if_neg Bool.false_ne_true, if_neg ho,
    if_neg hc]
  rfl

theorem Seamless.cons {c : Char} {text : List Char} (h : Seamless text) (hq : c ≠ '"')
    (ho : c ≠ '[') (hc : c ≠ ']') : Seamless (c :: text) :=
  (seamless_singleton hq ho hc).append h

/-- So are any number of them. -/
theorem seamless_run {run : List Char} (h : ∀ c ∈ run, c ∉ marks) : Seamless run := by
  induction run with
  | nil => exact seamless_nil
  | cons c run ih =>
    have apart := h c List.mem_cons_self
    simp only [marks, List.mem_cons, List.not_mem_nil, or_false, not_or] at apart
    obtain ⟨_, hq, _, _, _, ho, hc⟩ := apart
    exact (ih fun d hd => h d (List.mem_cons_of_mem _ hd)).cons hq ho hc

/-- The same for a fixed text. -/
theorem seamless_of_all {run : List Char} (h : run.all (· ∉ marks) = true) : Seamless run :=
  seamless_run fun c hc => of_decide_eq_true (List.all_eq_true.1 h c hc)

/-- Between quotation marks any character stands for itself. -/
theorem seamless_quoted {text : List Char} (h : '"' ∉ text) :
    Seamless ('"' :: (text ++ ['"'])) := by
  intro depth rest
  have inside : splitBody? depth true (text ++ ['"'] ++ rest) =
      prependBody (text ++ ['"']) (splitBody? depth false rest) := by
    induction text with
    | nil =>
      rw [List.nil_append, List.singleton_append, splitBody?_cons, if_pos rfl]
      rfl
    | cons c text ih =>
      simp only [List.mem_cons, not_or] at h
      rw [List.cons_append, List.cons_append, splitBody?_cons, if_neg (Ne.symm h.1), if_pos rfl,
        ih h.2]
      exact (prependBody_append [c] (text ++ ['"']) _).symm
  rw [List.cons_append, splitBody?_cons, if_pos rfl, Bool.not_false, inside]
  exact (prependBody_append ['"'] (text ++ ['"']) _).symm

/-- Commas between such texts change nothing. -/
theorem seamless_intercalate {texts : List (List Char)} (h : ∀ text ∈ texts, Seamless text) :
    Seamless ([','].intercalate texts) := by
  induction texts with
  | nil => exact seamless_nil
  | cons text texts ih =>
    have first := h text List.mem_cons_self
    have others := ih fun t ht => h t (List.mem_cons_of_mem _ ht)
    cases texts with
    | nil => simpa using first
    | cons next texts =>
      have comma := others.cons (c := ',') (by decide) (by decide) (by decide)
      rw [List.intercalate_cons_cons, List.append_assoc]
      exact first.append comma

theorem seamless_of_isBlank {text : List Char} (h : isBlank text = true) : Seamless text :=
  seamless_run fun c hc => not_mem_marks_of_isSpace (List.all_eq_true.1 h c hc)

/-! ## Texts with balanced brackets -/

/-- The characters of a text outside of quotation marks; if `quoted`, one is open before it. -/
def unquoted (quoted : Bool) : List Char → List Char
  | [] => []
  | c :: cs =>
    if c = '"' then unquoted (!quoted) cs
    else if quoted then unquoted quoted cs
    else c :: unquoted quoted cs

/-- Whether the quotation marks of a text come in pairs and its brackets outside of them are
balanced, with none that closes before it was opened. -/
structure Enclosed (text : List Char) : Prop where
  /-- The quotation marks come in pairs. -/
  pairs : Even (text.count '"')
  /-- As many brackets close as open. -/
  balanced : (unquoted false text).count ']' = (unquoted false text).count '['
  /-- Up to any place, no more brackets close than open. -/
  opened : ∀ front, front <+: unquoted false text → front.count ']' ≤ front.count '['

instance (text : List Char) : Decidable (Enclosed text) :=
  decidable_of_iff
    (Even (text.count '"') ∧
      (unquoted false text).count ']' = (unquoted false text).count '[' ∧
      ∀ front ∈ (unquoted false text).inits, front.count ']' ≤ front.count '[')
    ⟨fun ⟨pairs, balanced, opened⟩ =>
      ⟨pairs, balanced, fun front hf => opened front ((List.mem_inits _ _).2 hf)⟩,
      fun h => ⟨h.pairs, h.balanced, fun front hf => h.opened front ((List.mem_inits _ _).1 hf)⟩⟩

/-- Whether a text closes the `inner` brackets that are open before it, and the quotation mark that
is if `quoted`, and leaves nothing open. -/
structure ClosesAll (inner : Nat) (quoted : Bool) (text : List Char) : Prop where
  /-- The quotation marks leave none open. -/
  pairs : Even (text.count '"') ↔ quoted = false
  /-- As many brackets close as open in it and before it. -/
  balanced : (unquoted quoted text).count ']' = inner + (unquoted quoted text).count '['
  /-- Up to any place, no more brackets close than were open. -/
  opened : ∀ front, front <+: unquoted quoted text → front.count ']' ≤ inner + front.count '['

/-- A text is enclosed if it closes all that it opens. -/
theorem closesAll_zero_iff {text : List Char} : ClosesAll 0 false text ↔ Enclosed text := by
  constructor
  · intro h
    exact ⟨h.pairs.2 rfl, by simpa using h.balanced, by simpa using h.opened⟩
  · intro h
    exact ⟨by simpa using h.pairs, by simpa using h.balanced, by simpa using h.opened⟩

theorem closesAll_nil_iff {inner : Nat} {quoted : Bool} :
    ClosesAll inner quoted [] ↔ inner = 0 ∧ quoted = false := by
  constructor
  · intro h
    exact ⟨by simpa [unquoted] using h.balanced.symm, h.pairs.1 (by simp)⟩
  · rintro ⟨rfl, rfl⟩
    exact closesAll_zero_iff.2 (by decide)

/-- A quotation mark opens or closes. -/
theorem closesAll_quote_iff {inner : Nat} {quoted : Bool} {text : List Char} :
    ClosesAll inner quoted ('"' :: text) ↔ ClosesAll inner (!quoted) text := by
  have behind : unquoted quoted ('"' :: text) = unquoted (!quoted) text := by
    rw [unquoted, if_pos rfl]
  have pairs : (Even (('"' :: text).count '"') ↔ quoted = false) ↔
      (Even (text.count '"') ↔ (!quoted) = false) := by
    rw [List.count_cons_self, Nat.even_add_one]
    cases quoted <;> simp
  constructor
  · rintro ⟨hp, hb, ho⟩
    rw [behind] at hb ho
    exact ⟨pairs.1 hp, hb, ho⟩
  · rintro ⟨hp, hb, ho⟩
    rw [← behind] at hb ho
    exact ⟨pairs.2 hp, hb, ho⟩

/-- Between quotation marks any other character stands for itself. -/
theorem closesAll_inside_iff {inner : Nat} {c : Char} {text : List Char} (hq : c ≠ '"') :
    ClosesAll inner true (c :: text) ↔ ClosesAll inner true text := by
  have behind : unquoted true (c :: text) = unquoted true text := by
    rw [unquoted, if_neg hq, if_pos rfl]
  have quotes : (c :: text).count '"' = text.count '"' := List.count_cons_of_ne hq
  constructor
  · rintro ⟨hp, hb, ho⟩
    rw [behind] at hb ho
    exact ⟨quotes ▸ hp, hb, ho⟩
  · rintro ⟨hp, hb, ho⟩
    rw [← behind] at hb ho
    exact ⟨quotes.symm ▸ hp, hb, ho⟩

/-- Outside of them it changes the number of open brackets from `inner` to `after`. -/
theorem closesAll_outside_iff {inner after : Nat} {c : Char} {text : List Char} (hq : c ≠ '"')
    (change : [c].count ']' + after = inner + [c].count '[') :
    ClosesAll inner false (c :: text) ↔ ClosesAll after false text := by
  have behind : unquoted false (c :: text) = c :: unquoted false text := by
    rw [unquoted, if_neg hq, if_neg Bool.false_ne_true]
  have quotes : (c :: text).count '"' = text.count '"' := List.count_cons_of_ne hq
  have count (d : Char) (cs : List Char) : (c :: cs).count d = [c].count d + cs.count d := by
    rw [← List.count_append, List.singleton_append]
  constructor
  · rintro ⟨hp, hb, ho⟩
    rw [behind] at hb ho
    rw [count ']', count '['] at hb
    refine ⟨quotes ▸ hp, by omega, fun front hf => ?_⟩
    have most := ho (c :: front) ((List.prefix_cons_inj c).2 hf)
    rw [count ']', count '['] at most
    omega
  · rintro ⟨hp, hb, ho⟩
    refine ⟨quotes.symm ▸ hp, ?_, fun front hf => ?_⟩
    · rw [behind, count ']', count '[']
      omega
    · rw [behind] at hf
      rcases List.prefix_cons_iff.1 hf with rfl | ⟨later, rfl, hl⟩
      · exact Nat.zero_le _
      · have most := ho later hl
        rw [count ']', count '[']
        omega

/-- Any other character leaves that number as it is. -/
theorem count_change_of_ne {c : Char} (ho : c ≠ '[') (hc : c ≠ ']') (inner : Nat) :
    [c].count ']' + inner = inner + [c].count '[' := by
  rw [List.count_cons_of_ne ho, List.count_cons_of_ne hc]
  exact Nat.add_comm 0 inner

/-- A bracket cannot close what is not open. -/
theorem not_closesAll_close {text : List Char} : ¬ClosesAll 0 false (']' :: text) := by
  intro h
  have first : [']'] <+: unquoted false (']' :: text) := ⟨unquoted false text, rfl⟩
  have most := h.opened _ first
  exact absurd most (by decide)

/-- The scanner of directives passes over a text that closes what is open. -/
theorem ClosesAll.splitBody?_append (depth : Nat) (rest : List Char) {text : List Char}
    {inner : Nat} {quoted : Bool} (h : ClosesAll inner quoted text) :
    splitBody? (depth + inner) quoted (text ++ rest) =
      prependBody text (splitBody? depth false rest) := by
  induction text generalizing inner quoted with
  | nil =>
    obtain ⟨rfl, rfl⟩ := closesAll_nil_iff.1 h
    exact (prependBody_nil _).symm
  | cons c cs ih =>
    have push {split : Option (List Char × List Char)}
        (h : split = prependBody cs (splitBody? depth false rest)) :
        pushBody c split = prependBody (c :: cs) (splitBody? depth false rest) := by
      rw [h]
      exact (prependBody_append [c] cs _).symm
    rw [List.cons_append, splitBody?_cons]
    by_cases hq : c = '"'
    · subst hq
      rw [if_pos rfl]
      exact push (ih (closesAll_quote_iff.1 h))
    rw [if_neg hq]
    cases quoted with
    | true =>
      rw [if_pos rfl]
      exact push (ih ((closesAll_inside_iff hq).1 h))
    | false =>
      rw [if_neg Bool.false_ne_true]
      by_cases ho : c = '['
      · -- One more bracket is open in what follows.
        subst ho
        rw [if_pos rfl, Nat.add_assoc]
        exact push (ih ((closesAll_outside_iff hq (Nat.zero_add _)).1 h))
      rw [if_neg ho]
      by_cases hc : c = ']'
      · -- A bracket closes, so one of those inside was open.
        subst hc
        cases inner with
        | zero => exact absurd h not_closesAll_close
        | succ inner =>
          rw [if_pos rfl]
          exact push (ih ((closesAll_outside_iff hq (Nat.add_comm 1 inner)).1 h))
      · rw [if_neg hc]
        exact push (ih ((closesAll_outside_iff hq (count_change_of_ne ho hc inner)).1 h))

/-- The scanner of directives passes over a text with balanced brackets. -/
theorem Enclosed.seamless {text : List Char} (h : Enclosed text) : Seamless text :=
  fun depth rest => (closesAll_zero_iff.2 h).splitBody?_append depth rest

variable {α σ : Type} [HostObject α] {ctx : Context α}

/-- The scanner of directives passes over tokens that the machine takes, if it passes over shorter
expressions: the arguments of calls are such expressions. -/
theorem seamless_of_spells {cs : List Char} {ts : List Token} (h : Spells cs ts)
    (shorter : ∀ e : List Char, e.length < cs.length → ∀ v, evaluate ctx e = .ok v → Seamless e)
    {m n : Machine α} (hn : feedAll ctx ts m = .ok n) : Seamless cs := by
  induction h generalizing m with
  | nil => exact seamless_nil
  | @space c cs ts hc _ ih =>
    have apart : ∀ d ∈ [c], d ∉ marks := by simpa using not_mem_marks_of_isSpace hc
    have rest := ih (fun e he => shorter e (Nat.lt_succ_of_lt he)) hn
    exact (seamless_run apart).append rest
  | @openGroup cs ts _ ih =>
    rw [feedAll] at hn
    obtain ⟨k, _, hn⟩ := bind_eq_ok hn
    have rest := ih (fun e he => shorter e (Nat.lt_succ_of_lt he)) hn
    exact rest.cons (by decide) (by decide) (by decide)
  | @closeGroup cs ts _ ih =>
    rw [feedAll] at hn
    obtain ⟨k, _, hn⟩ := bind_eq_ok hn
    have rest := ih (fun e he => shorter e (Nat.lt_succ_of_lt he)) hn
    exact rest.cons (by decide) (by decide) (by decide)
  | @quoted text cs ts hq _ ih =>
    rw [feedAll] at hn
    obtain ⟨k, _, hn⟩ := bind_eq_ok hn
    have rest := ih (fun e he => shorter e (by simp; omega)) hn
    simpa using (seamless_quoted hq).append rest
  | @word word cs ts hw hc _ _ ih =>
    rw [feedAll] at hn
    obtain ⟨k, _, hn⟩ := bind_eq_ok hn
    have rest := ih (fun e he => shorter e (by simp; omega)) hn
    have run := seamless_run fun c hm => not_mem_marks_of_isWordChar (hc c hm)
    exact run.append rest
  | @call name inner args after ts hname ha _ ih =>
    have lengths := callArguments_length ha
    obtain ⟨text, all, rfl, rfl, ended⟩ := exists_callArguments ha
    rw [feedAll] at hn
    obtain ⟨k, hk, hn⟩ := bind_eq_ok hn
    obtain ⟨vs, hvs⟩ := evaluateAll_of_feed hk
    have rest : Seamless after := ih (fun e he => shorter e (by simp; omega)) hn
    have run := seamless_run fun c hm =>
      not_mem_marks_of_isWordChar (isWordChar_of_isName hname c hm)
    have each : ∀ a ∈ all, Seamless a := by
      intro a ha
      rcases mem_dropBlankLast_or ha with hm | hb
      · obtain ⟨v, hv⟩ := exists_value_of_mem hvs (List.mem_map_of_mem hm)
        have short := lengths.2 a hm
        refine shorter a ?_ v hv
        simp only [List.length_append, List.length_cons] at short ⊢
        omega
      · exact seamless_of_isBlank hb
    have arguments : Seamless text := by
      rw [ended.text_eq]
      exact seamless_intercalate each
    have closed := arguments.append (rest.cons (c := ')') (by decide) (by decide) (by decide))
    exact run.append (closed.cons (by decide) (by decide) (by decide))
  | @operators run cs ops ts hr hc _ ho _ ih =>
    rw [feedAll_append] at hn
    obtain ⟨k, _, hn⟩ := bind_eq_ok hn
    have rest := ih (fun e he => shorter e (by simp; omega)) hn
    exact (seamless_run (not_mem_marks_of_splitOperators? ho)).append rest

/-- The scanner of directives passes over an expression that evaluates. -/
theorem seamless_of_evaluate {e : List Char} {v : Value α} (h : evaluate ctx e = .ok v) :
    Seamless e := by
  induction hl : e.length using Nat.strong_induction_on generalizing e v with
  | _ length ih =>
    subst hl
    obtain ⟨ts, m, spells, hm, _⟩ := evaluate_eq_ok_iff.1 h
    exact seamless_of_spells spells (fun d hd w hw => ih d.length hd hw rfl) hm

/-- A directive ends with the first bracket after what the scanner passes over. -/
theorem Seamless.splitBody? {body : List Char} (h : Seamless body) (rest : List Char) :
    splitBody? 0 false (body ++ ']' :: rest) = some (body, rest) := by
  have stop : Template.splitBody? 0 false (']' :: rest) = some ([], rest) := by
    rw [splitBody?_cons, if_neg (by decide), if_neg Bool.false_ne_true, if_neg (by decide),
      if_pos rfl]
  rw [h, stop]
  simp [prependBody]

/-- The scanner of directives cuts off a body that closes what is open, and no other. -/
theorem splitBody?_eq_some_iff {depth : Nat} {quoted : Bool} {cs body rest : List Char} :
    splitBody? depth quoted cs = some (body, rest) ↔
      cs = body ++ ']' :: rest ∧ ClosesAll depth quoted body := by
  constructor
  · refine fun h => ⟨eq_append_of_splitBody? h, ?_⟩
    fun_induction splitBody? depth quoted cs generalizing body with
    | case1 => cases h
    | case2 depth quoted cs ih =>
      obtain ⟨inner, hi, rfl⟩ := pushBody_eq_some_iff.1 h
      exact closesAll_quote_iff.2 (ih hi)
    | case3 depth c cs hc ih =>
      obtain ⟨inner, hi, rfl⟩ := pushBody_eq_some_iff.1 h
      exact (closesAll_inside_iff hc).2 (ih hi)
    | case4 depth quoted cs hq hc ih =>
      obtain ⟨inner, hi, rfl⟩ := pushBody_eq_some_iff.1 h
      obtain rfl := Bool.eq_false_of_not_eq_true hq
      exact (closesAll_outside_iff hc (Nat.zero_add _)).2 (ih hi)
    | case5 quoted cs hq hc ho =>
      cases h
      exact closesAll_nil_iff.2 ⟨rfl, Bool.eq_false_of_not_eq_true hq⟩
    | case6 quoted cs hq depth hc ho ih =>
      obtain ⟨inner, hi, rfl⟩ := pushBody_eq_some_iff.1 h
      obtain rfl := Bool.eq_false_of_not_eq_true hq
      exact (closesAll_outside_iff hc (Nat.add_comm 1 depth)).2 (ih hi)
    | case7 depth quoted c cs hc hq ho hb ih =>
      obtain ⟨inner, hi, rfl⟩ := pushBody_eq_some_iff.1 h
      obtain rfl := Bool.eq_false_of_not_eq_true hq
      exact (closesAll_outside_iff hc (count_change_of_ne ho hb depth)).2 (ih hi)
  · rintro ⟨rfl, h⟩
    have passed := h.splitBody?_append 0 (']' :: rest)
    have stopped : splitBody? 0 false (']' :: rest) = some ([], rest) :=
      seamless_nil.splitBody? rest
    rw [Nat.zero_add, stopped] at passed
    rw [passed]
    simp [prependBody]

/-! ## Segments -/

/-- A directive that is closed. -/
theorem segmentsFrom_directive (offset : Nat) (pending : List Char) {cs body after : List Char}
    (h : splitBody? 0 false cs = some (body, after)) :
    segmentsFrom offset pending ('@' :: '[' :: cs) = literalBefore pending.reverse
      (.directive body offset (offset + 2 + byteLength body + 1) ::
        segmentsFrom (offset + 2 + byteLength body + 1) [] after) := by
  rw [segmentsFrom]
  split
  · next hn =>
    rw [h] at hn
    cases hn
  · next b a hs =>
    rw [h] at hs
    cases hs
    rfl

/-- A directive that is not closed. -/
theorem segmentsFrom_unterminated (offset : Nat) (pending : List Char) {cs : List Char}
    (h : splitBody? 0 false cs = none) :
    segmentsFrom offset pending ('@' :: '[' :: cs) =
      literalBefore pending.reverse [.unterminated offset] := by
  rw [segmentsFrom]
  split
  · rfl
  · next hs =>
    rw [h] at hs
    cases hs

/-- What a directive begins with. -/
def marker : List Char := ['@', '[']

/-- Without an at sign there is no marker. -/
theorem not_isInfix_marker {text : List Char} (h : '@' ∉ text) : ¬marker <:+: text :=
  fun occurs => h (occurs.subset List.mem_cons_self)

/-- Text without a marker is literal, if no bracket comes after it. -/
theorem segmentsFrom_literal (offset : Nat) (pending : List Char) {text rest : List Char}
    (h : ¬marker <:+: text) (next : rest.head? ≠ some '[') :
    segmentsFrom offset pending (text ++ rest) =
      segmentsFrom (offset + byteLength text) (text.reverse ++ pending) rest := by
  induction text generalizing offset pending with
  | nil => simp
  | cons c text ih =>
    have plain : ∀ tail, c = '@' → text ++ rest = '[' :: tail → False := by
      rintro tail rfl heq
      cases text with
      | nil => exact next (congrArg List.head? heq)
      | cons d text =>
        cases heq
        exact h (List.prefix_append marker text).isInfix
    have inner : ¬marker <:+: text := fun occurs => h (List.infix_cons occurs)
    rw [List.cons_append, segmentsFrom.eq_2 _ _ _ _ plain, ih _ _ inner]
    simp [Nat.add_assoc]

end MicroTemplate.Template
