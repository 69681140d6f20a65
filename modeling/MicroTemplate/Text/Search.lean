/-!
# Searching and replacing

Fixed texts inside texts: the first occurrence, cutting a text in two there, and replacing every
occurrence from left to right without looking again at what was put in.
-/

namespace MicroTemplate.Text

/-- What follows `needle` in a text that begins with it. -/
def stripStart? : List Char → List Char → Option (List Char)
  | [], cs => some cs
  | _ :: _, [] => none
  | n :: ns, c :: cs => if n = c then stripStart? ns cs else none

theorem stripStart?_eq_some_iff {needle cs rest : List Char} :
    stripStart? needle cs = some rest ↔ cs = needle ++ rest := by
  induction needle generalizing cs with
  | nil => simp [stripStart?, eq_comm]
  | cons n ns ih =>
    cases cs with
    | nil => simp [stripStart?]
    | cons c cs =>
      by_cases h : n = c
      · simp [stripStart?, h, ih]
      · simp [stripStart?, h, Ne.symm h]

theorem stripStart?_eq_none_iff {needle cs : List Char} :
    stripStart? needle cs = none ↔ ¬needle <+: cs := by
  rw [Option.eq_none_iff_forall_ne_some]
  constructor
  · rintro none ⟨rest, rfl⟩
    exact none rest (stripStart?_eq_some_iff.2 rfl)
  · intro other rest found
    exact other ⟨rest, (stripStart?_eq_some_iff.1 found).symm⟩

/-- The text before the first character that satisfies `p`, and the text after it. -/
def splitFirst? (p : Char → Bool) : List Char → Option (List Char × List Char)
  | [] => none
  | c :: cs =>
    if p c then some ([], cs)
    else (splitFirst? p cs).map fun (before, after) => (c :: before, after)

/-- A text is split at the first character that satisfies `p`. -/
theorem splitFirst?_eq_some_iff {p : Char → Bool} {cs before after : List Char} :
    splitFirst? p cs = some (before, after) ↔
      ∃ c, p c = true ∧ cs = before ++ c :: after ∧ ∀ d ∈ before, p d = false := by
  induction cs generalizing before with
  | nil => simp [splitFirst?]
  | cons d cs ih =>
    by_cases hd : p d = true
    · simp only [splitFirst?, if_pos hd, Option.some.injEq, Prod.mk.injEq]
      constructor
      · rintro ⟨rfl, rfl⟩
        exact ⟨d, hd, rfl, nofun⟩
      · rintro ⟨c, hc, heq, hb⟩
        cases before with
        | nil => cases heq; exact ⟨rfl, rfl⟩
        | cons b before =>
          cases heq
          rw [hb d List.mem_cons_self] at hd
          cases hd
    · have hf : p d = false := by simpa using hd
      rw [splitFirst?, if_neg hd, Option.map_eq_some_iff]
      constructor
      · rintro ⟨⟨b, a⟩, hs, heq⟩
        cases heq
        obtain ⟨c, hc, rfl, hb⟩ := ih.1 hs
        refine ⟨c, hc, rfl, ?_⟩
        intro e he
        rcases List.mem_cons.1 he with rfl | he
        · exact hf
        · exact hb e he
      · rintro ⟨c, hc, heq, hb⟩
        cases before with
        | nil =>
          cases heq
          exact absurd hc hd
        | cons b before =>
          cases heq
          refine ⟨(before, after), ih.2 ⟨c, hc, rfl, ?_⟩, rfl⟩
          exact fun e he => hb e (List.mem_cons_of_mem _ he)

/-- A text without a character that satisfies `p` is not split. -/
theorem splitFirst?_eq_none {p : Char → Bool} {cs : List Char} (h : ∀ c ∈ cs, p c = false) :
    splitFirst? p cs = none := by
  cases hs : splitFirst? p cs with
  | none => rfl
  | some split =>
    obtain ⟨c, hc, rfl, _⟩ := splitFirst?_eq_some_iff.1 hs
    rw [h c (by simp)] at hc
    cases hc

/-- A text is split at a character that does not stand before. -/
theorem splitFirst?_append_cons {c : Char} {before : List Char} (h : c ∉ before)
    (after : List Char) : splitFirst? (· == c) (before ++ c :: after) = some (before, after) :=
  splitFirst?_eq_some_iff.2
    ⟨c, BEq.rfl, rfl, fun _ hd => beq_eq_false_iff_ne.2 (ne_of_mem_of_not_mem hd h)⟩

/-- The text before the first occurrence of `needle`, and the text after it. -/
def splitAt? (needle : List Char) : List Char → Option (List Char × List Char)
  | [] => (stripStart? needle []).map ([], ·)
  | c :: cs =>
    match stripStart? needle (c :: cs) with
    | some rest => some ([], rest)
    | none => (splitAt? needle cs).map fun (before, after) => (c :: before, after)

theorem eq_append_of_splitAt? {needle cs before after : List Char}
    (h : splitAt? needle cs = some (before, after)) : cs = before ++ (needle ++ after) := by
  induction cs generalizing before with
  | nil =>
    simp only [splitAt?, Option.map_eq_some_iff] at h
    obtain ⟨rest, hr, heq⟩ := h
    cases heq
    simpa using stripStart?_eq_some_iff.1 hr
  | cons c cs ih =>
    rw [splitAt?] at h
    split at h
    · next rest hr =>
      cases h
      simpa using stripStart?_eq_some_iff.1 hr
    · simp only [Option.map_eq_some_iff, Prod.mk.injEq] at h
      obtain ⟨⟨b, a⟩, hb, rfl, rfl⟩ := h
      simp [← ih hb]

/-- There is no first occurrence only of what does not occur. -/
theorem splitAt?_eq_none_iff {needle cs : List Char} :
    splitAt? needle cs = none ↔ ¬needle <:+: cs := by
  induction cs with
  | nil =>
    rw [splitAt?, Option.map_eq_none_iff, stripStart?_eq_none_iff, List.prefix_nil,
      List.infix_nil]
  | cons c cs ih =>
    rw [splitAt?, List.infix_cons_iff, not_or, ← ih, ← stripStart?_eq_none_iff]
    cases stripStart? needle (c :: cs) with
    | none => simp
    | some rest => simp

/-- Before its first occurrence a text does not occur. -/
theorem not_isInfix_of_splitAt? {needle cs before after : List Char} (hn : needle ≠ [])
    (h : splitAt? needle cs = some (before, after)) : ¬needle <:+: before := by
  induction cs generalizing before with
  | nil =>
    rw [splitAt?, Option.map_eq_some_iff] at h
    obtain ⟨rest, _, heq⟩ := h
    cases heq
    rwa [List.infix_nil]
  | cons c cs ih =>
    rw [splitAt?] at h
    split at h
    · cases h
      rwa [List.infix_nil]
    · next none =>
      obtain ⟨⟨front, back⟩, found, heq⟩ := Option.map_eq_some_iff.1 h
      cases heq
      rw [List.infix_cons_iff, not_or]
      refine ⟨fun start => stripStart?_eq_none_iff.1 none ?_, ih found⟩
      rw [eq_append_of_splitAt? found]
      exact start.trans (List.prefix_append (c :: front) _)

/-- Whether `needle` occurs in a text. -/
def contains (needle cs : List Char) : Bool := (splitAt? needle cs).isSome

/-- The text with each occurrence of `needle` replaced, from left to right. An empty needle occurs
nowhere. -/
def replaceAll (needle replacement cs : List Char) : List Char :=
  match _h : splitAt? needle cs with
  | none => cs
  | some (before, after) =>
    if _hn : needle = [] then cs
    else before ++ (replacement ++ replaceAll needle replacement after)
termination_by cs.length
decreasing_by
  have := eq_append_of_splitAt? _h
  have hpos := List.length_pos_iff.2 _hn
  simp only [this, List.length_append]
  omega

/-- Nothing is replaced in a text where `needle` does not occur. -/
theorem replaceAll_eq_self {needle cs : List Char} (h : ¬needle <:+: cs)
    (replacement : List Char) : replaceAll needle replacement cs = cs := by
  have none := splitAt?_eq_none_iff.2 h
  rw [replaceAll]
  split
  · rfl
  · next found => cases none.symm.trans found

end MicroTemplate.Text
