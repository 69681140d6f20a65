import MicroTemplate.Text.CharClass

/-!
# Trimming

Removing white space from the ends of a text.
-/

namespace MicroTemplate.Text

/-- The text without the white space it begins with. -/
def trimStart (cs : List Char) : List Char := cs.dropWhile isSpace

/-- The text without the white space it ends with. -/
def trimEnd (cs : List Char) : List Char := (cs.reverse.dropWhile isSpace).reverse

/-- The text without white space at its ends. -/
def trim (cs : List Char) : List Char := trimEnd (trimStart cs)

/-- Whether there is nothing but white space. -/
def isBlank (cs : List Char) : Bool := cs.all isSpace

theorem isSuffix_trimStart (cs : List Char) : trimStart cs <:+ cs :=
  List.dropWhile_suffix isSpace

theorem isPrefix_trimEnd (cs : List Char) : trimEnd cs <+: cs := by
  have h := List.reverse_prefix.2 (List.dropWhile_suffix (l := cs.reverse) isSpace)
  simpa [trimEnd] using h

/-- What trimming takes off the end is white space. -/
theorem exists_of_trimEnd (cs : List Char) :
    ∃ blanks, cs = trimEnd cs ++ blanks ∧ isBlank blanks = true := by
  refine ⟨(cs.reverse.takeWhile isSpace).reverse, ?_, ?_⟩
  · have split := List.takeWhile_append_dropWhile (p := isSpace) (l := cs.reverse)
    rw [trimEnd, ← List.reverse_append, split, List.reverse_reverse]
  · simp [isBlank, List.all_takeWhile]

/-- Trimming the end goes no further than to what is no white space. -/
theorem trimEnd_append_cons (front : List Char) {c : Char} (hc : isSpace c = false)
    (cs : List Char) : trimEnd (front ++ c :: cs) = front ++ c :: trimEnd cs := by
  have stop : (c :: front.reverse).dropWhile isSpace = c :: front.reverse := by simp [hc]
  have drop : (cs.reverse ++ c :: front.reverse).dropWhile isSpace =
      cs.reverse.dropWhile isSpace ++ c :: front.reverse := by
    rw [List.dropWhile_append, stop]
    split
    · next he => rw [List.isEmpty_iff.1 he, List.nil_append]
    · rfl
  rw [trimEnd, List.reverse_append, List.reverse_cons, List.append_assoc, List.singleton_append,
    drop, trimEnd]
  simp

/-- A text without white space stays as it is. -/
theorem trim_eq_self {cs : List Char} (h : ∀ c ∈ cs, isSpace c = false) : trim cs = cs := by
  have drop (ds : List Char) (hd : ∀ c ∈ ds, isSpace c = false) : ds.dropWhile isSpace = ds := by
    cases ds with
    | nil => rfl
    | cons d ds => simp [hd d]
  have back : ∀ c ∈ cs.reverse, isSpace c = false := fun c hc => h c (List.mem_reverse.1 hc)
  rw [trim, trimStart, drop cs h, trimEnd, drop _ back, List.reverse_reverse]

/-- White space at the end is trimmed with what is before it. -/
theorem trimEnd_append_blank (cs : List Char) {blanks : List Char} (h : isBlank blanks = true) :
    trimEnd (cs ++ blanks) = trimEnd cs := by
  have drop : (blanks.reverse ++ cs.reverse).dropWhile isSpace = cs.reverse.dropWhile isSpace := by
    refine List.dropWhile_append_of_pos ?_
    intro c hc
    exact List.all_eq_true.1 h c (List.mem_reverse.1 hc)
  rw [trimEnd, List.reverse_append, drop, trimEnd]

/-- White space put around a text makes no difference to trimming. -/
theorem trim_blank_around {before after : List Char} (hb : isBlank before = true)
    (ha : isBlank after = true) (cs : List Char) : trim (before ++ cs ++ after) = trim cs := by
  have start : trimStart (before ++ cs ++ after) = trimStart (cs ++ after) := by
    rw [trimStart, List.append_assoc, List.dropWhile_append_of_pos (List.all_eq_true.1 hb),
      trimStart]
  rw [trim, start, trimStart, List.dropWhile_append]
  split
  · next none =>
    have behind : after.dropWhile isSpace = [] := by
      rw [← List.append_nil after, List.dropWhile_append_of_pos (List.all_eq_true.1 ha)]
      rfl
    rw [behind, trim, trimStart, List.isEmpty_iff.1 none]
  · rw [trimEnd_append_blank _ ha]
    rfl

/-- What is left by trimming is a contiguous part of the text. -/
theorem isInfix_trim (cs : List Char) : trim cs <:+: cs :=
  (isPrefix_trimEnd _).isInfix.trans (isSuffix_trimStart cs).isInfix

end MicroTemplate.Text
