import MicroTemplate.Proofs.Template.Joining
import MicroTemplate.Proofs.Text.Bytes

/-!
# The bracket that closes a directive

The scanner of directives stops behind a body in which quotation marks come in pairs and brackets
are balanced outside of them. So the bracket that it stops at is the matching one, which can be
found by counting in the bytes of the template: up to it the quotation marks come in pairs, as many
brackets open as close outside of them, and up to no place before it have more brackets closed than
opened. The marks that count are bytes of their own, and no other character has them among its
bytes; so the bytes can be counted up to any place, also inside of a character.
-/

namespace MicroTemplate.Template

open Encoding Text

/-! ## Marks outside of quotation marks -/

/-- What is outside of quotation marks in a text with one more character at its end. -/
theorem unquoted_concat (quoted : Bool) (text : List Char) (c : Char) :
    unquoted quoted (text ++ [c]) = unquoted quoted text ++
      if c ≠ '"' ∧ (Even (text.count '"') ↔ quoted = false) then [c] else [] := by
  induction text generalizing quoted with
  | nil => cases quoted <;> by_cases hq : c = '"' <;> simp [unquoted, hq]
  | cons d text ih =>
    rw [List.cons_append, unquoted, unquoted]
    by_cases hd : d = '"'
    · subst hd
      rw [if_pos rfl, if_pos rfl, ih]
      simp only [List.count_cons_self, Nat.even_add_one]
      cases quoted <;> simp
    · rw [if_neg hd, if_neg hd]
      simp only [List.count_cons_of_ne hd, ih]
      cases quoted <;> simp

theorem isPrefix_unquoted {front text : List Char} (h : front <+: text) :
    unquoted false front <+: unquoted false text := by
  obtain ⟨back, rfl⟩ := h
  induction back using List.reverseRecOn with
  | nil => rw [List.append_nil]
  | append_singleton back c ih =>
    rw [← List.append_assoc, unquoted_concat]
    exact ih.trans (List.prefix_append _ _)

/-- What is first outside of quotation marks in a text is so in the beginning of the text. -/
theorem exists_of_isPrefix_unquoted {front text : List Char} (h : front <+: unquoted false text) :
    ∃ before, before <+: text ∧ unquoted false before = front := by
  induction text using List.reverseRecOn with
  | nil => exact ⟨[], List.nil_prefix, (List.prefix_nil.1 h).symm⟩
  | append_singleton text c ih =>
    by_cases whole : front = unquoted false (text ++ [c])
    · exact ⟨text ++ [c], List.prefix_rfl, whole.symm⟩
    · have shorter : front <+: unquoted false text := by
        rw [unquoted_concat] at h whole
        by_cases kept : c ≠ '"' ∧ (Even (text.count '"') ↔ false = false)
        · rw [if_pos kept] at h whole
          exact (List.prefix_concat_iff.1 h).resolve_left whole
        · rwa [if_neg kept, List.append_nil] at h
      obtain ⟨before, hb, same⟩ := ih shorter
      exact ⟨before, hb.trans (List.prefix_append _ _), same⟩

/-- How often a byte is outside of quotation marks: with an even number of them before it. -/
def unquotedCount (b : UInt8) (bytes : List UInt8) : ℕ :=
  {k ∈ Finset.range bytes.length |
    bytes[k]? = some b ∧ Even ((bytes.take k).count '"'.toUInt8)}.card

theorem unquotedCount_concat (b : UInt8) (bytes : List UInt8) (last : UInt8) :
    unquotedCount b (bytes ++ [last]) = unquotedCount b bytes +
      if last = b ∧ Even (bytes.count '"'.toUInt8) then 1 else 0 := by
  rw [unquotedCount, unquotedCount, Finset.card_filter, Finset.card_filter, List.length_append,
    List.length_singleton, Finset.sum_range_succ]
  congr 1
  · refine Finset.sum_congr rfl fun k hk => ?_
    have within := Finset.mem_range.1 hk
    rw [List.getElem?_append_left within, List.take_append_of_le_length within.le]
  · simp only [List.getElem?_concat_length, List.take_left, Option.some_inj]

/-- Bytes at the end that are others do not count. -/
theorem unquotedCount_append {b : UInt8} {more : List UInt8} (h : b ∉ more) (bytes : List UInt8) :
    unquotedCount b (bytes ++ more) = unquotedCount b bytes := by
  induction more using List.reverseRecOn with
  | nil => rw [List.append_nil]
  | append_singleton more last ih =>
    simp only [List.mem_append, List.mem_singleton, not_or] at h
    rw [← List.append_assoc, unquotedCount_concat, ih h.1, if_neg fun same => h.2 same.1.symm,
      Nat.add_zero]

/-- In the bytes of a text a character counts as often as in what is outside of quotation marks. -/
theorem unquotedCount_bytes {mark : Char} (hm : mark.toNat < 128) (hq : mark ≠ '"')
    (text : List Char) :
    unquotedCount mark.toUInt8 (bytes text) = (unquoted false text).count mark := by
  induction text using List.reverseRecOn with
  | nil => rfl
  | append_singleton text c ih =>
    rw [bytes_append, unquoted_concat, List.count_append, ← ih]
    by_cases same : c = mark
    · subst same
      have single : bytes [c] = [c.toUInt8] := by
        rw [bytes_cons, utf8EncodeChar_of_lt hm]
        rfl
      rw [single, unquotedCount_concat, count_bytes (by decide)]
      by_cases outside : Even (text.count '"')
      · simp [outside, hq]
      · simp [outside]
    · have none : mark.toUInt8 ∉ bytes [c] := by
        rw [bytes_cons, bytes_nil, List.append_nil]
        exact mt (mem_utf8EncodeChar_iff hm).1 same
      rw [unquotedCount_append none]
      split <;> simp [same]

/-- The first bytes of a text have the marks of the beginning of the text, whether or not the cut
is inside of a character. -/
theorem exists_unquotedCount_take (text : List Char) (n : ℕ) :
    ∃ front, front <+: text ∧ ∀ mark : Char, mark.toNat < 128 → mark ≠ '"' →
      unquotedCount mark.toUInt8 ((bytes text).take n) = (unquoted false front).count mark := by
  obtain ⟨front, torn, hf, cut, large⟩ := exists_take_bytes text n
  refine ⟨front, hf, fun mark hm hq => ?_⟩
  have none : mark.toUInt8 ∉ torn := by
    intro mem
    have least := large _ mem
    rw [toNat_toUInt8 hm] at least
    omega
  rw [cut, unquotedCount_append none, unquotedCount_bytes hm hq]

/-- A body is enclosed if its bytes are. -/
theorem enclosed_iff_bytes (body : List Char) :
    Enclosed body ↔ Even ((bytes body).count '"'.toUInt8) ∧
      unquotedCount '['.toUInt8 (bytes body) = unquotedCount ']'.toUInt8 (bytes body) ∧
      ∀ n < byteLength body, unquotedCount ']'.toUInt8 ((bytes body).take n) ≤
        unquotedCount '['.toUInt8 ((bytes body).take n) := by
  rw [count_bytes (by decide), unquotedCount_bytes (by decide) (by decide),
    unquotedCount_bytes (by decide) (by decide)]
  constructor
  · intro h
    refine ⟨h.pairs, h.balanced.symm, fun n _ => ?_⟩
    obtain ⟨front, hf, counts⟩ := exists_unquotedCount_take body n
    rw [counts ']' (by decide) (by decide), counts '[' (by decide) (by decide)]
    exact h.opened _ (isPrefix_unquoted hf)
  · rintro ⟨pairs, balanced, opened⟩
    refine ⟨pairs, balanced.symm, fun front hf => ?_⟩
    obtain ⟨before, ⟨after, rfl⟩, rfl⟩ := exists_of_isPrefix_unquoted hf
    cases after with
    | nil =>
      rw [List.append_nil] at balanced
      exact balanced.ge
    | cons c after =>
      have shorter : byteLength before < byteLength (before ++ c :: after) := by
        have size := c.utf8Size_pos
        rw [byteLength_append, byteLength_cons]
        omega
      have most := opened _ shorter
      rwa [bytes_append, ← length_bytes, List.take_left,
        unquotedCount_bytes (by decide) (by decide),
        unquotedCount_bytes (by decide) (by decide)] at most

/-! ## The matching bracket -/

/-- Whether what begins at the byte `start` is closed by the byte `stop`. -/
structure ClosedAt (bytes : List UInt8) (start stop : ℕ) : Prop where
  /-- The end does not come before the beginning. -/
  ordered : start ≤ stop
  /-- It is a closing bracket. -/
  bracket : bytes[stop]? = some ']'.toUInt8
  /-- The quotation marks in between come in pairs. -/
  pairs : Even ((bytes.extract start stop).count '"'.toUInt8)
  /-- As many brackets open in between as close. -/
  balanced : unquotedCount '['.toUInt8 (bytes.extract start stop) =
    unquotedCount ']'.toUInt8 (bytes.extract start stop)
  /-- Up to any place in between, no more brackets close than open. -/
  opened : ∀ place, start ≤ place → place < stop →
    unquotedCount ']'.toUInt8 (bytes.extract start place) ≤
      unquotedCount '['.toUInt8 (bytes.extract start place)

/-- The first bytes of a body that stands in a text. -/
theorem extract_bytes (before body after : List Char) {n : ℕ} (h : n ≤ byteLength body) :
    (bytes (before ++ (body ++ after))).extract (byteLength before) (byteLength before + n) =
      (bytes body).take n := by
  rw [← length_bytes] at h
  rw [List.extract_eq_take_drop, bytes_append, bytes_append, ← length_bytes, List.drop_left,
    Nat.add_sub_cancel_left, List.take_append_of_le_length h]

/-- The matching bracket is that behind an enclosed body. -/
theorem closedAt_iff (before rest : List Char) (stop : ℕ) :
    ClosedAt (bytes (before ++ rest)) (byteLength before) stop ↔
      ∃ body after, rest = body ++ ']' :: after ∧ Enclosed body ∧
        stop = byteLength before + byteLength body := by
  have whole (body after : List Char) :
      (bytes (before ++ (body ++ after))).extract (byteLength before)
        (byteLength before + byteLength body) = bytes body := by
    rw [extract_bytes before body after le_rfl, ← length_bytes, List.take_length]
  constructor
  · intro h
    obtain ⟨n, rfl⟩ := Nat.exists_eq_add_of_le h.ordered
    have bracket := h.bracket
    rw [bytes_append, ← length_bytes, List.getElem?_append_right (Nat.le_add_right _ _),
      Nat.add_sub_cancel_left] at bracket
    obtain ⟨body, after, rfl, rfl⟩ := exists_of_getElem?_bytes (by decide) bracket
    have pairs := h.pairs
    have balanced := h.balanced
    rw [whole] at pairs balanced
    refine ⟨body, after, rfl, (enclosed_iff_bytes body).2 ⟨pairs, balanced, fun n hn => ?_⟩, rfl⟩
    have opened := h.opened (byteLength before + n) (Nat.le_add_right _ _) (by omega)
    rwa [extract_bytes before body _ hn.le] at opened
  · rintro ⟨body, after, rfl, enclosed, rfl⟩
    obtain ⟨pairs, balanced, opened⟩ := (enclosed_iff_bytes body).1 enclosed
    refine ⟨Nat.le_add_right _ _, ?_, ?_, ?_, fun place hs hp => ?_⟩
    · rw [bytes_append, bytes_append, ← length_bytes, ← length_bytes,
        List.getElem?_append_right (Nat.le_add_right _ _), Nat.add_sub_cancel_left,
        List.getElem?_append_right le_rfl, Nat.sub_self]
      rfl
    · rwa [whole]
    · rwa [whole]
    · obtain ⟨n, rfl⟩ := Nat.exists_eq_add_of_le hs
      rw [extract_bytes before body _ (by omega)]
      exact opened n (by omega)

/-- The scanner gives the offset of the matching bracket. -/
theorem closingOffset?_eq_some_iff (before rest : List Char) (stop : ℕ) :
    closingOffset? (byteLength before) rest = some stop ↔
      ClosedAt (bytes (before ++ rest)) (byteLength before) stop := by
  rw [closedAt_iff, closingOffset?, Option.map_eq_some_iff]
  constructor
  · rintro ⟨⟨body, after⟩, cut, rfl⟩
    obtain ⟨same, closes⟩ := splitBody?_eq_some_iff.1 cut
    exact ⟨body, after, same, closesAll_zero_iff.1 closes, rfl⟩
  · rintro ⟨body, after, same, enclosed, rfl⟩
    have cut := splitBody?_eq_some_iff.2 ⟨same, closesAll_zero_iff.2 enclosed⟩
    exact ⟨(body, after), cut, rfl⟩

/-- With more text behind it, the closing bracket is the same. -/
theorem closingOffset?_append {start stop : ℕ} {rest : List Char}
    (h : closingOffset? start rest = some stop) (more : List Char) :
    closingOffset? start (rest ++ more) = some stop := by
  obtain ⟨⟨body, after⟩, cut, rfl⟩ := Option.map_eq_some_iff.1 h
  rw [closingOffset?, splitBody?_append cut more]
  rfl

/-- A template is cut behind the matching bracket of a directive; without one, the directive goes on
to the end. -/
theorem segmentsFrom_marker (offset : ℕ) (pending rest : List Char) :
    (closingOffset? (offset + 2) rest = none →
      segmentsFrom offset pending ('@' :: '[' :: rest) =
        literalBefore pending.reverse [.unterminated offset]) ∧
    ∀ stop, closingOffset? (offset + 2) rest = some stop →
      ∃ body after, rest = body ++ ']' :: after ∧
        segmentsFrom offset pending ('@' :: '[' :: rest) = literalBefore pending.reverse
          (.directive body offset (stop + 1) :: segmentsFrom (stop + 1) [] after) := by
  constructor
  · intro h
    exact segmentsFrom_unterminated offset pending (Option.map_eq_none_iff.1 h)
  · intro stop h
    obtain ⟨⟨body, after⟩, cut, rfl⟩ := Option.map_eq_some_iff.1 h
    exact ⟨body, after, eq_append_of_splitBody? cut, segmentsFrom_directive offset pending cut⟩

/-- What begins at any character of a text is closed at most at one byte. A directive that begins
there ends at that byte, and is not closed if there is none. What is appended to the text does not
change where it ends. -/
theorem closing_bracket_matches (before rest : String) :
    (∀ stop, closingOffset? before.utf8ByteSize rest.toList = some stop ↔
      ClosedAt (utf8Bytes (before ++ rest)) before.utf8ByteSize stop) ∧
    (∀ stop other, ClosedAt (utf8Bytes (before ++ rest)) before.utf8ByteSize stop →
      ClosedAt (utf8Bytes (before ++ rest)) before.utf8ByteSize other → other = stop) ∧
    (closingOffset? before.utf8ByteSize rest.toList = none ↔
      ∀ stop, ¬ClosedAt (utf8Bytes (before ++ rest)) before.utf8ByteSize stop) ∧
    ∀ stop, closingOffset? before.utf8ByteSize rest.toList = some stop →
      ∀ more : String, closingOffset? before.utf8ByteSize (rest ++ more).toList = some stop := by
  have found (stop : ℕ) : closingOffset? before.utf8ByteSize rest.toList = some stop ↔
      ClosedAt (utf8Bytes (before ++ rest)) before.utf8ByteSize stop := by
    rw [utf8Bytes_eq, String.toList_append, ← byteLength_toList]
    exact closingOffset?_eq_some_iff _ _ stop
  refine ⟨found, fun stop other h h' => ?_, ?_, fun stop h more => ?_⟩
  · have first := (found stop).2 h
    have second := (found other).2 h'
    exact Option.some_inj.1 (second.symm.trans first)
  · rw [Option.eq_none_iff_forall_ne_some]
    exact forall_congr' fun stop => not_congr (found stop)
  · rw [String.toList_append]
    exact closingOffset?_append h more.toList

/-- Behind a marker: inner brackets, a bracket between quotation marks, and one bracket too many. -/
theorem closing_bracket_matches_inside :
    (closingOffset? "é@[".utf8ByteSize "[é\"]\"]]]".toList = some 11 ∧
      ClosedAt (utf8Bytes ("é@[" ++ "[é\"]\"]]]")) "é@[".utf8ByteSize 11 ∧
      ¬ClosedAt (utf8Bytes ("é@[" ++ "[é\"]\"]]]")) "é@[".utf8ByteSize 12 ∧
      closingOffset? "é@[".utf8ByteSize ("[é\"]\"]]]" ++ "[").toList = some 11) ∧
    (closingOffset? "é@[".utf8ByteSize "[\"]".toList = none ∧
      ∀ stop, ¬ClosedAt (utf8Bytes ("é@[" ++ "[\"]")) "é@[".utf8ByteSize stop) := by
  have found : closingOffset? "é@[".utf8ByteSize "[é\"]\"]]]".toList = some 11 := by cbv
  have missing : closingOffset? "é@[".utf8ByteSize "[\"]".toList = none := by cbv
  obtain ⟨matching, unique, _, append⟩ := closing_bracket_matches "é@[" "[é\"]\"]]]"
  have closed := (matching 11).1 found
  have twelfth : ¬ClosedAt (utf8Bytes ("é@[" ++ "[é\"]\"]]]")) "é@[".utf8ByteSize 12 :=
    fun h => absurd (unique 11 12 closed h) (by decide)
  exact ⟨⟨found, closed, twelfth, append 11 found "["⟩, missing,
    (closing_bracket_matches "é@[" "[\"]").2.2.1.1 missing⟩

end MicroTemplate.Template
