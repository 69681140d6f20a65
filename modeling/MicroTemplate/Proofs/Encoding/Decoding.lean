import MicroTemplate.Member.Property
import MicroTemplate.Proofs.Text.Bytes
import MicroTemplate.Unicode.CodeRanges

/-!
# Encoded texts are decoded

A text in markup and a text in a form are decoded from left to right in one pass, and what comes out
is what was encoded: every character of the one, and every byte of the other, is written as a code
that is recognised at the beginning of any text. So no two texts are encoded alike. An encoded text
has nothing in it that means something else where it is put: markup has no brackets and quotation
marks, and an ampersand only at the beginning of an entity; a form has letters, digits, some marks,
plus signs, and percent signs each with two hexadecimal digits.
-/

namespace MicroTemplate.Encoding

open Text Unicode

/-- What is written code by code is decoded, if each code is recognised whatever follows it. -/
theorem decode_flatMap {β : Type} {code : β → List Char} {decode : List Char → List β}
    (empty : decode [] = []) (one : ∀ b rest, decode (code b ++ rest) = b :: decode rest)
    (bs : List β) : decode (bs.flatMap code) = bs := by
  induction bs with
  | nil => exact empty
  | cons b bs ih => rw [List.flatMap_cons, one, ih]

/-! ## Markup -/

/-- The entities, each with the character that it stands for. -/
def entities : List (String × Char) :=
  [("&lt;", '<'), ("&gt;", '>'), ("&amp;", '&'), ("&quot;", '"'), ("&#39;", '\'')]

/-- The character whose entity a text begins with, and the text behind the entity. -/
def readEntity? (cs : List Char) : Option (Char × List Char) :=
  entities.findSome? fun (name, c) => (stripStart? name.toList cs).map (c, ·)

theorem exists_of_readEntity? {cs rest : List Char} {c : Char}
    (h : readEntity? cs = some (c, rest)) :
    ∃ name, (name, c) ∈ entities ∧ cs = name.toList ++ rest := by
  obtain ⟨⟨name, d⟩, mem, found⟩ := List.exists_of_findSome?_eq_some h
  obtain ⟨behind, strip, same⟩ := Option.map_eq_some_iff.1 found
  cases same
  exact ⟨name, mem, stripStart?_eq_some_iff.1 strip⟩

/-- An entity begins with an ampersand and has no other. -/
theorem exists_of_mem_entities {name : String} {c : Char} (h : (name, c) ∈ entities) :
    ∃ cs, name.toList = '&' :: cs ∧ '&' ∉ cs := by
  have all : ∀ e ∈ entities, e.1.toList.head? = some '&' ∧ '&' ∉ e.1.toList.tail := by decide
  obtain ⟨head, tail⟩ := all (name, c) h
  obtain ⟨cs, same⟩ := List.head?_eq_some_iff.1 head
  rw [same] at tail
  exact ⟨cs, same, tail⟩

/-- A text read from markup, from left to right: an entity stands for its character, and anything
else for itself. -/
def decodeHtml : List Char → List Char
  | [] => []
  | c :: cs =>
    match _h : readEntity? (c :: cs) with
    | some (d, rest) => d :: decodeHtml rest
    | none => c :: decodeHtml cs
termination_by cs => cs.length
decreasing_by
  · obtain ⟨name, mem, same⟩ := exists_of_readEntity? _h
    obtain ⟨tail, begins, _⟩ := exists_of_mem_entities mem
    have longer := congrArg List.length same
    simp only [begins, List.length_append, List.length_cons] at longer ⊢
    omega
  · exact Nat.lt_succ_self _

/-- No two entities begin alike. -/
theorem readEntity?_append {name : String} {c : Char} (h : (name, c) ∈ entities)
    (rest : List Char) : readEntity? (name.toList ++ rest) = some (c, rest) := by
  have all : ∀ e ∈ entities, readEntity? (e.1.toList ++ rest) = some (e.2, rest) := by
    simp only [entities, List.forall_mem_cons]
    exact ⟨rfl, rfl, rfl, rfl, rfl, nofun⟩
  exact all (name, c) h

theorem decodeHtml_entity {name : String} {c : Char} (h : (name, c) ∈ entities)
    (rest : List Char) : decodeHtml (name.toList ++ rest) = c :: decodeHtml rest := by
  obtain ⟨tail, begins, _⟩ := exists_of_mem_entities h
  have read := readEntity?_append h rest
  rw [begins, List.cons_append] at read ⊢
  rw [decodeHtml]
  split
  · next found =>
    rw [read] at found
    cases found
    rfl
  · next missing =>
    rw [read] at missing
    cases missing

theorem decodeHtml_cons {c : Char} (h : c ≠ '&') (rest : List Char) :
    decodeHtml (c :: rest) = c :: decodeHtml rest := by
  rw [decodeHtml]
  split
  · next found =>
    obtain ⟨name, mem, same⟩ := exists_of_readEntity? found
    obtain ⟨tail, begins, _⟩ := exists_of_mem_entities mem
    rw [begins, List.cons_append] at same
    exact absurd (List.head_eq_of_cons_eq same) h
  · rfl

/-- A character is written as its entity if it has one, and as itself if not. -/
theorem htmlChar_cases (c : Char) :
    (∃ name, (name, c) ∈ entities ∧ htmlChar c = name.toList) ∨
      c ∉ entities.map Prod.snd ∧ htmlChar c = [c] := by
  rw [htmlChar, entity?.eq_def]
  split
  · exact .inl ⟨"&lt;", by decide, rfl⟩
  · exact .inl ⟨"&gt;", by decide, rfl⟩
  · exact .inl ⟨"&amp;", by decide, rfl⟩
  · exact .inl ⟨"&quot;", by decide, rfl⟩
  · exact .inl ⟨"&#39;", by decide, rfl⟩
  · next lt gt amp quot apos =>
    refine .inr ⟨?_, rfl⟩
    simp only [entities, List.map_cons, List.map_nil, List.mem_cons, List.not_mem_nil, or_false,
      not_or]
    exact ⟨lt, gt, amp, quot, apos⟩

/-- What is read of a text in markup is the text. -/
theorem decodeHtml_html (cs : List Char) : decodeHtml (html cs) = cs := by
  refine decode_flatMap (by rw [decodeHtml]) (fun c rest => ?_) cs
  rcases htmlChar_cases c with ⟨name, mem, written⟩ | ⟨plain, written⟩
  · rw [written, decodeHtml_entity mem]
  · rw [written, List.singleton_append, decodeHtml_cons]
    rintro rfl
    exact plain (by decide)

/-- There are no brackets and quotation marks in markup. -/
theorem not_mem_html {cs : List Char} {c : Char} (h : c ∈ html cs) :
    c ∉ ['<', '>', '"', '\''] := by
  obtain ⟨d, _, mem⟩ := List.mem_flatMap.1 h
  rcases htmlChar_cases d with ⟨name, entity, written⟩ | ⟨plain, written⟩
  · have all : ∀ e ∈ entities, ∀ c ∈ e.1.toList, c ∉ ['<', '>', '"', '\''] := by
      simp [entities]
    rw [written] at mem
    exact all (name, d) entity c mem
  · rw [written, List.mem_singleton] at mem
    subst mem
    have special : ∀ c ∈ ['<', '>', '"', '\''], c ∈ entities.map Prod.snd := by
      simp [entities]
    exact mt (special c) plain

/-- Every ampersand in markup begins an entity. -/
theorem exists_entity_of_html {cs front rest : List Char} (h : html cs = front ++ '&' :: rest) :
    ∃ name ∈ entities.map Prod.fst, name.toList <+: '&' :: rest := by
  induction cs generalizing front with
  | nil => simp [html] at h
  | cons c cs ih =>
    have split : htmlChar c ++ html cs = front ++ '&' :: rest := h
    rcases List.append_eq_append_iff.1 split with ⟨later, _, same⟩ | ⟨within, code, same⟩
    · exact ih same
    · -- The ampersand begins the code of the character, unless the code ends in front of it.
      cases within with
      | nil =>
        have begins : html cs = [] ++ '&' :: rest := same.symm
        exact ih begins
      | cons d within =>
        obtain ⟨rfl, behind⟩ := List.cons_eq_cons.1 same
        rcases htmlChar_cases c with ⟨name, entity, written⟩ | ⟨plain, written⟩
        · obtain ⟨tail, begins, single⟩ := exists_of_mem_entities entity
          rw [written, begins] at code
          cases front with
          | nil =>
            refine ⟨name, List.mem_map_of_mem entity, html cs, ?_⟩
            rw [begins, code, behind]
            rfl
          | cons f front =>
            refine absurd ?_ single
            rw [(List.cons_eq_cons.1 code).2]
            simp
        · rw [written] at code
          refine absurd ?_ plain
          have mem : '&' ∈ [c] := code ▸ by simp
          rw [← List.mem_singleton.1 mem]
          decide

/-! ## Forms -/

/-- The characters that stand for themselves in a form. -/
def isUnreserved (c : Char) : Bool := c.isAlphanum || "-_.!*()".toList.contains c

/-- The texts of forms. -/
inductive IsForm : List Char → Prop where
  /-- Nothing. -/
  | nil : IsForm []
  /-- A character that stands for itself. -/
  | plain {c cs} (hc : isUnreserved c = true) (h : IsForm cs) : IsForm (c :: cs)
  /-- A plus sign. -/
  | plus {cs} (h : IsForm cs) : IsForm ('+' :: cs)
  /-- A percent sign with two hexadecimal digits in lower case. -/
  | percent {x y cs} (hx : x ∈ "0123456789abcdef".toList) (hy : y ∈ "0123456789abcdef".toList)
    (h : IsForm cs) : IsForm ('%' :: x :: y :: cs)

/-- The bytes that a form stands for: a plus sign for a space, a percent sign with two hexadecimal
digits for the byte of that number, and any other character for itself. -/
def decodeForm : List Char → List UInt8
  | [] => []
  | '+' :: cs => 32 :: decodeForm cs
  | '%' :: x :: y :: cs =>
    match hexDigit? x, hexDigit? y with
    | some high, some low => .ofNat (16 * high + low) :: decodeForm cs
    | _, _ => String.utf8EncodeChar '%' ++ decodeForm (x :: y :: cs)
  | c :: cs => String.utf8EncodeChar c ++ decodeForm cs

theorem hexDigit?_hexDigit {d : ℕ} (h : d < 16) : hexDigit? (hexDigit d) = some d := by
  have all : ∀ d < 16, hexDigit? (hexDigit d) = some d := by decide
  exact all d h

theorem hexDigit_mem {d : ℕ} (h : d < 16) : hexDigit d ∈ "0123456789abcdef".toList := by
  have all : ∀ d < 16, hexDigit d ∈ "0123456789abcdef".toList := by decide
  exact all d h

/-- A byte is written as the character that it is, if that stands for itself, and otherwise as a
plus sign or as a percent sign with its two digits. -/
theorem formByte_cases (b : UInt8) :
    (b.toNat < 128 ∧ isUnreserved (.ofNat b.toNat) = true ∧ formByte b = [.ofNat b.toNat]) ∨
      (b = 32 ∧ formByte b = ['+']) ∨
        formByte b = ['%', hexDigit (b.toNat / 16), hexDigit (b.toNat % 16)] := by
  rw [formByte]
  split
  · next plain =>
    simp only [isPlain, Bool.and_eq_true, decide_eq_true_eq] at plain
    refine .inl ⟨UInt8.lt_iff_toNat_lt.1 plain.1, ?_, rfl⟩
    have mark := plain.2
    simp only [Bool.or_eq_true, beq_iff_eq, or_assoc] at mark
    simpa [isUnreserved] using mark
  · split
    · next space => exact .inr (.inl ⟨space, rfl⟩)
    · exact .inr (.inr rfl)

/-- What is written for bytes is the text of a form. -/
theorem isForm_flatMap (bytes : List UInt8) : IsForm (bytes.flatMap formByte) := by
  induction bytes with
  | nil => exact .nil
  | cons b bytes ih =>
    have small := b.toNat_lt
    rw [List.flatMap_cons]
    rcases formByte_cases b with ⟨_, unreserved, written⟩ | ⟨_, written⟩ | written
    · rw [written]
      exact .plain unreserved ih
    · rw [written]
      exact .plus ih
    · rw [written]
      exact .percent (hexDigit_mem (by omega)) (hexDigit_mem (by omega)) ih

/-- A character below 128 is one byte. -/
theorem utf8EncodeChar_ofNat {b : UInt8} (h : b.toNat < 128) :
    String.utf8EncodeChar (.ofNat b.toNat) = [b] := by
  have code : (Char.ofNat b.toNat).toNat = b.toNat := by
    rw [Char.toNat_ofNat, if_pos (.inl (by omega))]
  have small : (Char.ofNat b.toNat).toNat < 128 := by omega
  have byte : (Char.ofNat b.toNat).toUInt8 = b :=
    UInt8.toNat_inj.1 ((toNat_toUInt8 small).trans code)
  rw [utf8EncodeChar_of_lt small, byte]

theorem decodeForm_unreserved {c : Char} (h : isUnreserved c = true) (cs : List Char) :
    decodeForm (c :: cs) = String.utf8EncodeChar c ++ decodeForm cs := by
  have plus : c ≠ '+' := by
    rintro rfl
    exact absurd h (by decide)
  have percent : c ≠ '%' := by
    rintro rfl
    exact absurd h (by decide)
  rw [decodeForm]
  · exact plus
  · exact fun _ _ _ same => absurd same percent

/-- The bytes that are read of a form are those that were written. -/
theorem decodeForm_flatMap (bytes : List UInt8) : decodeForm (bytes.flatMap formByte) = bytes := by
  refine decode_flatMap (by rw [decodeForm]) (fun b rest => ?_) bytes
  have small := b.toNat_lt
  rcases formByte_cases b with ⟨ascii, unreserved, written⟩ | ⟨rfl, written⟩ | written
  · rw [written, List.singleton_append, decodeForm_unreserved unreserved,
      utf8EncodeChar_ofNat ascii]
    rfl
  · rw [written]
    rfl
  · have number : 16 * (b.toNat / 16) + b.toNat % 16 = b.toNat := Nat.div_add_mod _ _
    simp only [written, List.cons_append, List.nil_append, decodeForm]
    rw [hexDigit?_hexDigit (by omega), hexDigit?_hexDigit (by omega)]
    dsimp only
    rw [number, UInt8.ofNat_toNat]

/-- Texts with the same bytes are the same. -/
theorem utf8Bytes_injective {s t : String} (h : utf8Bytes s = utf8Bytes t) : s = t := by
  rw [utf8Bytes, utf8Bytes, toList_eq, toList_eq] at h
  exact String.toByteArray_inj.1 (ByteArray.ext (Array.toList_inj.1 h))

end MicroTemplate.Encoding

namespace MicroTemplate.Value

open Encoding

variable {α : Type} [HostObject α] (types : Option (TypeRegistry α))

/-- The encoding as markup is safe and lossless. There are no brackets and no quotation marks in it,
every ampersand begins an entity, and reading each entity as its character, from left to right in
one pass, gives the text. So different texts are encoded differently, and texts one after the other
as they are encoded by themselves. -/
theorem html_safe_and_lossless (s : String) :
    ∃ e : String, (Value.text s : Value α).property types "HtmlEncoded" = .text e ∧
      (∀ c ∈ e.toList, c ∉ ['<', '>', '"', '\'']) ∧
      (∀ front rest, e.toList = front ++ '&' :: rest →
        ∃ name ∈ entities.map Prod.fst, name.toList <+: '&' :: rest) ∧
      decodeHtml e.toList = s.toList ∧
      (∀ t, (Value.text t : Value α).property types "HtmlEncoded" = .text e → t = s) ∧
      ∀ t f, (Value.text t : Value α).property types "HtmlEncoded" = .text f →
        (Value.text (s ++ t) : Value α).property types "HtmlEncoded" = .text (e ++ f) := by
  refine ⟨.ofList (html s.toList), rfl, ?_, ?_, ?_, ?_, ?_⟩
  · rw [String.toList_ofList]
    exact fun c mem => not_mem_html mem
  · rw [String.toList_ofList]
    exact fun front rest split => exists_entity_of_html split
  · rw [String.toList_ofList, decodeHtml_html]
  · intro t same
    have texts : html t.toList = html s.toList := String.ofList_injective (Value.text.inj same)
    have decoded := congrArg decodeHtml texts
    rw [decodeHtml_html, decodeHtml_html] at decoded
    exact String.toList_inj.1 decoded
  · intro t f written
    cases written
    rw [← String.ofList_append, ← html_append, ← String.toList_append]
    rfl

/-- A text that holds an entity and an ampersand already. -/
theorem html_safe_and_lossless_twice :
    (Value.text "&lt;&" : Value Empty).property none "HtmlEncoded" = .text "&amp;lt;&amp;" ∧
      (∃ name ∈ entities.map Prod.fst, name.toList <+: '&' :: "amp;".toList) ∧
      decodeHtml "&amp;lt;&amp;".toList = "&lt;&".toList ∧
      (Value.text "<&" : Value Empty).property none "HtmlEncoded" ≠ .text "&amp;lt;&amp;" ∧
      (Value.text ("&lt;&" ++ ">") : Value Empty).property none "HtmlEncoded" =
        .text ("&amp;lt;&amp;" ++ "&gt;") := by
  have written : (Value.text "&lt;&" : Value Empty).property none "HtmlEncoded" =
      .text "&amp;lt;&amp;" := by cbv
  have more : (Value.text ">" : Value Empty).property none "HtmlEncoded" = .text "&gt;" := by cbv
  obtain ⟨e, given, _, ampersands, decoded, injective, append⟩ :=
    html_safe_and_lossless (α := Empty) none "&lt;&"
  obtain rfl : "&amp;lt;&amp;" = e := Value.text.inj (written.symm.trans given)
  exact ⟨written, ampersands "&amp;lt;".toList "amp;".toList rfl, decoded,
    fun same => absurd (injective _ same) (by decide), append _ _ more⟩

/-- The encoding for forms is safe and lossless. It consists of letters, digits and some marks, plus
signs, and percent signs each with two hexadecimal digits in lower case; and reading it, a plus sign
as a space and a percent sign with its digits as the byte of that number, gives the bytes of the
text. So different texts are encoded differently. -/
theorem form_safe_and_lossless (s : String) :
    ∃ e : String, (Value.text s : Value α).property types "UrlEncoded" = .text e ∧
      IsForm e.toList ∧
      decodeForm e.toList = s.toUTF8.toList ∧
      ∀ t, (Value.text t : Value α).property types "UrlEncoded" = .text e → t = s := by
  refine ⟨.ofList (form s), rfl, ?_, ?_, ?_⟩
  · rw [String.toList_ofList]
    exact isForm_flatMap _
  · rw [String.toList_ofList]
    exact decodeForm_flatMap _
  · intro t same
    have texts : form t = form s := String.ofList_injective (Value.text.inj same)
    have decoded := congrArg decodeForm texts
    rw [form, form, decodeForm_flatMap, decodeForm_flatMap] at decoded
    exact utf8Bytes_injective decoded

/-- A text with a plus sign, a space, a percent sign, a line end and a character of two bytes. -/
theorem form_safe_and_lossless_bytes :
    (Value.text "1+1 %\né" : Value Empty).property none "UrlEncoded" =
        .text "1%2b1+%25%0a%c3%a9" ∧
      IsForm "1%2b1+%25%0a%c3%a9".toList ∧
      decodeForm "1%2b1+%25%0a%c3%a9".toList = "1+1 %\né".toUTF8.toList ∧
      (Value.text "1 1+%\né" : Value Empty).property none "UrlEncoded" ≠
        .text "1%2b1+%25%0a%c3%a9" := by
  have written : (Value.text "1+1 %\né" : Value Empty).property none "UrlEncoded" =
      .text "1%2b1+%25%0a%c3%a9" := by cbv
  obtain ⟨e, given, isForm, decoded, injective⟩ :=
    form_safe_and_lossless (α := Empty) none "1+1 %\né"
  obtain rfl : "1%2b1+%25%0a%c3%a9" = e := Value.text.inj (written.symm.trans given)
  exact ⟨written, isForm, decoded, fun same => absurd (injective _ same) (by decide)⟩

end MicroTemplate.Value
