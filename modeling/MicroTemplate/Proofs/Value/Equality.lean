import MicroTemplate.Environment
import MicroTemplate.Proofs.Number.FloatOrder

/-!
# Equality of values

Lists are equal member by member, and maps as finite functions: whatever the order of their entries,
they have equal values under the same names. Equality is symmetric and transitive for values nested
to any depth, and it does not see the order of entries in any map inside a value. It is reflexive
but for undefined floating-point numbers: a value equals itself exactly if every such number inside
it does. The data of a map is a list, and all this is said of maps in which each name occurs once,
as in everything that is bound name by name.
-/

namespace MicroTemplate

/-! ## Names with values -/

section Lookup

variable {β : Type}

/-- What is found under a name is one of the entries. -/
theorem mem_of_lookup {name : String} {b : β} {es : List (String × β)}
    (h : es.lookup name = some b) : (name, b) ∈ es := by
  obtain ⟨front, back, rfl, _⟩ := List.lookup_eq_some_iff.1 h
  simp

/-- Where each name occurs once, every entry is found under its name. -/
theorem lookup_of_mem {es : List (String × β)} (hn : (es.map Prod.fst).Nodup) {e : String × β}
    (h : e ∈ es) : es.lookup e.1 = some e.2 := by
  obtain ⟨front, back, rfl⟩ := List.append_of_mem h
  refine List.lookup_eq_some_iff.2 ⟨front, back, rfl, fun p hp => ?_⟩
  rw [List.map_append, List.nodup_append] at hn
  have apart := hn.2.2 p.1 (List.mem_map_of_mem hp) e.1 (by simp)
  simpa using Ne.symm apart

end Lookup

namespace Value

open Number

variable {α : Type}

/-! ## What is inside a value -/

/-- The members of a list and the values in the entries of a map are its parts. -/
inductive Part : Value α → Value α → Prop where
  /-- A member of a list. -/
  | item {v : Value α} {items : List (Value α)} (h : v ∈ items) : Part v (.list items)
  /-- The value of an entry. -/
  | entry {e : String × Value α} {entries : List (String × Value α)} (h : e ∈ entries) :
    Part e.2 (.map entries)

/-- What can be reached in a value by going from values to parts, itself included. -/
def Inside : Value α → Value α → Prop := Relation.ReflTransGen Part

/-- Whether in every map inside a value each name occurs once. -/
def Distinct (v : Value α) : Prop :=
  ∀ entries, Inside (.map entries) v → (entries.map Prod.fst).Nodup

/-- A part is smaller than the whole. -/
theorem Part.sizeOf_lt {v w : Value α} (h : Part v w) : sizeOf v < sizeOf w := by
  cases h with
  | item h =>
    have := List.sizeOf_lt_of_mem h
    simp only [list.sizeOf_spec]
    omega
  | @entry e entries h =>
    obtain ⟨name, v⟩ := e
    have := List.sizeOf_lt_of_mem h
    simp only [map.sizeOf_spec, Prod.mk.sizeOf_spec] at this ⊢
    omega

/-- What holds of a value whenever it holds of its parts holds of every value. -/
theorem part_induction {P : Value α → Prop} (step : ∀ v, (∀ w, Part w v → P w) → P v)
    (v : Value α) : P v :=
  (Subrelation.wf Part.sizeOf_lt (measure sizeOf).wf).induction v step

theorem inside_self (v : Value α) : Inside v v := .refl

theorem Inside.part {u v w : Value α} (h : Inside u v) (hp : Part v w) : Inside u w := h.tail hp

/-- What is inside a value is the value itself or inside a part of it. -/
theorem inside_iff {u w : Value α} : Inside u w ↔ w = u ∨ ∃ v, Inside u v ∧ Part v w :=
  Relation.ReflTransGen.cases_tail_iff Part u w

/-- The parts of a distinct value are distinct. -/
theorem Distinct.part {v w : Value α} (h : w.Distinct) (hp : Part v w) : v.Distinct :=
  fun entries hi => h entries (hi.part hp)

/-- A distinct map has each name once. -/
theorem Distinct.nodup {entries : List (String × Value α)} (h : (Value.map entries).Distinct) :
    (entries.map Prod.fst).Nodup :=
  h entries (inside_self _)

/-- The names of a map are looked at in the map itself and then in its parts. -/
theorem distinct_of_parts {v : Value α}
    (hn : ∀ entries, v = .map entries → (entries.map Prod.fst).Nodup)
    (hp : ∀ w, Part w v → w.Distinct) : v.Distinct := by
  intro entries hi
  rcases inside_iff.1 hi with rfl | ⟨w, inner, part⟩
  · exact hn entries rfl
  · exact hp w part entries inner

/-- A list is distinct if its elements are. -/
theorem distinct_list_iff {items : List (Value α)} :
    (Value.list items).Distinct ↔ ∀ v ∈ items, v.Distinct := by
  constructor
  · exact fun h v hv => h.part (.item hv)
  · refine fun h => distinct_of_parts nofun fun w hp => ?_
    cases hp with
    | item hw => exact h w hw

/-- A map is distinct if it has each name once and the values of its entries are distinct. -/
theorem distinct_map_iff {entries : List (String × Value α)} :
    (Value.map entries).Distinct ↔
      (entries.map Prod.fst).Nodup ∧ ∀ e ∈ entries, e.2.Distinct := by
  constructor
  · exact fun h => ⟨h.nodup, fun e he => h.part (.entry he)⟩
  · rintro ⟨nodup, inner⟩
    refine distinct_of_parts ?_ fun w hp => ?_
    · rintro _ ⟨⟩
      exact nodup
    · cases hp with
      | entry he => exact inner _ he

/-! ## Equality by the kinds of values -/

/-- Whether a value is neither a floating-point number nor made of parts. -/
def isPlain : Value α → Bool
  | float _ | list _ | map _ => false
  | _ => true

/-- The shapes that equality tells apart. -/
theorem shapes (v : Value α) :
    (∃ x, v = .float x) ∨ (∃ items, v = .list items) ∨ (∃ entries, v = .map entries) ∨
      v.isPlain = true := by
  cases v with
  | float x => exact .inl ⟨x, rfl⟩
  | list items => exact .inr (.inl ⟨items, rfl⟩)
  | map entries => exact .inr (.inr (.inl ⟨entries, rfl⟩))
  | _ => exact .inr (.inr (.inr rfl))

/-- Plain values have no parts. -/
theorem not_part_of_isPlain {v w : Value α} (h : w.isPlain = true) : ¬Part v w := by
  intro hp
  cases hp <;> cases h

theorem distinct_of_isPlain {v : Value α} (h : v.isPlain = true) : v.Distinct :=
  distinct_of_parts (fun _ hv => by subst hv; cases h) fun _ hp => absurd hp (not_part_of_isPlain h)

/-- A number has no parts that could have two entries of one name. -/
theorem distinct_float (x : Float) : (Value.float x : Value α).Distinct :=
  distinct_of_parts nofun nofun

variable [HostObject α]

/-- Equality of plain values is that of their data. -/
theorem same_plain_iff {v w : Value α} (h : v.isPlain = true) : v.same w = true ↔ v = w := by
  cases v with
  | float x => cases h
  | list items => cases h
  | map entries => cases h
  | _ => cases w <;> simp [same]

/-- A floating-point number equals only such a number, and goes by their own comparison. -/
theorem same_float_iff {x : Float} {w : Value α} :
    (Value.float x).same w = true ↔ ∃ y, w = .float y ∧ (x == y) = true := by
  cases w <;> simp [same]

/-- Lists are equal element by element. -/
theorem sameItems_iff {vs ws : List (Value α)} :
    sameItems vs ws = true ↔ List.Forall₂ (fun v w => v.same w = true) vs ws := by
  induction vs generalizing ws with
  | nil => cases ws <;> simp [sameItems]
  | cons v vs ih => cases ws <;> simp [sameItems, ih]

/-- Equal lists are as long as each other, with equal members at each place. -/
theorem same_list_iff {vs : List (Value α)} {w : Value α} :
    (Value.list vs).same w = true ↔
      ∃ ws, w = .list ws ∧ vs.length = ws.length ∧
        ∀ i (hv : i < vs.length) (hw : i < ws.length), vs[i].same ws[i] = true := by
  cases w with
  | list ws => simp [same, sameItems_iff, List.forall₂_iff_get]
  | _ => simp [same]

/-- The entries of a map are equal to others if each is found there with an equal value. -/
theorem sameEntries_iff {es fs : List (String × Value α)} :
    sameEntries es fs = true ↔
      ∀ e ∈ es, ∃ w, fs.lookup e.1 = some w ∧ e.2.same w = true := by
  induction es with
  | nil => simp [sameEntries]
  | cons e es ih =>
    obtain ⟨name, v⟩ := e
    rw [sameEntries, Bool.and_eq_true, ih, List.forall_mem_cons]
    cases fs.lookup name <;> simp

/-- Equal maps are of one size, and each entry of the one has its counterpart in the other. -/
theorem same_map_iff {es : List (String × Value α)} {w : Value α} :
    (Value.map es).same w = true ↔
      ∃ fs, w = .map fs ∧ es.length = fs.length ∧
        ∀ e ∈ es, ∃ u, fs.lookup e.1 = some u ∧ e.2.same u = true := by
  cases w with
  | map fs => simp [same, sameEntries_iff]
  | _ => simp [same]

/-! ## Symmetry, transitivity, reflexivity -/

/-- As many different names, and no others: the names of the one map are those of the other. -/
theorem mem_names_of_counterparts {es fs : List (String × Value α)}
    (hes : (es.map Prod.fst).Nodup) (hl : es.length = fs.length)
    (h : ∀ e ∈ es, ∃ u, fs.lookup e.1 = some u ∧ e.2.same u = true) :
    ∀ f ∈ fs, ∃ e ∈ es, e.1 = f.1 := by
  have sub : es.map Prod.fst ⊆ fs.map Prod.fst := by
    intro name hm
    obtain ⟨e, he, rfl⟩ := List.mem_map.1 hm
    obtain ⟨u, hu, _⟩ := h e he
    exact List.mem_map.2 ⟨_, mem_of_lookup hu, rfl⟩
  have perm : (es.map Prod.fst).Perm (fs.map Prod.fst) :=
    (hes.subperm sub).perm_of_length_le (by simp [hl])
  intro f hf
  exact List.mem_map.1 (perm.mem_iff.2 (List.mem_map_of_mem hf))

/-- Of two distinct values that are equal, the second equals the first. -/
theorem same_symm {v w : Value α} (hv : v.Distinct) (hw : w.Distinct) (h : v.same w = true) :
    w.same v = true := by
  induction v using part_induction generalizing w with
  | step v ih =>
    rcases v.shapes with ⟨x, rfl⟩ | ⟨vs, rfl⟩ | ⟨es, rfl⟩ | plain
    · obtain ⟨y, rfl, hxy⟩ := same_float_iff.1 h
      exact same_float_iff.2 ⟨x, rfl, (float_beq_comm y x).trans hxy⟩
    · obtain ⟨ws, rfl, hl, items⟩ := same_list_iff.1 h
      refine same_list_iff.2 ⟨vs, rfl, hl.symm, fun i hi hj => ?_⟩
      have pv : Part vs[i] (.list vs) := .item (List.getElem_mem hj)
      have pw : Part ws[i] (.list ws) := .item (List.getElem_mem hi)
      exact ih _ pv (hv.part pv) (hw.part pw) (items i hj hi)
    · obtain ⟨fs, rfl, hl, entries⟩ := same_map_iff.1 h
      refine same_map_iff.2 ⟨es, rfl, hl.symm, fun f hf => ?_⟩
      obtain ⟨e, he, name⟩ := mem_names_of_counterparts hv.nodup hl entries f hf
      obtain ⟨u, hu, heu⟩ := entries e he
      rw [name, lookup_of_mem hw.nodup hf] at hu
      cases hu
      refine ⟨e.2, name ▸ lookup_of_mem hv.nodup he, ?_⟩
      exact ih _ (.entry he) (hv.part (.entry he)) (hw.part (.entry hf)) heu
    · obtain rfl := (same_plain_iff plain).1 h
      exact h

theorem same_comm {v w : Value α} (hv : v.Distinct) (hw : w.Distinct) : v.same w = w.same v :=
  Bool.eq_iff_iff.2 ⟨same_symm hv hw, same_symm hw hv⟩

/-- Values that equal the same value are equal. -/
theorem same_trans {u v w : Value α} (h : u.same v = true) (h' : v.same w = true) :
    u.same w = true := by
  induction u using part_induction generalizing v w with
  | step u ih =>
    rcases u.shapes with ⟨x, rfl⟩ | ⟨us, rfl⟩ | ⟨es, rfl⟩ | plain
    · obtain ⟨y, rfl, hxy⟩ := same_float_iff.1 h
      obtain ⟨z, rfl, hyz⟩ := same_float_iff.1 h'
      exact same_float_iff.2 ⟨z, rfl, float_beq_trans hxy hyz⟩
    · obtain ⟨vs, rfl, hl, items⟩ := same_list_iff.1 h
      obtain ⟨ws, rfl, hl', items'⟩ := same_list_iff.1 h'
      refine same_list_iff.2 ⟨ws, rfl, hl.trans hl', fun i hi hk => ?_⟩
      have hj : i < vs.length := hl ▸ hi
      exact ih _ (.item (List.getElem_mem hi)) (items i hi hj) (items' i hj hk)
    · obtain ⟨fs, rfl, hl, entries⟩ := same_map_iff.1 h
      obtain ⟨gs, rfl, hl', entries'⟩ := same_map_iff.1 h'
      refine same_map_iff.2 ⟨gs, rfl, hl.trans hl', fun e he => ?_⟩
      obtain ⟨v, hv, hev⟩ := entries e he
      obtain ⟨w, hw, hvw⟩ := entries' _ (mem_of_lookup hv)
      exact ⟨w, hw, ih _ (.entry he) hev hvw⟩
    · obtain rfl := (same_plain_iff plain).1 h
      exact h'

/-- A value made of parts equals itself if its parts do. -/
theorem same_self_iff_of_not_float {v : Value α} (hv : v.Distinct) (hf : ∀ x, v ≠ .float x) :
    v.same v = true ↔ ∀ w, Part w v → w.same w = true := by
  rcases v.shapes with ⟨x, rfl⟩ | ⟨vs, rfl⟩ | ⟨es, rfl⟩ | plain
  · exact absurd rfl (hf x)
  · constructor
    · intro h w hp
      obtain ⟨_, ⟨⟩, _, items⟩ := same_list_iff.1 h
      cases hp with
      | item hw =>
        obtain ⟨i, hi, rfl⟩ := List.getElem_of_mem hw
        exact items i hi hi
    · exact fun h => same_list_iff.2 ⟨vs, rfl, rfl, fun i hi _ => h _ (.item (List.getElem_mem hi))⟩
  · constructor
    · intro h w hp
      obtain ⟨_, ⟨⟩, _, entries⟩ := same_map_iff.1 h
      cases hp with
      | entry he =>
        obtain ⟨u, hu, heu⟩ := entries _ he
        rw [lookup_of_mem hv.nodup he] at hu
        cases hu
        exact heu
    · exact fun h => same_map_iff.2 ⟨es, rfl, rfl, fun e he =>
        ⟨e.2, lookup_of_mem hv.nodup he, h _ (.entry he)⟩⟩
  · have same : v.same v = true := (same_plain_iff plain).2 rfl
    exact iff_of_true same fun w hp => absurd hp (not_part_of_isPlain plain)

/-- A value equals itself exactly if each floating-point number inside it does. -/
theorem same_self_iff {v : Value α} (hv : v.Distinct) :
    v.same v = true ↔ ∀ x : Float, Inside (.float x) v → (x == x) = true := by
  induction v using part_induction with
  | step v ih =>
    by_cases hf : ∃ x, v = .float x
    · obtain ⟨x, rfl⟩ := hf
      rw [same_float_iff]
      constructor
      · rintro ⟨_, ⟨⟩, hx⟩ y hy
        rcases inside_iff.1 hy with hxy | ⟨_, _, ⟨⟩⟩
        cases hxy
        exact hx
      · exact fun h => ⟨x, rfl, h x (inside_self _)⟩
    · rw [same_self_iff_of_not_float hv fun x hx => hf ⟨x, hx⟩]
      constructor
      · intro h x hx
        rcases inside_iff.1 hx with hv | ⟨w, inner, part⟩
        · exact absurd ⟨x, hv⟩ hf
        · exact (ih w part (hv.part part)).1 (h w part) x inner
      · exact fun h w part => (ih w part (hv.part part)).2 fun x hx => h x (hx.part part)

/-! ## The order of entries -/

/-- Two values of which one is the other with the entries of one map inside it in another order. -/
inductive Reordered : Value α → Value α → Prop where
  /-- The map is the value itself. -/
  | entries {es fs : List (String × Value α)} (p : es.Perm fs) : Reordered (.map es) (.map fs)
  /-- The map is inside a member of a list. -/
  | item {v w : Value α} (front back : List (Value α)) (h : Reordered v w) :
    Reordered (.list (front ++ v :: back)) (.list (front ++ w :: back))
  /-- The map is inside the value of an entry. -/
  | entry {v w : Value α} (front back : List (String × Value α)) (name : String)
    (h : Reordered v w) :
    Reordered (.map (front ++ (name, v) :: back)) (.map (front ++ (name, w) :: back))

omit [HostObject α] in
/-- Other orders of entries have each name once, too. -/
theorem Reordered.distinct {v w : Value α} (h : Reordered v w) (hv : v.Distinct) : w.Distinct := by
  induction h with
  | entries p =>
    obtain ⟨nodup, inner⟩ := distinct_map_iff.1 hv
    exact distinct_map_iff.2 ⟨(p.map Prod.fst).nodup nodup, fun e he => inner e (p.mem_iff.2 he)⟩
  | item front back _ ih =>
    simp only [distinct_list_iff, List.forall_mem_append, List.forall_mem_cons] at hv ⊢
    exact ⟨hv.1, ih hv.2.1, hv.2.2⟩
  | entry front back name _ ih =>
    simp only [distinct_map_iff, List.forall_mem_append, List.forall_mem_cons, List.map_append,
      List.map_cons] at hv ⊢
    exact ⟨hv.1, hv.2.1, ih hv.2.2.1, hv.2.2.2⟩

/-- In a list, an element can be exchanged for one that compares alike. -/
theorem sameItems_append_cons {v w : Value α} (h : ∀ u, v.same u = w.same u)
    (front back us : List (Value α)) :
    sameItems (front ++ v :: back) us = sameItems (front ++ w :: back) us := by
  induction front generalizing us with
  | nil => cases us <;> simp [sameItems, h]
  | cons x front ih => cases us <;> simp [sameItems, ih]

/-- To the left of an equality a value can be replaced by a reordered one. -/
theorem Reordered.same_eq {v w : Value α} (h : Reordered v w) (u : Value α) :
    v.same u = w.same u := by
  induction h generalizing u with
  | entries p =>
    rw [Bool.eq_iff_iff, same_map_iff, same_map_iff]
    simp only [p.length_eq, p.mem_iff]
  | item front back _ ih =>
    cases u with
    | list us => exact sameItems_append_cons ih front back us
    | _ => rfl
  | entry front back name _ ih =>
    rw [Bool.eq_iff_iff, same_map_iff, same_map_iff]
    simp only [List.length_append, List.length_cons, List.forall_mem_append, List.forall_mem_cons,
      ih]

/-- Values that differ in nothing but the order of entries are equal to the same values, from either
side. -/
theorem same_eq_of_reordered {v w : Value α} (hv : v.Distinct)
    (h : Relation.ReflTransGen Reordered v w) (u : Value α) :
    v.same u = w.same u ∧ (u.Distinct → u.same v = u.same w) := by
  have chain : w.Distinct ∧ ∀ u, v.same u = w.same u := by
    induction h with
    | refl => exact ⟨hv, fun _ => rfl⟩
    | tail _ step ih => exact ⟨step.distinct ih.1, fun u => (ih.2 u).trans (step.same_eq u)⟩
  refine ⟨chain.2 u, fun hu => ?_⟩
  rw [same_comm hu hv, chain.2 u, same_comm chain.1 hu]

/-- An object equals nothing but itself. -/
theorem same_object_iff {o : α} {v : Value α} : (Value.object o).same v = true ↔ .object o = v :=
  same_plain_iff rfl

end Value

/-! ## Environments -/

namespace Environment

variable {α : Type}

/-- Whether an environment and every map inside a value of it has each name once. -/
def Distinct (env : Environment α) : Prop := (Value.map env.bindings).Distinct

theorem distinct_empty : (empty : Environment α).Distinct :=
  Value.distinct_map_iff.2 ⟨.nil, nofun⟩

/-- An entry after an insertion is the one that was inserted, or was there before. -/
theorem mem_insert {name : String} {v : Value α} {bs : List (String × Value α)}
    {b : String × Value α} (h : b ∈ Bindings.insert name v bs) : b = (name, v) ∨ b ∈ bs := by
  induction bs with
  | nil => exact .inl (List.mem_singleton.1 h)
  | cons c bs ih =>
    obtain ⟨n, w⟩ := c
    by_cases hn : n = name
    · subst hn
      rw [Bindings.insert, if_pos rfl] at h
      rcases List.mem_cons.1 h with rfl | h
      · exact .inl rfl
      · exact .inr (List.mem_cons_of_mem _ h)
    · rw [Bindings.insert, if_neg hn] at h
      rcases List.mem_cons.1 h with rfl | h
      · exact .inr List.mem_cons_self
      · exact (ih h).imp_right (List.mem_cons_of_mem _)

/-- Binding a name keeps the names apart. -/
theorem Distinct.set {env : Environment α} (h : env.Distinct) (name : String) {v : Value α}
    (hv : v.Distinct) : (env.set name v).Distinct := by
  obtain ⟨nodup, inner⟩ := Value.distinct_map_iff.1 h
  refine Value.distinct_map_iff.2 ⟨Bindings.nodup_insert nodup name v, fun b hb => ?_⟩
  rcases mem_insert hb with rfl | hb
  · exact hv
  · exact inner b hb

/-- What is bound name by name is distinct. -/
theorem distinct_ofList {pairs : List (String × Value α)} (h : ∀ p ∈ pairs, p.2.Distinct) :
    (ofList pairs).Distinct := by
  have bind (pairs : List (String × Value α)) (h : ∀ p ∈ pairs, p.2.Distinct)
      (env : Environment α) (he : env.Distinct) : (env.extend pairs).Distinct := by
    induction pairs generalizing env with
    | nil => exact he
    | cons p pairs ih =>
      rw [List.forall_mem_cons] at h
      exact ih h.2 (env.set p.1 p.2) (he.set p.1 h.1)
  exact bind pairs h empty distinct_empty

/-- Environments are equal as maps are. -/
theorem same_eq_map [HostObject α] (a b : Environment α) :
    a.same b = (Value.map a.bindings).same (.map b.bindings) := by
  rw [same, Value.same]

end Environment

/-- Equality of values is symmetric and transitive, however they are nested; a value equals itself
exactly if every floating-point number inside it does; nobody sees the order of the entries of a map
anywhere inside a value; an object equals only itself; and environments are compared in the same
way, whatever the order of their bindings. -/
theorem equality_of_values {α : Type} [HostObject α] :
    ((∀ v w : Value α, v.Distinct → w.Distinct → (v == w) = (w == v)) ∧
      (∀ u v w : Value α, (u == v) = true → (v == w) = true → (u == w) = true) ∧
      (∀ v : Value α, v.Distinct →
        ((v == v) = true ↔ ∀ x : Float, Value.Inside (.float x) v → (x == x) = true)) ∧
      (∀ v w : Value α, v.Distinct → Relation.ReflTransGen Value.Reordered v w →
        ∀ u, (v == u) = (w == u) ∧ (u.Distinct → (u == v) = (u == w))) ∧
      ∀ (o : α) (v : Value α), (.object o == v) = true ↔ .object o = v) ∧
    (∀ a b : Environment α, a.Distinct → b.Distinct → (a == b) = (b == a)) ∧
      (∀ a b c : Environment α, (a == b) = true → (b == c) = true → (a == c) = true) ∧
      ∀ a b : Environment α, a.Distinct → a.bindings.Perm b.bindings →
        ∀ c, (a == c) = (b == c) ∧ (c.Distinct → (c == a) = (c == b)) := by
  have environment (a b : Environment α) :
      (a == b) = (Value.map a.bindings).same (.map b.bindings) := Environment.same_eq_map a b
  refine ⟨⟨fun v w => Value.same_comm, fun u v w => Value.same_trans,
    fun v => Value.same_self_iff, fun v w => Value.same_eq_of_reordered,
    fun o v => Value.same_object_iff⟩, fun a b ha hb => ?_, fun a b c => ?_, fun a b ha p c => ?_⟩
  · rw [environment, environment]
    exact Value.same_comm ha hb
  · rw [environment, environment, environment]
    exact Value.same_trans
  · rw [environment, environment, environment, environment]
    exact Value.same_eq_of_reordered ha (.single (.entries p)) _

/-- A map with a list that holds a zero; the same map with its entries in the other order, and
with the other zero; and environments that bind it before and after another name. -/
theorem equality_of_values_zeros :
    let u : Value Empty := .map [("a", .list [.float 0.0, .null]), ("b", .null)]
    let v : Value Empty := .map [("b", .null), ("a", .list [.float (-0.0), .null])]
    let w : Value Empty := .map [("b", .null), ("a", .list [.float 0.0, .null])]
    let env : Environment Empty := .ofList [("x", u), ("y", .null)]
    let env' : Environment Empty := .ofList [("y", .null), ("x", u)]
    (v == u) = true ∧ (v == w) = true ∧ (Value.list [u] == Value.list [w]) = true ∧
      (∀ x : Float, Value.Inside (.float x) u → (x == x) = true) ∧ (env == env') = true := by
  intro u v w env env'
  obtain ⟨⟨symm, trans, refl, order, _⟩, _, _, environments⟩ := equality_of_values (α := Empty)
  have null : (Value.null : Value Empty).Distinct := Value.distinct_of_isPlain rfl
  have list (x : Float) : (Value.list [.float x, .null] : Value Empty).Distinct :=
    Value.distinct_list_iff.2 (by simp [Value.distinct_float, null])
  have hu : u.Distinct := Value.distinct_map_iff.2 ⟨by decide, by simp [null, list]⟩
  have hv : v.Distinct := Value.distinct_map_iff.2 ⟨by decide, by simp [null, list]⟩
  have hw : w.Distinct := Value.distinct_map_iff.2 ⟨by decide, by simp [null, list]⟩
  have henv : env.Distinct := Environment.distinct_ofList (by simp [hu, null])
  have huv : (u == v) = true := by decide
  have huw : (u == w) = true := by decide
  have swap : Value.Reordered (.list [u]) (.list [w]) :=
    .item [] [] (.entries (.swap _ _ _))
  have hvu : (v == u) = true := (symm v u hv hu).trans huv
  have itself : (Value.list [w] == Value.list [w]) = true := by decide
  refine ⟨hvu, trans v u w hvu huw, ?_, (refl u hu).1 (by decide), ?_⟩
  · exact (order _ _ (Value.distinct_list_iff.2 (by simp [hu])) (.single swap) _).1.trans itself
  · have same := (environments env env' henv (.swap _ _ _) env').1
    exact same.trans (by decide)

end MicroTemplate
