import MicroTemplate.Proofs.Environment.Bindings

/-!
# Environments over their history

An application has any number of environments. It binds and removes names in them, one or many at a
time, and makes one of them a clone of another: to save it, or to go back to what was saved. What an
environment holds is determined by its history alone, which is what was done to it and, before it
was made a clone, to the environment it was made from. A name has the value of its last binding
unless it was removed afterwards, and it stands where it was first bound after its last removal.
-/

namespace MicroTemplate.Environment

variable {α : Type}

/-! ## Histories -/

/-- A change of an environment. -/
inductive Change (α : Type) where
  /-- A name is bound to a value. -/
  | set (name : String) (value : Value α)
  /-- A name is removed, if it is bound. -/
  | unset (name : String)

/-- The name that a change is about. -/
def Change.name : Change α → String
  | set name _ => name
  | unset name => name

/-- Whether a value is the one to which a name was bound last, with no removal afterwards. -/
def LastBound (history : List (Change α)) (name : String) (value : Value α) : Prop :=
  ∃ front back, history = front ++ .set name value :: back ∧ ∀ c ∈ back, c.name ≠ name

/-- Whether a name was bound and not removed afterwards. -/
def Bound (history : List (Change α)) (name : String) : Prop :=
  ∃ value front back, history = front ++ .set name value :: back ∧ .unset name ∉ back

/-- Whether a change is the one since which a name is bound: the first that binds it after its last
removal. -/
def BoundSince (history : List (Change α)) (name : String) (place : Nat) : Prop :=
  ∃ value front back, history = front ++ .set name value :: back ∧ .unset name ∉ back ∧
    ¬Bound front name ∧ place = front.length

/-- Whether a name has been bound for longer than another one. -/
def Before (history : List (Change α)) (name other : String) : Prop :=
  ∃ m n, BoundSince history name m ∧ BoundSince history other n ∧ m < n

/-- The names that are bound, in order. -/
def names (env : Environment α) : List String := env.bindings.map Prod.fst

/-- What an environment is after a history. -/
structure Records (history : List (Change α)) (env : Environment α) : Prop where
  /-- No name is bound twice. -/
  nodup : env.names.Nodup
  /-- The value of a name is the one to which it was bound last. -/
  get?_eq_some_iff : ∀ name value, env.get? name = some value ↔ LastBound history name value
  /-- The names stand in the order in which they were bound. -/
  ordered : env.names.Pairwise (Before history)

/-! ## One more change -/

section Splitting

variable {β : Type} {xs : List β} {x y : β}

/-- A member of a list with one more at its end is that one or was there before. -/
theorem exists_append_singleton_eq {P : List β → List β → Prop} :
    (∃ front back, xs ++ [x] = front ++ y :: back ∧ P front back) ↔
      (x = y ∧ P xs []) ∨ ∃ front back, xs = front ++ y :: back ∧ P front (back ++ [x]) := by
  constructor
  · rintro ⟨front, back, he, h⟩
    rcases List.eq_nil_or_concat back with rfl | ⟨back, z, rfl⟩
    · obtain ⟨rfl, hx⟩ := List.append_inj' he rfl
      cases hx
      exact .inl ⟨rfl, h⟩
    · rw [List.concat_eq_append, ← List.cons_append, ← List.append_assoc] at he
      obtain ⟨rfl, hz⟩ := List.append_inj' he rfl
      cases hz
      exact .inr ⟨front, back, rfl, List.concat_eq_append ▸ h⟩
  · rintro (⟨rfl, h⟩ | ⟨front, back, rfl, h⟩)
    · exact ⟨xs, [], rfl, h⟩
    · exact ⟨front, back ++ [x], by simp, h⟩

end Splitting

variable {history : List (Change α)} {change : Change α} {name : String}

/-- One more change decides about its own name only. -/
theorem lastBound_append_iff {value : Value α} :
    LastBound (history ++ [change]) name value ↔
      change = .set name value ∨ (change.name ≠ name ∧ LastBound history name value) := by
  rw [LastBound, exists_append_singleton_eq]
  simp only [List.not_mem_nil, false_imp_iff, implies_true, and_true, List.forall_mem_append,
    List.forall_mem_singleton, LastBound]
  tauto

/-- A name is bound by a change that binds it, and stays so unless one removes it. -/
theorem bound_append_iff :
    Bound (history ++ [change]) name ↔
      (∃ value, change = .set name value) ∨ (change ≠ .unset name ∧ Bound history name) := by
  simp only [Bound, exists_append_singleton_eq, List.not_mem_nil, not_false_eq_true, and_true,
    List.mem_append, List.mem_singleton, not_or, exists_or]
  refine or_congr_right ⟨?_, ?_⟩
  · rintro ⟨value, front, back, he, kept, ne⟩
    exact ⟨Ne.symm ne, value, front, back, he, kept⟩
  · rintro ⟨ne, value, front, back, he, kept⟩
    exact ⟨value, front, back, he, kept, Ne.symm ne⟩

/-- A name is bound since it was bound without having been so. -/
theorem boundSince_append_iff {place : Nat} :
    BoundSince (history ++ [change]) name place ↔
      ((∃ value, change = .set name value) ∧ ¬Bound history name ∧ place = history.length) ∨
        (change ≠ .unset name ∧ BoundSince history name place) := by
  simp only [BoundSince, exists_append_singleton_eq, List.not_mem_nil, not_false_eq_true,
    true_and, List.mem_append, List.mem_singleton, not_or, exists_or, exists_and_right]
  refine or_congr_right ⟨?_, ?_⟩
  · rintro ⟨value, front, back, he, ⟨kept, ne⟩, fresh⟩
    exact ⟨Ne.symm ne, value, front, back, he, kept, fresh⟩
  · rintro ⟨ne, value, front, back, he, kept, fresh⟩
    exact ⟨value, front, back, he, ⟨kept, Ne.symm ne⟩, fresh⟩

theorem not_lastBound_nil {value : Value α} : ¬LastBound [] name value := by
  rintro ⟨front, back, he, _⟩
  exact absurd he (by simp)

theorem not_bound_nil : ¬Bound ([] : List (Change α)) name := by
  rintro ⟨_, front, back, he, _⟩
  exact absurd he (by simp)

/-- A name is bound if it was bound to some value last. -/
theorem bound_iff : Bound history name ↔ ∃ value, LastBound history name value := by
  induction history using List.reverseRecOn with
  | nil => exact iff_of_false not_bound_nil fun ⟨_, h⟩ => not_lastBound_nil h
  | append_singleton history change ih =>
    simp only [bound_append_iff, lastBound_append_iff, exists_or, exists_and_left, ih]
    cases change with
    | set other value =>
      by_cases h : other = name
      · simp [h, Change.name]
      · simp [h, Change.name]
    | unset other => simp [Change.name]

/-- What is bound since some change is bound. -/
theorem BoundSince.bound {place : Nat} (h : BoundSince history name place) :
    Bound history name := by
  obtain ⟨value, front, back, he, kept, _⟩ := h
  exact ⟨value, front, back, he, kept⟩

/-- A name that is bound is bound since some change. -/
theorem bound_iff_boundSince : Bound history name ↔ ∃ place, BoundSince history name place := by
  induction history using List.reverseRecOn with
  | nil => exact iff_of_false not_bound_nil fun ⟨_, h⟩ => not_bound_nil h.bound
  | append_singleton history change ih =>
    simp only [bound_append_iff, boundSince_append_iff, exists_or, exists_and_left, ← ih,
      exists_eq, and_true]
    by_cases h : Bound history name
    · cases change <;> simp [h]
    · simp [h]

theorem BoundSince.lt_length {place : Nat} (h : BoundSince history name place) :
    place < history.length := by
  obtain ⟨_, front, back, rfl, _, _, rfl⟩ := h
  simp

/-- There is no other change since which a name is bound. -/
theorem BoundSince.unique {m n : Nat} (hm : BoundSince history name m)
    (hn : BoundSince history name n) : m = n := by
  induction history using List.reverseRecOn with
  | nil => exact absurd hm.bound not_bound_nil
  | append_singleton history change ih =>
    rcases boundSince_append_iff.1 hm with ⟨_, fresh, rfl⟩ | ⟨_, hm⟩
    · rcases boundSince_append_iff.1 hn with ⟨_, _, rfl⟩ | ⟨_, hn⟩
      · rfl
      · exact absurd hn.bound fresh
    · rcases boundSince_append_iff.1 hn with ⟨_, fresh, _⟩ | ⟨_, hn⟩
      · exact absurd hm.bound fresh
      · exact ih hm hn

/-- Of two names one was bound before the other, and not the other way round. -/
theorem Before.asymm {other : String} (h : Before history name other) :
    ¬Before history other name := by
  obtain ⟨m, n, hm, hn, lt⟩ := h
  rintro ⟨n', m', hn', hm', lt'⟩
  obtain rfl := hm.unique hm'
  obtain rfl := hn.unique hn'
  omega

/-- Names keep their order when another one is removed, and whenever one is bound. -/
theorem Before.append {other : String} (h : Before history name other)
    (kept : change ≠ .unset name) (kept' : change ≠ .unset other) :
    Before (history ++ [change]) name other := by
  obtain ⟨m, n, hm, hn, lt⟩ := h
  exact ⟨m, n, boundSince_append_iff.2 (.inr ⟨kept, hm⟩),
    boundSince_append_iff.2 (.inr ⟨kept', hn⟩), lt⟩

/-- A name that is bound anew comes after all those that are bound. -/
theorem before_append_set {other : String} {value : Value α} (h : Bound history name)
    (fresh : ¬Bound history other) : Before (history ++ [.set other value]) name other := by
  obtain ⟨place, hp⟩ := bound_iff_boundSince.1 h
  exact ⟨place, history.length, boundSince_append_iff.2 (.inr ⟨nofun, hp⟩),
    boundSince_append_iff.2 (.inl ⟨⟨value, rfl⟩, fresh, rfl⟩), hp.lt_length⟩

/-! ## What a change does to an environment -/

namespace Records

variable {env : Environment α} (h : Records history env)

include h

/-- The names listed are those that are bound. -/
theorem mem_names_iff : name ∈ env.names ↔ Bound history name := by
  rw [names, Bindings.mem_map_fst_iff, bound_iff]
  exact exists_congr (h.get?_eq_some_iff name)

/-- Binding a name keeps record. -/
theorem set (name : String) (value : Value α) :
    Records (history ++ [.set name value]) (env.set name value) := by
  have places : (env.set name value).names =
      if name ∈ env.names then env.names else env.names ++ [name] :=
    Bindings.map_fst_insert name value env.bindings
  have older : env.names.Pairwise (Before (history ++ [.set name value])) :=
    h.ordered.imp fun before => before.append nofun nofun
  refine ⟨?_, fun other w => ?_, ?_⟩
  · rw [places]
    split
    · exact h.nodup
    · next fresh => exact List.concat_eq_append ▸ h.nodup.concat fresh
  · rw [lastBound_append_iff]
    by_cases ho : other = name
    · subst ho
      rw [get?_set_self]
      simp [Change.name]
    · rw [get?_set_of_ne ho, h.get?_eq_some_iff]
      simp [Change.name, Ne.symm ho]
  · rw [places]
    split
    · exact older
    · next fresh =>
      refine List.pairwise_append.2 ⟨older, List.pairwise_singleton _ _, fun other ho n hn => ?_⟩
      obtain rfl := List.mem_singleton.1 hn
      exact before_append_set (h.mem_names_iff.1 ho) fun bound => fresh (h.mem_names_iff.2 bound)

/-- Removing a name keeps record. -/
theorem unset (name : String) :
    Records (history ++ [.unset name]) (env.unset name) := by
  have places : (env.unset name).names = env.names.filter (· ≠ name) :=
    Bindings.map_fst_erase h.nodup
  refine ⟨?_, fun other w => ?_, ?_⟩
  · rw [places]
    exact h.nodup.filter _
  · have value : (env.unset name).get? other = if other = name then none else env.get? other :=
      Bindings.lookup_erase h.nodup other
    rw [value, lastBound_append_iff]
    by_cases ho : other = name
    · simp [ho, Change.name]
    · simp [ho, Ne.symm ho, Change.name, h.get?_eq_some_iff]
  · rw [places]
    refine (h.ordered.filter _).imp_of_mem fun hm hn before => ?_
    have kept {other : String} (ho : other ∈ env.names.filter (· ≠ name)) :
        Change.unset name ≠ (.unset other : Change α) := by
      rintro ⟨⟩
      simp at ho
    exact before.append (kept hm) (kept hn)

/-- Binding names one after the other keeps record. -/
theorem extend (pairs : List (String × Value α)) :
    Records (history ++ pairs.map fun p => .set p.1 p.2) (env.extend pairs) := by
  induction pairs generalizing history env with
  | nil => simpa [Environment.extend, Bindings.insertAll] using h
  | cons p pairs ih =>
    have next := ih (h.set p.1 p.2)
    rw [List.append_assoc, List.singleton_append] at next
    exact next

/-- There is only one environment with that history. -/
theorem unique {other : Environment α} (h' : Records history other) : other = env := by
  have members (b : String × Value α) : b ∈ other.bindings ↔ b ∈ env.bindings := by
    have found {env : Environment α} (hr : Records history env) :
        b ∈ env.bindings ↔ LastBound history b.1 b.2 := by
      rw [← hr.get?_eq_some_iff]
      exact ⟨lookup_of_mem env.nodup, mem_of_lookup⟩
    rw [found h, found h']
  have perm : other.bindings.Perm env.bindings :=
    (List.perm_ext_iff_of_nodup other.nodup.of_map env.nodup.of_map).2 members
  refine Environment.ext (perm.eq_of_pairwise (fun b c _ _ before after => ?_)
    (List.pairwise_map.1 h'.ordered) (List.pairwise_map.1 h.ordered))
  exact absurd after before.asymm

end Records

/-! ## Any number of environments -/

section Operations

variable {ι : Type}

/-- What an application does with its environments; `ι` are the places where it keeps them. -/
inductive Operation (ι α : Type) where
  /-- Binds a name. -/
  | set (place : ι) (name : String) (value : Value α)
  /-- Removes a name. -/
  | unset (place : ι) (name : String)
  /-- Binds names one after the other. -/
  | extend (place : ι) (pairs : List (String × Value α))
  /-- Puts a clone of one environment in the place of another: to save it there, or to restore the
  other one from what was saved. -/
  | clone (source place : ι)

/-- The place of the only environment that an operation changes. -/
def Operation.place : Operation ι α → ι
  | set place _ _ => place
  | unset place _ => place
  | extend place _ => place
  | clone _ place => place

variable [DecidableEq ι]

/-- The environments after an operation. -/
def Operation.perform (envs : ι → Environment α) : Operation ι α → ι → Environment α
  | set place name value => Function.update envs place ((envs place).set name value)
  | unset place name => Function.update envs place ((envs place).remove name).2
  | extend place pairs => Function.update envs place ((envs place).extend pairs)
  | clone source place => Function.update envs place (envs source)

/-- The histories after an operation. -/
def Operation.record (histories : ι → List (Change α)) : Operation ι α → ι → List (Change α)
  | set place name value =>
    Function.update histories place (histories place ++ [.set name value])
  | unset place name => Function.update histories place (histories place ++ [.unset name])
  | extend place pairs =>
    Function.update histories place (histories place ++ pairs.map fun p => .set p.1 p.2)
  | clone source place => Function.update histories place (histories source)

/-- The environments after some operations, if all of them were empty at the beginning. -/
def after (operations : List (Operation ι α)) : ι → Environment α :=
  operations.foldl Operation.perform fun _ => empty

/-- The history of each environment after some operations. -/
def historyOf (operations : List (Operation ι α)) : ι → List (Change α) :=
  operations.foldl Operation.record fun _ => []

/-- An operation leaves all environments but one as they are. -/
theorem Operation.perform_of_ne (operation : Operation ι α) {place : ι}
    (h : operation.place ≠ place) (envs : ι → Environment α) :
    operation.perform envs place = envs place := by
  cases operation <;> exact Function.update_of_ne (Ne.symm h) _ _

/-- What is done elsewhere does not show. -/
theorem after_append_of_ne {later : List (Operation ι α)} {place : ι}
    (h : ∀ operation ∈ later, operation.place ≠ place) (operations : List (Operation ι α)) :
    after (operations ++ later) place = after operations place := by
  induction later using List.reverseRecOn with
  | nil => rw [List.append_nil]
  | append_singleton later operation ih =>
    rw [List.forall_mem_append, List.forall_mem_singleton] at h
    rw [← List.append_assoc, after, List.foldl_concat, operation.perform_of_ne h.2]
    exact ih h.1

/-- Removing a binding tells the value and leaves what unbinding leaves. -/
theorem remove_eq (env : Environment α) (name : String) :
    env.remove name = (env.get? name, env.unset name) := by
  have taken := Bindings.extract_eq name env.bindings
  have value : (env.remove name).1 = env.get? name := congrArg Prod.fst taken
  have rest : (env.remove name).2.bindings = (env.unset name).bindings := congrArg Prod.snd taken
  exact Prod.ext value (Environment.ext rest)

/-- An operation keeps record in every place. -/
theorem Operation.records (operation : Operation ι α) {histories : ι → List (Change α)}
    {envs : ι → Environment α} (h : ∀ place, Records (histories place) (envs place)) (place : ι) :
    Records (operation.record histories place) (operation.perform envs place) := by
  have update (p : ι) {history : List (Change α)} {env : Environment α} (hr : Records history env) :
      Records (Function.update histories p history place) (Function.update envs p env place) := by
    by_cases hp : place = p
    · subst hp
      rwa [Function.update_self, Function.update_self]
    · rw [Function.update_of_ne hp, Function.update_of_ne hp]
      exact h place
  cases operation with
  | set p name value => exact update p ((h p).set name value)
  | unset p name => exact update p (remove_eq (envs p) name ▸ (h p).unset name)
  | extend p pairs => exact update p ((h p).extend pairs)
  | clone source p => exact update p (h source)

/-- After any operations every environment is as its history says. -/
theorem records_after (operations : List (Operation ι α)) (place : ι) :
    Records (historyOf operations place) (after operations place) := by
  induction operations using List.reverseRecOn generalizing place with
  | nil => exact ⟨.nil, fun name value => iff_of_false nofun not_lastBound_nil, .nil⟩
  | append_singleton operations operation ih =>
    rw [historyOf, after, List.foldl_concat, List.foldl_concat]
    exact operation.records ih place

end Operations

/-! ## The dictionary -/

namespace Records

variable {env : Environment α} (h : Records history env)

include h

/-- Whether a name is bound can be asked for. -/
theorem contains_eq_true_iff : env.contains name = true ↔ Bound history name := by
  rw [contains, Option.isSome_iff_exists, bound_iff]
  exact exists_congr (h.get?_eq_some_iff name)

/-- There are as many bindings as names that are bound. -/
theorem size_eq_ncard : env.size = {name | Bound history name}.ncard := by
  have bound : {name | Bound history name} = ↑env.names.toFinset := by
    ext name
    rw [Set.mem_ofPred_eq, Finset.mem_coe, List.mem_toFinset, h.mem_names_iff]
  rw [bound, Set.ncard_coe_finset, List.toFinset_card_of_nodup h.nodup, names, List.length_map]
  rfl

/-- An environment is empty if no name is bound. -/
theorem isEmpty_eq_true_iff : env.isEmpty = true ↔ ∀ name, ¬Bound history name := by
  simp only [← h.mem_names_iff, names, isEmpty, List.isEmpty_iff]
  rw [← List.eq_nil_iff_forall_not_mem, List.map_eq_nil_iff]

end Records

variable [HostObject α]

/-- An environment is an ordered dictionary, whatever was done to it, and nothing but its history
determines it. A name has the value to which it was bound last, if it was not removed afterwards,
and all that can be asked about names agrees with that. Removing a name tells the value that it had.
Binding a name that is bound changes its value in its place, binding another one puts it at the end,
and removing one keeps the others in their order, which is the order in which they are shown. A
clone is equal to what it was made from, and what is done to other environments, such as clones of
this one, does not show in it. -/
theorem ordered_dictionary {ι : Type} [DecidableEq ι] (operations : List (Operation ι α))
    (place : ι) :
    let env := after operations place
    let history := historyOf operations place
    (Records history env ∧ ∀ other, Records history other → other = env) ∧
      ((∀ name, env.contains name = true ↔ Bound history name) ∧
        env.size = {name | Bound history name}.ncard ∧
        (env.isEmpty = true ↔ ∀ name, ¬Bound history name)) ∧
      (∀ name, (env.remove name).1 = env.get? name ∧
        (env.remove name).2.bindings = env.bindings.filter fun b => b.1 ≠ name) ∧
      (∀ name value,
        (Bound history name → (env.set name value).bindings =
          env.bindings.map fun b => if b.1 = name then (name, value) else b) ∧
        (¬Bound history name → (env.set name value).bindings = env.bindings ++ [(name, value)])) ∧
      env.list = ", ".intercalate (env.bindings.map fun b => b.1 ++ ": " ++ b.2.write) ∧
      (∀ other, after (operations ++ [.clone place other]) other = env) ∧
      ∀ later : List (Operation ι α), (∀ operation ∈ later, operation.place ≠ place) →
        after (operations ++ later) place = env := by
  intro env history
  have h : Records history env := records_after operations place
  refine ⟨⟨h, fun other => h.unique⟩,
    ⟨fun name => h.contains_eq_true_iff, h.size_eq_ncard, h.isEmpty_eq_true_iff⟩, fun name => ?_,
    fun name value => ⟨fun bound => ?_, fun fresh => ?_⟩, rfl, fun other => ?_,
    fun later elsewhere => after_append_of_ne elsewhere operations⟩
  · rw [remove_eq]
    exact ⟨rfl, Bindings.erase_eq_filter h.nodup⟩
  · exact Bindings.insert_eq_map h.nodup (h.mem_names_iff.2 bound)
  · exact Bindings.insert_eq_append fun hm => fresh (h.mem_names_iff.1 hm)
  · rw [after, List.foldl_concat]
    exact Function.update_self _ _ _

/-- A name that is bound twice, one that is removed and bound anew, and a clone in which both are
removed. -/
theorem ordered_dictionary_clone :
    let operations : List (Operation Bool Empty) :=
      [.extend true [("a", .int 1), ("b", .int 2), ("c", .int 3)], .set true "a" (.int 4),
        .unset true "b", .set true "b" (.int 5), .clone true false]
    let later : List (Operation Bool Empty) := [.unset false "a", .set false "d" .null]
    (after operations true).list = "a: 4, c: 3, b: 5" ∧
      (∀ operation ∈ later, operation.place ≠ true) ∧
      after (operations ++ later) true = after operations true ∧
      (after (operations ++ later) false).list = "c: 3, b: 5, d: " := by
  intro operations later
  obtain ⟨_, _, _, _, _, _, elsewhere⟩ := ordered_dictionary operations true
  have apart : ∀ operation ∈ later, operation.place ≠ true := by
    simp [later, Operation.place]
  exact ⟨by cbv, apart, elsewhere later apart, by cbv⟩

end MicroTemplate.Environment
