import MicroTemplate.Proofs.Template.Parts

/-!
# What a block tree means

A template with a block tree can be read as a structured program. It works on a store: the text so
far, the variables and the memory of the hook. Parts come one after the other; a conditional section
shows every second of its parts; a loop asks its condition before every pass; an iteration goes
through the elements that its source had at the beginning. Nothing here goes back in a text or keeps
a stack of blocks, and there is no mark for what is out of sight: what is not shown contributes its
listings and nothing else. A meaning relates a store to the endings that it can lead to, so a loop
without end means nothing.
-/

namespace MicroTemplate.Template

open Expression

variable {α σ : Type}

/-- What a template works on. -/
structure Store (α σ : Type) where
  /-- The text so far. -/
  output : String
  /-- The variables. -/
  env : Environment α
  /-- The memory of the hook. -/
  memory : σ

/-- The store with more text. -/
def Store.shown (s : Store α σ) (text : String) : Store α σ := { s with output := s.output ++ text }

/-- The store with a name bound. -/
def Store.bound (s : Store α σ) (name : String) (value : Value α) : Store α σ :=
  { s with env := s.env.set name value }

theorem Store.shown_empty (s : Store α σ) : s.shown "" = s := by
  rw [Store.shown, String.append_empty]

theorem Store.shown_shown (s : Store α σ) (text more : String) :
    (s.shown text).shown more = s.shown (text ++ more) := by
  simp only [Store.shown, String.append_assoc]

/-- How a part of a template ends. -/
inductive Ending (α σ : Type) where
  /-- It is done. -/
  | done (store : Store α σ)
  /-- It fails. -/
  | failed (error : Error) (store : Store α σ)

/-- What a part of a template means: from a store, the endings it leads to. -/
abbrev Meaning (α σ : Type) := Store α σ → Ending α σ → Prop

namespace Meaning

/-- What has one ending for every store. -/
def does (f : Store α σ → Ending α σ) : Meaning α σ := fun s ending => ending = f s

/-- One thing after another, which a failure leaves out. -/
def andThen (first next : Meaning α σ) : Meaning α σ := fun s ending =>
  (∃ t, first s (.done t) ∧ next t ending) ∨
    ∃ e t, first s (.failed e t) ∧ ending = .failed e t

/-- What depends on an evaluation, which may fail. -/
def choose {β : Type} (test : Store α σ → Except Error β) (branch : β → Meaning α σ) :
    Meaning α σ := fun s ending =>
  match test s with
  | .ok b => branch b s ending
  | .error e => ending = .failed e s

/-- Passes through a body, of which the first is certain: after each of them the condition says
whether there is another. -/
inductive Passes (holds : Store α σ → Except Error Bool) (body : Meaning α σ) : Meaning α σ where
  /-- The condition holds after a pass. -/
  | again {s t ending} (hb : body s (.done t)) (hc : holds t = .ok true)
    (h : Passes holds body t ending) : Passes holds body s ending
  /-- The condition does not hold any more. -/
  | last {s t} (hb : body s (.done t)) (hc : holds t = .ok false) : Passes holds body s (.done t)
  /-- The condition fails. -/
  | conditionFails {s t e} (hb : body s (.done t)) (hc : holds t = .error e) :
    Passes holds body s (.failed e t)
  /-- The body fails. -/
  | bodyFails {s t e} (hb : body s (.failed e t)) : Passes holds body s (.failed e t)

/-- One pass through a body for each element, which is bound to a name before the pass. -/
def each (name : String) (body : Meaning α σ) : List (Value α) → Meaning α σ
  | [] => does .done
  | item :: items => andThen (fun s => body (s.bound name item)) (each name body items)

/-- The passes of an iteration with that name and those elements. Without elements the body is
passed over. -/
def iterate (passing body : Meaning α σ) : String × List (Value α) → Meaning α σ
  | (_, []) => passing
  | (name, items) => each name body items

end Meaning

mutual

/-- The text of parts that are not shown: that of each listing. -/
def Parts.listings (text : String) : Parts → String
  | .nil => ""
  | .literal _ next => next.listings text
  | @Parts.single d _ _ next =>
    if d = .listing then text ++ next.listings text else next.listings text
  | .conditional _ sections _ next => sections.listings text ++ next.listings text
  | .loop _ body _ next => body.listings text ++ next.listings text
  | .iteration _ body _ next => body.listings text ++ next.listings text

/-- The text of a conditional section that is not shown. -/
def Sections.listings (text : String) : Sections → String
  | .last body => body.listings text
  | .more body _ others => body.listings text ++ others.listings text

end

variable [HostObject α]

/-- What parts do that are not shown. -/
def Parts.passing (p : Parts) : Meaning α σ :=
  .does fun s => .done (s.shown (p.listings s.env.list))

variable (engine : Engine α) (hook : Hook α σ)

/-- Whether a condition holds in a store. -/
def holds (c : List Char) (s : Store α σ) : Except Error Bool :=
  evaluateBool (engine.context s.env) c

/-- The name and the elements of an iteration. The source is evaluated before the name. A header
that does not name both has no elements. -/
def snapshot (header : List Char) (s : Store α σ) : Except Error (String × List (Value α)) :=
  match splitHeader? header with
  | none => .ok ("", [])
  | some (target, source) => do
    let value ← evaluate (engine.context s.env) source
    let name ← evaluateName (engine.context s.env) target
    return (name, value.elements?.getD [])

/-- The name and the value of an assignment, if it has an equals sign. The value is evaluated before
the name. -/
def assignment? (a : List Char) (s : Store α σ) : Except Error (Option (String × Value α)) :=
  match Text.splitFirst? (· == '=') a with
  | none => .ok none
  | some (target, e) => do
    let value ← evaluate (engine.context s.env) e
    let name ← evaluateName (engine.context s.env) target
    return some (name, value)

/-- How the hook answers a directive. -/
def answer (body : List Char) (stop : Nat) (s : Store α σ) : Ending α σ :=
  match hook.handle engine (.ofList body) stop s.env s.memory with
  | (.ok text, env, memory) => .done ⟨s.output ++ text, env, memory⟩
  | (.error message, env, memory) =>
    .failed (.hook (.ofList body) message) ⟨s.output, env, memory⟩

/-- What a directive without a block does, of which the body and the offset past it are given. -/
def perform (body : List Char) (stop : Nat) (d : Directive) : Meaning α σ :=
  match d with
  | .output e =>
    .choose (fun s => evaluateText (engine.context s.env) e) fun text =>
      .does fun s => .done (s.shown text)
  | .assign a =>
    .choose (assignment? engine a) fun
      | none => .does .done
      | some (name, value) => .does fun s => .done (s.bound name value)
  | .listing => .does fun s => .done (s.shown s.env.list)
  | .foreign => .does (answer engine hook body stop)
  | _ => .does .done

mutual

/-- What parts mean that are shown. -/
def Parts.meaning : Parts → Meaning α σ
  | .nil => .does .done
  | .literal text next => fun s => next.meaning (s.shown (.ofList text))
  | @Parts.single d mark _ next =>
    (perform engine hook mark.body mark.stop d).andThen next.meaning
  | @Parts.conditional c _ sections _ next =>
    (Meaning.choose (holds engine c) sections.meaning).andThen next.meaning
  | @Parts.loop c _ body _ next =>
    (Meaning.choose (holds engine c) fun
      | true => .Passes (holds engine c) body.meaning
      | false => body.passing).andThen next.meaning
  | @Parts.iteration header _ body _ next =>
    (Meaning.choose (snapshot engine header) (.iterate body.passing body.meaning)).andThen
      next.meaning

/-- What a conditional section means: its parts are shown and passed over by turns. -/
def Sections.meaning : Sections → Bool → Meaning α σ
  | .last body, shown => if shown then body.meaning else body.passing
  | .more body _ others, shown =>
    (if shown then body.meaning else body.passing).andThen (others.meaning !shown)

end

/-- What a render leaves behind whose template ends that way. -/
def Ending.outcome : Ending α σ → Outcome α σ
  | .done s => ⟨.ok s.output, s.env, s.memory, { engine with rendering := false }⟩
  | .failed e s => ⟨.error e, s.env, s.memory, { engine with rendering := false }⟩

end MicroTemplate.Template
