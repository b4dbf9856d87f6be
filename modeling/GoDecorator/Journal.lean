import GoDecorator.Failure

/-!
# Computations that keep a journal

Some computations report what they do. Such a computation is a value with two parts: the records it
makes, in order, and its outcome. The records made before a failure are kept. The outcome of a
sequence of computations does not depend on the records: `outcome_bind` says that taking the outcome
respects sequencing.
-/

namespace GoDecorator

/-- The levels of records. -/
inductive Level where
  | debug
  | info
  | warn
deriving DecidableEq, Repr

/-- The name of a level. -/
def Level.text : Level → String
  | debug => "DEBUG"
  | info => "INFO"
  | warn => "WARN"

/-- A record of a journal. -/
structure Record where
  /-- How much it matters. -/
  level : Level
  /-- What it says. -/
  message : String
deriving DecidableEq, Repr

/-- A computation that keeps a journal and can fail. -/
@[ext]
structure Traced (α : Type) where
  /-- The records in order. -/
  journal : List Record
  /-- What the computation comes to. -/
  outcome : Outcome α

namespace Traced

variable {α β : Type}

/-- An outcome with an empty journal. -/
def ofOutcome (o : Outcome α) : Traced α := ⟨[], o⟩

/-- Goes on with the answer of a computation, if it has one. -/
def andThen (x : Traced α) (f : α → Traced β) : Traced β :=
  match x.outcome with
  | .ok a => ⟨x.journal ++ (f a).journal, (f a).outcome⟩
  | .error e => ⟨x.journal, .error e⟩

instance : Monad Traced where
  pure a := ofOutcome (.ok a)
  bind := andThen

instance : MonadLift (Except Failure) Traced := ⟨ofOutcome⟩

/-- Makes records. -/
def report (records : List Record) : Traced Unit := ⟨records, .ok ()⟩

/-- Makes one record. -/
def log (level : Level) (message : String) : Traced Unit := report [⟨level, message⟩]

/-- Fails with an error. -/
def fail (e : Error) : Traced α := ofOutcome (.error (.error e))

/-- Fails because the pattern does not apply. -/
def reject (r : Rejection) : Traced α := fail (.rejected r)

/-- The answer of a check, or a rejection. -/
def ofCheck : Except Rejection α → Traced α
  | .ok a => pure a
  | .error r => reject r

@[simp] theorem outcome_pure (a : α) : (pure a : Traced α).outcome = .ok a := rfl

@[simp] theorem journal_pure (a : α) : (pure a : Traced α).journal = [] := rfl

@[simp] theorem outcome_ofOutcome (o : Outcome α) : (ofOutcome o).outcome = o := rfl

/-- The outcome of a sequence is the sequence of the outcomes. -/
@[simp] theorem outcome_bind (x : Traced α) (f : α → Traced β) :
    (x >>= f).outcome = x.outcome >>= fun a ↦ (f a).outcome := by
  change (andThen x f).outcome = _
  unfold andThen
  cases x.outcome <;> rfl

instance : LawfulMonad Traced :=
  LawfulMonad.mk' Traced
    (fun x ↦ by
      obtain ⟨j, o⟩ := x
      cases o <;> simp [Functor.map, andThen, ofOutcome])
    (fun a f ↦ by simp [bind, pure, andThen, ofOutcome])
    (fun x f g ↦ by
      obtain ⟨j, o⟩ := x
      cases o with
      | error e => rfl
      | ok a =>
        simp only [bind, andThen]
        cases (f a).outcome <;> simp)

end Traced

end GoDecorator
