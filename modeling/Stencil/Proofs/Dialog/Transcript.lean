import Stencil.Proofs.Dialog.Choices

namespace Stencil

/-!
# Transcripts of dialogs

A transcribed asker answers as the asker that it wraps, and keeps a transcript of its dialogs: each question that was
put, with what came of it. Which dialogs a prompt opens, and in which order, can then be read off the state afterwards.

* `Dialog.Question` — what a dialog asks;
* `Dialog.Transcribed` — an asker with the transcript of its dialogs;
* `RenderedPrompt.question`, `RenderedPrompt.reading` — the dialog that a prompt opens, and how its reply is read;
* `Dialog.askRendered_apply`, `Dialog.askRendered_transcribed` — asking a prompt opens this dialog and no other, with a
  transcript or without.
-/

namespace Dialog

/-- What a dialog asks, by the widget that it shows. -/
inductive Question where
  | input (prompt : String) (default : Option String)
  | select (prompt : String) (choices : List String)
  | multiSelect (prompt : String) (choices : List String) (ordered : Bool)
  | confirm (prompt : String) (default : Bool)
  deriving Repr, DecidableEq

/-- Put a question. -/
def Question.ask {α : Type} [Asker α] : Question → Action α Value
  | .input prompt default => Asker.input prompt default
  | .select prompt choices => Asker.select prompt choices
  | .multiSelect prompt choices ordered => Asker.multiSelect prompt choices ordered
  | .confirm prompt default => Asker.confirm prompt default

/-- An asker and its dialogs so far, each with what came of it. -/
structure Transcribed (α : Type) where
  asker : α
  transcript : List (Question × Except Fault Value) := []

variable {α : Type} [Asker α]

namespace Transcribed

/-- Put a question to the wrapped asker, and write down what came of it. -/
def dialog (q : Question) : Action (Transcribed α) Value := fun s =>
  match q.ask s.asker with
  | (reply, asker) => (reply, { asker, transcript := s.transcript ++ [(q, reply)] })

instance : Asker (Transcribed α) where
  input prompt default := dialog (.input prompt default)
  select prompt choices := dialog (.select prompt choices)
  multiSelect prompt choices ordered := dialog (.multiSelect prompt choices ordered)
  confirm prompt default := dialog (.confirm prompt default)
  notify message s := { s with asker := Asker.notify message s.asker }
  remaining s := Asker.remaining s.asker

end Transcribed

theorem Question.ask_transcribed (q : Question) : (q.ask : Action (Transcribed α) Value) = Transcribed.dialog q := by
  cases q <;> rfl

end Dialog

namespace RenderedPrompt

open Dialog

/-- The dialog that a prompt opens. -/
def question (p : RenderedPrompt) : Question :=
  if p.isConfirm then .confirm p.prompt (p.default == some "1")
  else if p.isFreeText then .input p.prompt p.default
  else if p.multiple then .multiSelect p.prompt p.options.captions p.ordered
  else .select p.prompt p.options.captions

/-- The answer that a reply to the dialog stands for. -/
def reading (p : RenderedPrompt) (reply : Value) : Except Fault Value :=
  if p.isConfirm then .ok (.str (if reply.isTrue then "1" else "0"))
  else if p.isFreeText then .ok reply
  else if p.multiple then
    match reply.items? with
    | some chosen =>
      (chosen.mapM (valueOf p.options.values p.options.captions)).map fun values => .list (Value.texts values)
    | none => .error (.foreign .wrongType)
  else (valueOf p.options.values p.options.captions reply).map .str

end RenderedPrompt

namespace Dialog

variable {α : Type}

theorem ofExcept_bind {β γ : Type} (x : Except Fault β) (f : β → Except Fault γ) :
    (Action.ofExcept x >>= fun b => Action.ofExcept (f b) : Action α γ) = Action.ofExcept (x >>= f) := by
  cases x <;> rfl

theorem ofExcept_bind_pure {β γ : Type} (x : Except Fault β) (f : β → γ) :
    (Action.ofExcept x >>= fun b => pure (f b) : Action α γ) = Action.ofExcept (x.map f) := by
  cases x <;> rfl

theorem mapM_ofExcept_eq {β γ : Type} (f : β → Except Fault γ) (bs : List β) :
    (bs.mapM (fun b => Action.ofExcept (f b)) : Action α (List γ)) = Action.ofExcept (bs.mapM f) := by
  induction bs with
  | nil => rfl
  | cons b bs ih =>
    rw [List.mapM_cons, List.mapM_cons, ih, ← ofExcept_bind]
    congr 1
    funext c
    rw [← ofExcept_bind]
    rfl

variable [Asker α] {p : RenderedPrompt}

theorem choose_eq (p : RenderedPrompt) (hc : p.isConfirm = false) (hf : p.isFreeText = false) :
    (choose p p.options.values p.options.captions : Action α Value) =
      p.question.ask >>= fun reply => Action.ofExcept (p.reading reply) := by
  unfold choose RenderedPrompt.question RenderedPrompt.reading
  simp only [hc, hf, Bool.false_eq_true, if_false]
  cases p.multiple with
  | false =>
    simp only [Bool.false_eq_true, if_false, Question.ask]
    congr 1
    funext reply
    exact ofExcept_bind_pure _ _
  | true =>
    simp only [if_true, Question.ask]
    congr 1
    funext reply
    cases reply.items? with
    | none => rfl
    | some chosen =>
      simp only []
      rw [mapM_ofExcept_eq]
      exact ofExcept_bind_pure _ _

/-- A prompt is asked by one dialog, the reply to which is read. -/
theorem askRendered_eq (h : p.options ≠ .flag true) :
    (askRendered p : Action α Value) = p.question.ask >>= fun reply => Action.ofExcept (p.reading reply) := by
  unfold askRendered
  cases hc : p.isConfirm with
  | true =>
    simp only [RenderedPrompt.question, RenderedPrompt.reading, hc, if_true, Question.ask]
    rfl
  | false =>
    cases hf : p.isFreeText with
    | true =>
      simp only [RenderedPrompt.question, RenderedPrompt.reading, hc, hf, if_true, Bool.false_eq_true, if_false,
        Question.ask]
      exact (bind_pure _).symm
    | false =>
      rw [if_neg (by simp), if_neg (by simp), ← choose_eq p hc hf]
      cases ho : p.options with
      | flag b => cases b <;> simp_all [RenderedPrompt.isFreeText]
      | labels | mapping => rfl

theorem askRendered_apply (h : p.options ≠ .flag true) (a : α) :
    askRendered p a = ((p.question.ask a).1 >>= p.reading, (p.question.ask a).2) := by
  rw [askRendered_eq h, Action.bind_apply]
  rcases p.question.ask a with ⟨e | reply, a'⟩ <;> rfl

/-- Asking a prompt adds one dialog to the transcript, and nothing else; the wrapped asker is left as the dialog leaves
it. -/
theorem askRendered_transcribed (h : p.options ≠ .flag true) (s : Transcribed α) :
    askRendered p s =
      ((p.question.ask s.asker).1 >>= p.reading,
        ⟨(p.question.ask s.asker).2, s.transcript ++ [(p.question, (p.question.ask s.asker).1)]⟩) := by
  rw [askRendered_apply h, Question.ask_transcribed]
  rfl

end Dialog

end Stencil
