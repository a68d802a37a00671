import CauseTrail.Fault.Basic
import CauseTrail.Refusal

/-!
# Asking errors

What is told of an error is asked of it: its debug text, its display text and its cause. A
computation that asks errors keeps the questions beside its result, in the order in which they were
put, and ends with the first question that is not answered. Walks and records get at an answer in no
other way.

## Main definitions

* `Asked`: a question that was put to an error
* `Inquiry`: a result with the questions that were put for it
* `Fault.askDebug`, `Fault.askDisplay`: the questions for the texts

## Main results

* `Inquiry.bind_ok`, `Inquiry.bind_error`: the questions of two steps
* `Inquiry.result_bind`, `Inquiry.result_mapM`: the results are those without the questions
-/

namespace CauseTrail

/-- What can be asked of an error. -/
inductive Question where
  | debug
  | display
  | source
deriving DecidableEq, Repr

/-- A question that was put to an error. -/
structure Asked where
  error : Fault
  question : Question

/-- A result, or why there is none, with the questions that were put for it. -/
structure Inquiry (α : Type) where
  asked : List Asked
  result : Except FaultError α

namespace Inquiry

variable {α β : Type}

/-- What is known without a question. -/
def known (result : Except FaultError α) : Inquiry α := ⟨[], result⟩

/-- A question with the answer to it. -/
def ask (f : Fault) (q : Question) (answer : Except FaultError α) : Inquiry α := ⟨[⟨f, q⟩], answer⟩

/-- An inquiry that a question was put before. -/
def behind (a : Asked) (i : Inquiry α) : Inquiry α := ⟨a :: i.asked, i.result⟩

/-- An inquiry that goes on with the result of another one, if that has one. -/
protected def bind (i : Inquiry α) (next : α → Inquiry β) : Inquiry β :=
  match i.result with
  | .ok a => ⟨i.asked ++ (next a).asked, (next a).result⟩
  | .error x => ⟨i.asked, .error x⟩

instance : Monad Inquiry where
  pure a := known (.ok a)
  bind := Inquiry.bind

theorem bind_ok (asked : List Asked) (a : α) (next : α → Inquiry β) :
    (⟨asked, .ok a⟩ : Inquiry α) >>= next = ⟨asked ++ (next a).asked, (next a).result⟩ := rfl

theorem bind_error (asked : List Asked) (x : FaultError) (next : α → Inquiry β) :
    (⟨asked, .error x⟩ : Inquiry α) >>= next = ⟨asked, .error x⟩ := rfl

instance : LawfulMonad Inquiry := LawfulMonad.mk' Inquiry
  (by
    rintro α ⟨asked, x | a⟩
    · rfl
    · exact (bind_ok asked a pure).trans (congrArg (Inquiry.mk · (.ok a)) (List.append_nil asked)))
  (by
    intro α β a next
    rfl)
  (by
    rintro α β γ ⟨asked, x | a⟩ next last
    · rfl
    · cases h : next a with
      | mk asked' answer =>
        rw [bind_ok, bind_ok, h]
        rcases answer with x | b
        · rfl
        · rw [bind_ok, bind_ok, List.append_assoc])

@[simp] theorem result_known (result : Except FaultError α) : (known result).result = result := rfl

@[simp] theorem result_pure (a : α) : (pure a : Inquiry α).result = .ok a := rfl

@[simp] theorem asked_pure (a : α) : (pure a : Inquiry α).asked = [] := rfl

@[simp] theorem result_ask (f : Fault) (q : Question) (answer : Except FaultError α) :
    (ask f q answer).result = answer := rfl

@[simp] theorem result_behind (a : Asked) (i : Inquiry α) : (behind a i).result = i.result := rfl

@[simp] theorem asked_behind (a : Asked) (i : Inquiry α) : (behind a i).asked = a :: i.asked := rfl

@[simp] theorem result_bind (i : Inquiry α) (next : α → Inquiry β) :
    (i >>= next).result = i.result >>= fun a => (next a).result := by
  rcases i with ⟨asked, x | a⟩ <;> rfl

/-- What comes of asking in a row is what comes of the answers in a row. -/
theorem result_mapM (ask : α → Inquiry β) (as : List α) :
    (as.mapM ask).result = as.mapM fun a => (ask a).result := by
  induction as with
  | nil => rfl
  | cons a as ih => simp only [List.mapM_cons, result_bind, ih, result_pure, Except.pure_eq_ok]

end Inquiry

namespace Fault

/-- A fault asked for its debug text. -/
def askDebug (f : Fault) : Inquiry String := .ask f .debug f.debugText

/-- A fault asked for its display text. -/
def askDisplay (f : Fault) : Inquiry String := .ask f .display f.displayText

end Fault

end CauseTrail
