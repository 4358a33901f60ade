import CallHistory.Proofs.Pipeline.Offers

/-! # What callers are told

The log tells its caller that policy kept the record out, or what the writer made of it; of a
transition that ended no call nothing is told. Nobody else is told what became of a batch, except for
who hands one to the writer directly.
-/

namespace CallHistory

variable {σ : Type} {store : Store σ}

namespace Dispatcher

theorem log_answer (d : Dispatcher) (r : Record) (w : Writer) :
    (d.log Writer.submitter r w).answer =
      match d.batch? r with
      | some batch => (Attempt.ofExcept (w.submit batch).answer).map fun _ => .submitted
      | none => .done .suppressed := by
  unfold log batch?
  split <;> rfl

theorem handle_answer (d : Dispatcher) (t : Transition) (w : Writer) :
    (d.handle Writer.submitter t w).answer =
      match recordOf? t with
      | some r => (d.log Writer.submitter r w).answer.map some
      | none => .done none := by
  cases h : recordOf? t with
  | some r => rw [handle_of_recordOf? d _ h]
  | none => rw [handle_of_recordOf?_eq_none d _ h]

end Dispatcher

namespace Pipeline

/-- Whoever hands over a batch is told the answer of the writer, unless the batch goes by way of a
call. -/
theorem answer_of_mark? {p : Pipeline σ} {request : Request} {batch : List Record}
    {answer : Except SubmitError Unit} (h : p.mark? request = some (.sent batch answer)) :
    match (p.step store request).answer with
    | .submitted reply => reply = answer
    | .logged reply => reply = (Attempt.ofExcept answer).map fun _ => .submitted
    | .handled reply => reply = (Attempt.ofExcept answer).map fun _ => some .submitted
    | _ => True := by
  have hlogged {r : Record} (h : ((p.dispatcher.batch? r).map Order.send).map p.writer.mark =
      some (.sent batch answer)) :
      (p.dispatcher.log Writer.submitter r p.writer).answer =
        (Attempt.ofExcept answer).map fun _ => .submitted := by
    rw [Dispatcher.log_answer]
    cases hbatch : p.dispatcher.batch? r with
    | none =>
      rw [hbatch] at h
      cases h
    | some batch' =>
      rw [hbatch] at h
      obtain ⟨-, rfl⟩ := Mark.sent.inj (Option.some.inj h)
      rfl
  cases request with
  | set index target now =>
    cases hcall : p.calls[index]? <;> simp [step, hcall]
  | handle t =>
    change (p.dispatcher.handle Writer.submitter t p.writer).answer = _
    rw [Dispatcher.handle_answer]
    have hbatch : ((p.dispatcher.batchOf? t).map Order.send).map p.writer.mark =
      some (.sent batch answer) := h
    rw [Dispatcher.batchOf?_eq] at hbatch
    cases hrecord : Dispatcher.recordOf? t with
    | none =>
      rw [hrecord] at hbatch
      cases hbatch
    | some r =>
      rw [hrecord] at hbatch
      simp only [hlogged hbatch]
      cases answer <;> rfl
  | log r => exact hlogged h
  | submit batch' =>
    obtain ⟨-, rfl⟩ := Mark.sent.inj (Option.some.inj h)
    rfl
  | _ => trivial

end Pipeline
end CallHistory
