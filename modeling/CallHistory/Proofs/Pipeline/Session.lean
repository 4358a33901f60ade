import CallHistory.Proofs.Pipeline.Trace

/-! # Sessions

A session is a run of a pipeline told as a conversation: each request with the answer to it and the
pipeline after it. The workers take turns in any way wherever they run. A session is the same as a
run by `Reaches`, read from its beginning.
-/

namespace CallHistory

variable {σ : Type} {store : Store σ}

structure Exchange (σ : Type) where
  request : Request
  answer : Answer
  after : Pipeline σ

namespace Pipeline

inductive Session (store : Store σ) : Pipeline σ → List (Exchange σ) → Pipeline σ → Prop
  | done (p) : Session store p [] p
  | next {p request q exchanges r} (hanswers : Answers store p request q)
    (hrest : Session store q exchanges r) :
    Session store p (⟨request, (p.step store request).answer, q⟩ :: exchanges) r

theorem Session.append {p q r : Pipeline σ} {before after : List (Exchange σ)}
    (hbefore : Session store p before q) (hafter : Session store q after r) :
    Session store p (before ++ after) r := by
  induction hbefore with
  | done p => exact hafter
  | next hanswers hrest ih => exact .next hanswers (ih hafter)

theorem Reaches.exists_session {p q : Pipeline σ} {requests : List Request} {trace : List Mark}
    (h : Reaches store p requests trace q) :
    ∃ exchanges, exchanges.map Exchange.request = requests ∧ Session store p exchanges q := by
  induction h with
  | start => exact ⟨[], rfl, .done _⟩
  | @next requests trace q request r hreaches hanswers ih =>
    obtain ⟨exchanges, rfl, hsession⟩ := ih
    refine ⟨exchanges ++ [⟨request, (q.step store request).answer, r⟩], ?_, ?_⟩
    · rw [List.map_append]
      rfl
    · exact hsession.append (.next hanswers (.done r))

def traceOf : Pipeline σ → List (Exchange σ) → List Mark
  | _, [] => []
  | p, x :: rest => (p.mark? x.request).toList ++ traceOf x.after rest

/-- Whatever is told by a session is a run, with the trace of the session. -/
theorem Session.reaches {p q : Pipeline σ} {exchanges : List (Exchange σ)}
    (h : Session store p exchanges q) :
    Reaches store p (exchanges.map Exchange.request) (traceOf p exchanges) q := by
  have hfrom (before : List Request) (trace : List Mark) (origin : Pipeline σ)
      (hbefore : Reaches store origin before trace p) :
      Reaches store origin (before ++ exchanges.map Exchange.request)
        (trace ++ traceOf p exchanges) q := by
    induction h generalizing before trace with
    | done p =>
      rw [List.map_nil, List.append_nil, traceOf, List.append_nil]
      exact hbefore
    | next hanswers hrest ih =>
      have hafter := ih _ _ (hbefore.next hanswers)
      rw [List.append_assoc, List.append_assoc] at hafter
      exact hafter
  exact hfrom [] [] p .start

def exchanges (store : Store σ) : List Request → Pipeline σ → List (Exchange σ)
  | [], _ => []
  | request :: rest, p =>
    let first := p.step store request
    ⟨request, first.answer, first.state⟩ :: exchanges store rest first.state

theorem session_run (store : Store σ) (requests : List Request) {p : Pipeline σ}
    (hworkers : 0 < p.writer.workers) :
    Session store p (exchanges store requests p) (run store requests p).state := by
  induction requests generalizing p with
  | nil => exact .done p
  | cons request rest ih =>
    have hanswers := answers_step store p request hworkers
    exact .next hanswers (ih (by rw [hanswers.frame.2]; exact hworkers))

end Pipeline
end CallHistory
