import CallHistory.Writer.Queue

/-! # The pool of workers

The workers of a writer share one queue. A worker takes the front batch, writes its records one at a
time, and counts the outcomes once the batch is done. Whose turn it is is up to a schedule; a worker
that has nothing to do lets its turn pass. `Turn` lists all that a turn can be.
-/

namespace CallHistory

inductive Worker where
  | idle
  /-- With the rest of a batch, and the outcomes of what has been written of it. -/
  | busy (rest : List Record) (outcomes : List Outcome)
  deriving DecidableEq

namespace Worker

def rest : Worker → List Record
  | idle => []
  | busy rest _ => rest

/-- What a worker has written and not yet counted. -/
def outcomes : Worker → List Outcome
  | idle => []
  | busy _ outcomes => outcomes

@[simp] theorem rest_idle : idle.rest = [] := rfl

@[simp] theorem rest_busy (rest : List Record) (outcomes : List Outcome) :
    (busy rest outcomes).rest = rest := rfl

@[simp] theorem outcomes_idle : idle.outcomes = [] := rfl

@[simp] theorem outcomes_busy (rest : List Record) (outcomes : List Outcome) :
    (busy rest outcomes).outcomes = outcomes := rfl

end Worker

/-- Workers that share a queue, the counts and a store. -/
structure Pool (σ : Type) where
  queue : List (List Record)
  workers : List Worker
  stats : WriterStats
  store : σ

namespace Pool

variable {σ : Type}

def start (n : Nat) (queue : List (List Record)) (stats : WriterStats) (s : σ) : Pool σ :=
  ⟨queue, List.replicate n .idle, stats, s⟩

def turn (store : Store σ) (i : Nat) (p : Pool σ) : Pool σ :=
  match p.workers[i]?, p.queue with
  | none, _ | some .idle, [] => p
  | some .idle, batch :: queue =>
    { p with queue, workers := p.workers.set i (.busy batch []) }
  | some (.busy (r :: rest) outcomes), _ =>
    let written := store.write r p.store
    { p with
      workers := p.workers.set i (.busy rest (outcomes ++ [written.answer]))
      store := written.state }
  | some (.busy [] outcomes), _ =>
    { p with workers := p.workers.set i .idle, stats := Writer.settle p.stats outcomes }

def run (store : Store σ) (schedule : List Nat) (p : Pool σ) : Pool σ :=
  schedule.foldl (fun p i => p.turn store i) p

/-- Nothing is queued and every worker is idle. -/
def IsQuiet (p : Pool σ) : Prop :=
  p.queue = [] ∧ ∀ w ∈ p.workers, w = .idle

instance (p : Pool σ) : Decidable p.IsQuiet :=
  inferInstanceAs (Decidable (p.queue = [] ∧ ∀ w ∈ p.workers, w = .idle))

/-- A pool of `n` workers in front of a queue comes to rest as `done`, under some schedule. -/
def Finishes (store : Store σ) (n : Nat) (queue : List (List Record)) (stats : WriterStats) (s : σ)
    (done : Pool σ) : Prop :=
  ∃ schedule, (start n queue stats s).run store schedule = done ∧ done.IsQuiet

inductive Turn (store : Store σ) : Pool σ → Pool σ → Prop
  | pass (p) : Turn store p p
  | take (batch queue before after stats s) :
    Turn store ⟨batch :: queue, before ++ .idle :: after, stats, s⟩
      ⟨queue, before ++ .busy batch [] :: after, stats, s⟩
  | write (queue before r rest outcomes after stats s) :
    Turn store ⟨queue, before ++ .busy (r :: rest) outcomes :: after, stats, s⟩
      ⟨queue, before ++ .busy rest (outcomes ++ [(store.write r s).answer]) :: after, stats,
        (store.write r s).state⟩
  | settle (queue before outcomes after stats s) :
    Turn store ⟨queue, before ++ .busy [] outcomes :: after, stats, s⟩
      ⟨queue, before ++ .idle :: after, Writer.settle stats outcomes, s⟩

/-- The list around a place, whatever stands there. -/
private theorem exists_around {α : Type} {l : List α} {i : Nat} {a : α} (h : l[i]? = some a) :
    ∃ before after, l = before ++ a :: after ∧ ∀ b, l.set i b = before ++ b :: after := by
  obtain ⟨hlt, hget⟩ := List.getElem?_eq_some_iff.mp h
  have hset (b : α) : l.set i b = l.take i ++ b :: l.drop (i + 1) := by
    rw [List.set_eq_take_append_cons_drop, if_pos hlt]
  refine ⟨l.take i, l.drop (i + 1), ?_, hset⟩
  rw [← hset a, ← hget]
  exact (List.set_getElem_self hlt).symm

theorem turn_spec (store : Store σ) (i : Nat) (p : Pool σ) : Turn store p (p.turn store i) := by
  rcases p with ⟨queue, workers, stats, s⟩
  unfold turn
  cases hw : workers[i]? with
  | none => exact .pass _
  | some w =>
    obtain ⟨before, after, hsplit, hset⟩ := exists_around hw
    cases w with
    | idle =>
      cases queue with
      | nil => exact .pass _
      | cons batch queue =>
        simp only [hset]
        rw [hsplit]
        exact .take batch queue before after stats s
    | busy rest outcomes =>
      cases rest with
      | nil =>
        simp only [hset]
        rw [hsplit]
        exact .settle queue before outcomes after stats s
      | cons r rest =>
        simp only [hset]
        rw [hsplit]
        exact .write queue before r rest outcomes after stats s

theorem run_induction (store : Store σ) {P : Pool σ → Prop}
    (hturn : ∀ {p q}, Turn store p q → P p → P q) (schedule : List Nat) {p : Pool σ} (h : P p) :
    P (p.run store schedule) := by
  induction schedule generalizing p with
  | nil => exact h
  | cons i rest ih => exact ih (hturn (turn_spec store i p) h)

theorem Finishes.induction {store : Store σ} {P : Pool σ → Prop} {n : Nat}
    {queue : List (List Record)} {stats : WriterStats} {s : σ} {done : Pool σ}
    (h : Finishes store n queue stats s done) (hturn : ∀ {p q}, Turn store p q → P p → P q)
    (hstart : P (start n queue stats s)) : P done := by
  rcases h with ⟨schedule, rfl, -⟩
  exact run_induction store hturn schedule hstart

theorem Finishes.isQuiet {store : Store σ} {n : Nat} {queue : List (List Record)}
    {stats : WriterStats} {s : σ} {done : Pool σ} (h : Finishes store n queue stats s done) :
    done.IsQuiet := by
  rcases h with ⟨schedule, -, hquiet⟩
  exact hquiet

end Pool
end CallHistory
