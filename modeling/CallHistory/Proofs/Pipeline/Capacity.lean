import CallHistory.Proofs.Pipeline.Replies
import CallHistory.Proofs.Writer.Slots

/-! # The bounded queue

As long as nobody stops the writer of a pipeline, its queue never outgrows the capacity that it was
started with, and between two runs of the workers the first batches get in, whoever hands them over.
A batch that is refused is counted as dropped and leaves no other trace.
-/

namespace CallHistory

variable {σ : Type} {store : Store σ}

theorem Pool.Turn.queue_length_le {p q : Pool σ} (h : Turn store p q) :
    q.queue.length ≤ p.queue.length := by
  cases h with
  | pass => exact Nat.le_refl _
  | take batch queue => exact Nat.le_succ queue.length
  | write => exact Nat.le_refl _
  | settle => exact Nat.le_refl _

namespace Pipeline

open Mark

theorem Reaches.running {p q : Pipeline σ} {requests : List Request} {trace : List Mark}
    (h : Reaches store p requests trace q) (hp : p.writer.phase = .running)
    (hshutdown : .shutdown ∉ requests) (hkill : .kill ∉ requests) : q.writer.phase = .running := by
  induction h with
  | start => exact hp
  | @next requests trace q request r hreaches hanswers ih =>
    have hq := ih (fun hmem => hshutdown (List.mem_append_left _ hmem))
      (fun hmem => hkill (List.mem_append_left _ hmem))
    rw [hanswers.frame.1, hq]
    cases request with
    | shutdown => exact absurd (List.mem_append_right _ List.mem_cons_self) hshutdown
    | kill => exact absurd (List.mem_append_right _ List.mem_cons_self) hkill
    | _ => rfl

/-- A writer that has been started and not been stopped has its slots taken in order. -/
theorem Reaches.slots {d : Dispatcher} {workers capacity : Nat} {s : σ}
    {started : Step (Pipeline σ) Unit} (hstart : start? d workers capacity s = some started)
    {p : Pipeline σ} {requests : List Request} {trace : List Mark}
    (h : Reaches store started.state requests trace p) (hrunning : p.writer.phase = .running) :
    p.writer.capacity = max capacity 1 ∧ p.writer.Slots trace := by
  rw [start?_spec hstart] at h
  obtain ⟨hcapacity, hslots⟩ := h.induction
    (P := fun trace x => x.1.capacity = max capacity 1 ∧
      (x.1.phase = .running → x.1.Slots trace))
    (fun hobeys hx => by
      obtain ⟨hsame, hslots⟩ := hobeys.slots hx.2
      exact ⟨hsame.trans hx.1, hslots⟩)
    ⟨rfl, fun _ => Writer.slots_new _ _⟩
  exact ⟨hcapacity, hslots hrunning⟩

theorem Answers.of_sent {p q : Pipeline σ} {request : Request} (h : Answers store p request q)
    {batch : List Record} {answer : Except SubmitError Unit}
    (hmark : p.mark? request = some (.sent batch answer)) :
    answer = (p.writer.submit batch).answer ∧ q.writer = (p.writer.submit batch).state ∧
      q.store = p.store := by
  obtain ⟨order, horder, hmark⟩ := Option.map_eq_some_iff.mp hmark
  rcases h.obeys with ⟨hnone, -⟩ | ⟨order', horder', hobeys⟩
  · rw [horder] at hnone
    cases hnone
  · obtain rfl : order = order' := Option.some.inj (horder.symm.trans horder')
    cases order with
    | send batch' =>
      obtain ⟨rfl, rfl⟩ := Mark.sent.inj hmark
      obtain ⟨hwriter, hstore⟩ := Prod.mk.inj hobeys
      exact ⟨rfl, hwriter, hstore⟩
    | _ => cases hmark

/-- From a start with any capacity, as long as nobody stops the writer: the queue never outgrows the
slots, also while the workers take turns; of the batches that have records in them and are handed over
between two runs of the workers, the first take the slots and all others are refused; whoever hands
one over is told so; a refusal changes the count of what was dropped and nothing else; and an empty
batch changes nothing. -/
theorem first_batches_take_the_slots {d : Dispatcher} {workers capacity : Nat} {s : σ}
    {started : Step (Pipeline σ) Unit} (hstart : start? d workers capacity s = some started)
    {p : Pipeline σ} {requests : List Request} {trace : List Mark}
    (hreaches : Reaches store started.state requests trace p)
    (hshutdown : .shutdown ∉ requests) (hkill : .kill ∉ requests) :
    let slots := max capacity 1
    (p.writer.queue.length ≤ slots ∧ ∀ schedule,
      ((Pool.start p.writer.workers p.writer.queue p.writer.stats p.store).run store
        schedule).queue.length ≤ slots) ∧
    (∀ before round after, trace = before ++ round ++ after → Frees before → .flushed ∉ round →
      FirstFit slots (handed round)) ∧
    (∀ request batch answer, p.mark? request = some (.sent batch answer) →
      match (p.step store request).answer with
      | .submitted reply => reply = answer
      | .logged reply => reply = (Attempt.ofExcept answer).map fun _ => .submitted
      | .handled reply => reply = (Attempt.ofExcept answer).map fun _ => some .submitted
      | _ => True) ∧
    (∀ request batch cause q, p.mark? request = some (.sent batch (.error cause)) →
      Answers store p request q → cause = .queueFull batch.length ∧ q.store = p.store ∧
        q.writer = { p.writer with
          stats := { p.writer.stats with
            dropped := p.writer.stats.dropped + .ofNat batch.length } }) ∧
    p.step store (.submit []) = ⟨.submitted (.ok ()), p, {}⟩ := by
  intro slots
  have hrunning : p.writer.phase = .running := by
    refine hreaches.running ?_ hshutdown hkill
    rw [start?_spec hstart]
  obtain ⟨hcapacity, hslots⟩ := hreaches.slots hstart hrunning
  have hcapacity : slots = p.writer.capacity := hcapacity.symm
  have hqueue : p.writer.queue.length ≤ slots := by
    rw [hcapacity]
    exact hslots.queue_length_le
  refine ⟨⟨hqueue, fun schedule => ?_⟩, ?_, fun request batch answer => answer_of_mark?, ?_, rfl⟩
  · exact Pool.run_induction store (P := fun q => q.queue.length ≤ slots)
      (fun hturn hq => Nat.le_trans hturn.queue_length_le hq) schedule hqueue
  · intro before round after htrace hfrees hround
    rw [hcapacity]
    exact hslots.fit before round after htrace hfrees hround
  · intro request batch cause q hmark hanswers
    obtain ⟨hanswer, hwriter, hstore⟩ := hanswers.of_sent hmark
    rcases p.writer.submit_cases batch with ⟨-, hsubmit⟩ | ⟨hidle, -⟩ | ⟨-, -, hqueued, -⟩ |
      ⟨-, -, hfull, hstate⟩
    · rw [hsubmit] at hanswer
      cases hanswer
    · exact absurd hrunning hidle
    · rw [hqueued] at hanswer
      cases hanswer
    · rw [hfull] at hanswer
      cases hanswer
      exact ⟨rfl, hstore, hwriter.trans hstate⟩

/-- Two slots. Before the workers run, a batch of two records and the record of a call that ended take
them, and a batch of three records and a logged record find none; an empty batch and the record of an
emergency call need none. After the workers have run there is room again. -/
theorem first_batches_take_the_slots_of_two :
    let record (number : String) : Record := .make none (some number) .allowed .incoming 0 0
    let start : Pipeline Memory :=
      { dispatcher := ⟨⟨false⟩, .standard⟩
        writer := { capacity := 2, workers := 3 }
        store := { supply := ⟨Uuid.ofNat, fun _ => default, 0⟩ } }
    let call : Call := .start (.ofNat 1) true (some (.tel "5")) ⟨0, by decide, by decide⟩
    let first : List Request :=
      [.submit [record "1", record "2"], .add call, .set 0 .aborted ⟨5, by decide, by decide⟩,
        .submit [], .log (record "911"), .submit [record "3", record "4", record "5"], .lock true,
        .log (record "6")]
    let requests := first ++ [.drain, .lock false, .log (record "7")]
    let p := (run Memory.store requests start).state
    let round := marks Memory.store first start
    FirstFit 2 (handed round) ∧
      (handed round).map (fun b => b.1.length) = [2, 1, 3, 1] ∧
      (handed round).drop 2 = [([record "3", record "4", record "5"], .error (.queueFull 3)),
        ([record "6"], .error (.queueFull 1))] ∧
      p.writer.queue.length ≤ 2 ∧ p.writer.queue = [[record "7"]] ∧ p.writer.stats.dropped = 4 ∧
      p.step Memory.store (.submit []) = ⟨.submitted (.ok ()), p, {}⟩ := by
  intro record start call first requests p round
  have hstart : start? start.dispatcher 3 2 start.store =
      some ⟨(), start, .of [.writerStarted 3 2] ++ (register start.dispatcher []).report⟩ := rfl
  have hreaches : Reaches Memory.store start requests (marks Memory.store requests start) p :=
    reaches_run _ _ (by decide)
  obtain ⟨⟨hqueue, -⟩, hfit, -, -, hempty⟩ :=
    first_batches_take_the_slots hstart hreaches (by decide) (by decide)
  have hsplit : marks Memory.store requests start = [] ++ round ++
      marks Memory.store [.drain, .lock false, .log (record "7")]
        (run Memory.store first start).state := rfl
  have hround : .flushed ∉ round := by
    change Mark.flushed ∉ [.sent _ _, .sent _ _, .sent _ _, .sent _ _, .locked _, .sent _ _]
    simp
  exact ⟨hfit [] round _ hsplit (.inl rfl) hround, by decide, rfl, hqueue, by decide, by decide,
    hempty⟩

end Pipeline
end CallHistory
