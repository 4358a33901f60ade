import CallHistory.Proofs.Writer.Orders

/-! # The slots of the queue

A queue has a slot for each batch up to its capacity, whatever the size of the batch, and the slots
are free again once the workers have run. So of the batches that are handed over in between, the first
ones are queued and all later ones are refused.
-/

namespace CallHistory

variable {σ : Type}

namespace Mark

def sent? : Mark → Option (List Record × Except SubmitError Unit)
  | sent batch answer => if batch.isEmpty then none else some (batch, answer)
  | _ => none

def handed (round : List Mark) : List (List Record × Except SubmitError Unit) :=
  round.filterMap sent?

theorem handed_append (round later : List Mark) :
    handed (round ++ later) = handed round ++ handed later :=
  List.filterMap_append

/-- Whether a trace begins with free slots after these marks: at its start, or where the workers have
just run. -/
def Frees (before : List Mark) : Prop := before = [] ∨ before.getLast? = some .flushed

theorem exists_round (trace : List Mark) :
    ∃ before round, trace = before ++ round ∧ Frees before ∧ .flushed ∉ round := by
  induction trace with
  | nil => exact ⟨[], [], rfl, .inl rfl, List.not_mem_nil⟩
  | cons m rest ih =>
    obtain ⟨before, round, rfl, hfrees, hround⟩ := ih
    rcases hfrees with rfl | hflushed
    · by_cases hm : m = .flushed
      · exact ⟨[m], round, rfl, .inr (by rw [hm]; rfl), hround⟩
      · refine ⟨[], m :: round, rfl, .inl rfl, fun hmem => ?_⟩
        rcases List.mem_cons.mp hmem with heq | hmem
        · exact hm heq.symm
        · exact hround hmem
    · refine ⟨m :: before, round, rfl, .inr ?_, hround⟩
      rw [List.getLast?_cons, hflushed]
      rfl

/-- The first batches were queued, as many as there are slots, and all later ones found no slot. -/
def FirstFit (slots : Nat) (batches : List (List Record × Except SubmitError Unit)) : Prop :=
  (∀ b ∈ batches.take slots, b.2 = .ok ()) ∧
    ∀ b ∈ batches.drop slots, b.2 = .error (.queueFull b.1.length)

theorem firstFit_nil (slots : Nat) : FirstFit slots [] := by
  simp [FirstFit]

theorem FirstFit.queued {slots : Nat} {batches : List (List Record × Except SubmitError Unit)}
    (h : FirstFit slots batches) (hroom : batches.length < slots) (batch : List Record) :
    FirstFit slots (batches ++ [(batch, Except.ok ())]) := by
  have htake : batches.take slots = batches := List.take_of_length_le (Nat.le_of_lt hroom)
  have hall : (batches ++ [(batch, Except.ok ())]).length ≤ slots := by
    rw [List.length_append]
    exact hroom
  constructor
  · rw [List.take_of_length_le hall]
    intro b hb
    rcases List.mem_append.mp hb with hold | hnew
    · exact h.1 b (htake.symm ▸ hold)
    · rw [List.mem_singleton.mp hnew]
  · rw [List.drop_eq_nil_of_le hall]
    simp

theorem FirstFit.refused {slots : Nat} {batches : List (List Record × Except SubmitError Unit)}
    (h : FirstFit slots batches) (hfull : slots ≤ batches.length) (batch : List Record) :
    FirstFit slots (batches ++ [(batch, .error (.queueFull batch.length))]) := by
  constructor
  · rw [List.take_append_of_le_length hfull]
    exact h.1
  · rw [List.drop_append_of_le_length hfull]
    intro b hb
    rcases List.mem_append.mp hb with hold | hnew
    · exact h.2 b hold
    · rw [List.mem_singleton.mp hnew]

end Mark

namespace Writer

open Mark

/-- The queue of a running writer holds what was queued since its slots were free, and everywhere in
the trace the batches took the slots that there were. -/
structure Slots (trace : List Mark) (w : Writer) : Prop where
  queue : ∀ before round, trace = before ++ round → Frees before → .flushed ∉ round →
    w.queue = ((handed round).take w.capacity).map Prod.fst
  fit : ∀ before round after, trace = before ++ round ++ after → Frees before →
    .flushed ∉ round → FirstFit w.capacity (handed round)

theorem slots_new (capacity workers : Nat) : Slots [] { capacity, workers } where
  queue before round htrace _ _ := by
    obtain ⟨-, rfl⟩ := List.append_eq_nil_iff.mp htrace.symm
    exact (congrArg (List.map Prod.fst) List.take_nil).symm
  fit before round after htrace _ _ := by
    obtain ⟨hround, -⟩ := List.append_eq_nil_iff.mp htrace.symm
    obtain ⟨-, rfl⟩ := List.append_eq_nil_iff.mp hround
    exact firstFit_nil capacity

theorem Slots.queue_length_le {trace : List Mark} {w : Writer} (h : Slots trace w) :
    w.queue.length ≤ w.capacity := by
  obtain ⟨before, round, htrace, hfrees, hround⟩ := exists_round trace
  rw [h.queue before round htrace hfrees hround, List.length_map, List.length_take]
  exact Nat.min_le_left _ _

/-- One more mark can be the end of a round, or stand behind it. -/
theorem Slots.snoc {trace : List Mark} {w v : Writer} (h : Slots trace w) {m : Mark}
    (hcapacity : v.capacity = w.capacity)
    (hlast : ∀ before round, trace ++ [m] = before ++ round → Frees before → .flushed ∉ round →
      v.queue = ((handed round).take w.capacity).map Prod.fst ∧ FirstFit w.capacity (handed round)) :
    Slots (trace ++ [m]) v where
  queue before round htrace hfrees hround := by
    rw [hcapacity]
    exact (hlast before round htrace hfrees hround).1
  fit before round after htrace hfrees hround := by
    rw [hcapacity]
    rcases List.eq_nil_or_concat after with rfl | ⟨after, last, rfl⟩
    · rw [List.append_nil] at htrace
      exact (hlast before round htrace hfrees hround).2
    · rw [List.concat_eq_append, ← List.append_assoc] at htrace
      obtain ⟨htrace, -⟩ := List.append_inj' htrace rfl
      exact h.fit before round after htrace hfrees hround

theorem Slots.flushed {trace : List Mark} {w v : Writer} (h : Slots trace w)
    (hcapacity : v.capacity = w.capacity) (hqueue : v.queue = []) : Slots (trace ++ [.flushed]) v := by
  refine h.snoc hcapacity fun before round htrace hfrees hround => ?_
  rcases List.eq_nil_or_concat round with rfl | ⟨round, last, rfl⟩
  · exact ⟨by rw [hqueue]; exact (congrArg (List.map Prod.fst) List.take_nil).symm, firstFit_nil _⟩
  · rw [List.concat_eq_append, ← List.append_assoc] at htrace
    obtain ⟨-, hlast⟩ := List.append_inj' htrace rfl
    simp [← (List.singleton_inj.mp hlast)] at hround

theorem Slots.goes {trace : List Mark} {w v : Writer} (h : Slots trace w) {m : Mark}
    (hm : m ≠ .flushed) (hcapacity : v.capacity = w.capacity)
    (hstep : ∀ batches, w.queue = (batches.take w.capacity).map Prod.fst →
      FirstFit w.capacity batches →
      v.queue = ((batches ++ handed [m]).take w.capacity).map Prod.fst ∧
        FirstFit w.capacity (batches ++ handed [m])) :
    Slots (trace ++ [m]) v := by
  refine h.snoc hcapacity fun before round htrace hfrees hround => ?_
  rcases List.eq_nil_or_concat round with rfl | ⟨round, last, rfl⟩
  · rw [List.append_nil] at htrace
    rw [← htrace] at hfrees
    rcases hfrees with hnil | hflushed
    · simp at hnil
    · simp at hflushed
      exact absurd hflushed hm
  · rw [List.concat_eq_append, ← List.append_assoc] at htrace
    obtain ⟨hbefore, hlast⟩ := List.append_inj' htrace rfl
    rw [List.concat_eq_append] at hround ⊢
    rw [← List.singleton_inj.mp hlast, handed_append]
    have hround : Mark.flushed ∉ round := fun hmem => hround (List.mem_append_left _ hmem)
    exact hstep _ (h.queue before round hbefore hfrees hround)
      (h.fit before round [] (by rw [List.append_nil]; exact hbefore) hfrees hround)

theorem Slots.still {trace : List Mark} {w : Writer} (h : Slots trace w) {m : Mark}
    (hm : m ≠ .flushed) (hnone : handed [m] = []) : Slots (trace ++ [m]) w := by
  refine h.goes hm rfl fun batches hqueue hfit => ?_
  rw [hnone, List.append_nil]
  exact ⟨hqueue, hfit⟩

/-- A batch with records in it takes the next slot, if there is one. -/
theorem Slots.submit {trace : List Mark} {w : Writer} (h : Slots trace w)
    (hrunning : w.phase = .running) (batch : List Record) :
    Slots (trace ++ [.sent batch (w.submit batch).answer]) (w.submit batch).state := by
  cases batch with
  | nil =>
    exact h.still (fun heq => nomatch heq) rfl
  | cons r rest =>
    rcases submit_cases w (r :: rest) with ⟨hnil, -⟩ | ⟨hidle, -⟩ | ⟨-, hroom, hanswer, hstate⟩ |
      ⟨-, hfull, hanswer, hstate⟩
    · exact nomatch hnil
    · exact absurd hrunning hidle
    · rw [hanswer, hstate]
      refine h.goes (fun heq => nomatch heq) rfl fun batches hqueue hfit => ?_
      have hslot : batches.length < w.capacity := by
        rw [hqueue, List.length_map, List.length_take] at hroom
        omega
      refine ⟨?_, hfit.queued hslot _⟩
      have hall : (batches ++ [(r :: rest, Except.ok ())]).length ≤ w.capacity := by
        rw [List.length_append]
        exact hslot
      change w.queue ++ [r :: rest] = ((batches ++ [(r :: rest, _)]).take w.capacity).map Prod.fst
      rw [List.take_of_length_le hall, hqueue, List.take_of_length_le (Nat.le_of_lt hslot),
        List.map_append]
      rfl
    · rw [hanswer, hstate]
      refine h.goes (fun heq => nomatch heq) rfl fun batches hqueue hfit => ?_
      have hslot : w.capacity ≤ batches.length := by
        rw [hqueue, List.length_map, List.length_take] at hfull
        omega
      refine ⟨?_, hfit.refused hslot _⟩
      change w.queue = ((batches ++ [(r :: rest, _)]).take w.capacity).map Prod.fst
      rw [List.take_append_of_le_length hslot, hqueue]

theorem submit_capacity (w : Writer) (batch : List Record) :
    (w.submit batch).state.capacity = w.capacity := by
  rcases submit_cases w batch with ⟨-, hsubmit⟩ | ⟨-, hsubmit⟩ | ⟨-, -, -, hstate⟩ |
    ⟨-, -, -, hstate⟩
  · rw [hsubmit]
  · rw [hsubmit]
  · rw [hstate]
  · rw [hstate]

theorem Drains.capacity {store : Store σ} {x y : Writer × σ} (h : Drains store x y) :
    y.1.capacity = x.1.capacity := by
  unfold Drains at h
  split at h
  · rcases h with ⟨done, -, rfl⟩
    rfl
  · rw [h]

theorem Obeys.slots {store : Store σ} {order : Order} {x y : Writer × σ} {trace : List Mark}
    (hobeys : Obeys store order x y) (h : x.1.phase = .running → Slots trace x.1) :
    y.1.capacity = x.1.capacity ∧
      (y.1.phase = .running → Slots (trace ++ [x.1.mark order]) y.1) := by
  have hphase := hobeys.frame.1
  rcases x with ⟨w, s⟩
  cases order with
  | send batch =>
    obtain rfl : y = ((w.submit batch).state, s) := hobeys
    refine ⟨submit_capacity w batch, fun hrunning => ?_⟩
    have hbefore : w.phase = .running := hphase.symm.trans hrunning
    exact (h hbefore).submit hbefore batch
  | lock locked =>
    obtain rfl : y = (w, store.lock locked s) := hobeys
    exact ⟨rfl, fun hrunning => (h hrunning).still (fun heq => nomatch heq) rfl⟩
  | drain =>
    have hcapacity := Drains.capacity hobeys
    exact ⟨hcapacity, fun hrunning =>
      (h (hphase.symm.trans hrunning)).flushed hcapacity (Drains.queue hobeys hrunning)⟩
  | shutdown =>
    rcases hobeys with ⟨z, hdrains, rfl⟩
    refine ⟨hdrains.capacity, fun hrunning => ?_⟩
    rw [hrunning] at hphase
    cases hw : w.phase <;> simp [WriterPhase.after, hw] at hphase
  | kill =>
    obtain rfl : y = (w.kill, s) := hobeys
    refine ⟨by unfold kill; split <;> rfl, fun hrunning => ?_⟩
    rw [hrunning] at hphase
    cases hw : w.phase <;> simp [WriterPhase.after, hw] at hphase

end Writer
end CallHistory
