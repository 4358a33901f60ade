import CallHistory.Proofs.Phone.Normalization
import CallHistory.Proofs.Pipeline.Offers
import CallHistory.Proofs.Store.Laws

/-! # Emergency calls are kept out

The log looks at the number of a record and keeps the record out if policy says so. Nothing that it
has kept out is ever queued, taken by a worker or held by a store, and as the number of a record is
recognized exactly if the address of its call is, no call to or from an emergency number gets there.
-/

namespace CallHistory

variable {σ : Type} {store : Store σ} {held : σ → Record → Prop} {fine : Option String → Prop}
  {origin : σ}

namespace Pool

/-- All that a pool has still to write bears fine numbers, and so does all that has come into the
store since it was `origin`. -/
structure Screened (fine : Option String → Prop) (held : σ → Record → Prop) (origin : σ)
    (p : Pool σ) : Prop where
  queued : ∀ r ∈ p.queue.flatten, fine r.number
  inHand : ∀ w ∈ p.workers, ∀ r ∈ w.rest, fine r.number
  held : ∀ r, held p.store r → held origin r ∨ fine r.number

theorem screened_start (n : Nat) {queue : List (List Record)} (stats : WriterStats) {s : σ}
    (hqueued : ∀ r ∈ queue.flatten, fine r.number)
    (hheld : ∀ r, held s r → held origin r ∨ fine r.number) :
    (start n queue stats s).Screened fine held origin where
  queued := hqueued
  inHand w hw := by
    rw [List.eq_of_mem_replicate hw]
    exact List.forall_mem_nil _
  held := hheld

theorem Turn.screened (hholds : store.Holds held) {p q : Pool σ} (h : Turn store p q)
    (hp : p.Screened fine held origin) : q.Screened fine held origin := by
  rcases hp with ⟨hqueued, hinHand, hheld⟩
  cases h with
  | pass => exact ⟨hqueued, hinHand, hheld⟩
  | take batch queue before after stats s =>
    simp only [List.flatten_cons, List.forall_mem_append] at hqueued
    simp only [List.forall_mem_append, List.forall_mem_cons] at hinHand
    refine ⟨hqueued.2, ?_, hheld⟩
    simp only [List.forall_mem_append, List.forall_mem_cons]
    exact ⟨hinHand.1, hqueued.1, hinHand.2.2⟩
  | write queue before r rest outcomes after stats s =>
    simp only [List.forall_mem_append, List.forall_mem_cons, Worker.rest_busy] at hinHand
    obtain ⟨hbefore, ⟨hr, hrest⟩, hafter⟩ := hinHand
    refine ⟨hqueued, ?_, fun x hx => ?_⟩
    · simp only [List.forall_mem_append, List.forall_mem_cons, Worker.rest_busy]
      exact ⟨hbefore, hrest, hafter⟩
    · rcases hholds.add hx with hold | hnumber
      · exact hheld x hold
      · exact .inr (hnumber ▸ hr)
  | settle queue before outcomes after stats s =>
    simp only [List.forall_mem_append, List.forall_mem_cons] at hinHand
    refine ⟨hqueued, ?_, hheld⟩
    simp only [List.forall_mem_append, List.forall_mem_cons]
    exact ⟨hinHand.1, by simp, hinHand.2.2⟩

end Pool

namespace Writer

structure Screened (fine : Option String → Prop) (held : σ → Record → Prop) (origin : σ)
    (x : Writer × σ) : Prop where
  queued : ∀ r ∈ x.1.queue.flatten, fine r.number
  held : ∀ r, held x.2 r → held origin r ∨ fine r.number

theorem screened_new (capacity workers : Nat) :
    Screened fine held origin ({ capacity, workers }, origin) where
  queued _ hr := nomatch hr
  held _ hr := .inl hr

theorem Drains.screened (hholds : store.Holds held) {x y : Writer × σ} (h : Drains store x y)
    (hx : Screened fine held origin x) : Screened fine held origin y := by
  unfold Drains at h
  split at h
  · rcases h with ⟨done, hfinishes, rfl⟩
    have hdone := hfinishes.induction (P := Pool.Screened fine held origin)
      (fun hturn hp => hturn.screened hholds hp) (Pool.screened_start _ _ hx.queued hx.held)
    exact ⟨List.forall_mem_nil _, hdone.held⟩
  · rw [h]
    exact hx

theorem Screened.submit {w : Writer} {s : σ} (h : Screened fine held origin (w, s))
    {batch : List Record} (hbatch : ∀ r ∈ batch, fine r.number) :
    Screened fine held origin ((w.submit batch).state, s) := by
  rcases submit_cases w batch with ⟨-, hsubmit⟩ | ⟨-, hsubmit⟩ | ⟨-, -, -, hstate⟩ |
    ⟨-, -, -, hstate⟩
  · rw [hsubmit]
    exact h
  · rw [hsubmit]
    exact h
  · rw [hstate]
    refine ⟨?_, h.held⟩
    simp only [List.flatten_append, List.flatten_singleton, List.forall_mem_append]
    exact ⟨h.queued, hbatch⟩
  · rw [hstate]
    exact ⟨h.queued, h.held⟩

/-- An order that policy permits lets in nothing that policy keeps out. -/
theorem Obeys.screened (hholds : store.Holds held) {d : Dispatcher} {order : Order}
    {x y : Writer × σ} (h : Obeys store order x y) (hpermitted : order.IsPermitted d)
    (hx : Screened d.Admits held origin x) : Screened d.Admits held origin y := by
  rcases x with ⟨w, s⟩
  cases order with
  | send batch =>
    obtain rfl : y = ((w.submit batch).state, s) := h
    exact hx.submit hpermitted
  | lock locked =>
    obtain rfl : y = (w, store.lock locked s) := h
    exact ⟨hx.queued, fun r hr => hx.held r (hholds.lock hr)⟩
  | drain => exact Drains.screened hholds h hx
  | shutdown =>
    rcases h with ⟨z, hdrains, rfl⟩
    have hz := hdrains.screened hholds hx
    exact ⟨hz.queued, hz.held⟩
  | kill =>
    obtain rfl : y = (w.kill, s) := h
    have hqueue : w.kill.queue = w.queue := by
      unfold kill
      split <;> rfl
    refine ⟨?_, hx.held⟩
    change ∀ r ∈ w.kill.queue.flatten, d.Admits r.number
    rw [hqueue]
    exact hx.queued

end Writer

namespace Pipeline

/-- No number of an emergency list is queued, and none has come into the store since it was
`origin`; no call whose address is such a number has a record in either. -/
structure FreeOf (e : Phone.EmergencyNumbers) (held : σ → Record → Prop) (origin : σ)
    (queue : List (List Record)) (s : σ) : Prop where
  queued : ∀ batch ∈ queue, ∀ r ∈ batch, ∀ number, r.number = some number →
    e.recognizes number = false
  stored : ∀ r, held s r → ¬held origin r → ∀ number, r.number = some number →
    e.recognizes number = false
  calls : ∀ (call : CallInfo) (handle : Phone.Handle) (kind : CallKind),
    call.handle = some handle → e.recognizes handle.part = true →
      (∀ batch ∈ queue, .ofCall call kind ∉ batch) ∧
        (held s (.ofCall call kind) → held origin (.ofCall call kind))

theorem recognizes_of_admits {e : Phone.EmergencyNumbers} {r : Record}
    (h : Dispatcher.Admits ⟨⟨false⟩, e⟩ r.number) {number : String}
    (hnumber : r.number = some number) : e.recognizes number = false := by
  rw [hnumber] at h
  simpa [Dispatcher.Admits, Policy.permits] using h

theorem freeOf_of_admits {e : Phone.EmergencyNumbers} {queue : List (List Record)} {s : σ}
    (hqueued : ∀ r ∈ queue.flatten, Dispatcher.Admits ⟨⟨false⟩, e⟩ r.number)
    (hheld : ∀ r, held s r → held origin r ∨ Dispatcher.Admits ⟨⟨false⟩, e⟩ r.number) :
    FreeOf e held origin queue s where
  queued batch hbatch r hr number hnumber :=
    recognizes_of_admits (hqueued r (List.mem_flatten_of_mem hbatch hr)) hnumber
  stored r hr hnew number hnumber :=
    recognizes_of_admits ((hheld r hr).resolve_left hnew) hnumber
  calls call handle kind hhandle hemergency := by
    have hnumber : (Record.ofCall call kind).number = some handle.logNumber := by
      change call.handle.map Phone.Handle.logNumber = _
      rw [hhandle]
      rfl
    -- the log saw the number of the record, which says the same as the address of the call
    have hout : ¬Dispatcher.Admits ⟨⟨false⟩, e⟩ (Record.ofCall call kind).number := by
      intro hadmits
      have hfree := recognizes_of_admits hadmits hnumber
      rw [e.recognizes_logNumber, hemergency] at hfree
      cases hfree
    exact ⟨fun batch hbatch hmem => hout (hqueued _ (List.mem_flatten_of_mem hbatch hmem)),
      fun hstored => (hheld _ hstored).resolve_right hout⟩

/-- With emergency calls forbidden, whatever a pipeline is asked except to hand a batch to the writer
itself, no emergency call gets into the queue or the store: not where a request has been answered,
and at no moment while the workers take turns, whichever way they do. -/
theorem no_emergency_call_gets_in {store : Store σ} {held : σ → Record → Prop}
    (hholds : store.Holds held) (e : Phone.EmergencyNumbers) (workers capacity : Nat) (s : σ)
    {started : Step (Pipeline σ) Unit}
    (hstart : start? ⟨⟨false⟩, e⟩ workers capacity s = some started) {requests : List Request}
    (hsubmit : ∀ batch, .submit batch ∉ requests) {trace : List Mark} {p : Pipeline σ}
    (hreaches : Reaches store started.state requests trace p) :
    FreeOf e held s p.writer.queue p.store ∧
      ∀ schedule,
        let pool := (Pool.start p.writer.workers p.writer.queue p.writer.stats p.store).run store
          schedule
        FreeOf e held s pool.queue pool.store := by
  rw [start?_spec hstart] at hreaches
  have hscreened := hreaches.induction_of_orders
    (P := fun _ x => Writer.Screened (Dispatcher.Admits ⟨⟨false⟩, e⟩) held s x)
    (Order.IsPermitted ⟨⟨false⟩, e⟩)
    (fun request hmem q hdispatcher order horder => by
      have hpermitted := order?_isPermitted horder
        (fun batch hrequest => hsubmit batch (hrequest ▸ hmem))
      rw [hdispatcher] at hpermitted
      exact hpermitted)
    (fun hobeys hpermitted hx => hobeys.screened hholds hpermitted hx)
    (Writer.screened_new _ _)
  refine ⟨freeOf_of_admits hscreened.queued hscreened.held, fun schedule => ?_⟩
  have hpool := Pool.run_induction store (fun hturn hp => hturn.screened hholds hp) schedule
    (Pool.screened_start p.writer.workers p.writer.stats hscreened.queued hscreened.held)
  exact freeOf_of_admits hpool.queued hpool.held

/-- An emergency number is kept out however it is spelled and whichever way it comes, while another
number is stored and an address that begins like an emergency number is queued. -/
theorem no_emergency_call_gets_in_spelled :
    let record (number : String) : Record := .make none (some number) .allowed .incoming 0 0
    let e : Phone.EmergencyNumbers := .ofList ["112", "9.1.1"]
    let handle : Phone.Handle := .tel "9-1 1"
    let start : Pipeline Memory :=
      { dispatcher := ⟨⟨false⟩, e⟩
        writer := { capacity := 2, workers := 3 }
        store := { supply := ⟨Uuid.ofNat, fun _ => default, 0⟩ } }
    let requests : List Request :=
      [.add (.start (.ofNat 7) true (some handle) ⟨0, by decide, by decide⟩),
        .set 0 .ringing ⟨0, by decide, by decide⟩, .set 0 .aborted ⟨5, by decide, by decide⟩,
        .notify ⟨⟨true, some (.tel "٩١١"), 0, 0⟩, .ringing, .disconnected⟩,
        .handle ⟨⟨false, some (.sip "112"), 0, 0⟩, .dialing, .disconnected⟩,
        .log (record "(112)"), .log (record "5"), .drain, .log (record "911@home")]
    let done := (run Memory.store requests start).state
    FreeOf e (fun m r => r ∈ m.records) start.store done.writer.queue done.store ∧
      e.recognizes handle.part = true ∧
      done.writer.queue = [[record "911@home"]] ∧ done.store.records = [record "5"] := by
  intro record e handle start requests done
  have hholds : Memory.store.Holds fun m r => r ∈ m.records := by
    rw [← Memory.behind_nil]
    exact Memory.behind_holds []
  have hreaches : Reaches Memory.store start requests _ done := reaches_run _ _ (by decide)
  have hsubmit (batch : List Record) : .submit batch ∉ requests := by simp [requests]
  have hstart : start? start.dispatcher 3 2 start.store =
      some ⟨(), start, .of [.writerStarted 3 2] ++ (register start.dispatcher []).report⟩ := rfl
  obtain ⟨hfree, -⟩ := no_emergency_call_gets_in hholds e 3 2 start.store hstart hsubmit hreaches
  exact ⟨hfree, by decide, by decide, by decide⟩

end Pipeline
end CallHistory
