import CallHistory.Proofs.Calls.Apart
import CallHistory.Proofs.Pipeline.Accounts
import CallHistory.Proofs.Pipeline.Isolation
import CallHistory.Proofs.Writer.Keeping

/-! # Orders of requests

Calls that are led at the same time are led in some order of all the requests together. As long as
the queue has room and the record alone decides whether the store keeps it, this order does not matter
but for the order of the entries in the store, which is that in which the calls ended if there is one
worker.
-/

namespace CallHistory

variable {σ : Type}

def MoveRequest.request (q : MoveRequest) : Request := .set q.call q.target q.now

def Request.move? : Request → Option MoveRequest
  | .set index target now => some ⟨index, target, now⟩
  | _ => none

/-- The entries that a dispatcher lets through of what requests ended, in the order of the ends. -/
def entries (d : Dispatcher) (calls : List Call) (requests : List MoveRequest) : List Record :=
  ((endings calls requests).filter fun e => !e.suppressed d).map Ending.entry

theorem entries_cons (d : Dispatcher) (calls : List Call) (q : MoveRequest)
    (rest : List MoveRequest) :
    entries d calls (q :: rest) =
      ((q.ending? calls).bind (Ending.batch? d)).toList.flatten ++ entries d (q.apply calls) rest := by
  unfold entries
  rw [endings, List.filter_append, List.map_append]
  congr 1
  cases q.ending? calls with
  | none => rfl
  | some e => cases he : e.suppressed d <;> simp [Ending.batch?, he]

theorem entries_perm (d : Dispatcher) (calls : List Call) {requests requests' : List MoveRequest}
    (h : ∀ i, wishes i requests = wishes i requests') :
    (entries d calls requests).Perm (entries d calls requests') :=
  ((endings_perm calls h).filter _).map _

namespace Answer

def ofWish (c? : Option Call) (w : Wish) : Answer :=
  match c? with
  | none => .noCall
  | some c => .moved (c.verdict w.target)

def ofWishes : Option Call → List Wish → List Answer
  | _, [] => []
  | c?, w :: rest => ofWish c? w :: ofWishes (c?.map (·.tried w)) rest

end Answer

namespace Pipeline

variable {store : Store σ}

/-- The answers to the requests for the call with an index, in order. -/
def replies (i : Nat) (exchanges : List (Exchange σ)) : List Answer :=
  (exchanges.filter fun x => x.request.move?.any (·.call = i)).map Exchange.answer

/-- A session in which moves are asked for in order and nothing else, but that the workers run now and
then, and that stops the writer in the end. -/
inductive Led (store : Store σ) :
    Pipeline σ → List MoveRequest → List (Exchange σ) → Pipeline σ → Prop
  | stop {p q} (hanswers : Answers store p .shutdown q) :
    Led store p [] [⟨.shutdown, (p.step store .shutdown).answer, q⟩] q
  | drain {p q moves exchanges r} (hanswers : Answers store p .drain q)
    (hrest : Led store q moves exchanges r) :
    Led store p moves (⟨.drain, (p.step store .drain).answer, q⟩ :: exchanges) r
  | move {p q exchanges r} (m : MoveRequest) {moves} (hanswers : Answers store p m.request q)
    (hrest : Led store q moves exchanges r) :
    Led store p (m :: moves) (⟨m.request, (p.step store m.request).answer, q⟩ :: exchanges) r

variable {p q : Pipeline σ} {moves : List MoveRequest} {exchanges : List (Exchange σ)}

theorem Led.session (h : Led store p moves exchanges q) : Session store p exchanges q := by
  induction h with
  | stop hanswers => exact .next hanswers (.done _)
  | drain hanswers hrest ih => exact .next hanswers ih
  | move m hanswers hrest ih => exact .next hanswers ih

theorem led_run (store : Store σ) (p : Pipeline σ) (requests : List Request)
    (hworkers : 0 < p.writer.workers)
    (hrequests : ∀ request ∈ requests, request = .drain ∨ request.move?.isSome = true) :
    Led store p (requests.filterMap Request.move?) (Pipeline.exchanges store (requests ++ [.shutdown]) p)
      (run store (requests ++ [.shutdown]) p).state := by
  induction requests generalizing p with
  | nil => exact .stop (answers_step store p .shutdown hworkers)
  | cons request rest ih =>
    obtain ⟨hfirst, hrest⟩ := List.forall_mem_cons.mp hrequests
    have hanswers := answers_step store p request hworkers
    have hled := ih _ (by rw [hanswers.frame.2]; exact hworkers) hrest
    cases request with
    | set index target now => exact .move ⟨index, target, now⟩ hanswers hled
    | drain => exact .drain hanswers hled
    | _ => simp [Request.move?] at hfirst

theorem Led.calls (h : Led store p moves exchanges q) : q.calls = movedAll p.calls moves := by
  induction h with
  | stop hanswers => exact hanswers.calls
  | drain hanswers hrest ih =>
    rw [ih, hanswers.calls]
    rfl
  | move m hanswers hrest ih =>
    rw [ih, hanswers.calls]
    rfl

theorem answer_move (store : Store σ) (p : Pipeline σ) (m : MoveRequest) :
    (p.step store m.request).answer = Answer.ofWish p.calls[m.call]? m.wish := by
  cases hcall : p.calls[m.call]? with
  | none => simp [step, MoveRequest.request, hcall, Answer.ofWish]
  | some c =>
    simp [step, MoveRequest.request, hcall, Answer.ofWish, Dispatcher.react_eq_listening,
      Call.setState_listening_answer, MoveRequest.wish]

theorem replies_cons (i : Nat) (x : Exchange σ) (rest : List (Exchange σ)) :
    replies i (x :: rest) =
      if x.request.move?.any (·.call = i) then x.answer :: replies i rest else replies i rest := by
  unfold replies
  rw [List.filter_cons]
  split <;> rfl

/-- What is answered to those who lead a call is decided by what they ask of this call. -/
theorem Led.replies_eq (h : Led store p moves exchanges q) (i : Nat) :
    replies i exchanges = Answer.ofWishes p.calls[i]? (wishes i moves) := by
  induction h with
  | stop hanswers => rfl
  | drain hanswers hrest ih =>
    rw [hanswers.calls] at ih
    exact ih
  | @move p q exchanges r m moves hanswers hrest ih =>
    have hafter : q.calls[i]? = p.calls[i]?.map fun c => if m.call = i then c.tried m.wish else c := by
      rw [hanswers.calls]
      exact m.getElem?_apply p.calls i
    rw [hafter] at ih
    rw [replies_cons, wishes_cons]
    by_cases hi : m.call = i
    · subst hi
      simp only [if_true] at ih
      have hown : m.request.move?.any (·.call = m.call) = true := decide_eq_true rfl
      rw [if_pos hown, if_pos rfl, ih, answer_move]
      rfl
    · have hother : ¬ m.request.move?.any (·.call = i) = true := fun heq => hi (of_decide_eq_true heq)
      simp only [hi, if_false, Option.map_id'] at ih
      rw [if_neg hother, if_neg hi, ih]

theorem Answers.running {request : Request} (h : Answers store p request q)
    (hgoes : phaseAfter .running request = .running) (hp : p.writer.phase = .running) :
    q.writer.phase = .running := by
  rw [h.frame.1, hp, hgoes]

theorem Led.stopped (h : Led store p moves exchanges q) (hrunning : p.writer.phase = .running) :
    q.writer.phase = .stopped := by
  induction h with
  | stop hanswers =>
    rw [hanswers.frame.1, hrunning]
    rfl
  | drain hanswers hrest ih => exact ih (hanswers.running rfl hrunning)
  | move m hanswers hrest ih => exact ih (hanswers.running rfl hrunning)

theorem accepted_move {m : MoveRequest} (hrunning : p.writer.phase = .running)
    (hroom : (p.mark? m.request).toList.flatMap Mark.dropped = []) :
    (p.mark? m.request).toList.flatMap Mark.accepted =
      ((m.ending? p.calls).bind (Ending.batch? p.dispatcher)).toList.flatten := by
  have hmark : p.mark? m.request = ((m.ending? p.calls).bind (Ending.batch? p.dispatcher)).map
      fun batch => .sent batch (p.writer.submit batch).answer := Option.map_map ..
  rw [hmark] at hroom ⊢
  generalize (m.ending? p.calls).bind (Ending.batch? p.dispatcher) = batch? at hroom ⊢
  cases batch? with
  | none => rfl
  | some batch =>
    rw [Option.map_some, Option.toList_some, List.flatMap_singleton] at hroom ⊢
    rw [Writer.accepted_submit hrunning hroom]
    exact List.flatten_singleton.symm

/-- What is queued while calls are led is the entries of the calls that end. -/
theorem Led.accepted (h : Led store p moves exchanges q) (hrunning : p.writer.phase = .running)
    (hroom : (traceOf p exchanges).flatMap Mark.dropped = []) :
    (traceOf p exchanges).flatMap Mark.accepted = entries p.dispatcher p.calls moves := by
  induction h with
  | stop hanswers => rfl
  | drain hanswers hrest ih =>
    rw [hanswers.dispatcher, hanswers.calls] at ih
    exact ih (hanswers.running rfl hrunning) hroom
  | move m hanswers hrest ih =>
    simp only [traceOf, List.flatMap_append, List.append_eq_nil_iff] at hroom ⊢
    rw [hanswers.dispatcher, hanswers.calls] at ih
    rw [accepted_move hrunning hroom.1, entries_cons,
      ih (hanswers.running rfl hrunning) hroom.2]
    rfl

theorem Led.isPlain (h : Led store p moves exchanges q) :
    ∀ request ∈ exchanges.map Exchange.request, ∀ (r : Pipeline σ) order,
      r.order? request = some order → order.IsPlain := by
  induction h with
  | stop hanswers =>
    intro request hmem r order horder
    obtain rfl := List.mem_singleton.mp hmem
    cases horder
    trivial
  | drain hanswers hrest ih =>
    refine List.forall_mem_cons.mpr ⟨fun r order horder => ?_, ih⟩
    cases horder
    trivial
  | move m hanswers hrest ih =>
    refine List.forall_mem_cons.mpr ⟨fun r order horder => ?_, ih⟩
    obtain ⟨batch, -, rfl⟩ := Option.map_eq_some_iff.mp horder
    trivial

section Leading

variable {ok : σ → Prop} {keeps : Record → Bool} {kept : σ → List Record} {d : Dispatcher}
  {workers capacity : Nat} {s : σ} {started : Step (Pipeline σ) Unit} {calls : List Call}

/-- What comes of leading calls: the store has kept the entries of the calls that ended as far as it
keeps them, in their order if there is one worker, and the counts say so. -/
theorem Led.outcome (hdecides : store.Decides ok keeps) (hkept : store.Appends kept) (hok : ok s)
    (hstart : start? d workers capacity s = some started)
    (h : Led store { started.state with calls } moves exchanges q)
    (hroom : (traceOf { started.state with calls } exchanges).flatMap Mark.dropped = []) :
    let ended := entries d calls moves
    let stored := ended.filter keeps
    (kept q.store).Perm (kept s ++ stored) ∧
      (workers ≤ 1 → kept q.store = kept s ++ stored) ∧
      q.writer.stats = ⟨.ofNat ended.length, .ofNat stored.length,
        .ofNat ended.length - .ofNat stored.length, 0⟩ := by
  intro ended stored
  rw [start?_spec hstart] at h hroom
  have hreaches := h.session.reaches
  obtain ⟨haccounts, hemptied⟩ := hreaches.induction
    (P := fun trace x => x.1.Accounts trace ∧ x.1.Emptied)
    (fun hobeys h => ⟨hobeys.accounts h.1 h.2, hobeys.emptied h.2⟩)
    ⟨Writer.accounts_new _ _, Writer.emptied_new _ _⟩
  have hkeeping := hreaches.induction_of_orders
    (P := Writer.Keeping ok keeps kept (kept s)) Order.IsPlain
    (fun request hmem r _ order horder => h.isPlain request hmem r order horder)
    (fun hobeys hplain hx => hobeys.keeping hdecides hkept hplain hx)
    (Writer.keeping_new hok _ _)
  have hstopped := h.stopped rfl
  have hwaiting := hemptied.waiting (by rw [hstopped]; decide)
  have haccepted : _ = ended := h.accepted rfl hroom
  have hworkers : q.writer.workers = max workers 1 :=
    hreaches.induction (P := fun _ x => x.1.workers = max workers 1)
      (fun hobeys hx => hobeys.frame.2.trans hx) rfl
  obtain ⟨hperm, horder⟩ := hkeeping.kept_perm hwaiting
  have hpersisted := hkeeping.persisted_eq hwaiting
  rw [haccepted] at hperm horder hpersisted
  exact ⟨hperm, fun hone => horder (hworkers.trans (Nat.max_eq_right hone)),
    haccounts.stats_eq hemptied hstopped hroom haccepted hpersisted⟩

end Leading

/-- The order in which independent calls are led does not matter. For each call there is a plan, and the
requests come in two orders that keep to the plans, each time from a start with any number of workers
that take turns in any way, with any capacity of which the queue has enough, and a shutdown in the end.
If the record alone decides whether the store keeps it, then the same records are stored in some order,
the calls are the same in the end, everyone who led a call has had the same answers, and the counts are
the same. With one worker the stored records stand in the order in which their calls ended. -/
theorem orderings_agree {ok : σ → Prop} {keeps : Record → Bool} {kept : σ → List Record}
    (hdecides : store.Decides ok keeps) (hkept : store.Appends kept) {s : σ} (hok : ok s)
    {d : Dispatcher} {workers workers' capacity capacity' : Nat}
    {started started' : Step (Pipeline σ) Unit}
    (hstart : start? d workers capacity s = some started)
    (hstart' : start? d workers' capacity' s = some started') (calls : List Call)
    {plans : List (List Wish)} {moves moves' : List MoveRequest}
    (hmoves : Interleaving (asked plans) moves) (hmoves' : Interleaving (asked plans) moves')
    {xs ys : List (Exchange σ)} {done done' : Pipeline σ}
    (hxs : Led store { started.state with calls } moves xs done)
    (hys : Led store { started'.state with calls } moves' ys done')
    (hroom : (traceOf { started.state with calls } xs).flatMap Mark.dropped = [])
    (hroom' : (traceOf { started'.state with calls } ys).flatMap Mark.dropped = []) :
    (kept done.store).Perm (kept done'.store) ∧ done.calls = done'.calls ∧
      (∀ i, replies i xs = replies i ys) ∧ done.writer.stats = done'.writer.stats ∧
      (workers ≤ 1 → kept done.store = kept s ++ (entries d calls moves).filter keeps) := by
  have hwishes (i : Nat) : wishes i moves = wishes i moves' := by
    rw [wishes_of_interleaving hmoves, wishes_of_interleaving hmoves']
  have hended : (entries d calls moves).Perm (entries d calls moves') := entries_perm d calls hwishes
  have hstored := hended.filter keeps
  obtain ⟨hperm, horder, hstats⟩ := hxs.outcome hdecides hkept hok hstart hroom
  obtain ⟨hperm', -, hstats'⟩ := hys.outcome hdecides hkept hok hstart' hroom'
  refine ⟨?_, ?_, fun i => ?_, ?_, horder⟩
  · exact hperm.trans ((hstored.append_left _).trans hperm'.symm)
  · rw [hxs.calls, hys.calls]
    exact movedAll_congr calls hwishes
  · rw [hxs.replies_eq, hys.replies_eq, hwishes]
  · rw [hstats, hstats', hended.length_eq, hstored.length_eq]

/-- Two calls that end in one order or in the other, with a third one between them whose record crashes
the store: once with one worker that runs now and then, once with two that run in the end. -/
theorem orderings_agree_both_ways :
    let call (number : String) : Call :=
      .start default true (some (.tel number)) ⟨0, by decide, by decide⟩
    let calls := [call "1", call "2", call "7"]
    let ring : Wish := ⟨.ringing, ⟨1, by decide, by decide⟩⟩
    let hold : Wish := ⟨.onHold, ⟨2, by decide, by decide⟩⟩
    let finish : Wish := ⟨.aborted, ⟨3, by decide, by decide⟩⟩
    let plans := [[ring, finish], [hold, finish], [finish]]
    let moves := [ring.request 0, hold.request 1, finish.request 1, finish.request 2, finish.request 0]
    let moves' := [ring.request 0, finish.request 0, finish.request 2, hold.request 1, finish.request 1]
    let store := Memory.store.behind [("7", .crash)]
    let start (workers capacity : Nat) : Pipeline Memory :=
      { dispatcher := ⟨⟨false⟩, .standard⟩
        writer := { capacity, workers }
        store := { supply := ⟨Uuid.ofNat, fun _ => default, 0⟩ } }
    let p := { start 1 2 with calls }
    let p' := { start 2 3 with calls }
    let requests := [(ring.request 0).request, (hold.request 1).request, (finish.request 1).request,
      .drain, (finish.request 2).request, (finish.request 0).request]
    let requests' := moves'.map MoveRequest.request
    let done := (run store (requests ++ [.shutdown]) p).state
    let done' := (run store (requests' ++ [.shutdown]) p').state
    Interleaving (asked plans) moves ∧ Interleaving (asked plans) moves' ∧
      done.store.records.Perm done'.store.records ∧
      done.store.records.map Record.number = [some "2", some "1"] ∧
      done'.store.records.map Record.number = [some "1", some "2"] ∧
      done.calls = done'.calls ∧ done.calls.map Call.state = [.aborted, .aborted, .aborted] ∧
      replies 1 (Pipeline.exchanges store (requests ++ [.shutdown]) p) =
        replies 1 (Pipeline.exchanges store (requests' ++ [.shutdown]) p') ∧
      done.writer.stats = done'.writer.stats ∧ done.writer.stats = ⟨3, 2, 1, 0⟩ := by
  intro call calls ring hold finish plans moves moves' store start p p' requests requests' done done'
  have hmoves : Interleaving (asked plans) moves :=
    @Interleaving.next _ [] _ _ _ _ <| @Interleaving.next _ [[finish.request 0]] _ _ _ _ <|
      @Interleaving.next _ [[finish.request 0]] _ _ _ _ <|
      @Interleaving.next _ [[finish.request 0], []] _ _ _ _ <|
      @Interleaving.next _ [] _ _ _ _ <| .done (by decide)
  have hmoves' : Interleaving (asked plans) moves' :=
    @Interleaving.next _ [] _ _ _ _ <| @Interleaving.next _ [] _ _ _ _ <|
      @Interleaving.next _ [[], [hold.request 1, finish.request 1]] _ _ _ _ <|
      @Interleaving.next _ [[]] _ _ _ _ <| @Interleaving.next _ [[]] _ _ _ _ <| .done (by decide)
  have hled : Led store p moves _ done := led_run store p requests (by decide) (by decide)
  have hled' : Led store p' moves' _ done' := led_run store p' requests' (by decide) (by decide)
  have hstart : start? p.dispatcher 1 2 p.store =
      some ⟨(), start 1 2, .of [.writerStarted 1 2] ++ (register p.dispatcher []).report⟩ := rfl
  have hstart' : start? p.dispatcher 2 3 p.store =
      some ⟨(), start 2 3, .of [.writerStarted 2 3] ++ (register p.dispatcher []).report⟩ := rfl
  obtain ⟨hperm, hcalls, hreplies, hstats, horder⟩ :=
    orderings_agree (Memory.behind_decides [("7", .crash)] false) (Memory.behind_appends _) rfl hstart
      hstart' calls hmoves hmoves' hled hled' (by decide) (by decide)
  refine ⟨hmoves, hmoves', hperm, ?_, ?_, hcalls, ?_, hreplies 1, hstats, ?_⟩
  · rw [horder (by decide)]
    decide
  · decide
  · decide
  · decide

end Pipeline
end CallHistory
