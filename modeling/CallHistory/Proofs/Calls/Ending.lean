import CallHistory.Proofs.Calls.Handing
import CallHistory.Proofs.Calls.Interval

/-! # Entries of ended calls

Requests for the states of several calls come in any order, some of them refused and some for the
state that a call is already in. `endings` reads off the requests, by the life cycle alone, which of
them ended a call. A dispatcher that follows the calls hands over the entries of these calls, in
this order and each once, and nothing else.
-/

namespace CallHistory

variable {ℓ σ : Type}

structure MoveRequest where
  call : Nat
  target : CallState
  now : Instant
  deriving DecidableEq

/-- Serves a request; the listeners are told if it moves the call. -/
def MoveRequest.serve (react : Behaviour ℓ σ) (q : MoveRequest) (s : List Call × List ℓ × σ) :
    List Call × List ℓ × σ :=
  match s.1[q.call]? with
  | none => s
  | some c =>
    let set := c.setState react q.target q.now s.2
    (s.1.set q.call set.state.1, set.state.2)

def serveAll (react : Behaviour ℓ σ) (requests : List MoveRequest) (s : List Call × List ℓ × σ) :
    List Call × List ℓ × σ :=
  requests.foldl (fun s q => q.serve react s) s

def Submitter.noting (submit : Submitter σ) : Submitter (σ × List (List Record)) := fun batch s =>
  let sent := submit batch s.1
  ⟨sent.answer, (sent.state, s.2 ++ [batch]), sent.report⟩

theorem Submitter.given_noting (submit : Submitter σ) (s : σ × List (List Record))
    (batch? : Option (List Record)) :
    Dispatcher.given submit.noting s batch? =
      (Dispatcher.given submit s.1 batch?, s.2 ++ batch?.toList) := by
  cases batch? with
  | none => simp [Dispatcher.given]
  | some batch => rfl

namespace MoveRequest

/-- The call that a request moves, if there is such a call and its life cycle has the move. -/
def mover? (q : MoveRequest) (calls : List Call) : Option Call :=
  calls[q.call]?.filter fun c => c.state.canMoveTo q.target

def apply (q : MoveRequest) (calls : List Call) : List Call :=
  match q.mover? calls with
  | some c => calls.set q.call (c.moved q.target q.now)
  | none => calls

theorem mover?_eq_some {q : MoveRequest} {calls : List Call} {c : Call} :
    q.mover? calls = some c ↔ calls[q.call]? = some c ∧ c.state.canMoveTo q.target = true := by
  simp [mover?, Option.filter_eq_some_iff]

theorem apply_ended {q : MoveRequest} {calls : List Call} {i : Nat} {c : Call}
    (hc : calls[i]? = some c) (hend : c.state.isTerminal = true) :
    (q.apply calls)[i]? = some c := by
  unfold apply
  split
  · rename_i c' hm
    obtain ⟨hc', hmove⟩ := mover?_eq_some.mp hm
    have hne : q.call ≠ i := by
      intro he
      rw [he, hc] at hc'
      cases hc'
      rw [CallState.canMoveTo_of_isTerminal hend] at hmove
      exact Bool.noConfusion hmove
    rw [List.getElem?_set_ne hne]
    exact hc
  · exact hc

end MoveRequest

def movedAll (calls : List Call) (requests : List MoveRequest) : List Call :=
  requests.foldl (fun calls q => q.apply calls) calls

theorem movedAll_ended {calls : List Call} {i : Nat} {c : Call} (hc : calls[i]? = some c)
    (hend : c.state.isTerminal = true) (requests : List MoveRequest) :
    (movedAll calls requests)[i]? = some c := by
  induction requests generalizing calls with
  | nil => exact hc
  | cons q rest ih => exact ih (MoveRequest.apply_ended hc hend)

/-- A request that ended a call, with the call as it was before. -/
structure Ending where
  request : MoveRequest
  call : Call

namespace Ending

def index (e : Ending) : Nat := e.request.call

def after (e : Ending) : Call := e.call.moved e.request.target e.request.now

/-- Milliseconds from the creation of the call to its end; none if the end comes first. -/
def age (e : Ending) : Int := max 0 (e.call.created.millisUntil e.request.now)

def entry (e : Ending) : Record where
  contact := none
  number := e.call.handle.map Phone.Handle.logNumber
  presentation := .allowed
  kind := .classify e.call.incoming e.call.state
  start := .ofInt e.call.created.millis
  duration := .ofInt (e.age / 1000)

/-- Whether a dispatcher keeps the entry out: it is one of an emergency call and those are not
allowed. -/
def suppressed (d : Dispatcher) (e : Ending) : Bool :=
  !d.policy.allowEmergency && e.entry.number.any d.emergency.recognizes

def batch? (d : Dispatcher) (e : Ending) : Option (List Record) :=
  if e.suppressed d then none else some [e.entry]

theorem batch?_entry (d : Dispatcher) (e : Ending) : d.batch? e.entry = e.batch? d := by
  unfold Dispatcher.batch? batch? suppressed Policy.permits Dispatcher.isEmergency
  cases e.entry.number.any d.emergency.recognizes <;> cases d.policy.allowEmergency <;> rfl

/-- The record that is built of the transition that ended a call is the entry of the call. -/
theorem record_eq_entry (e : Ending) (h : e.request.target.isTerminal = true) :
    Dispatcher.record ⟨e.after.info e.request.now, e.call.state, e.request.target⟩ = e.entry := by
  have hage : e.after.age e.request.now = e.age := by
    simp [after, Call.moved, Call.age, age, h, Int.max_comm]
  have hseconds : Record.wholeSeconds (.ofInt (e.after.age e.request.now)) = .ofInt (e.age / 1000) := by
    rw [← hage, ← Record.toInt_wholeSeconds_age, Int64.ofInt_toInt]
  unfold Dispatcher.record Record.ofCall Record.make entry
  simp only [Call.info, hseconds]
  rfl

end Ending

/-- What a request ended: an accepted one for one of the two terminal states ends the call. -/
def MoveRequest.ending? (q : MoveRequest) (calls : List Call) : Option Ending :=
  if q.target.isTerminal then (q.mover? calls).map (Ending.mk q) else none

def endings : List Call → List MoveRequest → List Ending
  | _, [] => []
  | calls, q :: rest => (q.ending? calls).toList ++ endings (q.apply calls) rest

theorem batchOf?_transition (d : Dispatcher) (q : MoveRequest) {calls : List Call} {c : Call}
    (hm : q.mover? calls = some c) :
    (c.transition? q.target q.now).bind d.batchOf? = (q.ending? calls).bind (Ending.batch? d) := by
  have hmove := (MoveRequest.mover?_eq_some.mp hm).2
  simp only [Call.transition?, hmove, if_true, Option.bind_some, Dispatcher.batchOf?,
    Transition.isTerminal, MoveRequest.ending?, hm]
  by_cases ht : q.target.isTerminal = true
  · have hrecord := (Ending.mk q c).record_eq_entry ht
    simp only [ht, if_true, Option.map_some, Option.bind_some]
    rw [← Ending.batch?_entry, ← hrecord]
    rfl
  · simp [ht]

/-- One request in front of a dispatcher: the call moves, and the entry of an ended call is handed
over. -/
theorem serve_listening (d : Dispatcher) (submit : Submitter σ) (q : MoveRequest)
    (calls : List Call) (s : σ) :
    q.serve (Dispatcher.listening submit) (calls, [d], s) =
      (q.apply calls, [d],
        Dispatcher.given submit s ((q.ending? calls).bind (Ending.batch? d))) := by
  unfold MoveRequest.serve
  cases hc : calls[q.call]? with
  | none =>
    have hm : q.mover? calls = none := by simp [MoveRequest.mover?, hc]
    simp [MoveRequest.apply, MoveRequest.ending?, hm, Dispatcher.given]
  | some c =>
    simp only [Call.setState_listening]
    by_cases hmove : c.state.canMoveTo q.target = true
    · have hm : q.mover? calls = some c := MoveRequest.mover?_eq_some.mpr ⟨hc, hmove⟩
      rw [batchOf?_transition d q hm]
      simp only [MoveRequest.apply, hm, hmove, if_true]
    · have hm : q.mover? calls = none := by simp [MoveRequest.mover?, hc, hmove]
      have hself : calls.set q.call c = calls := by
        obtain ⟨hlt, hget⟩ := List.getElem?_eq_some_iff.mp hc
        rw [← hget]
        exact List.set_getElem_self hlt
      simp [MoveRequest.apply, MoveRequest.ending?, Call.transition?, hm, hmove, hself]

theorem serveAll_listening (d : Dispatcher) (submit : Submitter σ) (requests : List MoveRequest)
    (calls : List Call) (s : σ × List (List Record)) :
    let served := serveAll (Dispatcher.listening submit.noting) requests (calls, [d], s)
    served.1 = movedAll calls requests ∧
      served.2.2.2 = s.2 ++ (endings calls requests).filterMap (Ending.batch? d) := by
  induction requests generalizing calls s with
  | nil => simp [serveAll, movedAll, endings]
  | cons q rest ih =>
    have hserve := serve_listening d submit.noting q calls s
    rw [Submitter.given_noting] at hserve
    have h := ih (q.apply calls)
      (Dispatcher.given submit s.1 ((q.ending? calls).bind (Ending.batch? d)),
        s.2 ++ ((q.ending? calls).bind (Ending.batch? d)).toList)
    simp only [serveAll, movedAll, List.foldl_cons, hserve] at h ⊢
    refine ⟨h.1, ?_⟩
    rw [h.2, endings, List.filterMap_append, ← List.append_assoc]
    congr 2
    cases q.ending? calls with
    | none => rfl
    | some e => cases he : e.batch? d <;> simp [he]

theorem filterMap_batch? (d : Dispatcher) (ended : List Ending) :
    ended.filterMap (Ending.batch? d) =
      (ended.filter fun e => !e.suppressed d).map fun e => [e.entry] := by
  induction ended with
  | nil => rfl
  | cons e rest ih => cases he : e.suppressed d <;> simp [Ending.batch?, he, ih]

/-- What a request ended was a call of its own, and has the end of the request from then on. -/
theorem ending?_eq_some {q : MoveRequest} {calls : List Call} {e : Ending}
    (h : q.ending? calls = some e) :
    e.request = q ∧ calls[e.index]? = some e.call ∧ e.call.state.isTerminal = false ∧
      e.after.state.isTerminal = true ∧ (q.apply calls)[e.index]? = some e.after := by
  unfold MoveRequest.ending? at h
  split at h
  · rename_i ht
    obtain ⟨c, hm, rfl⟩ := Option.map_eq_some_iff.mp h
    obtain ⟨hc, hmove⟩ := MoveRequest.mover?_eq_some.mp hm
    refine ⟨rfl, hc, CallState.isTerminal_of_canMoveTo hmove, ht, ?_⟩
    obtain ⟨hlt, _⟩ := List.getElem?_eq_some_iff.mp hc
    simp only [MoveRequest.apply, hm, Ending.index, Ending.after]
    exact List.getElem?_set_self hlt
  · cases h

theorem index_ne_of_ended {calls : List Call} {i : Nat} {c : Call} (hc : calls[i]? = some c)
    (hend : c.state.isTerminal = true) (requests : List MoveRequest) :
    ∀ e ∈ endings calls requests, e.index ≠ i := by
  induction requests generalizing calls with
  | nil => simp [endings]
  | cons q rest ih =>
    intro e he
    rw [endings, List.mem_append, Option.mem_toList] at he
    cases he with
    | inl he =>
      intro hi
      obtain ⟨-, hcall, hlive, -⟩ := ending?_eq_some he
      rw [hi, hc] at hcall
      cases hcall
      rw [hend] at hlive
      exact Bool.noConfusion hlive
    | inr he => exact ih (MoveRequest.apply_ended hc hend) e he

theorem endings_index_nodup (calls : List Call) (requests : List MoveRequest) :
    ((endings calls requests).map Ending.index).Nodup := by
  induction requests generalizing calls with
  | nil => simp [endings]
  | cons q rest ih =>
    rw [endings]
    cases he : q.ending? calls with
    | none => exact ih _
    | some e =>
      obtain ⟨-, -, -, hend, hafter⟩ := ending?_eq_some he
      have hfresh := index_ne_of_ended hafter hend rest
      simp only [Option.toList_some, List.singleton_append, List.map_cons, List.nodup_cons]
      refine ⟨?_, ih _⟩
      intro hmem
      obtain ⟨e', he', hi⟩ := List.mem_map.mp hmem
      exact hfresh e' he' hi

theorem movedAll_of_mem_endings {calls : List Call} {requests : List MoveRequest} {e : Ending}
    (he : e ∈ endings calls requests) :
    (movedAll calls requests)[e.index]? = some e.after ∧ e.after.state.isTerminal = true := by
  induction requests generalizing calls with
  | nil => simp [endings] at he
  | cons q rest ih =>
    rw [endings, List.mem_append, Option.mem_toList] at he
    cases he with
    | inl he =>
      obtain ⟨-, -, -, hend, hafter⟩ := ending?_eq_some he
      exact ⟨movedAll_ended hafter hend rest, hend⟩
    | inr he => exact ih he

theorem age_of_mem_endings {calls : List Call} {requests : List MoveRequest} {e : Ending}
    (he : e ∈ endings calls requests) (now : Instant) :
    (movedAll calls requests)[e.index]?.map (·.age now) = some e.age := by
  obtain ⟨hafter, hend⟩ := movedAll_of_mem_endings he
  have htarget : e.request.target.isTerminal = true := hend
  rw [hafter, Option.map_some]
  simp [Ending.after, Call.moved, Call.age, Ending.age, htarget, Int.max_comm]

theorem Ending.toInt_duration (e : Ending) : e.entry.duration.toInt = e.age / 1000 := by
  have h := e.call.created.millisUntil_bounds e.request.now
  have hrange : 0 ≤ e.age ∧ e.age ≤ 16544868105600000 := by
    unfold Ending.age
    omega
  exact Int64.toInt_ofInt_of_le (by omega) (by omega)

/-- What is handed over of a run of requests is the entry of every call that the run ended, each as
a batch of its own and in the order in which the calls ended, except for suppressed ones. A call
ends once and its age does not change from then on. The start of its entry is the creation in whole
milliseconds. Its age is the time from there to the end, in whole milliseconds again and none if the
end comes first, and the duration is the whole seconds of the age. -/
theorem one_entry_for_each_ended_call (d : Dispatcher) (submit : Submitter σ) (s : σ)
    (calls : List Call) (requests : List MoveRequest) :
    let served := serveAll (Dispatcher.listening submit.noting) requests (calls, [d], s, [])
    let ended := endings calls requests
    served.2.2.2 = (ended.filter fun e => !e.suppressed d).map (fun e => [e.entry]) ∧
      (ended.map Ending.index).Nodup ∧
      (∀ now, ended.map (fun e => served.1[e.index]?.map (·.age now)) =
        ended.map (fun e => some e.age)) ∧
      ∀ e : Ending, e.entry.start.toInt = e.call.created.nanos / 1000000 ∧
        e.age = max 0 ((e.request.now.nanos - e.call.created.nanos).tdiv 1000000) ∧
        e.entry.duration.toInt =
          max 0 ((e.request.now.nanos - e.call.created.nanos).tdiv 1000000) / 1000 := by
  intro served ended
  obtain ⟨hcalls, hhanded⟩ := serveAll_listening d submit requests calls (s, [])
  refine ⟨?_, endings_index_nodup calls requests, ?_, ?_⟩
  · change served.2.2.2 = [] ++ ended.filterMap (Ending.batch? d) at hhanded
    rw [hhanded, List.nil_append, ← List.filterMap_eq_map, List.filterMap_filter]
    congr 1
    funext e
    cases he : e.suppressed d <;> simp [Ending.batch?, he]
  · intro now
    apply List.map_congr_left
    intro e he
    change served.1 = movedAll calls requests at hcalls
    rw [hcalls]
    exact age_of_mem_endings he now
  · intro e
    exact ⟨e.call.created.toInt_millis, rfl, e.toInt_duration⟩

end CallHistory
