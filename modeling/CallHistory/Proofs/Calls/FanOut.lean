import CallHistory.Call.Watcher
import CallHistory.Proofs.Calls.Ending

/-! # Telling listeners, once each and in order

Whatever its listeners do, a request that moves a call tells those that were registered when it was
made, in order, until one of them crashes. What listeners hear can be noted without changing
anything; the laws here are about these notes and hold at every request of a run, by which time the
list has grown by all that was registered before.
-/

namespace CallHistory

variable {ℓ σ : Type}

structure Hearing (ℓ : Type) where
  place : Nat
  listener : ℓ
  transition : Transition
  added : List ℓ
  crashed : Bool
  deriving DecidableEq

def Behaviour.noting (react : Behaviour ℓ σ) : Behaviour ℓ (σ × List (Hearing ℓ)) :=
  fun place l t s =>
    let reaction := react place l t s.1
    { state := (reaction.state, s.2 ++ [⟨place, l, t, reaction.added, reaction.crashed⟩])
      added := reaction.added
      crashed := reaction.crashed
      report := reaction.report }

/-- Of a transition, the listeners from the one at place `first` on were told like this: in order and
each once, up to and including the first that crashed, or all of them. -/
structure Told (t : Transition) (first : Nat) (listeners : List ℓ) (heard : List (Hearing ℓ)) :
    Prop where
  inOrder : heard.map Hearing.listener <+: listeners
  places : heard.map Hearing.place = List.range' first heard.length
  same : ∀ h ∈ heard, h.transition = t
  unharmed : ∀ h ∈ heard.dropLast, h.crashed = false
  complete : heard.map Hearing.listener = listeners ∨
    ∃ h, heard.getLast? = some h ∧ h.crashed = true

theorem told_nil (t : Transition) (first : Nat) : Told t first ([] : List ℓ) [] where
  inOrder := List.nil_prefix
  places := rfl
  same := List.forall_mem_nil _
  unharmed := List.forall_mem_nil _
  complete := .inl rfl

theorem told_crashed (t : Transition) (first : Nat) (l : ℓ) (rest added : List ℓ) :
    Told t first (l :: rest) [⟨first, l, t, added, true⟩] where
  inOrder := List.cons_prefix_cons.mpr ⟨rfl, List.nil_prefix⟩
  places := rfl
  same := by simp
  unharmed := List.forall_mem_nil _
  complete := .inr ⟨_, rfl, rfl⟩

theorem Told.cons {t : Transition} {first : Nat} {rest : List ℓ} {heard : List (Hearing ℓ)}
    (h : Told t (first + 1) rest heard) (l : ℓ) (added : List ℓ) :
    Told t first (l :: rest) (⟨first, l, t, added, false⟩ :: heard) where
  inOrder := List.cons_prefix_cons.mpr ⟨rfl, h.inOrder⟩
  places := by
    rw [List.map_cons, h.places]
    exact List.range'_succ.symm
  same := List.forall_mem_cons.mpr ⟨rfl, h.same⟩
  unharmed := by
    cases heard with
    | nil => exact List.forall_mem_nil _
    | cons h' heard => exact List.forall_mem_cons.mpr ⟨rfl, h.unharmed⟩
  complete := by
    cases h.complete with
    | inl hall =>
      left
      rw [List.map_cons, hall]
    | inr hcrash =>
      obtain ⟨last, hlast, hcrashed⟩ := hcrash
      refine .inr ⟨last, ?_, hcrashed⟩
      rw [List.getLast?_cons, hlast]
      rfl

@[simp] theorem registerAll_state (added listeners : List ℓ) :
    (registerAll added listeners).state = listeners ++ added := by
  induction added generalizing listeners with
  | nil => exact (List.append_nil listeners).symm
  | cons l rest ih =>
    unfold registerAll
    rw [ih]
    simp [register]

theorem tell_noting (react : Behaviour ℓ σ) (t : Transition) (rest : List ℓ) (place : Nat)
    (listeners : List ℓ) (s : σ) (notes : List (Hearing ℓ)) :
    let told := tell react.noting t place rest (listeners, s, notes)
    ∃ heard, Told t place rest heard ∧ told.state.1 = listeners ++ heard.flatMap Hearing.added ∧
      told.state.2.2 = notes ++ heard ∧ told.answer = !heard.any Hearing.crashed := by
  induction rest generalizing place listeners s notes with
  | nil => exact ⟨[], told_nil t place, by simp [tell], by simp [tell], rfl⟩
  | cons l rest ih =>
    cases hcrashed : (react place l t s).crashed with
    | true =>
      refine ⟨[⟨place, l, t, (react place l t s).added, true⟩], told_crashed t place l rest _, ?_⟩
      simp [tell, Behaviour.noting, hcrashed]
    | false =>
      have hrest := ih (place + 1) (listeners ++ (react place l t s).added) (react place l t s).state
        (notes ++ [⟨place, l, t, (react place l t s).added, false⟩])
      obtain ⟨heard, htold, hlisteners, hnotes, hanswer⟩ := hrest
      refine ⟨_, htold.cons l (react place l t s).added, ?_⟩
      simp [tell, Behaviour.noting, hcrashed, hlisteners, hnotes, hanswer]

/-- Noting what listeners hear changes nothing else. -/
theorem tell_noting_forget (react : Behaviour ℓ σ) (t : Transition) (rest : List ℓ) (place : Nat)
    (listeners : List ℓ) (s : σ) (notes : List (Hearing ℓ)) :
    let told := tell react.noting t place rest (listeners, s, notes)
    (⟨told.answer, (told.state.1, told.state.2.1), told.report⟩ : Step (List ℓ × σ) Bool) =
      tell react t place rest (listeners, s) := by
  induction rest generalizing place listeners s notes with
  | nil => rfl
  | cons l rest ih =>
    cases hcrashed : (react place l t s).crashed with
    | true => simp [tell, Behaviour.noting, hcrashed]
    | false =>
      have hrest := ih (place + 1) (listeners ++ (react place l t s).added) (react place l t s).state
        (notes ++ [⟨place, l, t, (react place l t s).added, false⟩])
      simp [tell, Behaviour.noting, hcrashed, ← hrest]

namespace MoveRequest

theorem serve_accepted (react : Behaviour ℓ σ) {q : MoveRequest} {calls : List Call} {c : Call}
    (hc : calls[q.call]? = some c) (hmove : c.state.canMoveTo q.target = true) (s : List ℓ × σ) :
    q.serve react (calls, s) =
      (calls.set q.call (c.moved q.target q.now),
        (tell react ⟨(c.moved q.target q.now).info q.now, c.state, q.target⟩ 0 s.1 s).state) := by
  unfold serve
  simp only [hc, Call.setState_accepted react hmove]

theorem serve_refused (react : Behaviour ℓ σ) {q : MoveRequest} {calls : List Call} {c : Call}
    (hc : calls[q.call]? = some c) (hmove : c.state.canMoveTo q.target = false) (s : List ℓ × σ) :
    q.serve react (calls, s) = (calls, s) := by
  obtain ⟨hlt, hget⟩ := List.getElem?_eq_some_iff.mp hc
  unfold serve
  simp only [hc, Call.setState_refused react hmove]
  rw [← hget, List.set_getElem_self hlt]

/-- Whatever its listeners do, a request moves the call that its life cycle lets it move. -/
theorem serve_calls (react : Behaviour ℓ σ) (q : MoveRequest) (calls : List Call) (s : List ℓ × σ) :
    (q.serve react (calls, s)).1 = q.apply calls := by
  cases hc : calls[q.call]? with
  | none => simp [serve, apply, mover?, hc]
  | some c =>
    cases hmove : c.state.canMoveTo q.target with
    | true =>
      have hmover : q.mover? calls = some c := mover?_eq_some.mpr ⟨hc, hmove⟩
      simp [serve_accepted react hc hmove, apply, hmover]
    | false =>
      have hmover : q.mover? calls = none := by simp [mover?, hc, hmove]
      simp [serve_refused react hc hmove, apply, hmover]

theorem serve_noting (react : Behaviour ℓ σ) {q : MoveRequest} {calls : List Call} {c : Call}
    (hc : calls[q.call]? = some c) (hmove : c.state.canMoveTo q.target = true) (listeners : List ℓ)
    (s : σ) (notes : List (Hearing ℓ)) :
    ∃ heard s',
      Told ⟨(c.moved q.target q.now).info q.now, c.state, q.target⟩ 0 listeners heard ∧
      q.serve react.noting (calls, listeners, s, notes) =
        (calls.set q.call (c.moved q.target q.now), listeners ++ heard.flatMap Hearing.added, s',
          notes ++ heard) ∧
      (c.setState react q.target q.now (listeners, s)).answer =
        if heard.any Hearing.crashed then .crashed else .done := by
  let t : Transition := ⟨(c.moved q.target q.now).info q.now, c.state, q.target⟩
  obtain ⟨heard, htold, hlisteners, hnotes, hanswer⟩ :=
    tell_noting react t listeners 0 listeners s notes
  refine ⟨heard, (tell react.noting t 0 listeners (listeners, s, notes)).state.2.1, htold, ?_, ?_⟩
  · rw [serve_accepted _ hc hmove, ← hlisteners, ← hnotes]
  · rw [Call.setState_accepted react hmove]
    change (if (tell react t 0 listeners (listeners, s)).answer then Moved.done else .crashed) = _
    rw [← tell_noting_forget react t listeners 0 listeners s notes]
    change (if (tell react.noting t 0 listeners (listeners, s, notes)).answer then Moved.done
      else .crashed) = _
    rw [hanswer]
    cases heard.any Hearing.crashed <;> rfl

theorem serve_noting_forget (react : Behaviour ℓ σ) (q : MoveRequest) (calls : List Call)
    (listeners : List ℓ) (s : σ) (notes : List (Hearing ℓ)) :
    let noted := q.serve react.noting (calls, listeners, s, notes)
    (noted.1, noted.2.1, noted.2.2.1) = q.serve react (calls, listeners, s) := by
  cases hc : calls[q.call]? with
  | none => simp [serve, hc]
  | some c =>
    cases hmove : c.state.canMoveTo q.target with
    | true =>
      let t : Transition := ⟨(c.moved q.target q.now).info q.now, c.state, q.target⟩
      have htold := tell_noting_forget react t listeners 0 listeners s notes
      rw [serve_accepted _ hc hmove, serve_accepted _ hc hmove, ← htold]
    | false => rw [serve_refused _ hc hmove, serve_refused _ hc hmove]

/-- At any request the list of listeners grows by those that are noted to have been added. -/
theorem serve_noting_listeners (react : Behaviour ℓ σ) (q : MoveRequest) (calls : List Call)
    (listeners : List ℓ) (s : σ) (notes : List (Hearing ℓ)) :
    let noted := q.serve react.noting (calls, listeners, s, notes)
    ∃ heard, noted.2.2.2 = notes ++ heard ∧
      noted.2.1 = listeners ++ heard.flatMap Hearing.added := by
  cases hc : calls[q.call]? with
  | none => exact ⟨[], by simp [serve, hc], by simp [serve, hc]⟩
  | some c =>
    cases hmove : c.state.canMoveTo q.target with
    | true =>
      obtain ⟨heard, s', -, hserve, -⟩ := serve_noting react hc hmove listeners s notes
      rw [hserve]
      exact ⟨heard, rfl, rfl⟩
    | false =>
      rw [serve_refused _ hc hmove]
      exact ⟨[], (List.append_nil _).symm, (List.append_nil _).symm⟩

end MoveRequest

/-- Requests in front of listeners that note what they hear: all is as without notes, the calls move
as their life cycles let them, and the list of listeners grows by those that are added. -/
theorem serveAll_noting (react : Behaviour ℓ σ) (requests : List MoveRequest) (calls : List Call)
    (listeners : List ℓ) (s : σ) (notes : List (Hearing ℓ)) :
    let noted := serveAll react.noting requests (calls, listeners, s, notes)
    (noted.1, noted.2.1, noted.2.2.1) = serveAll react requests (calls, listeners, s) ∧
      noted.1 = movedAll calls requests ∧
      ∃ heard, noted.2.2.2 = notes ++ heard ∧
        noted.2.1 = listeners ++ heard.flatMap Hearing.added := by
  induction requests generalizing calls listeners s notes with
  | nil => exact ⟨rfl, rfl, [], by simp [serveAll], by simp [serveAll]⟩
  | cons q rest ih =>
    have hforget := q.serve_noting_forget react calls listeners s notes
    have hcalls := q.serve_calls react.noting calls (listeners, s, notes)
    obtain ⟨heard, hnotes, hlisteners⟩ := q.serve_noting_listeners react calls listeners s notes
    rcases hserve : q.serve react.noting (calls, listeners, s, notes) with
      ⟨calls', listeners', s', notes'⟩
    rw [hserve] at hforget hcalls hnotes hlisteners
    obtain ⟨hrun, hmoved, later, hlater, hadded⟩ := ih calls' listeners' s' notes'
    simp only [serveAll, movedAll, List.foldl_cons, hserve, ← hforget, ← hcalls]
    refine ⟨hrun, hmoved, heard ++ later, ?_, ?_⟩
    · rw [← List.append_assoc, ← hnotes]
      exact hlater
    · rw [List.flatMap_append, ← List.append_assoc, ← hlisteners]
      exact hadded

/-- Listeners may crash and may register others when they are told something. At every request of a
run an accepted move tells the listeners that were registered when it was asked for, as `Told` says;
the call moves even if one of them crashes, and the list grows by what the listeners that were told
have added, who hear of the moves after this one. Nobody is told of a request that is refused or is
for the state that the call is in, and it changes nothing. -/
theorem listeners_told_of_each_move (react : Behaviour ℓ σ) {calls₀ calls : List Call}
    {listeners₀ listeners : List ℓ} {s₀ s : σ} {notes : List (Hearing ℓ)}
    {before : List MoveRequest} {q : MoveRequest} {c : Call}
    (hbefore : serveAll react.noting before (calls₀, listeners₀, s₀, []) =
      (calls, listeners, s, notes))
    (hc : calls[q.call]? = some c) :
    let t : Transition := ⟨(c.moved q.target q.now).info q.now, c.state, q.target⟩
    let answer := (c.setState react q.target q.now (listeners, s)).answer
    serveAll react before (calls₀, listeners₀, s₀) = (calls, listeners, s) ∧
      calls = movedAll calls₀ before ∧
      listeners = listeners₀ ++ notes.flatMap Hearing.added ∧
      if c.state.canMoveTo q.target then
        ∃ heard s', Told t 0 listeners heard ∧
          q.serve react.noting (calls, listeners, s, notes) =
            (calls.set q.call (c.moved q.target q.now), listeners ++ heard.flatMap Hearing.added,
              s', notes ++ heard) ∧
          answer = if heard.any Hearing.crashed then .crashed else .done
      else
        q.serve react.noting (calls, listeners, s, notes) = (calls, listeners, s, notes) ∧
          answer = c.verdict q.target := by
  intro t answer
  obtain ⟨hrun, hmoved, heard, hnotes, hadded⟩ :=
    serveAll_noting react before calls₀ listeners₀ s₀ []
  rw [hbefore] at hrun hmoved hnotes hadded
  refine ⟨hrun.symm, hmoved, ?_, ?_⟩
  · obtain rfl : notes = heard := hnotes
    exact hadded
  · split
    · rename_i hmove
      exact q.serve_noting react hc hmove listeners s notes
    · rename_i hmove
      have hstay : c.state.canMoveTo q.target = false := by simpa using hmove
      refine ⟨MoveRequest.serve_refused _ hc hstay _, ?_⟩
      change (c.setState react q.target q.now (listeners, s)).answer = _
      rw [Call.setState_refused react hstay]

/-- A watcher that is registered when a call rings would hear that the call is taken, were it not for
the one before it that crashes; the call is taken nevertheless. -/
theorem listeners_told_of_each_move_crash :
    let call : Call := .start default true none ⟨0, by decide, by decide⟩
    let ring : MoveRequest := ⟨0, .ringing, ⟨1, by decide, by decide⟩⟩
    let take : MoveRequest := ⟨0, .active, ⟨2, by decide, by decide⟩⟩
    let ringing := call.moved .ringing ring.now
    let taken := ringing.moved .active take.now
    let watchers : List Watcher := [.adder, .recorder, .crasher]
    let x := serveAll Watcher.react.noting [ring] ([call], watchers, [], [])
    let y := take.serve Watcher.react.noting x
    ∃ heard, Told ⟨taken.info take.now, .ringing, .active⟩ 0 (watchers ++ [.recorder]) heard ∧
      heard.map Hearing.listener = watchers ∧
      y.1 = [taken] ∧ y.2.1 = watchers ++ [.recorder, .recorder] := by
  intro call ring take ringing taken watchers x y
  have hring : x = ([ringing], watchers ++ [.recorder], x.2.2.1, x.2.2.2) := rfl
  have hringing : [ringing][take.call]? = some ringing := rfl
  obtain ⟨-, -, -, h⟩ := listeners_told_of_each_move Watcher.react hring hringing
  have hmove : ringing.state.canMoveTo take.target = true := rfl
  rw [if_pos hmove] at h
  obtain ⟨heard, s', htold, hserve, -⟩ := h
  have hheard : heard = y.2.2.2.drop 3 := by
    have hnotes : y.2.2.2 = x.2.2.2 ++ heard := congrArg (·.2.2.2) hserve
    have hdrop : (x.2.2.2 ++ heard).drop x.2.2.2.length = heard := List.drop_left
    rw [hnotes]
    exact hdrop.symm
  exact ⟨heard, htold, by rw [hheard]; rfl, rfl, rfl⟩

end CallHistory
