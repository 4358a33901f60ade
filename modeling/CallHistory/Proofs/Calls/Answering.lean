import CallHistory.Proofs.Calls.Visits

/-! # Missed calls

The kind of an entry is told from the state that the call left when it ended. A call rings only when
it has just been created, so an incoming call that rang until it ended was missed, and one that was
answered has left another state, however often it was held since.
-/

namespace CallHistory

variable {σ : Type}

namespace CallKind

theorem classify_eq_missed_iff (incoming : Bool) (left : CallState) :
    classify incoming left = .missed ↔ incoming = true ∧ left = .ringing := by
  unfold classify
  cases incoming <;> by_cases hleft : left = .ringing <;> simp [hleft]

theorem classify_eq_outgoing_iff (incoming : Bool) (left : CallState) :
    classify incoming left = .outgoing ↔ incoming = false := by
  unfold classify
  cases incoming <;> by_cases hleft : left = .ringing <;> simp [hleft]

theorem classify_of_answered {left : CallState} (h : left ≠ .ringing) :
    classify true left = .incoming := by
  simp [classify, h]

end CallKind

namespace CallState

variable {s t : CallState} {l : List CallState}

/-- No call becomes new, and none but a new one begins to ring. -/
theorem ne_of_canMoveTo (h : s.canMoveTo t = true) : t ≠ new ∧ (t = ringing → s = new) := by
  revert h
  cases s <;> cases t <;> decide

theorem IsPath.ringing_not_mem (h : IsPath (s :: l)) (hs : s ≠ new) : ringing ∉ l := by
  induction l generalizing s with
  | nil => exact List.not_mem_nil
  | cons t l ih =>
    obtain ⟨hmove, hrest⟩ := isPath_cons.mp h
    obtain ⟨hnew, hring⟩ := ne_of_canMoveTo hmove
    rw [List.mem_cons, not_or]
    exact ⟨fun ht => hs (hring ht.symm), ih hrest hnew⟩

theorem IsPath.eq_nil_of_ringing {before after : List CallState}
    (h : IsPath (new :: before ++ ringing :: after)) : before = [] := by
  cases before with
  | nil => rfl
  | cons t before =>
    obtain ⟨hmove, hrest⟩ := isPath_cons.mp h
    have hmem : ringing ∈ before ++ ringing :: after := by simp
    exact absurd hmem (hrest.ringing_not_mem (ne_of_canMoveTo hmove).1)

/-- The state that a call left when it ended is ringing just if it visited nothing else. -/
theorem IsPath.left_ringing_iff {before : List CallState} {left last : CallState}
    (h : IsPath (s :: l)) (hs : s = new) (hlast : last.isTerminal = true)
    (hsplit : s :: l = before ++ [left, last]) :
    left = ringing ↔ ∃ t, t.isTerminal = true ∧ s :: l = [new, ringing, t] := by
  constructor
  · rintro rfl
    cases before with
    | nil =>
      obtain rfl : s = ringing := (List.cons.inj hsplit).1
      cases hs
    | cons u before =>
      obtain rfl : s = u := (List.cons.inj hsplit).1
      rw [hsplit, hs] at h
      rw [hsplit, h.eq_nil_of_ringing, hs]
      exact ⟨last, hlast, rfl⟩
  · rintro ⟨t, -, ht⟩
    rw [hsplit] at ht
    have hlasts := congrArg (List.take 2 ∘ List.reverse) ht
    simp at hlasts
    exact hlasts.2

end CallState

/-- A call that comes to its end has one: the attempt that ended it leaves the last but one of the
states that the call visits for the last. -/
theorem Call.exists_ends {c : Call} (hlive : c.state.isTerminal = false) {wishes : List Wish}
    (hend : (c.course wishes).state.isTerminal = true) :
    ∃ left w before, c.ends wishes = [(left, w)] ∧ c.course wishes = left.moved w.target w.now ∧
      w.target.isTerminal = true ∧
      c.state :: c.state.entered (wishes.map Wish.target) = before ++ [left.state, w.target] := by
  induction wishes generalizing c with
  | nil =>
    change c.state.isTerminal = true at hend
    rw [hlive] at hend
    exact Bool.noConfusion hend
  | cons w rest ih =>
    rw [course_cons] at hend ⊢
    rw [ends_cons, List.map_cons]
    by_cases hmove : c.state.canMoveTo w.target = true
    · rw [tried_accepted hmove] at hend ⊢
      rw [CallState.entered_accepted hmove]
      by_cases hover : w.target.isTerminal = true
      · have hmoved : (c.moved w.target w.now).state.isTerminal = true := hover
        rw [course_of_isTerminal hmoved, ends_of_isTerminal hmoved,
          CallState.entered_of_isTerminal hover]
        exact ⟨c, w, [], by simp [hmove, hover], rfl, hover, rfl⟩
      · have hlives : (c.moved w.target w.now).state.isTerminal = false :=
          Bool.eq_false_iff.mpr hover
        obtain ⟨left, w', before, hends, hcourse, htarget, hstates⟩ := ih hlives hend
        refine ⟨left, w', c.state :: before, ?_, hcourse, htarget, ?_⟩
        · simpa [hover] using hends
        · exact congrArg (c.state :: ·) hstates
    · have hstay : c.state.canMoveTo w.target = false := by simpa using hmove
      rw [tried_refused hstay] at hend ⊢
      rw [CallState.entered_refused hstay]
      simpa [hstay] using ih hlive hend

theorem Call.exists_ends_classified {c : Call} (hnew : c.state = .new) {wishes : List Wish}
    (hend : (c.course wishes).state.isTerminal = true) :
    ∃ left w, c.ends wishes = [(left, w)] ∧ c.course wishes = left.moved w.target w.now ∧
      let seen := c.state :: c.state.entered (wishes.map Wish.target)
      let kind := CallKind.classify left.incoming left.state
      (kind = .missed ↔
          left.incoming = true ∧ ∃ t, t.isTerminal = true ∧ seen = [.new, .ringing, t]) ∧
        (kind = .outgoing ↔ left.incoming = false) ∧
        (left.incoming = true → .active ∈ seen ∨ .onHold ∈ seen → kind = .incoming) := by
  have hlive : c.state.isTerminal = false := by
    rw [hnew]
    rfl
  obtain ⟨left, w, before, hends, hcourse, htarget, hstates⟩ := exists_ends hlive hend
  have hleft := CallState.IsPath.left_ringing_iff (CallState.isPath_entered c.state _) hnew htarget
    hstates
  refine ⟨left, w, hends, hcourse, ?_, CallKind.classify_eq_outgoing_iff _ _, ?_⟩
  · rw [← hleft]
    exact CallKind.classify_eq_missed_iff left.incoming left.state
  · intro hincoming hanswered
    have hnot : left.state ≠ .ringing := by
      intro hring
      obtain ⟨t, ht, hall⟩ := hleft.mp hring
      rw [hall] at hanswered
      revert ht hanswered
      cases t <;> decide
    rw [hincoming]
    exact CallKind.classify_of_answered hnot

/-- Missed means that the call rang and was never answered. Calls are new at first and asked for any
states, with a dispatcher following them. What is handed over is the entries of the calls that ended,
but for the suppressed ones, and every call that is over in the end has one of them. The entry says
missed just if the call came in and visited new, ringing and its end, and it says outgoing just if the
call did not come in; so a call that came in and was ever active or on hold is logged as incoming. -/
theorem missed_iff_only_rang (d : Dispatcher) (submit : Submitter σ) (s : σ) {calls : List Call}
    (hnew : ∀ c ∈ calls, c.state = .new) (requests : List MoveRequest) :
    let react := Dispatcher.listening submit.noting
    let served := serveAll react requests (calls, [d], s, [])
    let ended := endings calls requests
    served.2.2.2 = (ended.filter fun e => !e.suppressed d).map (fun e => [e.entry]) ∧
      ∀ i c, served.1[i]? = some c → c.state.isTerminal = true →
        ∃ e, ended.filter (·.index = i) = [e] ∧ e.after = c ∧
          let seen := visited react i requests (calls, [d], s, [])
          (e.entry.kind = .missed ↔
              c.incoming = true ∧ ∃ t, t.isTerminal = true ∧ seen = [.new, .ringing, t]) ∧
            (e.entry.kind = .outgoing ↔ c.incoming = false) ∧
            (c.incoming = true → .active ∈ seen ∨ .onHold ∈ seen → e.entry.kind = .incoming) := by
  intro react served ended
  obtain ⟨hcalls, hhanded⟩ := serveAll_listening d submit requests calls (s, [])
  refine ⟨?_, fun i c hc hover => ?_⟩
  · change served.2.2.2 = [] ++ ended.filterMap (Ending.batch? d) at hhanded
    rw [hhanded, List.nil_append, filterMap_batch?]
  · change served.1 = movedAll calls requests at hcalls
    rw [hcalls, getElem?_movedAll] at hc
    obtain ⟨first, hfirst, rfl⟩ := Option.map_eq_some_iff.mp hc
    obtain ⟨left, w, hends, hcourse, hkind⟩ :=
      Call.exists_ends_classified (hnew first (List.mem_of_getElem? hfirst)) hover
    refine ⟨Ending.ofAttempt i (left, w), ?_, hcourse.symm, ?_⟩
    · rw [endings_filter_index, hfirst, Option.toList_some, List.flatMap_singleton, hends]
      rfl
    · rw [hcourse, visited_eq react hfirst]
      exact hkind

/-- Of three calls that ring at first one is not answered, one is held and resumed in between wrong
requests, and the last one rings but did not come in. -/
theorem missed_iff_only_rang_three :
    let now : Instant := ⟨0, by decide, by decide⟩
    let calls : List Call :=
      [.start default true none now, .start default true none now, .start default false none now]
    let requests : List MoveRequest := [⟨0, .ringing, now⟩, ⟨1, .ringing, now⟩, ⟨2, .ringing, now⟩,
      ⟨0, .onHold, now⟩, ⟨1, .active, now⟩, ⟨1, .ringing, now⟩, ⟨1, .onHold, now⟩, ⟨1, .active, now⟩,
      ⟨0, .aborted, now⟩, ⟨2, .disconnected, now⟩, ⟨1, .disconnected, now⟩]
    let d : Dispatcher := ⟨⟨false⟩, ⟨["112"]⟩⟩
    let submit : Submitter Unit := fun _ s => ⟨.crashed, s, {}⟩
    (∀ c ∈ calls, c.state = .new) ∧
      (serveAll (Dispatcher.listening submit.noting) requests (calls, [d], (), [])).2.2.2.map
          (·.map Record.kind) = [[.missed], [.outgoing], [.incoming]] ∧
      ∃ e, (endings calls requests).filter (·.index = 1) = [e] ∧ e.entry.kind = .incoming := by
  intro now calls requests d submit
  have hnew : ∀ c ∈ calls, c.state = .new := by decide
  obtain ⟨hhanded, hentries⟩ := missed_iff_only_rang d submit () hnew requests
  have hcall : (serveAll (Dispatcher.listening submit.noting) requests (calls, [d], (), [])).1[1]? =
      some ⟨default, true, none, .disconnected, now, some now⟩ := by
    rw [(serveAll_listening d submit requests calls ((), [])).1]
    decide
  obtain ⟨e, hended, -, -, -, hanswered⟩ := hentries 1 _ hcall rfl
  refine ⟨hnew, ?_, e, hended, hanswered rfl (.inl (by decide))⟩
  rw [hhanded]
  decide

end CallHistory
