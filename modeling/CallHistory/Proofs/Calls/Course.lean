import CallHistory.Proofs.Calls.Handing
import CallHistory.Proofs.Calls.Interval

/-! # The course of a call

A call by itself is asked for states at clock readings that need not be in order. It ends at most
once, and the reading at which it does is its end. From then on nothing that is asked of it changes
it, so its age stands still; until then its age follows the clock.
-/

namespace CallHistory

variable {ℓ σ : Type}

/-- A state that a call is asked for, and the clock reading of the request. -/
structure Wish where
  target : CallState
  now : Instant
  deriving DecidableEq

namespace Call

/-- The call after an attempt to move it. An attempt that is refused leaves the call alone. -/
def tried (c : Call) (w : Wish) : Call :=
  match c.moveTo w.target w.now with
  | .ok (_, moved) => moved
  | .error _ => c

def course (c : Call) (wishes : List Wish) : Call := wishes.foldl tried c

theorem course_cons (c : Call) (w : Wish) (rest : List Wish) :
    c.course (w :: rest) = (c.tried w).course rest := rfl

/-- The attempts that end the call, each with the call as it was before. -/
def ends : Call → List Wish → List (Call × Wish)
  | _, [] => []
  | c, w :: rest =>
    (if (c.moveTo w.target w.now).isOk && w.target.isTerminal then [(c, w)] else [])
      ++ (c.tried w).ends rest

theorem moveTo_eq (c : Call) (target : CallState) (now : Instant) :
    c.moveTo target now =
      if c.state.canMoveTo target then .ok (c.state, c.moved target now)
      else .error ⟨c.id, c.state, target⟩ := rfl

theorem isOk_moveTo (c : Call) (target : CallState) (now : Instant) :
    (c.moveTo target now).isOk = c.state.canMoveTo target := by
  rw [moveTo_eq]
  cases c.state.canMoveTo target <;> rfl

theorem tried_eq (c : Call) (w : Wish) :
    c.tried w = if c.state.canMoveTo w.target then c.moved w.target w.now else c := by
  unfold tried
  rw [moveTo_eq]
  cases c.state.canMoveTo w.target <;> rfl

theorem tried_accepted {c : Call} {w : Wish} (h : c.state.canMoveTo w.target = true) :
    c.tried w = c.moved w.target w.now := by
  rw [tried_eq, if_pos h]

theorem tried_refused {c : Call} {w : Wish} (h : c.state.canMoveTo w.target = false) :
    c.tried w = c := by
  simp [tried_eq, h]

theorem ends_cons (c : Call) (w : Wish) (rest : List Wish) :
    c.ends (w :: rest) =
      (if c.state.canMoveTo w.target && w.target.isTerminal then [(c, w)] else [])
        ++ (c.tried w).ends rest := by
  rw [ends, isOk_moveTo]

theorem course_of_isTerminal {c : Call} (h : c.state.isTerminal = true) (wishes : List Wish) :
    c.course wishes = c := by
  induction wishes with
  | nil => rfl
  | cons w rest ih =>
    have hstay : c.tried w = c := tried_refused (CallState.canMoveTo_of_isTerminal h w.target)
    rw [course_cons, hstay, ih]

theorem ends_of_isTerminal {c : Call} (h : c.state.isTerminal = true) (wishes : List Wish) :
    c.ends wishes = [] := by
  induction wishes with
  | nil => rfl
  | cons w rest ih =>
    have hstay := CallState.canMoveTo_of_isTerminal h w.target
    rw [ends_cons, tried_refused hstay, ih]
    simp [hstay]

/-- A call is dated if it has an end exactly when it is over. -/
def Dated (c : Call) : Prop := c.ended.isSome = c.state.isTerminal

theorem start_dated (id : Uuid) (incoming : Bool) (handle : Option Phone.Handle)
    (created : Instant) : (start id incoming handle created).Dated := rfl

theorem Dated.ended_eq_none {c : Call} (h : c.Dated) (hlive : c.state.isTerminal = false) :
    c.ended = none := by
  simpa [Dated, hlive] using h

theorem Dated.tried {c : Call} (h : c.Dated) (w : Wish) : (c.tried w).Dated := by
  by_cases hmove : c.state.canMoveTo w.target = true
  · rw [tried_accepted hmove]
    by_cases hend : w.target.isTerminal = true
    · simp [Dated, moved, hend]
    · simp [Dated, moved, hend, h.ended_eq_none (CallState.isTerminal_of_canMoveTo hmove)]
  · rw [tried_refused (by simpa using hmove)]
    exact h

theorem Dated.course {c : Call} (h : c.Dated) (wishes : List Wish) : (c.course wishes).Dated := by
  induction wishes generalizing c with
  | nil => exact h
  | cons w rest ih => exact ih (h.tried w)

/-- The end of a call is the clock reading of the attempt that ended it, and there is only one. -/
theorem Dated.ended_course {c : Call} (h : c.Dated) (wishes : List Wish) :
    (c.course wishes).ended.toList = c.ended.toList ++ (c.ends wishes).map (·.2.now) := by
  induction wishes generalizing c with
  | nil => exact (List.append_nil _).symm
  | cons w rest ih =>
    rw [course_cons, ends_cons]
    by_cases hmove : c.state.canMoveTo w.target = true
    · have hnone := h.ended_eq_none (CallState.isTerminal_of_canMoveTo hmove)
      by_cases hend : w.target.isTerminal = true
      · have hover : (c.tried w).state.isTerminal = true := by
          rw [tried_accepted hmove]
          exact hend
        rw [course_of_isTerminal hover, ends_of_isTerminal hover, tried_accepted hmove, hnone]
        simp [moved, hmove, hend]
      · rw [ih (h.tried w), tried_accepted hmove, hnone]
        simp [moved, hend, hnone]
    · have hstay : c.state.canMoveTo w.target = false := by simpa using hmove
      rw [ih (h.tried w), tried_refused hstay]
      simp [hstay]

theorem age_of_ended {c : Call} {t : Instant} (h : c.ended = some t) (now : Instant) :
    c.age now = c.age t := by
  simp [age, h]

/-- Until a call has an end its age does not go back unless the clock does. -/
theorem age_le_of_living {c : Call} (h : c.ended = none) {now later : Instant}
    (hclock : now.nanos ≤ later.nanos) : c.age now ≤ c.age later := by
  have hquotient : c.created.millisUntil now ≤ c.created.millisUntil later := by
    apply Int.tdiv_le_tdiv (by decide)
    omega
  simp only [age, h, Option.getD_none]
  omega

/-- Whenever a call is created and whatever is asked of it, at clock readings in any order: it has an
end exactly when it is over, and its end is the reading of the one attempt that ended it. An attempt
that is refused leaves the call as it is, also in front of listeners, and nothing at all changes a call
that is over. The age of a call is never negative, and the word that the history sees is its exact
value; until the call ends it does not go back unless the clock does, and then it stays. -/
theorem end_and_age_of_call (id : Uuid) (incoming : Bool) (handle : Option Phone.Handle)
    (created : Instant) (wishes : List Wish) :
    let fresh := start id incoming handle created
    let c := fresh.course wishes
    c.ended.isSome = c.state.isTerminal ∧
      c.ended.toList = (fresh.ends wishes).map (·.2.now) ∧
      (∀ w e, c.moveTo w.target w.now = .error e → c.tried w = c ∧
        ∀ {ℓ σ : Type} (react : Behaviour ℓ σ) (s : List ℓ × σ),
          (c.setState react w.target w.now s).state = (c, s)) ∧
      (∀ now, 0 ≤ c.age now ∧ (c.info now).age.toInt = c.age now) ∧
      (c.state.isTerminal = true → ∀ more now later,
        c.course more = c ∧ (c.course more).age later = c.age now) ∧
      (c.state.isTerminal = false → ∀ now later : Instant,
        now.nanos ≤ later.nanos → c.age now ≤ c.age later) := by
  intro fresh c
  have hfresh : fresh.Dated := start_dated id incoming handle created
  have hdated : c.Dated := hfresh.course wishes
  refine ⟨hdated, hfresh.ended_course wishes, fun w e herror => ?_, fun now => ?_,
    fun hend more now later => ?_, fun hlive now later hclock => ?_⟩
  · have hstay : c.state.canMoveTo w.target = false := by
      rw [← isOk_moveTo c w.target w.now, herror]
      rfl
    refine ⟨tried_refused hstay, fun react s => ?_⟩
    rw [setState_refused react hstay]
  · exact ⟨(c.age_bounds now).1, c.toInt_age now⟩
  · have hsome : c.ended.isSome = true := by rw [hdated, hend]
    obtain ⟨t, ht⟩ := Option.isSome_iff_exists.mp hsome
    have hsame := course_of_isTerminal hend more
    rw [hsame, age_of_ended ht later, age_of_ended ht now]
    exact ⟨rfl, rfl⟩
  · exact age_le_of_living (hdated.ended_eq_none hlive) hclock

/-- A call is created four milliseconds from now, is refused the wrong state, is taken while the clock
goes back, and ends; what is asked of it then is refused. -/
theorem end_and_age_of_call_clock_back :
    let created : Instant := ⟨4000000, by decide, by decide⟩
    let early : Instant := ⟨3000000, by decide, by decide⟩
    let late : Instant := ⟨7000000, by decide, by decide⟩
    let later : Instant := ⟨9000000, by decide, by decide⟩
    let fresh := start default true none created
    let wishes : List Wish := [⟨.ringing, late⟩, ⟨.onHold, later⟩, ⟨.active, early⟩]
    let taken := fresh.course wishes
    let finished := fresh.course (wishes ++ [⟨.disconnected, late⟩, ⟨.aborted, later⟩])
    taken.state = .active ∧ taken.ended.isSome = false ∧ taken.tried ⟨.ringing, later⟩ = taken ∧
      taken.age early = 0 ∧ taken.age late = 3 ∧ taken.age late ≤ taken.age later ∧
      finished.ended.toList = [late] ∧ finished.course [⟨.active, later⟩] = finished ∧
      finished.age later = finished.age early ∧ 0 ≤ finished.age early ∧ finished.age early = 3 := by
  intro created early late later fresh wishes taken finished
  obtain ⟨hended, -, hrefused, -, -, hclock⟩ :=
    end_and_age_of_call default true none created wishes
  obtain ⟨-, hend, -, hage, hover, -⟩ := end_and_age_of_call default true none created
    (wishes ++ [⟨.disconnected, late⟩, ⟨.aborted, later⟩])
  exact ⟨rfl, hended, (hrefused ⟨.ringing, later⟩ _ rfl).1, by decide, by decide,
    hclock rfl late later (by decide), hend, (hover rfl [⟨.active, later⟩] early later).1,
    (hover rfl [] early later).2, (hage early).1, by decide⟩

end Call
end CallHistory
