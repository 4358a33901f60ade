import CallHistory.Proofs.Calls.Apart
import CallHistory.Proofs.Calls.FanOut
import Mathlib.Data.List.Destutter

/-! # The states that a call visits

Of the states that a call is asked for it enters those that its life cycle lets it enter from where it
is. What it visits is a path of the life cycle, and every path is visited if it is asked for.
-/

namespace CallHistory

variable {ℓ σ : Type}

namespace CallState

def IsPath (states : List CallState) : Prop :=
  states.IsChain fun s t => s.canMoveTo t = true

def entered : CallState → List CallState → List CallState
  | _, [] => []
  | s, t :: rest => if s.canMoveTo t then t :: t.entered rest else s.entered rest

variable {s t : CallState} {l : List CallState}

theorem canMoveTo_iff :
    s.canMoveTo t = true ↔ s.isTerminal = false ∧ (t.isTerminal = true ∨ t ∈ s.leadsTo) := by
  simp [canMoveTo]

theorem isPath_singleton (s : CallState) : IsPath [s] := List.isChain_singleton s

theorem isPath_cons : IsPath (s :: t :: l) ↔ s.canMoveTo t = true ∧ IsPath (t :: l) :=
  List.isChain_cons_cons

theorem IsPath.eq_nil_of_isTerminal (h : IsPath (s :: l)) (hs : s.isTerminal = true) : l = [] := by
  cases l with
  | nil => rfl
  | cons t l =>
    have hmove := (isPath_cons.mp h).1
    rw [canMoveTo_of_isTerminal hs] at hmove
    exact Bool.noConfusion hmove

/-- On a path a call ends, and this is the last of it, or takes one of the other moves it has. -/
theorem IsPath.next (h : IsPath (s :: t :: l)) :
    t.isTerminal = true ∧ l = [] ∨ t ∈ s.leadsTo := by
  obtain ⟨hmove, hrest⟩ := isPath_cons.mp h
  rcases (canMoveTo_iff.mp hmove).2 with hend | ht
  · exact .inl ⟨hend, hrest.eq_nil_of_isTerminal hend⟩
  · exact .inr ht

theorem entered_accepted (h : s.canMoveTo t = true) (rest : List CallState) :
    s.entered (t :: rest) = t :: t.entered rest := by
  rw [entered, if_pos h]

theorem entered_refused (h : s.canMoveTo t = false) (rest : List CallState) :
    s.entered (t :: rest) = s.entered rest := by
  simp [entered, h]

theorem entered_of_isTerminal (h : s.isTerminal = true) (targets : List CallState) :
    s.entered targets = [] := by
  induction targets with
  | nil => rfl
  | cons t rest ih => rw [entered_refused (canMoveTo_of_isTerminal h t), ih]

/-- Whatever a call is asked for, the states it enters are a path. -/
theorem isPath_entered (s : CallState) (targets : List CallState) :
    IsPath (s :: s.entered targets) := by
  induction targets generalizing s with
  | nil => exact isPath_singleton s
  | cons t rest ih =>
    by_cases hmove : s.canMoveTo t = true
    · rw [entered_accepted hmove]
      exact isPath_cons.mpr ⟨hmove, ih t⟩
    · rw [entered_refused (by simpa using hmove)]
      exact ih s

theorem IsPath.entered_eq (h : IsPath (s :: l)) : s.entered l = l := by
  induction l generalizing s with
  | nil => rfl
  | cons t l ih =>
    obtain ⟨hmove, hrest⟩ := isPath_cons.mp h
    rw [entered_accepted hmove, ih hrest]

end CallState

/-- The states that the call with an index is in before, between and after requests. -/
def stances (react : Behaviour ℓ σ) (i : Nat) (requests : List MoveRequest)
    (s : List Call × List ℓ × σ) : List CallState :=
  (requests.scanl (fun s q => q.serve react s) s).filterMap fun s => s.1[i]?.map Call.state

/-- The states that the call visits: those it is in, told once for as long as it stays. -/
def visited (react : Behaviour ℓ σ) (i : Nat) (requests : List MoveRequest)
    (s : List Call × List ℓ × σ) : List CallState :=
  (stances react i requests s).destutter (· ≠ ·)

variable {i : Nat} {calls : List Call} {c : Call}

theorem stances_cons (react : Behaviour ℓ σ) (hc : calls[i]? = some c) (s : List ℓ × σ)
    (q : MoveRequest) (rest : List MoveRequest) :
    stances react i (q :: rest) (calls, s) =
      c.state :: stances react i rest (q.serve react (calls, s)) := by
  simp [stances, hc]

theorem exists_stances_eq_cons (react : Behaviour ℓ σ) (hc : calls[i]? = some c)
    (requests : List MoveRequest) (s : List ℓ × σ) :
    ∃ later, stances react i requests (calls, s) = c.state :: later := by
  cases requests with
  | nil => exact ⟨[], by simp [stances, hc]⟩
  | cons q rest => exact ⟨_, stances_cons react hc s q rest⟩

theorem visited_cons (react : Behaviour ℓ σ) {c' : Call} (hc : calls[i]? = some c) (s : List ℓ × σ)
    (q : MoveRequest) (hserved : (q.serve react (calls, s)).1[i]? = some c')
    (rest : List MoveRequest) :
    visited react i (q :: rest) (calls, s) =
      if c.state = c'.state then visited react i rest (q.serve react (calls, s))
      else c.state :: visited react i rest (q.serve react (calls, s)) := by
  obtain ⟨later, hlater⟩ := exists_stances_eq_cons react hserved rest (q.serve react (calls, s)).2
  unfold visited
  rw [stances_cons react hc, hlater, List.destutter_cons_cons, List.destutter_cons']
  by_cases hstay : c.state = c'.state <;> simp [hstay]

/-- In front of any listeners, and whatever is asked of the other calls, a call visits the state it is
in and those that it enters. -/
theorem visited_eq (react : Behaviour ℓ σ) (hc : calls[i]? = some c) (requests : List MoveRequest)
    (s : List ℓ × σ) :
    visited react i requests (calls, s) =
      c.state :: c.state.entered ((wishes i requests).map Wish.target) := by
  induction requests generalizing calls c s with
  | nil => simp [visited, stances, hc, wishes, CallState.entered]
  | cons q rest ih =>
    have hserved := q.getElem?_apply calls i
    rw [hc, Option.map_some, ← q.serve_calls react calls s] at hserved
    rw [visited_cons react hc s q hserved, ih hserved, wishes_cons]
    by_cases hi : q.call = i
    · by_cases hmove : c.state.canMoveTo q.wish.target = true
      · have htried : (c.tried q.wish).state = q.wish.target := by
          rw [Call.tried_accepted hmove]
          rfl
        -- a call cannot move to the state it is in
        have hother : c.state ≠ q.wish.target := by
          intro hsame
          rw [← hsame, CallState.canMoveTo_self] at hmove
          exact Bool.noConfusion hmove
        rw [if_pos hi, if_pos hi, htried, if_neg hother, List.map_cons,
          CallState.entered_accepted hmove]
      · have hstay : c.state.canMoveTo q.wish.target = false := by simpa using hmove
        rw [if_pos hi, if_pos hi, Call.tried_refused hstay, if_pos rfl, List.map_cons,
          CallState.entered_refused hstay]
    · rw [if_neg hi, if_neg hi, if_pos rfl]

end CallHistory
