import CallHistory.Proofs.Calls.Visits

/-! # The life of a call

A call is set up by dialing or by ringing, is talked on, held and resumed any number of times, and
ends. `IsLife` says which sequences of states this allows. They are the paths of the life cycle that
begin with a new call, so the states that a call visits under any requests are a life, and every life
is what a call visits if it is asked for the states of it in order.
-/

namespace CallHistory

variable {ℓ σ : Type}

namespace CallState

/-- The way to dialing takes up to three states; a call that comes in rings instead. -/
def IsSetup (states : List CallState) : Prop :=
  states.Sublist [connecting, preDialWait, dialing] ∨ states = [ringing]

/-- Talking, held and resumed any number of times, and perhaps held at last. -/
def IsTalk (states : List CallState) : Prop :=
  ∃ (times : Nat) (held : List CallState),
    states = active :: (List.replicate times [onHold, active]).flatten ++ held ∧
      (held = [] ∨ held = [onHold])

/-- A call has ended in one of two ways, or not yet. -/
def IsFinish (states : List CallState) : Prop :=
  states = [] ∨ states = [disconnected] ∨ states = [aborted]

/-- From its creation on a call is set up, talked on only if it was dialing or ringing last, and
finished. -/
def IsLife (states : List CallState) : Prop :=
  ∃ setup talk finish : List CallState,
    states = new :: (setup ++ talk ++ finish) ∧ IsSetup setup ∧
      (talk = [] ∨
        (setup.getLast? = some dialing ∨ setup.getLast? = some ringing) ∧ IsTalk talk) ∧
      IsFinish finish

variable {s t : CallState} {l : List CallState}

theorem isFinish_iff : IsFinish l ↔ l = [] ∨ ∃ s, s.isTerminal = true ∧ l = [s] := by
  constructor
  · rintro (rfl | rfl | rfl)
    · exact .inl rfl
    · exact .inr ⟨disconnected, rfl, rfl⟩
    · exact .inr ⟨aborted, rfl, rfl⟩
  · rintro (rfl | ⟨s, hs, rfl⟩)
    · exact .inl rfl
    · cases s with
      | disconnected => exact .inr (.inl rfl)
      | aborted => exact .inr (.inr rfl)
      | _ => cases hs

theorem isFinish_singleton (h : s.isTerminal = true) : IsFinish [s] :=
  isFinish_iff.mpr (.inr ⟨s, h, rfl⟩)

/-- An answered call is held and resumed, and so on from there: the induction takes two states at a
time. -/
theorem IsPath.exists_talk : ∀ {l : List CallState}, IsPath (active :: l) →
    ∃ (times : Nat) (held finish : List CallState),
      l = (List.replicate times [onHold, active]).flatten ++ held ++ finish ∧
        (held = [] ∨ held = [onHold]) ∧ IsFinish finish
  | [], _ => ⟨0, [], [], rfl, .inl rfl, .inl rfl⟩
  | [s], h => by
    rcases h.next with ⟨hend, -⟩ | hs
    · exact ⟨0, [], [s], rfl, .inl rfl, isFinish_singleton hend⟩
    · rw [List.mem_singleton.mp hs]
      exact ⟨0, [onHold], [], rfl, .inr rfl, .inl rfl⟩
  | s :: t :: l, h => by
    have hheld := (isPath_cons.mp h).2
    rcases h.next with ⟨-, hnil⟩ | hs
    · cases hnil
    · obtain rfl : s = onHold := List.mem_singleton.mp hs
      rcases hheld.next with ⟨hend, rfl⟩ | ht
      · exact ⟨0, [onHold], [t], rfl, .inr rfl, isFinish_singleton hend⟩
      · obtain rfl : t = active := List.mem_singleton.mp ht
        obtain ⟨times, held, finish, rfl, hlast, hfinish⟩ := (isPath_cons.mp hheld).2.exists_talk
        exact ⟨times + 1, held, finish, by simp [List.replicate_succ], hlast, hfinish⟩

def early : List CallState := [new, connecting, preDialWait, dialing, ringing]

/-- The states on the way to dialing that are still ahead. -/
def ahead : CallState → List CallState
  | new => [connecting, preDialWait, dialing]
  | connecting => [preDialWait, dialing]
  | preDialWait => [dialing]
  | _ => []

/-- Before it is talked on a call comes nearer to dialing, or begins to ring when it is new. -/
theorem early_leadsTo (hs : s ∈ early) (ht : t ∈ s.leadsTo) :
    (t = active ∧ (s = dialing ∨ s = ringing)) ∨
      (t ∈ early ∧ t ≠ new ∧
        ((t :: t.ahead).Sublist s.ahead ∨ s = new ∧ t = ringing ∧ t.ahead = [])) := by
  revert hs ht
  cases s <;> cases t <;> decide

/-- A path from an early state falls into the stages of a life. The induction is on the path: each of
its states takes something of what is ahead. -/
theorem IsPath.exists_stages (h : IsPath (s :: l)) (hs : s ∈ early) :
    ∃ setup talk finish : List CallState,
      l = setup ++ talk ++ finish ∧ (setup.Sublist s.ahead ∨ s = new ∧ setup = [ringing]) ∧
        (talk = [] ∨ ((s :: setup).getLast? = some dialing ∨
          (s :: setup).getLast? = some ringing) ∧ IsTalk talk) ∧
        IsFinish finish := by
  induction l generalizing s with
  | nil => exact ⟨[], [], [], rfl, .inl (List.nil_sublist _), .inl rfl, .inl rfl⟩
  | cons t l ih =>
    have hrest := (isPath_cons.mp h).2
    rcases h.next with ⟨hend, rfl⟩ | ht
    · exact ⟨[], [], [t], rfl, .inl (List.nil_sublist _), .inl rfl, isFinish_singleton hend⟩
    · rcases early_leadsTo hs ht with ⟨rfl, hlast⟩ | ⟨hearly, hne, hahead⟩
      · obtain ⟨times, held, finish, rfl, hheld, hfinish⟩ := hrest.exists_talk
        refine ⟨[], active :: (List.replicate times [onHold, active]).flatten ++ held, finish, rfl,
          .inl (List.nil_sublist _), .inr ⟨?_, times, held, rfl, hheld⟩, hfinish⟩
        simpa using hlast
      · obtain ⟨setup, talk, finish, rfl, hsetup, htalk, hfinish⟩ := ih hrest hearly
        refine ⟨t :: setup, talk, finish, rfl, ?_, by simpa using htalk, hfinish⟩
        rcases hsetup with hsetup | ⟨hnew, -⟩
        · rcases hahead with hahead | ⟨rfl, rfl, hnone⟩
          · exact .inl ((hsetup.cons_cons t).trans hahead)
          · rw [hnone, List.sublist_nil] at hsetup
            exact .inr ⟨rfl, by rw [hsetup]⟩
        · exact absurd hnew hne

theorem IsSetup.isPath (h : IsSetup l) : IsPath (new :: l) := by
  rcases h with hdial | rfl
  · -- of the states on the way to dialing each can be left out
    have hall : [new, connecting, preDialWait, dialing].Pairwise fun s t => s.canMoveTo t = true := by
      decide
    exact (hall.sublist (hdial.cons_cons new)).isChain
  · exact isPath_cons.mpr ⟨rfl, isPath_singleton ringing⟩

theorem IsTalk.isPath (h : IsTalk l) : IsPath l := by
  obtain ⟨times, held, rfl, hheld⟩ := h
  induction times with
  | zero =>
    rcases hheld with rfl | rfl
    · exact isPath_singleton active
    · exact isPath_cons.mpr ⟨rfl, isPath_singleton onHold⟩
  | succ times ih =>
    rw [List.replicate_succ, List.flatten_cons]
    exact isPath_cons.mpr ⟨rfl, isPath_cons.mpr ⟨rfl, ih⟩⟩

theorem IsSetup.living (h : IsSetup l) : ∀ s ∈ l, s.isTerminal = false := by
  intro s hs
  rcases h with hdial | rfl
  · have hmem := hdial.subset hs
    revert hmem
    cases s <;> decide
  · rw [List.mem_singleton.mp hs]
    rfl

theorem IsTalk.living (h : IsTalk l) : ∀ s ∈ l, s.isTerminal = false := by
  obtain ⟨times, held, rfl, hheld⟩ := h
  intro s hs
  have hmem : s = active ∨ s = onHold := by
    rcases hheld with rfl | rfl <;> simp at hs <;> grind
  rcases hmem with rfl | rfl <;> rfl

theorem IsSetup.isPath_append {setup talk : List CallState} (hsetup : IsSetup setup)
    (hlast : setup.getLast? = some dialing ∨ setup.getLast? = some ringing) (htalk : IsTalk talk) :
    IsPath (new :: setup ++ talk) := by
  refine List.isChain_append.mpr ⟨hsetup.isPath, htalk.isPath, fun s hs t ht => ?_⟩
  obtain ⟨times, held, rfl, -⟩ := htalk
  obtain rfl : active = t := Option.some.inj ht
  rw [Option.mem_def, List.getLast?_cons] at hs
  rcases hlast with hlast | hlast
  · rw [hlast] at hs
    obtain rfl := Option.some.inj hs
    rfl
  · rw [hlast] at hs
    obtain rfl := Option.some.inj hs
    rfl

theorem IsPath.append_finish {finish : List CallState} (h : IsPath l)
    (hliving : ∀ s ∈ l, s.isTerminal = false) (hfinish : IsFinish finish) : IsPath (l ++ finish) := by
  rcases isFinish_iff.mp hfinish with rfl | ⟨t, ht, rfl⟩
  · rw [List.append_nil]
    exact h
  · refine List.isChain_append.mpr ⟨h, isPath_singleton t, fun s hs u hu => ?_⟩
    obtain rfl := Option.some.inj hu
    exact canMoveTo_terminal (hliving s (List.mem_of_getLast? hs)) ht

/-- Lives are the paths that begin with a new call. -/
theorem isLife_iff : IsLife l ↔ ∃ states, l = new :: states ∧ IsPath l := by
  constructor
  · rintro ⟨setup, talk, finish, rfl, hsetup, htalk, hfinish⟩
    refine ⟨_, rfl, IsPath.append_finish (l := new :: setup ++ talk) ?_ ?_ hfinish⟩
    · rcases htalk with rfl | ⟨hlast, htalk⟩
      · rw [List.append_nil]
        exact hsetup.isPath
      · exact hsetup.isPath_append hlast htalk
    · intro s hs
      rw [List.mem_append, List.mem_cons] at hs
      rcases hs with (rfl | hs) | hs
      · rfl
      · exact hsetup.living s hs
      · rcases htalk with rfl | ⟨-, htalk⟩
        · cases hs
        · exact htalk.living s hs
  · rintro ⟨states, rfl, hpath⟩
    obtain ⟨setup, talk, finish, rfl, hsetup, htalk, hfinish⟩ :=
      hpath.exists_stages List.mem_cons_self
    refine ⟨setup, talk, finish, rfl, ?_, ?_, hfinish⟩
    · rcases hsetup with hdial | ⟨-, hring⟩
      · exact .inl hdial
      · exact .inr hring
    · rw [List.getLast?_cons] at htalk
      cases hlast : setup.getLast? <;> simp_all

theorem IsPath.not_mem_early (h : IsPath (s :: l)) (hs : s ∉ early) : ∀ t ∈ l, t ∉ early := by
  induction l generalizing s with
  | nil => simp
  | cons u l ih =>
    obtain ⟨hmove, hrest⟩ := isPath_cons.mp h
    have hu : u ∉ early := by
      revert hs hmove
      cases s <;> cases u <;> decide
    exact List.forall_mem_cons.mpr ⟨hu, ih hrest hu⟩

theorem IsPath.after {before : List CallState} (h : IsPath (before ++ s :: l)) :
    (s = active → ∀ t ∈ l, t ∉ early) ∧
      (s = ringing → ∀ t ∈ l.head?, t = active ∨ t.isTerminal = true) ∧
      (s.isTerminal = true → l = []) := by
  have hpath : IsPath (s :: l) := (List.isChain_append.mp h).2.1
  refine ⟨fun hs => ?_, fun hs t ht => ?_, hpath.eq_nil_of_isTerminal⟩
  · exact hpath.not_mem_early (by rw [hs]; decide)
  · obtain ⟨later, rfl⟩ := List.head?_eq_some_iff.mp ht
    rcases hpath.next with ⟨hend, -⟩ | hnext
    · exact .inr hend
    · rw [hs] at hnext
      exact .inl (List.mem_singleton.mp hnext)

end CallState

open CallState

/-- The life cycle of a call is the language of lives. Whatever is asked of a new call, in front of any
listeners and with any requests for other calls in between, the states that it visits are a life; and
every life is what it visits when the states of the life after the first are asked for in order. In
particular a call that has been active neither rings nor dials again, ringing is only left for active
or for the end, and nothing comes after the end. -/
theorem lives_are_what_calls_visit (react : Behaviour ℓ σ) (s : List ℓ × σ) {calls : List Call}
    {i : Nat} {c : Call} (hc : calls[i]? = some c) (hnew : c.state = .new) :
    (∀ requests, IsLife (visited react i requests (calls, s))) ∧
      (∀ states requests, IsLife (.new :: states) →
        (requests.filter (·.call = i)).map MoveRequest.target = states →
        visited react i requests (calls, s) = .new :: states) ∧
      ∀ requests before t after, visited react i requests (calls, s) = before ++ t :: after →
        (t = .active → .ringing ∉ after ∧ .dialing ∉ after) ∧
          (t = .ringing → ∀ next ∈ after.head?, next = .active ∨ next.isTerminal = true) ∧
          (t.isTerminal = true → after = []) := by
  have hvisited (requests : List MoveRequest) : visited react i requests (calls, s) =
      .new :: CallState.new.entered ((wishes i requests).map Wish.target) := by
    rw [visited_eq react hc, hnew]
  have hpath (requests : List MoveRequest) : IsPath (visited react i requests (calls, s)) := by
    rw [hvisited]
    exact isPath_entered .new _
  refine ⟨fun requests => ?_, fun states requests hlife htargets => ?_,
    fun requests before t after hsplit => ?_⟩
  · exact isLife_iff.mpr ⟨_, hvisited requests, hpath requests⟩
  · obtain ⟨-, -, hstates⟩ := isLife_iff.mp hlife
    have hwishes : (wishes i requests).map Wish.target = states := by
      rw [← htargets]
      simp [wishes, MoveRequest.wish]
    rw [hvisited, hwishes, hstates.entered_eq]
  · obtain ⟨hactive, hringing, hend⟩ := IsPath.after (hsplit ▸ hpath requests)
    refine ⟨fun ht => ⟨fun hmem => ?_, fun hmem => ?_⟩, hringing, hend⟩
    · exact hactive ht _ hmem (by decide)
    · exact hactive ht _ hmem (by decide)

/-- A call is dialed, taken, held and resumed and held again, and ends on hold, while another one rings
and a listener crashes; before, it is asked for states that it must not enter. -/
theorem lives_are_what_calls_visit_held :
    let now : Instant := ⟨0, by decide, by decide⟩
    let calls : List Call := [.start default true none now, .start default false none now]
    let states : List CallState := [.connecting, .dialing, .active, .onHold, .active, .onHold, .aborted]
    let requests : List MoveRequest := ⟨0, .ringing, now⟩ :: states.map fun t => ⟨1, t, now⟩
    let refused : List MoveRequest := [⟨1, .active, now⟩, ⟨1, .new, now⟩, ⟨1, .onHold, now⟩]
    calls[1]? = some (.start default false none now) ∧
      visited Watcher.react 1 requests (calls, [.crasher], []) = .new :: states ∧
      visited Watcher.react 1 refused (calls, [.crasher], []) = [.new] ∧
      IsLife (visited Watcher.react 1 (refused ++ requests) (calls, [.crasher], [])) := by
  intro now calls states requests refused
  have hlife : IsLife (.new :: states) :=
    ⟨[.connecting, .dialing], [.active, .onHold, .active, .onHold], [.aborted], rfl,
      .inl (by decide), .inr ⟨.inl rfl, 1, [.onHold], rfl, .inr rfl⟩, .inr (.inr rfl)⟩
  have hcall : calls[1]? = some (.start default false none now) := rfl
  obtain ⟨hlives, hall, -⟩ := lives_are_what_calls_visit Watcher.react ([.crasher], []) hcall rfl
  exact ⟨hcall, hall states requests hlife rfl, by decide, hlives (refused ++ requests)⟩

end CallHistory
