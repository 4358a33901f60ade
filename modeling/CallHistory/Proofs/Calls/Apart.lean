import CallHistory.Proofs.Calls.Course
import CallHistory.Proofs.Calls.Ending
import CallHistory.Proofs.Pool.Interleaving

/-! # Calls apart

Calls do not see each other. What requests come to for one call is its course under the requests for
this call, in their order; the requests for other calls may come anywhere in between. So two orders of
requests that ask the same of every call end the same calls in the same way.
-/

namespace CallHistory

variable {α : Type}

def MoveRequest.wish (q : MoveRequest) : Wish := ⟨q.target, q.now⟩

def Wish.request (i : Nat) (w : Wish) : MoveRequest := ⟨i, w.target, w.now⟩

/-- What requests ask of the call with an index, in order. -/
def wishes (i : Nat) (requests : List MoveRequest) : List Wish :=
  (requests.filter (·.call = i)).map MoveRequest.wish

theorem wishes_cons (i : Nat) (q : MoveRequest) (rest : List MoveRequest) :
    wishes i (q :: rest) = if q.call = i then q.wish :: wishes i rest else wishes i rest := by
  unfold wishes
  by_cases h : q.call = i <;> simp [h]

theorem MoveRequest.getElem?_apply (q : MoveRequest) (calls : List Call) (i : Nat) :
    (q.apply calls)[i]? = calls[i]?.map fun c => if q.call = i then c.tried q.wish else c := by
  by_cases hi : q.call = i
  · subst hi
    cases hcall : calls[q.call]? with
    | none => simp [apply, mover?, hcall]
    | some c =>
      obtain ⟨hlt, -⟩ := List.getElem?_eq_some_iff.mp hcall
      by_cases hmove : c.state.canMoveTo q.target = true
      · have hmover : q.mover? calls = some c := mover?_eq_some.mpr ⟨hcall, hmove⟩
        simp [apply, hmover, hlt, Call.tried_eq, wish, hmove]
      · have hnone : q.mover? calls = none := by simp [mover?, hcall, hmove]
        simp [apply, hnone, hcall, Call.tried_eq, wish, hmove]
  · unfold apply
    cases q.mover? calls <;> simp [hi]

theorem getElem?_movedAll (calls : List Call) (requests : List MoveRequest) (i : Nat) :
    (movedAll calls requests)[i]? = calls[i]?.map (·.course (wishes i requests)) := by
  induction requests generalizing calls with
  | nil => exact Option.map_id'.symm
  | cons q rest ih =>
    change (movedAll (q.apply calls) rest)[i]? = _
    rw [ih, MoveRequest.getElem?_apply, Option.map_map, wishes_cons]
    congr 1
    funext c
    by_cases hi : q.call = i <;> simp [hi, Call.course]

def Ending.ofAttempt (i : Nat) (x : Call × Wish) : Ending := ⟨x.2.request i, x.1⟩

theorem MoveRequest.filter_ending? (q : MoveRequest) (calls : List Call) (i : Nat) :
    (q.ending? calls).toList.filter (·.index = i) =
      calls[i]?.toList.flatMap fun c =>
        if q.call = i ∧ (c.state.canMoveTo q.wish.target && q.wish.target.isTerminal) then
          [Ending.ofAttempt i (c, q.wish)]
        else [] := by
  by_cases hi : q.call = i
  · subst hi
    cases hcall : calls[q.call]? with
    | none => simp [ending?, mover?, hcall]
    | some c =>
      by_cases hend : q.target.isTerminal = true
      · by_cases hmove : c.state.canMoveTo q.target = true
        · have hmover : q.mover? calls = some c := mover?_eq_some.mpr ⟨hcall, hmove⟩
          simp [ending?, hmover, hend, hmove, Ending.index, Ending.ofAttempt, Wish.request, wish]
        · simp [ending?, mover?, hcall, hmove, wish]
      · simp [ending?, hend, wish]
  · have hother : (q.ending? calls).toList.filter (·.index = i) = [] := by
      rw [List.filter_eq_nil_iff]
      intro e he
      rw [decide_eq_true_eq, Ending.index, (ending?_eq_some (Option.mem_toList.mp he)).1]
      exact hi
    rw [hother]
    simp [hi]

/-- What requests end of one call is what its course ends. -/
theorem endings_filter_index (calls : List Call) (requests : List MoveRequest) (i : Nat) :
    (endings calls requests).filter (·.index = i) =
      calls[i]?.toList.flatMap fun c => (c.ends (wishes i requests)).map (Ending.ofAttempt i) := by
  induction requests generalizing calls with
  | nil => simp [endings, wishes, Call.ends]
  | cons q rest ih =>
    rw [endings, List.filter_append, ih, q.filter_ending?, q.getElem?_apply, wishes_cons]
    cases calls[i]? with
    | none => rfl
    | some c =>
      by_cases hi : q.call = i
      · simp only [Option.toList_some, Option.map_some, List.flatMap_singleton, hi, if_true, true_and,
          Call.ends_cons, List.map_append]
        congr 1
        split <;> rfl
      · simp [hi]

/-- Lists that hold the same under every key, in the same order, hold the same. -/
theorem perm_of_filter_key_eq (key : α → Nat) {l l' : List α}
    (h : ∀ i, l.filter (key · = i) = l'.filter (key · = i)) : l.Perm l' := by
  classical
  rw [List.perm_iff_count]
  intro a
  have hcount (m : List α) : (m.filter (key · = key a)).count a = m.count a :=
    List.count_filter (decide_eq_true rfl)
  rw [← hcount l, h, hcount]

/-- If the same is asked of every call, the same calls end in the same way, in some order. -/
theorem endings_perm (calls : List Call) {requests requests' : List MoveRequest}
    (h : ∀ i, wishes i requests = wishes i requests') :
    (endings calls requests).Perm (endings calls requests') := by
  apply perm_of_filter_key_eq Ending.index
  intro i
  rw [endings_filter_index, endings_filter_index, h]

theorem movedAll_congr (calls : List Call) {requests requests' : List MoveRequest}
    (h : ∀ i, wishes i requests = wishes i requests') :
    movedAll calls requests = movedAll calls requests' := by
  apply List.ext_getElem?
  intro i
  rw [getElem?_movedAll, getElem?_movedAll, h]

/-- If every part has a key of its own, its place, an interleaving holds under a key the part at this
place. -/
theorem Interleaving.filter_key (key : α → Nat) {parts : List (List α)} {whole : List α}
    (h : Interleaving parts whole) (hkey : ∀ k part, parts[k]? = some part → ∀ a ∈ part, key a = k)
    (i : Nat) : whole.filter (key · = i) = parts[i]?.getD [] := by
  induction h with
  | @done parts hempty =>
    cases hpart : parts[i]? with
    | none => rfl
    | some part => exact (hempty part (List.mem_of_getElem? hpart)).symm
  | @next before after a part whole htail ih =>
    have hplace : key a = before.length :=
      hkey before.length (a :: part) (by simp) a List.mem_cons_self
    have hrest := ih fun k part' hk b hb => by
      by_cases hfront : k = before.length
      · subst hfront
        rw [List.getElem?_append_right (Nat.le_refl _), Nat.sub_self] at hk
        cases hk
        exact hkey before.length (a :: part) (by simp) b (List.mem_cons_of_mem a hb)
      · refine hkey k part' ?_ b hb
        rw [← hk]
        simp only [List.getElem?_append, List.getElem?_cons]
        split
        · rfl
        · rw [if_neg (by omega), if_neg (by omega)]
    by_cases hi : key a = i
    · subst hi
      rw [List.filter_cons_of_pos (by simp), hrest, hplace]
      simp
    · rw [List.filter_cons_of_neg (by simpa using hi), hrest]
      simp only [List.getElem?_append, List.getElem?_cons]
      split
      · rfl
      · rw [if_neg (by omega), if_neg (by omega)]

def asked (plans : List (List Wish)) : List (List MoveRequest) :=
  plans.mapIdx fun i plan => plan.map (Wish.request i)

theorem wishes_of_interleaving {plans : List (List Wish)} {requests : List MoveRequest}
    (h : Interleaving (asked plans) requests) (i : Nat) :
    wishes i requests = plans[i]?.getD [] := by
  have hfilter := h.filter_key MoveRequest.call (fun k part hk q hq => by
    obtain ⟨plan, -, rfl⟩ := Option.map_eq_some_iff.mp (List.getElem?_mapIdx ▸ hk)
    obtain ⟨w, -, rfl⟩ := List.mem_map.mp hq
    rfl) i
  unfold wishes
  rw [hfilter, asked, List.getElem?_mapIdx]
  cases plans[i]? with
  | none => rfl
  | some plan =>
    have hwish : MoveRequest.wish ∘ Wish.request i = id := rfl
    simp [hwish]

end CallHistory
