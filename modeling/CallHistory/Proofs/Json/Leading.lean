import Mathlib.Data.List.Induction
import CallHistory.Proofs.Json.Roundtrip

/-! # What may lead a value

Reading begins anew nowhere but at the start: a scan that has seen anything but space is never again
where it began, and tokens that have been read never leave a reader waiting for the one value of the
text. So nothing but space can lead the value that a text spells.
-/

namespace CallHistory.Json

namespace Scan

theorem enter_eq_blank {tokens : List Token} {c : Char} (h : enter tokens c = some {}) :
    tokens = [] ∧ isSpace c = true := by
  unfold enter at h
  split at h
  · rename_i hspace
    exact ⟨congrArg Scan.tokens (Option.some.inj h), hspace⟩
  · split at h
    · cases h
    · split at h
      · cases h
      · obtain ⟨t, -, ht⟩ := Option.map_eq_some_iff.mp h
        cases ht

/-- A scan is where it began only if it was there before, and passes over space. -/
theorem step_eq_blank {s : Scan} {c : Char} (h : s.step c = some {}) :
    s = {} ∧ isSpace c = true := by
  rcases s with ⟨tokens, mode⟩
  cases mode with
  | between =>
    obtain ⟨rfl, hspace⟩ := enter_eq_blank h
    exact ⟨rfl, hspace⟩
  | bare word =>
    simp only [step] at h
    split at h
    · cases h
    · obtain ⟨t, -, hentered⟩ := Option.bind_eq_some_iff.mp h
      cases (enter_eq_blank hentered).1
  | string read =>
    simp only [step] at h
    split at h
    · cases h
    · split at h
      · cases h
      · split at h <;> cases h
  | escape read =>
    simp only [step] at h
    split at h
    · cases h
    · obtain ⟨e, -, he⟩ := Option.map_eq_some_iff.mp h
      cases he
  | code read digits =>
    obtain ⟨d, -, hd⟩ := Option.map_eq_some_iff.mp h
    split at hd <;> cases hd

theorem isSpace_of_foldlM {text : List Char} (h : text.foldlM step {} = some {}) :
    ∀ c ∈ text, isSpace c = true := by
  induction text using List.reverseRecOn with
  | nil => nofun
  | append_singleton text c ih =>
    rw [List.foldlM_append, Option.bind_eq_bind, Option.bind_eq_some_iff] at h
    obtain ⟨s, htext, hc⟩ := h
    obtain ⟨rfl, hspace⟩ := step_eq_blank (by simpa using hc)
    intro d hd
    rcases List.mem_append.mp hd with hd | hd
    · exact ih htext d hd
    · rw [List.mem_singleton.mp hd]
      exact hspace

theorem from?_spaces_append {space : List Char} (h : ∀ c ∈ space, isSpace c = true)
    (tokens : List Token) (s : List Char) : from? tokens (space ++ s) = from? tokens s := by
  induction space with
  | nil => rfl
  | cons c space ih =>
    obtain ⟨hc, hspace⟩ := List.forall_mem_cons.mp h
    rw [← ih hspace]
    simp [from?, step, enter, hc]

end Scan

namespace Reading

/-- No token leads to where a reader began. -/
theorem step_ne_value_nil (r : Reading) (t : Token) : r.step t ≠ some (.value []) := by
  intro h
  cases r with
  | value frames => cases t <;> cases h
  | item frames => cases t <;> cases h
  | member frames => cases t <;> cases h
  | nextMember members frames => cases t <;> cases h
  | colon members name frames => cases t <;> cases h
  | read v frames =>
    cases frames with
    | nil => cases h
    | cons frame frames => cases frame <;> cases t <;> cases h

theorem eq_nil_of_foldlM {tokens : List Token}
    (h : tokens.foldlM step (.value []) = some (.value [])) : tokens = [] := by
  rcases tokens.eq_nil_or_concat with rfl | ⟨before, t, rfl⟩
  · rfl
  · rw [List.concat_eq_append, List.foldlM_append, Option.bind_eq_bind, Option.bind_eq_some_iff] at h
    obtain ⟨r, -, hr⟩ := h
    exact absurd (by simpa using hr) (step_ne_value_nil r t)

/-- Where a value has been read, no other one goes on. -/
theorem exists_tokens (v : Json) :
    ∃ first rest, v.tokens = first :: rest ∧ ∀ u frames, continue? u frames first = none := by
  have hnone {first : Token} (hcomma : first ≠ .comma) (hbracket : first ≠ .bracketClose)
      (hbrace : first ≠ .braceClose) (u : Json) (frames : List Frame) :
      continue? u frames first = none := by
    rcases frames with - | ⟨- | -, -⟩ <;> simp [continue?, hcomma, hbracket, hbrace]
  cases v with
  | array items => cases items <;> exact ⟨_, _, rfl, hnone (by simp) (by simp) (by simp)⟩
  | object members => cases members <;> exact ⟨_, _, rfl, hnone (by simp) (by simp) (by simp)⟩
  | _ => exact ⟨_, _, rfl, hnone (by simp) (by simp) (by simp)⟩

theorem eq_value_nil_of_complete {r : Reading} {v w : Json}
    (h : (v.tokens.foldlM step r).bind finish? = some w) : r = .value [] := by
  have hvalue (frames : List Frame) :
      v.tokens.foldlM step (.value frames) = some (.read v.written frames) := by
    have hread := value_tokens v frames []
    rwa [List.append_nil] at hread
  cases r with
  | value frames =>
    rw [hvalue] at h
    cases frames with
    | nil => rfl
    | cons frame frames => cases h
  | item frames =>
    have hitem := item_tokens v frames []
    rw [List.append_nil, hvalue] at hitem
    rw [hitem] at h
    cases h
  | member _ | nextMember _ _ | colon _ _ _ =>
    -- A string may come here, but only as a name, which a value has yet to follow.
    cases v with
    | array items => cases items <;> cases h
    | object members => cases members <;> cases h
    | _ => cases h
  | read u frames =>
    obtain ⟨first, rest, htokens, hnone⟩ := exists_tokens v
    simp [htokens, step, hnone] at h

end Reading

/-- No tokens lead those of the value that they spell. -/
theorem eq_nil_of_ofTokens? {before : List Token} {v w : Json}
    (h : ofTokens? (before ++ v.tokens) = some w) : before = [] := by
  rw [ofTokens?, List.foldlM_append, Option.bind_eq_bind, Option.bind_assoc,
    Option.bind_eq_some_iff] at h
  obtain ⟨r, hbefore, hcomplete⟩ := h
  obtain rfl := Reading.eq_value_nil_of_complete hcomplete
  exact Reading.eq_nil_of_foldlM hbefore

theorem parse?_spaces_append {space : List Char} (h : ∀ c ∈ space, isSpace c = true)
    (s : List Char) : parse? (space ++ s) = parse? s := by
  have hscan : scan? (space ++ s) = scan? s := Scan.from?_spaces_append h [] s
  rw [parse?, parse?, hscan]

end CallHistory.Json
