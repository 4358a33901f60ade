import CallHistory.Phone.Handle
import CallHistory.Proofs.Text.Cutting

/-! # The written form of a handle

A text is a handle exactly if a scheme stands before its first colon and something after it. Reading
and writing undo each other, but for the case of the letters of the scheme.
-/

namespace CallHistory.Phone.Handle

def schemeAlphabet : List Char :=
  "abcdefghijklmnopqrstuvwxyzABCDEFGHIJKLMNOPQRSTUVWXYZ0123456789+-.".toList

def IsScheme (s : String) : Prop := s ≠ "" ∧ ∀ c ∈ s.toList, c ∈ schemeAlphabet

instance (s : String) : Decidable (IsScheme s) :=
  haveI : Decidable (∀ c ∈ s.toList, c ∈ schemeAlphabet) := List.decidableBAll _ _
  inferInstanceAs (Decidable (_ ∧ _))

theorem toNat_lt_of_isSchemeChar {c : Char} (h : isSchemeChar c = true) : c.toNat < 128 := by
  have hbound {last : UInt32} (hle : c.val ≤ last) (hlast : last.toNat < 128) : c.toNat < 128 :=
    Nat.lt_of_le_of_lt (UInt32.le_iff_toNat_le.mp hle) hlast
  simp only [isSchemeChar, Bool.or_eq_true, decide_eq_true_eq] at h
  rcases h with ((halphanum | rfl) | rfl) | rfl
  · rcases Bool.or_eq_true_iff.mp halphanum with halpha | hdigit
    · rcases Bool.or_eq_true_iff.mp halpha with hupper | hlower
      · exact hbound (of_decide_eq_true hupper).2 (by decide)
      · exact hbound (of_decide_eq_true (Bool.and_eq_true_iff.mp hlower).2) (by decide)
    · exact hbound (of_decide_eq_true (Bool.and_eq_true_iff.mp hdigit).2) (by decide)
  all_goals decide

/-- No letter of another script is taken for one of a scheme. -/
theorem isSchemeChar_iff {c : Char} : isSchemeChar c = true ↔ c ∈ schemeAlphabet := by
  constructor
  · intro h
    have htable : ∀ n < 128, isSchemeChar (.ofNat n) = true →
        n ∈ schemeAlphabet.map Char.toNat := by decide +kernel
    have hnumber : c.toNat ∈ schemeAlphabet.map Char.toNat :=
      htable c.toNat (toNat_lt_of_isSchemeChar h) (by rwa [Char.ofNat_toNat])
    obtain ⟨d, hd, hsame⟩ := List.mem_map.mp hnumber
    exact Char.toNat_inj.mp hsame ▸ hd
  · have htable : schemeAlphabet.all isSchemeChar = true := by decide +kernel
    exact List.all_eq_true.mp htable c

theorem IsScheme.colon_not_mem {s : String} (h : IsScheme s) : ':' ∉ s.toList := fun hcolon =>
  absurd (h.2 ':' hcolon) (by decide)

def lowered (s : String) : String := .ofList (s.toList.map Char.toLower)

theorem isScheme_lowered {s : String} (h : IsScheme s) : IsScheme (lowered s) := by
  have hlower : schemeAlphabet.all (fun c => c.toLower ∈ schemeAlphabet) = true := by
    decide +kernel
  constructor
  · simpa [lowered] using h.1
  · rw [lowered, String.toList_ofList]
    intro c hc
    obtain ⟨d, hd, rfl⟩ := List.mem_map.mp hc
    exact of_decide_eq_true (List.all_eq_true.mp hlower d (h.2 d hd))

theorem lowered_lowered {s : String} (h : IsScheme s) : lowered (lowered s) = lowered s := by
  have htwice : schemeAlphabet.all (fun c => c.toLower.toLower = c.toLower) = true := by
    decide +kernel
  rw [lowered, lowered, String.toList_ofList, List.map_map]
  exact congrArg String.ofList (List.map_congr_left fun c hc =>
    of_decide_eq_true (List.all_eq_true.mp htwice c (h.2 c hc)))

/-- What is read of a text depends on what stands before and after its first colon. -/
theorem parse_at_colon {scheme part : String} (hfirst : ':' ∉ scheme.toList) :
    parse (scheme ++ ":" ++ part) =
      if IsScheme scheme then
        if part = "" then .error (.emptyAddress (scheme ++ ":" ++ part))
        else .ok ⟨lowered scheme, part⟩
      else .error (.badScheme scheme) := by
  have hcut : Text.cut? [':'] (scheme ++ ":" ++ part).toList =
      some (scheme.toList, part.toList) := by
    rw [String.toList_append, String.toList_append]
    exact Text.cut?_append_of_not_mem hfirst
  have hscheme : (scheme.toList.isEmpty || !scheme.toList.all isSchemeChar) = true ↔
      ¬IsScheme scheme := by
    simp [IsScheme, isSchemeChar_iff, Decidable.imp_iff_not_or]
  rw [parse, hcut]
  simp only [hscheme, ite_not, List.isEmpty_iff, String.toList_eq_nil_iff, String.ofList_toList,
    lowered]

theorem parse_of_no_colon {s : String} (h : ':' ∉ s.toList) :
    parse s = .error (.missingScheme s) := by
  rw [parse, Text.cut?_eq_none_of_not_mem h]

theorem exists_first_colon {s : String} (h : ':' ∈ s.toList) :
    ∃ scheme part : String, s = scheme ++ ":" ++ part ∧ ':' ∉ scheme.toList := by
  obtain ⟨before, after, hs, hfirst⟩ := List.eq_append_cons_of_mem h
  refine ⟨.ofList before, .ofList after, ?_, by rwa [String.toList_ofList]⟩
  rw [← String.toList_inj, String.toList_append, String.toList_append, String.toList_ofList,
    String.toList_ofList, hs]
  simp

theorem parse_at_colon_eq_ok_iff {scheme part : String} (hfirst : ':' ∉ scheme.toList)
    {h : Handle} : parse (scheme ++ ":" ++ part) = .ok h ↔
      IsScheme scheme ∧ part ≠ "" ∧ h = ⟨lowered scheme, part⟩ := by
  rw [parse_at_colon hfirst]
  by_cases hscheme : IsScheme scheme
  · by_cases hpart : part = ""
    · simp [hscheme, hpart]
    · simp [hscheme, hpart, eq_comm]
  · simp [hscheme]

theorem parse_eq_ok_iff {s : String} {h : Handle} :
    parse s = .ok h ↔ ∃ scheme part : String, s = scheme ++ ":" ++ part ∧ ':' ∉ scheme.toList ∧
      IsScheme scheme ∧ part ≠ "" ∧ h = ⟨lowered scheme, part⟩ := by
  constructor
  · intro hread
    by_cases hcolon : ':' ∈ s.toList
    · obtain ⟨scheme, part, rfl, hfirst⟩ := exists_first_colon hcolon
      exact ⟨scheme, part, rfl, hfirst, (parse_at_colon_eq_ok_iff hfirst).mp hread⟩
    · rw [parse_of_no_colon hcolon] at hread
      cases hread
  · rintro ⟨scheme, part, rfl, hfirst, hread⟩
    exact (parse_at_colon_eq_ok_iff hfirst).mpr hread

theorem parse_text {h : Handle} (hscheme : IsScheme h.scheme) (hlower : lowered h.scheme = h.scheme)
    (hpart : h.part ≠ "") : parse h.text = .ok h := by
  rw [text, parse_at_colon hscheme.colon_not_mem, if_pos hscheme, if_neg hpart, hlower]

/-- A text is read exactly if a scheme stands before its first colon and something after it; the
scheme is then put into lower case, and all the rest is the part. The text of the handle differs in
nothing else, and the same handle is read from it. Every handle with a scheme in lower case and a
part is read from its text. -/
theorem parse_accepts_grammar :
    (∀ (s : String) (h : Handle), parse s = .ok h ↔
      ∃ scheme part : String, s = scheme ++ ":" ++ part ∧ ':' ∉ scheme.toList ∧
        IsScheme scheme ∧ part ≠ "" ∧ h = ⟨lowered scheme, part⟩) ∧
    (∀ scheme part : String, ':' ∉ scheme.toList → ∀ h, parse (scheme ++ ":" ++ part) = .ok h →
      h.text = lowered scheme ++ ":" ++ part ∧ parse h.text = .ok h) ∧
    ∀ h : Handle, IsScheme h.scheme → lowered h.scheme = h.scheme → h.part ≠ "" →
      parse h.text = .ok h := by
  refine ⟨fun s h => parse_eq_ok_iff, ?_, fun h => parse_text⟩
  intro scheme part hfirst h hread
  obtain ⟨hscheme, hpart, rfl⟩ := (parse_at_colon_eq_ok_iff hfirst).mp hread
  exact ⟨rfl, parse_text (isScheme_lowered hscheme) (lowered_lowered hscheme) hpart⟩

/-- The case of a part is kept, and so are its colons; a letter that only looks like one of a scheme
is not accepted. -/
theorem parse_accepts_grammar_colons :
    let h : Handle := ⟨"sip+x.1", "Bob:5061@M\u00fcnchen"⟩
    parse "Sip+X.1:Bob:5061@M\u00fcnchen" = .ok h ∧ parse h.text = .ok h ∧
      parse (sip "bob@example.com").text = .ok (sip "bob@example.com") ∧
      parse "\u017fip:Bob" = .error (.badScheme "\u017fip") := by
  intro h
  obtain ⟨haccepts, hagain, htext⟩ := parse_accepts_grammar
  have hread : parse "Sip+X.1:Bob:5061@M\u00fcnchen" = .ok h :=
    (haccepts _ h).mpr ⟨"Sip+X.1", "Bob:5061@M\u00fcnchen", by decide, by decide, by decide +kernel,
      by decide, by decide⟩
  have hback := hagain "Sip+X.1" "Bob:5061@M\u00fcnchen" (by decide) h hread
  exact ⟨hread, hback.2, htext (sip _) (by decide +kernel) (by decide) (by decide), rfl⟩

end CallHistory.Phone.Handle
