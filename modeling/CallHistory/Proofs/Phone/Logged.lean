import CallHistory.Proofs.Phone.Normalization
import CallHistory.Record.Dispatch

/-! # The number that is logged

The number that a record bears tells as much as the address of the call did: whether it can be dialed,
and whether it is an emergency number. A dialable one is of digits and marks alone, and no second look
changes it.
-/

namespace CallHistory

namespace Phone

theorem mem_stripSeparators_plain {number : String} {d : Char}
    (h : d ∈ (stripSeparators number).toList) :
    d.isDigit = true ∨ d ∈ ['+', '*', '#', ',', ';', 'N'] := by
  have hdigit : ∀ v < 10, (Nat.digitChar v).isDigit = true := by decide
  obtain ⟨v, hv, rfl⟩ | hmark := dialable?_cases (mem_stripSeparators h).1
  · exact .inl (hdigit v hv)
  · exact .inr hmark

theorem isUri_normalize (number : String) : isUri (normalize number) = isUri number := by
  unfold normalize
  cases huri : isUri number with
  | true => simp [huri]
  | false => simp [isUri_stripSeparators]

theorem normalize_of_not_isUri {number : String} (h : isUri number = false) :
    normalize number = stripSeparators number := by
  simp [normalize, h]

end Phone

open Phone

/-- The number of a record is an address exactly if the call had one. Otherwise it is of digits and
marks alone, with no separator to strip. A call to the logged number is logged under the same number,
and whether a number is an emergency number can be told from the record as well as from the call. -/
theorem logged_number_tells_as_much (call : CallInfo) (kind : CallKind) (h : Handle)
    (hcall : call.handle = some h) :
    ∃ n, (Record.ofCall call kind).number = some n ∧ isUri n = isUri h.part ∧
      (isUri h.part = false →
        (∀ c ∈ n.toList, c.isDigit = true ∨ c ∈ ['+', '*', '#', ',', ';', 'N']) ∧
        stripSeparators n = n) ∧
      (∀ again kind' scheme, again.handle = some ⟨scheme, n⟩ →
        (Record.ofCall again kind').number = some n) ∧
      (∀ e : EmergencyNumbers, e.recognizes n = e.recognizes h.part) ∧
      ∀ d : Dispatcher, d.isEmergency (Record.ofCall call kind) = d.emergency.recognizes h.part := by
  have hnumber : (Record.ofCall call kind).number = some h.logNumber := by
    simp [Record.ofCall, Record.make, hcall]
  refine ⟨h.logNumber, hnumber, isUri_normalize h.part, ?_, ?_, fun e => e.recognizes_logNumber h, ?_⟩
  · intro huri
    rw [Handle.logNumber, normalize_of_not_isUri huri]
    exact ⟨fun c => mem_stripSeparators_plain, stripSeparators_stripSeparators h.part⟩
  · intro again kind' scheme hagain
    have hsame : (Handle.mk scheme h.logNumber).logNumber = h.logNumber :=
      normalize_normalize h.part
    simp [Record.ofCall, Record.make, hagain, hsame]
  · intro d
    simp [Dispatcher.isEmergency, hnumber, EmergencyNumbers.recognizes_logNumber]

/-- An emergency call in Arabic digits with a space between them. -/
theorem logged_number_tells_as_much_arabic :
    let call : CallInfo := ⟨false, some (.tel "\u0669\u0661 \u0661"), 0, 0⟩
    call.handle = some (.tel "\u0669\u0661 \u0661") ∧
      ∃ n, (Record.ofCall call .outgoing).number = some n ∧ n = "911" ∧
        stripSeparators n = n ∧
        (Dispatcher.mk ⟨false⟩ .standard).isEmergency (Record.ofCall call .outgoing) = true := by
  intro call
  obtain ⟨n, hnumber, -, hplain, -, -, hemergency⟩ :=
    logged_number_tells_as_much call .outgoing (.tel "\u0669\u0661 \u0661") rfl
  have hn : some n = some "911" := hnumber.symm.trans (by decide)
  refine ⟨rfl, n, hnumber, Option.some.inj hn, (hplain (by decide)).2, ?_⟩
  rw [hemergency]
  decide

end CallHistory
