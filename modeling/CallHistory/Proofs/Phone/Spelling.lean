import Mathlib.Data.List.Pairwise
import Mathlib.Logic.Relation
import CallHistory.Proofs.Phone.Normalization

/-! # Spellings of a number

A number can be written with the digits of any script and with separators wherever one likes. Two
texts are spellings of one number exactly if the same is left of both without separators, so neither
the log nor an emergency list tells them apart. Of an emergency list nothing counts but which numbers
are spelled on it.
-/

namespace CallHistory.Phone

def IsDigit (c : Char) (v : Nat) : Prop := v < 10 ∧ ∃ z ∈ zeros, c.toNat = z + v

def IsSeparator (c : Char) : Prop := (∀ v, ¬ IsDigit c v) ∧ c ∉ marks

/-- No two scripts share a digit. -/
theorem zeros_apart : zeros.Pairwise fun y z => y + 10 ≤ z ∨ z + 10 ≤ y := by
  decide +kernel

theorem zero_unique {y z n : Nat} (hy : y ∈ zeros) (hz : z ∈ zeros) (hny : y ≤ n ∧ n < y + 10)
    (hnz : z ≤ n ∧ n < z + 10) : y = z := by
  by_contra hne
  have : Std.Symm fun y z : Nat => y + 10 ≤ z ∨ z + 10 ≤ y := ⟨fun _ _ => Or.symm⟩
  have := zeros_apart.forall hy hz hne
  omega

theorem digitValue?_eq_some_iff {c : Char} {v : Nat} : digitValue? c = some v ↔ IsDigit c v := by
  unfold digitValue?
  rw [Option.map_eq_some_iff]
  constructor
  · rintro ⟨z, hz, rfl⟩
    have hrun := List.find?_some hz
    simp only [Bool.and_eq_true, decide_eq_true_eq] at hrun
    exact ⟨by omega, z, List.mem_of_find?_eq_some hz, by omega⟩
  · rintro ⟨hv, z, hz, hc⟩
    cases hfind : zeros.find? fun z => z ≤ c.toNat && c.toNat < z + 10 with
    | none =>
      have := List.find?_eq_none.mp hfind z hz
      simp only [Bool.and_eq_true, decide_eq_true_eq] at this
      omega
    | some y =>
      have hrun := List.find?_some hfind
      simp only [Bool.and_eq_true, decide_eq_true_eq] at hrun
      -- A run before that of `z` may not hold the character as well.
      have := zero_unique (List.mem_of_find?_eq_some hfind) hz hrun (by omega)
      exact ⟨y, rfl, by omega⟩

theorem isDigit_digitChar {v : Nat} (h : v < 10) : IsDigit (Nat.digitChar v) v := by
  have hvalue : ∀ v < 10, digitValue? (Nat.digitChar v) = some v := by decide
  exact digitValue?_eq_some_iff.mp (hvalue v h)

theorem dialable?_of_isDigit {c : Char} {v : Nat} (h : IsDigit c v) :
    dialable? c = some (Nat.digitChar v) := by
  simp [dialable?, digitValue?_eq_some_iff.mpr h]

theorem dialable?_eq_none_iff {c : Char} : dialable? c = none ↔ IsSeparator c := by
  constructor
  · intro h
    constructor
    · intro v hv
      simp [dialable?_of_isDigit hv] at h
    · intro hmark
      simp [dialable?_of_mem_marks hmark] at h
  · rintro ⟨hdigit, hmark⟩
    cases hvalue : digitValue? c with
    | some v => exact absurd (digitValue?_eq_some_iff.mp hvalue) (hdigit v)
    | none => simp [dialable?, hvalue, hmark]

/-- Nothing is left of a text exactly if it is made of separators alone. -/
theorem stripSeparators_eq_empty_iff {s : String} :
    stripSeparators s = "" ↔ ∀ c ∈ s.toList, IsSeparator c := by
  simp [stripSeparators, String.ofList_eq_empty_iff, List.filterMap_eq_nil_iff,
    dialable?_eq_none_iff]

/-- One change to a text that leaves the number what it is. -/
inductive Respelling : List Char → List Char → Prop
  | digit (before after : List Char) {c d : Char} {v : Nat} (hc : IsDigit c v) (hd : IsDigit d v) :
    Respelling (before ++ c :: after) (before ++ d :: after)
  | insert (before after : List Char) {c : Char} (hc : IsSeparator c) :
    Respelling (before ++ after) (before ++ c :: after)
  | delete (before after : List Char) {c : Char} (hc : IsSeparator c) :
    Respelling (before ++ c :: after) (before ++ after)

namespace Respelling

variable {s s' : List Char}

theorem cons (c : Char) (h : Respelling s s') : Respelling (c :: s) (c :: s') := by
  cases h with
  | digit before after hc hd => exact digit (c :: before) after hc hd
  | insert before after hc => exact insert (c :: before) after hc
  | delete before after hc => exact delete (c :: before) after hc

theorem symm (h : Respelling s s') : Respelling s' s := by
  cases h with
  | digit before after hc hd => exact digit before after hd hc
  | insert before after hc => exact delete before after hc
  | delete before after hc => exact insert before after hc

theorem filterMap_dialable? (h : Respelling s s') :
    s.filterMap dialable? = s'.filterMap dialable? := by
  cases h with
  | digit before after hc hd =>
    simp [dialable?_of_isDigit hc, dialable?_of_isDigit hd]
  | insert before after hc => simp [dialable?_eq_none_iff.mpr hc]
  | delete before after hc => simp [dialable?_eq_none_iff.mpr hc]

/-- Every text can be respelled into its dialable part, one character after the other. -/
theorem dialable (s : List Char) : Relation.ReflTransGen Respelling s (s.filterMap dialable?) := by
  induction s with
  | nil => exact .refl
  | cons c rest ih =>
    have hrest : Relation.ReflTransGen Respelling (c :: rest) (c :: rest.filterMap dialable?) :=
      ih.lift (c :: ·) fun _ _ => cons c
    by_cases hmark : c ∈ marks
    · rwa [List.filterMap_cons_some (dialable?_of_mem_marks hmark)]
    · cases hvalue : digitValue? c with
      | some v =>
        have hc := digitValue?_eq_some_iff.mp hvalue
        rw [List.filterMap_cons_some (dialable?_of_isDigit hc)]
        exact hrest.tail (digit [] _ hc (isDigit_digitChar hc.1))
      | none =>
        have hc : dialable? c = none := by simp [dialable?, hvalue, hmark]
        rw [List.filterMap_cons_none hc]
        exact hrest.tail (delete [] _ (dialable?_eq_none_iff.mp hc))

end Respelling

instance : Std.Symm Respelling := ⟨fun _ _ => Respelling.symm⟩

/-- Two texts that can be respelled into each other. -/
def SameNumber (s s' : String) : Prop := Relation.ReflTransGen Respelling s.toList s'.toList

/-- Two texts have the same dialable part exactly if they are spellings of one number. -/
theorem stripSeparators_eq_iff {s s' : String} :
    stripSeparators s = stripSeparators s' ↔ SameNumber s s' := by
  rw [stripSeparators, stripSeparators, String.ofList_inj, SameNumber]
  constructor
  · intro h
    have hback := Relation.ReflTransGen.stdSymm.symm _ _ (Respelling.dialable s'.toList)
    rw [← h] at hback
    exact (Respelling.dialable s.toList).trans hback
  · intro h
    generalize s'.toList = t at h
    induction h with
    | refl => rfl
    | tail _ hlast ih => exact ih.trans hlast.filterMap_dialable?

theorem sameNumber_stripSeparators (s : String) : SameNumber s (stripSeparators s) :=
  stripSeparators_eq_iff.mp (stripSeparators_stripSeparators s).symm

namespace EmergencyNumbers

theorem mem_numbers_ofList {n : String} {entries : List String} :
    n ∈ (ofList entries).numbers ↔ n ≠ "" ∧ ∃ x ∈ entries, stripSeparators x = n := by
  simp [ofList, and_comm]

/-- A list recognizes the spellings of its entries, but for addresses and what has nothing to dial. -/
theorem recognizes_ofList_iff {entries : List String} {n : String} :
    (ofList entries).recognizes n = true ↔
      isUri n = false ∧ stripSeparators n ≠ "" ∧ ∃ x ∈ entries, SameNumber x n := by
  simp [recognizes, mem_numbers_ofList, stripSeparators_eq_iff]

theorem recognizes_stripSeparators {e : EmergencyNumbers} {x : String} :
    e.recognizes (stripSeparators x) = true ↔ stripSeparators x ∈ e.numbers := by
  simp [recognizes, isUri_stripSeparators, stripSeparators_stripSeparators]

end EmergencyNumbers

/-- One change to the entries of an emergency list that is of no account. -/
inductive Relisting : List String → List String → Prop
  | respell (before after : List String) {x y : String} (h : SameNumber x y) :
    Relisting (before ++ x :: after) (before ++ y :: after)
  | permute {l l' : List String} (h : l.Perm l') : Relisting l l'
  | again (before after : List String) {x : String} (h : x ∈ before ++ after) :
    Relisting (before ++ after) (before ++ x :: after)
  | blank (before after : List String) {x : String} (h : stripSeparators x = "") :
    Relisting (before ++ after) (before ++ x :: after)

namespace Relisting

open EmergencyNumbers
open Relation (EqvGen)

variable {l l' : List String}

theorem cons (x : String) (h : Relisting l l') : Relisting (x :: l) (x :: l') := by
  cases h with
  | respell before after h => exact respell (x :: before) after h
  | permute h => exact permute (h.cons x)
  | again before after h => exact again (x :: before) after (List.mem_cons_of_mem x h)
  | blank before after h => exact blank (x :: before) after h

theorem mem_numbers (h : Relisting l l') (n : String) :
    n ∈ (ofList l).numbers ↔ n ∈ (ofList l').numbers := by
  cases h with
  | respell before after h =>
    simp only [ofList, List.map_append, List.map_cons, stripSeparators_eq_iff.mpr h]
  | permute h => simp [ofList, h.mem_iff]
  | again before after h => grind [mem_numbers_ofList]
  | blank before after h => simp [ofList, h]

theorem eqvGen_mem_numbers (h : EqvGen Relisting l l') (n : String) :
    n ∈ (ofList l).numbers ↔ n ∈ (ofList l').numbers := by
  induction h with
  | rel _ _ h => exact h.mem_numbers n
  | refl _ => rfl
  | symm _ _ _ ih => exact ih.symm
  | trans _ _ _ _ _ ih ih' => exact ih.trans ih'

theorem eqvGen_cons (x : String) (h : EqvGen Relisting l l') :
    EqvGen Relisting (x :: l) (x :: l') := by
  induction h with
  | rel _ _ h => exact .rel _ _ (cons x h)
  | refl _ => exact .refl _
  | symm _ _ _ ih => exact ih.symm
  | trans _ _ _ _ _ ih ih' => exact ih.trans _ _ _ ih'

theorem numbers (l : List String) : EqvGen Relisting l (ofList l).numbers := by
  induction l with
  | nil => exact .refl _
  | cons x rest ih =>
    have hrest := eqvGen_cons x ih
    by_cases hx : stripSeparators x = ""
    · have hblank : Relisting (ofList rest).numbers (x :: (ofList rest).numbers) := blank [] _ hx
      have hnumbers : (ofList (x :: rest)).numbers = (ofList rest).numbers := by simp [ofList, hx]
      rw [hnumbers]
      exact hrest.trans _ _ _ (.symm _ _ (.rel _ _ hblank))
    · have hspelled : Relisting (x :: (ofList rest).numbers)
          (stripSeparators x :: (ofList rest).numbers) := respell [] _ (sameNumber_stripSeparators x)
      have hnumbers : (ofList (x :: rest)).numbers = stripSeparators x :: (ofList rest).numbers := by
        simp [ofList, hx]
      rw [hnumbers]
      exact hrest.trans _ _ _ (.rel _ _ hspelled)

theorem repeated {m : List String} (h : m ⊆ l) : EqvGen Relisting l (m ++ l) := by
  induction m with
  | nil => exact .refl _
  | cons x rest ih =>
    have hrest := ih (List.subset_of_cons_subset h)
    have hx : x ∈ rest ++ l := List.mem_append_right rest (h List.mem_cons_self)
    exact hrest.trans _ _ _ (.rel _ _ (again [] (rest ++ l) hx))

theorem of_subset (h : l ⊆ l') (h' : l' ⊆ l) : EqvGen Relisting l l' := by
  calc
    EqvGen Relisting l (l' ++ l) := repeated h'
    EqvGen Relisting _ (l ++ l') := .rel _ _ (permute List.perm_append_comm)
    EqvGen Relisting _ l' := (repeated h).symm

/-- Two lists recognize the same exactly if one can be turned into the other by such changes. -/
theorem eqvGen_iff :
    EqvGen Relisting l l' ↔ ∀ n, (ofList l).recognizes n = (ofList l').recognizes n := by
  constructor
  · intro h n
    rw [Bool.eq_iff_iff]
    simp [recognizes, eqvGen_mem_numbers h]
  · intro h
    have hsubset {k k' : List String}
        (h : ∀ n, (ofList k).recognizes n = (ofList k').recognizes n) :
        (ofList k).numbers ⊆ (ofList k').numbers := by
      intro n hn
      -- A number of the one list, dialed as it stands, is recognized by both.
      obtain ⟨-, x, -, rfl⟩ := mem_numbers_ofList.mp hn
      rwa [← recognizes_stripSeparators, ← h, recognizes_stripSeparators]
    calc
      EqvGen Relisting l (ofList l).numbers := numbers l
      EqvGen Relisting _ (ofList l').numbers :=
        of_subset (hsubset h) (hsubset fun n => (h n).symm)
      EqvGen Relisting _ l' := (numbers l').symm

end Relisting

namespace EmergencyNumbers

/-- Spellings of one number are the same without separators, and if neither is an address, they are
logged alike and recognized alike by every list. Lists that can be turned into each other by
respelling, permuting and repeating entries and by adding blank ones recognize the same, and only
they do. A number with nothing to dial is on no list. -/
theorem spelling_is_of_no_account :
    (∀ s s' : String, stripSeparators s = stripSeparators s' ↔ SameNumber s s') ∧
    (∀ h h' : Handle, isUri h.part = false → isUri h'.part = false → SameNumber h.part h'.part →
      h.logNumber = h'.logNumber ∧
        ∀ e : EmergencyNumbers, e.recognizes h.part = e.recognizes h'.part) ∧
    (∀ l l' : List String, Relation.EqvGen Relisting l l' ↔
      ∀ n, (ofList l).recognizes n = (ofList l').recognizes n) ∧
    ∀ (l : List String) (n : String), (∀ c ∈ n.toList, IsSeparator c) →
      (ofList l).recognizes n = false := by
  refine ⟨fun s s' => stripSeparators_eq_iff, ?_, fun l l' => Relisting.eqvGen_iff, ?_⟩
  · intro h h' huri huri' hsame
    have hstrip := stripSeparators_eq_iff.mpr hsame
    constructor
    · simp [Handle.logNumber, normalize, huri, huri', hstrip]
    · intro e
      simp [recognizes, huri, huri', hstrip]
  · intro l n hblank
    rw [Bool.eq_false_iff]
    intro hrecognized
    exact (recognizes_ofList_iff.mp hrecognized).2.1 (stripSeparators_eq_empty_iff.mpr hblank)

/-- A number in Arabic digits, and a list in which it stands twice, once in wide digits, beside a blank
entry. -/
theorem spelling_is_of_no_account_scripts :
    let plain : Handle := .tel "9-1-1"
    let arabic : Handle := .tel "(\u0669) \u0661.\u0661"
    let list := ["112", "911"]
    let list' := ["\uff19\uff11\uff11", " - ", "1 1 2", "911"]
    SameNumber plain.part arabic.part ∧ plain.logNumber = arabic.logNumber ∧
      (∀ e : EmergencyNumbers, e.recognizes plain.part = e.recognizes arabic.part) ∧
      (∀ n, (ofList list).recognizes n = (ofList list').recognizes n) ∧
      (ofList list').recognizes " - " = false := by
  intro plain arabic list list'
  obtain ⟨hstrip, hspelled, hlists, hblank⟩ := spelling_is_of_no_account
  have hsame : SameNumber plain.part arabic.part := (hstrip _ _).mp (by decide)
  obtain ⟨hlogged, hrecognized⟩ := hspelled plain arabic (by decide) (by decide) hsame
  have hlist : Relation.EqvGen Relisting list list' := by
    let wide := "\uff19\uff11\uff11"
    calc
      Relation.EqvGen Relisting list ["911", "112", "911"] := .rel _ _ (.again [] list (by decide))
      Relation.EqvGen Relisting _ [wide, "112", "911"] :=
        .rel _ _ (.respell [] _ ((hstrip _ _).mp (by decide)))
      Relation.EqvGen Relisting _ [wide, "1 1 2", "911"] :=
        .rel _ _ (.respell [wide] _ ((hstrip _ _).mp (by decide)))
      Relation.EqvGen Relisting _ list' := .rel _ _ (.blank [wide] _ (by decide))
  refine ⟨hsame, hlogged, hrecognized, (hlists _ _).mp hlist, hblank list' " - " ?_⟩
  exact stripSeparators_eq_empty_iff.mp (by decide)

end EmergencyNumbers
end CallHistory.Phone
