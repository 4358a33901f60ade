import CallHistory.Json.Printer
import CallHistory.Json.Token
import CallHistory.Proofs.Text.Digits

/-! # Spelling

A control character without a short escape is written by number and comes back as that number; any
other part of a string comes back as it was. The characters of a spelling are the same before and
after, and no control character is left in what is written. A numeral comes back as it was.
-/

namespace CallHistory.Json

namespace Piece

def shortControls : List Char := ['\x08', '\t', '\n', '\x0c', '\r']

def number (c : Char) : Fin 65536 := ⟨c.toNat % 65536, Nat.mod_lt _ (Nat.succ_pos 65535)⟩

def written : Piece → Piece
  | .char c =>
    if c.toNat < 0x20 && !shortControls.contains c then .code (number c) else .char c
  | .code n => .code n

end Piece

section Strings

/-- A number that is no half of a character stands for its character wherever it is. -/
theorem decode?_code {n : Fin 65536} (hhigh : isHigh n = false) (hlow : isLow n = false)
    (s : List Piece) : decode? (.code n :: s) = (decode? s).map (.ofNat n.val :: ·) := by
  cases s with
  | nil => simp [decode?, hhigh, hlow]
  | cons p s => cases p <;> simp [decode?, hhigh, hlow]

/-- Half a character stands for nothing unless the second half follows it. -/
theorem decode?_half {n : Fin 65536} (hhalf : (isHigh n || isLow n) = true) {s : List Piece}
    (hnext : ∀ m rest, s = .code m :: rest → isLow m = false) : decode? (.code n :: s) = none := by
  cases s with
  | nil => simp [decode?, hhalf]
  | cons p rest =>
    cases p with
    | char c => simp [decode?, hhalf]
    | code m =>
      have hlow := hnext m rest rfl
      cases hhigh : isHigh n with
      | true => simp [decode?, hhigh, hlow]
      | false =>
        rw [hhigh, Bool.false_or] at hhalf
        simp [decode?, hhigh, hhalf]

theorem Piece.written_char (c : Char) :
    (Piece.char c).written = .char c ∨ ∃ n : Fin 65536, (Piece.char c).written = .code n ∧
      isHigh n = false ∧ isLow n = false ∧ Char.ofNat n.val = c := by
  by_cases hlong : (c.toNat < 0x20 && !shortControls.contains c) = true
  · have hcontrol : c.toNat < 0x20 := of_decide_eq_true (Bool.and_eq_true_iff.mp hlong).1
    have hn : (number c).val = c.toNat := Nat.mod_eq_of_lt (by omega)
    refine .inr ⟨number c, if_pos hlong, ?_, ?_, ?_⟩
    · simp only [isHigh, hn, Bool.and_eq_false_imp, decide_eq_true_eq]
      omega
    · simp only [isLow, hn, Bool.and_eq_false_imp, decide_eq_true_eq]
      omega
    · rw [hn, Char.ofNat_toNat]
  · exact .inl (if_neg hlong)

/-- A spelling has the same characters after it has been written. -/
@[simp] theorem decode?_written (s : List Piece) : decode? (s.map Piece.written) = decode? s := by
  fun_induction decode? s with
  | case1 => rfl
  | case2 c rest ih =>
    rw [List.map_cons]
    rcases Piece.written_char c with hsame | ⟨n, hcode, hhigh, hlow, hn⟩
    · rw [hsame, decode?, ih]
    · rw [hcode, decode?_code hhigh hlow, hn, ih]
  | case3 n m rest hhigh hlow ih => simp [Piece.written, decode?, hhigh, hlow, ih]
  | case4 n m rest hhigh hlow => simp [Piece.written, decode?, hhigh, hlow]
  | case5 n m rest hhigh hlow => simp [Piece.written, decode?, hhigh, hlow]
  | case6 n m rest hhigh hlow ih => simp_all [Piece.written, decode?]
  | case7 n rest hnext hhalf =>
    refine decode?_half hhalf fun m others hrest => ?_
    obtain ⟨p, tail, rfl, hp, -⟩ := List.map_eq_cons_iff.mp hrest
    cases p with
    | code k => exact absurd rfl (hnext k tail)
    | char c =>
      rcases Piece.written_char c with hsame | ⟨k, hcode, -, hlow, -⟩
      · rw [hsame] at hp
        cases hp
      · rw [hcode] at hp
        cases hp
        exact hlow
  | case8 n rest hnext hhalf ih =>
    rw [Bool.not_eq_true, Bool.or_eq_false_iff] at hhalf
    rw [List.map_cons]
    exact (decode?_code hhalf.1 hhalf.2 _).trans (congrArg _ ih)

/-- All that the spelling of a character can be: a short escape, an escape by number, or the
character itself. -/
theorem spell_cases (c : Char) :
    (∃ e, spell c = ['\\', e] ∧ e ≠ 'u' ∧ escaped? e = some c ∧ (Piece.char c).written = .char c) ∨
      (spell c = '\\' :: 'u' :: codeDigits c.toNat ∧ c.toNat < 0x20 ∧
        (Piece.char c).written = .code (Piece.number c)) ∨
      (spell c = [c] ∧ c ≠ '"' ∧ c ≠ '\\' ∧ ¬c.toNat < 0x20 ∧ (Piece.char c).written = .char c) := by
  by_cases hshort : c ∈ '"' :: '\\' :: Piece.shortControls
  · left
    simp only [Piece.shortControls, List.mem_cons, List.not_mem_nil, or_false] at hshort
    rcases hshort with rfl | rfl | rfl | rfl | rfl | rfl | rfl <;>
      exact ⟨_, rfl, by decide, rfl, rfl⟩
  · right
    simp only [List.mem_cons, not_or] at hshort
    obtain ⟨hquote, hslash, hcontrol⟩ := hshort
    have hspell : spell c = if c.toNat < 0x20 then '\\' :: 'u' :: codeDigits c.toNat else [c] := by
      simp only [Piece.shortControls, List.mem_cons, List.not_mem_nil, or_false, not_or] at hcontrol
      simp [spell, hquote, hslash, hcontrol]
    rw [hspell]
    by_cases hlow : c.toNat < 0x20
    · exact .inl ⟨if_pos hlow, hlow, if_pos (by simp [hlow, hcontrol])⟩
    · exact .inr ⟨if_neg hlow, hquote, hslash, hlow, if_neg (by simp [hlow])⟩

theorem plain_codeDigits (n : Nat) : ∀ c ∈ codeDigits n, 0x20 ≤ c.toNat := by
  have hchar : ∀ d, 0x20 ≤ (Text.Hex.char d).toNat := by decide
  obtain ⟨ds, hds, -⟩ := Text.Hex.exists_digits n
  intro c hc
  rw [codeDigits, hds, List.mem_append] at hc
  rcases hc with hzero | hdigit
  · rw [List.eq_of_mem_replicate hzero]
    decide
  · obtain ⟨d, -, rfl⟩ := List.mem_map.mp hdigit
    exact hchar d

theorem plain_spell (c : Char) : ∀ d ∈ spell c, 0x20 ≤ d.toNat := by
  rcases spell_cases c with ⟨e, hspell, -, hescaped, -⟩ | ⟨hspell, -⟩ | ⟨hspell, -, -, hlow, -⟩
  · have he : 0x20 ≤ e.toNat := by
      unfold escaped? at hescaped
      split at hescaped <;> first | decide | cases hescaped
    simp [hspell, he]
  · rw [hspell]
    simpa using plain_codeDigits c.toNat
  · rw [hspell, List.forall_mem_singleton]
    exact Nat.le_of_not_lt hlow

theorem plain_printString (p : List Piece) : ∀ c ∈ printString p, 0x20 ≤ c.toNat := by
  have hparts : ∀ c ∈ p.flatMap spellPiece, 0x20 ≤ c.toNat := by
    intro c hc
    obtain ⟨q, -, hq⟩ := List.mem_flatMap.mp hc
    cases q with
    | char d => exact plain_spell d c hq
    | code n =>
      have hcode : ∀ d ∈ '\\' :: 'u' :: codeDigits n.val, 0x20 ≤ d.toNat := by
        simpa using plain_codeDigits n.val
      exact hcode c hq
  simpa [printString, or_imp, forall_and] using hparts

end Strings

section Numerals

theorem isBare_of_isDigit {c : Char} (h : c.isDigit = true) : isBare c = true := by
  simp [isBare, Char.isAlphanum, h]

theorem plain_of_isBare {c : Char} (h : isBare c = true) : 0x20 ≤ c.toNat := by
  have hcontrols : ∀ n < 0x20, isBare (Char.ofNat n) = false := by decide
  refine Nat.le_of_not_lt fun hlow => ?_
  have hc := hcontrols c.toNat hlow
  rw [Char.ofNat_toNat, h] at hc
  cases hc

/-- What stands behind the whole part of a written numeral. -/
def Numeral.tail (n : Numeral) : List Char := if n.integral then [] else ['.', '0']

theorem Numeral.tail_spec (n : Numeral) :
    isTail n.tail = true ∧ n.tail.isEmpty = n.integral ∧
      (∀ c ∈ n.tail.head?, c.isDigit = false) ∧ ∀ c ∈ n.tail, isBare c = true := by
  unfold Numeral.tail
  cases n.integral with
  | true => exact ⟨rfl, rfl, nofun, nofun⟩
  | false =>
    refine ⟨rfl, rfl, ?_, List.all_eq_true.mp (by decide)⟩
    rintro c ⟨⟩
    rfl

theorem isBare_of_mem_printNumeral {n : Numeral} {c : Char} (h : c ∈ printNumeral n) :
    isBare c = true := by
  simp only [printNumeral, List.mem_append] at h
  rcases h with (hsign | hwhole) | htail
  · split at hsign
    · rw [List.mem_singleton.mp hsign]
      decide
    · cases hsign
  · exact isBare_of_isDigit (Text.Decimal.isDigit_of_mem_ofNat hwhole)
  · exact n.tail_spec.2.2.2 c htail

/-- Whether a whole part is written without needless zeros. -/
def Numeral.isCanonical : List Char → Bool
  | [] => false
  | [_] => true
  | c :: _ => c ≠ '0'

theorem Numeral.isCanonical_ofNat (whole : Nat) :
    Numeral.isCanonical (Text.Decimal.ofNat whole) = true := by
  cases whole with
  | zero => rfl
  | succ n =>
    have hhead := Text.Decimal.head?_ofNat n.succ_pos
    unfold Numeral.isCanonical
    split
    · rename_i hnil
      exact absurd hnil (Text.Decimal.ofNat_ne_nil _)
    · rfl
    · rename_i c cs _ hcons
      rw [hcons] at hhead
      exact decide_eq_true fun hc => hhead (congrArg some hc)

def Numeral.unsigned? (negative : Bool) (s : List Char) : Option Numeral :=
  let whole := s.takeWhile Char.isDigit
  let tail := s.dropWhile Char.isDigit
  if isCanonical whole && isTail tail then some ⟨negative, Text.Decimal.value whole, tail.isEmpty⟩
  else none

theorem Numeral.parse?_minus (s : List Char) :
    Numeral.parse? ('-' :: s) = Numeral.unsigned? true s := rfl

theorem Numeral.parse?_plain {s : List Char} (h : ∀ t, s ≠ '-' :: t) :
    Numeral.parse? s = Numeral.unsigned? false s := by
  unfold Numeral.parse?
  split
  rename_i heq
  split at heq
  · exact absurd rfl (h _)
  · cases heq
    rfl

theorem Numeral.parse?_printNumeral (n : Numeral) : Numeral.parse? (printNumeral n) = some n := by
  obtain ⟨htail, hempty, hstop, -⟩ := n.tail_spec
  obtain ⟨hwhole, hrest⟩ := Text.Decimal.span_isDigit
    (fun c => Text.Decimal.isDigit_of_mem_ofNat (n := n.whole) (c := c)) hstop
  have hread (negative : Bool) : Numeral.unsigned? negative (Text.Decimal.ofNat n.whole ++ n.tail) =
      some ⟨negative, n.whole, n.integral⟩ := by
    simp [Numeral.unsigned?, hwhole, hrest, Numeral.isCanonical_ofNat, htail, ← hempty]
  have hprint : printNumeral n =
      (if n.negative then ['-'] else []) ++ (Text.Decimal.ofNat n.whole ++ n.tail) :=
    List.append_assoc _ _ _
  have hself := hread n.negative
  rw [hprint]
  cases hnegative : n.negative with
  | true =>
    rw [hnegative] at hself
    exact (Numeral.parse?_minus _).trans (hself.trans (by rw [← hnegative]))
  | false =>
    -- a digit stands where a sign would
    have hsign (s : List Char) : Text.Decimal.ofNat n.whole ++ n.tail ≠ '-' :: s := by
      obtain ⟨c, cs, hcons⟩ := List.exists_cons_of_ne_nil (Text.Decimal.ofNat_ne_nil n.whole)
      have hdigit : c.isDigit = true :=
        Text.Decimal.isDigit_of_mem_ofNat (n := n.whole) (hcons ▸ List.mem_cons_self)
      intro heq
      rw [hcons] at heq
      rw [(List.cons.inj heq).1] at hdigit
      exact absurd hdigit (by decide)
    rw [hnegative] at hself
    exact (Numeral.parse?_plain hsign).trans (hself.trans (by rw [← hnegative]))

/-- A numeral is one bare word, for no literal is a numeral. -/
theorem Token.ofWord?_of_parse? {word : List Char} {n : Numeral}
    (h : Numeral.parse? word = some n) : Token.ofWord? word = some (.number n) := by
  have hne {literal : List Char} (hliteral : Numeral.parse? literal = none) : word ≠ literal := by
    rintro rfl
    rw [h] at hliteral
    cases hliteral
  unfold Token.ofWord?
  rw [if_neg (hne (by decide)), if_neg (hne (by decide)), if_neg (hne (by decide)), h]
  rfl

theorem Token.ofWord?_printNumeral (n : Numeral) :
    Token.ofWord? (printNumeral n) = some (.number n) :=
  Token.ofWord?_of_parse? (Numeral.parse?_printNumeral n)

end Numerals

end CallHistory.Json
