import CallHistory.Json.Reader
import CallHistory.Proofs.Json.Spelling

/-! # Written values are read

The compact form of a value is scanned into the tokens of the value, and the tokens are read as the
value. Only the spelling of control characters changes on the way. The compact form stands on one
line.
-/

namespace CallHistory.Json

mutual

/-- How a value comes back after it has been written. -/
def written : Json → Json
  | .null => .null
  | .bool b => .bool b
  | .number n => .number n
  | .string s => .string (s.map Piece.written)
  | .array items => .array (writtenItems items)
  | .object members => .object (writtenMembers members)

def writtenItems : List Json → List Json
  | [] => []
  | v :: rest => written v :: writtenItems rest

def writtenMembers : List (List Piece × Json) → List (List Piece × Json)
  | [] => []
  | (name, v) :: rest => (name.map Piece.written, written v) :: writtenMembers rest

end

mutual

def tokens : Json → List Token
  | .null => [.null]
  | .bool b => [.bool b]
  | .number n => [.number n]
  | .string s => [.string (s.map Piece.written)]
  | .array [] => [.bracketOpen, .bracketClose]
  | .array (v :: rest) => .bracketOpen :: (tokens v ++ tokensOfItems rest)
  | .object [] => [.braceOpen, .braceClose]
  | .object ((name, v) :: rest) =>
    .braceOpen :: .string (name.map Piece.written) :: .colon :: (tokens v ++ tokensOfMembers rest)

def tokensOfItems : List Json → List Token
  | [] => [.bracketClose]
  | v :: rest => .comma :: (tokens v ++ tokensOfItems rest)

def tokensOfMembers : List (List Piece × Json) → List Token
  | [] => [.braceClose]
  | (name, v) :: rest =>
    .comma :: .string (name.map Piece.written) :: .colon :: (tokens v ++ tokensOfMembers rest)

end

namespace Scan

/-- The tokens of a text that is scanned from between two tokens on, behind those scanned before. -/
def from? (tokens : List Token) (s : List Char) : Option (List Token) :=
  (s.foldlM step ⟨tokens, .between⟩).bind finish?

theorem from?_punctuation {c : Char} {t : Token} (h : Token.ofPunctuation? c = some t)
    (tokens : List Token) (s : List Char) : from? tokens (c :: s) = from? (t :: tokens) s := by
  unfold Token.ofPunctuation? at h
  split at h <;> cases h <;> rfl

theorem from?_spaces {space : List Char} (h : ∀ c ∈ space, isSpace c = true)
    (tokens : List Token) : from? tokens space = some tokens.reverse := by
  induction space with
  | nil => rfl
  | cons c space ih =>
    obtain ⟨hc, hspace⟩ := List.forall_mem_cons.mp h
    rw [← ih hspace]
    simp [from?, step, enter, hc]

theorem foldlM_codeDigits (tokens : List Token) (read : List Piece) (n : Fin 65536)
    (s : List Char) :
    (codeDigits n.val ++ s).foldlM step ⟨tokens, .code read []⟩ =
      s.foldlM step ⟨tokens, .string (.code n :: read)⟩ := by
  have hlength : (Text.Hex.digits n.val).length ≤ 4 :=
    (Nat.length_toDigits_le_iff (by decide) (by decide)).mpr n.isLt
  obtain ⟨ds, hds, hfour, hvalue⟩ := Text.Hex.exists_digits_filled hlength
  have hn : Fin.ofNat 65536 (Text.Hex.value ds) = n := by
    rw [hvalue]
    exact Fin.ofNat_val_eq_self n
  have hdigits : codeDigits n.val = ds.map Text.Hex.char := hds
  rw [hdigits, ← hn]
  match ds, hfour with
  | [a, b, c, d], _ => simp [step]

theorem foldlM_spellPiece (tokens : List Token) (read : List Piece) (p : Piece) (s : List Char) :
    (spellPiece p ++ s).foldlM step ⟨tokens, .string read⟩ =
      s.foldlM step ⟨tokens, .string (p.written :: read)⟩ := by
  cases p with
  | code n => exact foldlM_codeDigits tokens read n s
  | char c =>
    change (spell c ++ s).foldlM step _ = _
    rcases spell_cases c with ⟨e, hspell, hcode, hescaped, hwritten⟩ | ⟨hspell, hlow, hwritten⟩ |
      ⟨hspell, hquote, hslash, hlow, hwritten⟩
    · rw [hspell, hwritten]
      simp [step, hcode, hescaped]
    · have hdigits := foldlM_codeDigits tokens read (Piece.number c) s
      rw [show (Piece.number c).val = c.toNat from Nat.mod_eq_of_lt (by omega)] at hdigits
      rw [hspell, hwritten, ← hdigits]
      rfl
    · rw [hspell, hwritten]
      simp [step, hquote, hslash, hlow]

theorem from?_printString (tokens : List Token) (p : List Piece) (s : List Char) :
    from? tokens (printString p ++ s) = from? (.string (p.map Piece.written) :: tokens) s := by
  have hparts (read : List Piece) :
      (p.flatMap spellPiece ++ '"' :: s).foldlM step ⟨tokens, .string read⟩ =
        s.foldlM step ⟨.string (read.reverse ++ p.map Piece.written) :: tokens, .between⟩ := by
    induction p generalizing read with
    | nil => simp [step]
    | cons q p ih =>
      rw [List.flatMap_cons, List.append_assoc, foldlM_spellPiece, ih]
      simp
  have hprint : printString p ++ s = '"' :: (p.flatMap spellPiece ++ '"' :: s) := by
    simp [printString]
  rw [hprint]
  exact congrArg (Option.bind · finish?) (hparts [])

theorem not_isBare_of_isSpace {c : Char} (h : isSpace c = true) : isBare c = false := by
  simp only [isSpace, Bool.or_eq_true, decide_eq_true_eq] at h
  obtain ((rfl | rfl) | rfl) | rfl := h <;> decide

theorem enter_bare {c : Char} (h : isBare c = true) (tokens : List Token) :
    enter tokens c = some ⟨tokens, .bare [c]⟩ := by
  have hspace : isSpace c = false := by
    rw [Bool.eq_false_iff]
    intro hspace
    rw [not_isBare_of_isSpace hspace] at h
    cases h
  have hquote : c ≠ '"' := by
    rintro rfl
    exact absurd h (by decide)
  simp [enter, hspace, hquote, h]

/-- A bare word is scanned as its token if no bare character follows. -/
theorem from?_word {word : List Char} {t : Token} (hword : Token.ofWord? word = some t)
    (hbare : ∀ c ∈ word, isBare c = true) (tokens : List Token) {s : List Char}
    (hs : ∀ c ∈ s.head?, isBare c = false) : from? tokens (word ++ s) = from? (t :: tokens) s := by
  have hrest (word read : List Char) (hbare : ∀ c ∈ word, isBare c = true) :
      (word ++ s).foldlM step ⟨tokens, .bare read⟩ =
        s.foldlM step ⟨tokens, .bare (word.reverse ++ read)⟩ := by
    induction word generalizing read with
    | nil => rfl
    | cons c word ih =>
      have hc := hbare c List.mem_cons_self
      have hnext := ih (c :: read) fun d hd => hbare d (List.mem_cons_of_mem c hd)
      simpa [step, hc] using hnext
  cases word with
  | nil => cases hword
  | cons c word =>
    obtain ⟨hc, hword'⟩ := List.forall_mem_cons.mp hbare
    have hfirst : step ⟨tokens, .between⟩ c = some ⟨tokens, .bare [c]⟩ := enter_bare hc tokens
    have hscan : from? tokens (c :: word ++ s) =
        (s.foldlM step ⟨tokens, .bare (c :: word).reverse⟩).bind finish? := by
      rw [List.reverse_cons, ← hrest word [c] hword', from?, List.cons_append, List.foldlM_cons,
        hfirst]
      rfl
    rw [hscan]
    cases s with
    | nil => simp [finish?, hword, from?]
    | cons d s =>
      have hd := hs d rfl
      have hstep : step ⟨tokens, .bare (c :: word).reverse⟩ d = step ⟨t :: tokens, .between⟩ d := by
        simp [step, hd, hword]
      rw [from?, List.foldlM_cons, List.foldlM_cons, hstep]

theorem head?_printItems (items : List Json) (s : List Char) :
    ∀ c ∈ (printItems items ++ s).head?, isBare c = false := by
  cases items with
  | nil => simp [printItems, isBare]
  | cons v rest => simp [printItems, isBare]

theorem head?_printMembers (members : List (List Piece × Json)) (s : List Char) :
    ∀ c ∈ (printMembers members ++ s).head?, isBare c = false := by
  cases members with
  | nil => simp [printMembers, isBare]
  | cons m rest => simp [printMembers, isBare]

mutual

/-- The compact form of a value is scanned as the tokens of the value. -/
theorem from?_print (v : Json) (tokens : List Token) {s : List Char}
    (hs : ∀ c ∈ s.head?, isBare c = false) :
    from? tokens (v.print ++ s) = from? (v.tokens.reverse ++ tokens) s := by
  cases v with
  | null => exact from?_word rfl (List.all_eq_true.mp (by decide)) tokens hs
  | bool b =>
    cases b with
    | true => exact from?_word rfl (List.all_eq_true.mp (by decide)) tokens hs
    | false => exact from?_word rfl (List.all_eq_true.mp (by decide)) tokens hs
  | number n =>
    exact from?_word (Token.ofWord?_printNumeral n) (fun c => isBare_of_mem_printNumeral) tokens hs
  | string p => exact from?_printString tokens p s
  | array items =>
    cases items with
    | nil => exact (from?_punctuation rfl _ _).trans (from?_punctuation rfl _ _)
    | cons v rest =>
      have hprint : print (.array (v :: rest)) ++ s = '[' :: (print v ++ (printItems rest ++ s)) := by
        simp [print]
      rw [hprint, from?_punctuation rfl, from?_print v _ (head?_printItems rest s),
        from?_printItems rest]
      simp [Json.tokens]
  | object members =>
    cases members with
    | nil => exact (from?_punctuation rfl _ _).trans (from?_punctuation rfl _ _)
    | cons m rest =>
      rcases m with ⟨name, v⟩
      have hprint : print (.object ((name, v) :: rest)) ++ s =
          '\x7b' :: (printString name ++ ':' :: (print v ++ (printMembers rest ++ s))) := by
        simp [print]
      rw [hprint, from?_punctuation rfl, from?_printString, from?_punctuation rfl,
        from?_print v _ (head?_printMembers rest s), from?_printMembers rest]
      simp [Json.tokens]

theorem from?_printItems (items : List Json) (tokens : List Token) (s : List Char) :
    from? tokens (printItems items ++ s) = from? ((tokensOfItems items).reverse ++ tokens) s := by
  cases items with
  | nil => exact from?_punctuation rfl _ _
  | cons v rest =>
    have hprint : printItems (v :: rest) ++ s = ',' :: (print v ++ (printItems rest ++ s)) := by
      simp [printItems]
    rw [hprint, from?_punctuation rfl, from?_print v _ (head?_printItems rest s),
      from?_printItems rest]
    simp [tokensOfItems]

theorem from?_printMembers (members : List (List Piece × Json)) (tokens : List Token)
    (s : List Char) :
    from? tokens (printMembers members ++ s) =
      from? ((tokensOfMembers members).reverse ++ tokens) s := by
  cases members with
  | nil => exact from?_punctuation rfl _ _
  | cons m rest =>
    rcases m with ⟨name, v⟩
    have hprint : printMembers ((name, v) :: rest) ++ s =
        ',' :: (printString name ++ ':' :: (print v ++ (printMembers rest ++ s))) := by
      simp [printMembers]
    rw [hprint, from?_punctuation rfl, from?_printString, from?_punctuation rfl,
      from?_print v _ (head?_printMembers rest s), from?_printMembers rest]
    simp [tokensOfMembers]

end

end Scan

namespace Reading

/-- A token that begins a value is also read where an array may end. -/
theorem item_tokens (v : Json) (frames : List Frame) (s : List Token) :
    (v.tokens ++ s).foldlM step (.item frames) =
      (v.tokens ++ s).foldlM step (.value (.array [] :: frames)) := by
  cases v with
  | array items => cases items <;> rfl
  | object members => cases members <;> rfl
  | _ => rfl

mutual

theorem value_tokens (v : Json) (frames : List Frame) (s : List Token) :
    (v.tokens ++ s).foldlM step (.value frames) = s.foldlM step (.read v.written frames) := by
  cases v with
  | array items =>
    cases items with
    | nil => rfl
    | cons v rest =>
      have htokens : Json.tokens (.array (v :: rest)) ++ s =
          .bracketOpen :: (v.tokens ++ (tokensOfItems rest ++ s)) := by simp [Json.tokens]
      rw [htokens]
      change (v.tokens ++ (tokensOfItems rest ++ s)).foldlM step (.item frames) = _
      rw [item_tokens, value_tokens v, read_items]
      rfl
  | object members =>
    cases members with
    | nil => rfl
    | cons m rest =>
      rcases m with ⟨name, v⟩
      have htokens : Json.tokens (.object ((name, v) :: rest)) ++ s =
          .braceOpen :: .string (name.map Piece.written) :: .colon ::
            (v.tokens ++ (tokensOfMembers rest ++ s)) := by simp [Json.tokens]
      rw [htokens]
      change (v.tokens ++ (tokensOfMembers rest ++ s)).foldlM step
        (.value (.object [] (name.map Piece.written) :: frames)) = _
      rw [value_tokens v, read_members]
      rfl
  | _ => rfl

theorem read_items (items : List Json) (v : Json) (before : List Json) (frames : List Frame)
    (s : List Token) :
    (tokensOfItems items ++ s).foldlM step (.read v (.array before :: frames)) =
      s.foldlM step (.read (.array ((v :: before).reverse ++ writtenItems items)) frames) := by
  cases items with
  | nil => simp [tokensOfItems, step, continue?, writtenItems]
  | cons w rest =>
    have htokens : tokensOfItems (w :: rest) ++ s =
        .comma :: (w.tokens ++ (tokensOfItems rest ++ s)) := by simp [tokensOfItems]
    rw [htokens]
    change (w.tokens ++ (tokensOfItems rest ++ s)).foldlM step
      (.value (.array (v :: before) :: frames)) = _
    rw [value_tokens w, read_items rest]
    simp [writtenItems]

theorem read_members (members : List (List Piece × Json)) (v : Json)
    (before : List (List Piece × Json)) (name : List Piece) (frames : List Frame)
    (s : List Token) :
    (tokensOfMembers members ++ s).foldlM step (.read v (.object before name :: frames)) =
      s.foldlM step
        (.read (.object (((name, v) :: before).reverse ++ writtenMembers members)) frames) := by
  cases members with
  | nil => simp [tokensOfMembers, step, continue?, writtenMembers]
  | cons m rest =>
    rcases m with ⟨other, w⟩
    have htokens : tokensOfMembers ((other, w) :: rest) ++ s =
        .comma :: .string (other.map Piece.written) :: .colon ::
          (w.tokens ++ (tokensOfMembers rest ++ s)) := by simp [tokensOfMembers]
    rw [htokens]
    change (w.tokens ++ (tokensOfMembers rest ++ s)).foldlM step
      (.value (.object ((name, v) :: before) (other.map Piece.written) :: frames)) = _
    rw [value_tokens w, read_members rest]
    simp [writtenMembers]

end

end Reading

theorem parse?_print (v : Json) {space : List Char} (hspace : ∀ c ∈ space, isSpace c = true) :
    parse? (v.print ++ space) = some v.written := by
  have hends : ∀ c ∈ space.head?, isBare c = false := fun c hc =>
    Scan.not_isBare_of_isSpace (hspace c (List.mem_of_mem_head? hc))
  have htokens : scan? (v.print ++ space) = some v.tokens := by
    change Scan.from? [] (v.print ++ space) = _
    rw [Scan.from?_print v [] hends, Scan.from?_spaces hspace, List.append_nil, List.reverse_reverse]
  have hread := Reading.value_tokens v [] []
  rw [List.append_nil] at hread
  rw [parse?, htokens, Option.bind_some, ofTokens?, hread]
  rfl

section OneLine

theorem plain_of_all {s : List Char} (h : s.all (fun c => 0x20 ≤ c.toNat) = true) :
    ∀ c ∈ s, 0x20 ≤ c.toNat := fun c hc => of_decide_eq_true (List.all_eq_true.mp h c hc)

mutual

/-- The compact form of a value holds no control character, so it stands on one line. -/
theorem plain_print (v : Json) : ∀ c ∈ v.print, 0x20 ≤ c.toNat := by
  cases v with
  | null => exact plain_of_all (by decide)
  | bool b => cases b <;> exact plain_of_all (by decide)
  | number n => exact fun c hc => plain_of_isBare (isBare_of_mem_printNumeral hc)
  | string p => exact plain_printString p
  | array items =>
    cases items with
    | nil => exact plain_of_all (by decide)
    | cons v rest =>
      have hv := plain_print v
      have hrest := plain_printItems rest
      simpa [print, or_imp, forall_and] using ⟨hv, hrest⟩
  | object members =>
    cases members with
    | nil => exact plain_of_all (by decide)
    | cons m rest =>
      rcases m with ⟨name, v⟩
      have hname := plain_printString name
      have hv := plain_print v
      have hrest := plain_printMembers rest
      simpa [print, or_imp, forall_and] using ⟨hname, hv, hrest⟩

theorem plain_printItems (items : List Json) : ∀ c ∈ printItems items, 0x20 ≤ c.toNat := by
  cases items with
  | nil => exact plain_of_all (by decide)
  | cons v rest =>
    have hv := plain_print v
    have hrest := plain_printItems rest
    simpa [printItems, or_imp, forall_and] using ⟨hv, hrest⟩

theorem plain_printMembers (members : List (List Piece × Json)) :
    ∀ c ∈ printMembers members, 0x20 ≤ c.toNat := by
  cases members with
  | nil => exact plain_of_all (by decide)
  | cons m rest =>
    rcases m with ⟨name, v⟩
    have hname := plain_printString name
    have hv := plain_print v
    have hrest := plain_printMembers rest
    simpa [printMembers, or_imp, forall_and] using ⟨hname, hv, hrest⟩

end

end OneLine

end CallHistory.Json
