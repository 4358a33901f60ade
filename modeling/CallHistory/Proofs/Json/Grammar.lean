import CallHistory.Proofs.Json.Leading

/-! # What a text spells

A value has many spellings: space may stand around every token, the characters of a string may be
escaped, and a numeral may have a fraction and an exponent. Each of them is read as the value,
however deep its arrays and objects lie.
-/

namespace CallHistory.Json

/-- A part of a string stands as it is, as a short escape, or as an escape by four digits. -/
inductive Piece.Spells : List Char → Piece → Prop
  | char {c : Char} (hquote : c ≠ '"') (hslash : c ≠ '\\') (hcontrol : 0x20 ≤ c.toNat) :
      Spells [c] (.char c)
  | short {e c : Char} (h : escaped? e = some c) : Spells ['\\', e] (.char c)
  | code {s : List Char} {ds : List (Fin 16)} (h : s.mapM Text.Hex.digit? = some ds)
      (hfour : s.length = 4) : Spells ('\\' :: 'u' :: s) (.code (.ofNat _ (Text.Hex.value ds)))

inductive Piece.SpellsAll : List Char → List Piece → Prop
  | nil : SpellsAll [] []
  | cons {s rest : List Char} {p : Piece} {ps : List Piece} (hp : Spells s p)
      (hps : SpellsAll rest ps) : SpellsAll (s ++ rest) (p :: ps)

theorem Piece.spellsAll_ofText {s : List Char}
    (h : ∀ c ∈ s, c ≠ '"' ∧ c ≠ '\\' ∧ 0x20 ≤ c.toNat) : SpellsAll s (ofText s) := by
  induction s with
  | nil => exact .nil
  | cons c s ih =>
    obtain ⟨⟨hquote, hslash, hcontrol⟩, hs⟩ := List.forall_mem_cons.mp h
    exact .cons (.char hquote hslash hcontrol) (ih hs)

def IsDigits (s : List Char) : Prop := s ≠ [] ∧ ∀ c ∈ s, c.isDigit = true

inductive IsFraction : List Char → Prop
  | absent : IsFraction []
  | point {ds : List Char} (h : IsDigits ds) : IsFraction ('.' :: ds)

inductive IsExponent : List Char → Prop
  | absent : IsExponent []
  | power {e : Char} {sign ds : List Char} (he : e = 'e' ∨ e = 'E')
      (hsign : sign = [] ∨ sign = ['+'] ∨ sign = ['-']) (h : IsDigits ds) :
      IsExponent (e :: (sign ++ ds))

/-- A numeral has a sign or none, a whole part without leading zeros, a fraction and an exponent. -/
inductive Numeral.Spells : List Char → Numeral → Prop
  | parts (negative : Bool) {whole fraction exponent : List Char} (hwhole : IsDigits whole)
      (hzero : whole.head? = some '0' → whole = ['0']) (hfraction : IsFraction fraction)
      (hexponent : IsExponent exponent) :
      Spells ((if negative then ['-'] else []) ++ (whole ++ (fraction ++ exponent)))
        ⟨negative, Text.Decimal.value whole, (fraction ++ exponent).isEmpty⟩

/-- What a part of a text may spell: a value, the items of an array or the members of an object. -/
inductive Phrase where
  | value (v : Json)
  | items (vs : List Json)
  | members (ms : List (List Piece × Json))

def IsBlank (s : List Char) : Prop := ∀ c ∈ s, isSpace c = true

/-- The grammar of JSON. Space may stand around each value and each name. -/
inductive Spells : List Char → Phrase → Prop
  | null : Spells "null".toList (.value .null)
  | bool (b : Bool) : Spells (if b then "true" else "false").toList (.value (.bool b))
  | number {s : List Char} {n : Numeral} (h : n.Spells s) : Spells s (.value (.number n))
  | string {s : List Char} {p : List Piece} (h : Piece.SpellsAll s p) :
      Spells ('"' :: (s ++ ['"'])) (.value (.string p))
  | emptyArray {a : List Char} (ha : IsBlank a) : Spells ('[' :: (a ++ [']'])) (.value (.array []))
  | array {s : List Char} {vs : List Json} (h : Spells s (.items vs)) :
      Spells ('[' :: (s ++ [']'])) (.value (.array vs))
  | emptyObject {a : List Char} (ha : IsBlank a) :
      Spells ('\x7b' :: (a ++ ['\x7d'])) (.value (.object []))
  | object {s : List Char} {ms : List (List Piece × Json)} (h : Spells s (.members ms)) :
      Spells ('\x7b' :: (s ++ ['\x7d'])) (.value (.object ms))
  | item {a b s : List Char} {v : Json} (ha : IsBlank a) (hv : Spells s (.value v))
      (hb : IsBlank b) : Spells (a ++ (s ++ b)) (.items [v])
  | items {a b s rest : List Char} {v : Json} {vs : List Json} (ha : IsBlank a)
      (hv : Spells s (.value v)) (hb : IsBlank b) (hrest : Spells rest (.items vs)) :
      Spells (a ++ (s ++ (b ++ ',' :: rest))) (.items (v :: vs))
  | member {a b c d s name : List Char} {p : List Piece} {v : Json} (ha : IsBlank a)
      (hname : Piece.SpellsAll name p) (hb : IsBlank b) (hc : IsBlank c) (hv : Spells s (.value v))
      (hd : IsBlank d) :
      Spells (a ++ '"' :: (name ++ '"' :: (b ++ ':' :: (c ++ (s ++ d))))) (.members [(p, v)])
  | members {a b c d s name rest : List Char} {p : List Piece} {v : Json}
      {ms : List (List Piece × Json)} (ha : IsBlank a) (hname : Piece.SpellsAll name p)
      (hb : IsBlank b) (hc : IsBlank c) (hv : Spells s (.value v)) (hd : IsBlank d)
      (hrest : Spells rest (.members ms)) :
      Spells (a ++ '"' :: (name ++ '"' :: (b ++ ':' :: (c ++ (s ++ (d ++ ',' :: rest))))))
        (.members ((p, v) :: ms))

/-- A text spells a value if nothing but space stands around it. -/
inductive SpellsText : List Char → Json → Prop
  | spaced {a b s : List Char} {v : Json} (ha : IsBlank a) (hv : Spells s (.value v))
      (hb : IsBlank b) : SpellsText (a ++ (s ++ b)) v

section Numerals

theorem IsExponent.head? {s : List Char} (h : IsExponent s) :
    ∀ c ∈ s.head?, c.isDigit = false := by
  cases h with
  | absent => nofun
  | power he hsign h =>
    rintro c ⟨⟩
    rcases he with rfl | rfl <;> rfl

theorem IsFraction.head?_append {s t : List Char} (h : IsFraction s) (ht : IsExponent t) :
    ∀ c ∈ (s ++ t).head?, c.isDigit = false := by
  cases h with
  | absent => exact ht.head?
  | point h =>
    rintro c ⟨⟩
    rfl

theorem IsExponent.isTail {s : List Char} (h : IsExponent s) : isTail s = true := by
  cases h with
  | absent => rfl
  | power he hsign h =>
    rename_i e sign ds
    -- a digit stands where a sign would
    obtain ⟨d, rest, rfl⟩ := List.exists_cons_of_ne_nil h.1
    have hdigits := List.forall_mem_cons.mp h.2
    have hplus : d ≠ '+' := by
      rintro rfl
      cases hdigits.1
    have hminus : d ≠ '-' := by
      rintro rfl
      cases hdigits.1
    rcases he with rfl | rfl <;> rcases hsign with rfl | rfl | rfl <;>
      simpa [Json.isTail, hplus, hminus] using hdigits

theorem isTail_point {s : List Char} (h : (s.dropWhile Char.isDigit).head? ≠ some '.') :
    isTail ('.' :: s) = (s.head?.any Char.isDigit && isTail (s.dropWhile Char.isDigit)) := by
  change (s.head?.any Char.isDigit && _) = _
  congr 1
  cases hrest : s.dropWhile Char.isDigit with
  | nil => rfl
  | cons c rest =>
    have hc : c ≠ '.' := by
      rintro rfl
      exact h (by rw [hrest]; rfl)
    simp [isTail, hc]

theorem IsFraction.isTail_append {s t : List Char} (h : IsFraction s) (ht : IsExponent t) :
    isTail (s ++ t) = true := by
  cases h with
  | absent => exact ht.isTail
  | point h =>
    rename_i ds
    obtain ⟨-, hrest⟩ := Text.Decimal.span_isDigit h.2 ht.head?
    have hpoint : t.head? ≠ some '.' := by
      cases ht with
      | absent => nofun
      | power he hsign h => rcases he with rfl | rfl <;> nofun
    rw [List.cons_append, isTail_point (by rwa [hrest]), hrest, ht.isTail, Bool.and_true]
    obtain ⟨d, rest, rfl⟩ := List.exists_cons_of_ne_nil h.1
    exact h.2 d List.mem_cons_self

theorem Numeral.Spells.parse? {s : List Char} {n : Numeral} (h : n.Spells s) :
    Numeral.parse? s = some n := by
  cases h with
  | parts negative hwhole hzero hfraction hexponent =>
    rename_i whole fraction exponent
    obtain ⟨htake, hdrop⟩ := Text.Decimal.span_isDigit hwhole.2 (hfraction.head?_append hexponent)
    have hcanonical : Numeral.isCanonical whole = true := by
      unfold Numeral.isCanonical
      split
      · exact absurd rfl hwhole.1
      · rfl
      · rename_i c cs hmore
        exact decide_eq_true fun hc => hmore (List.cons.inj (hzero (congrArg some hc))).2
    have hread (negative : Bool) : Numeral.unsigned? negative (whole ++ (fraction ++ exponent)) =
        some ⟨negative, Text.Decimal.value whole, (fraction ++ exponent).isEmpty⟩ := by
      simp [Numeral.unsigned?, htake, hdrop, hcanonical, hfraction.isTail_append hexponent]
    cases negative with
    | true => exact (Numeral.parse?_minus _).trans (hread true)
    | false =>
      obtain ⟨d, rest, rfl⟩ := List.exists_cons_of_ne_nil hwhole.1
      refine (Numeral.parse?_plain fun t ht => ?_).trans (hread false)
      have hd := hwhole.2 d List.mem_cons_self
      rw [(List.cons.inj ht).1] at hd
      cases hd

theorem Numeral.Spells.isBare {s : List Char} {n : Numeral} (h : n.Spells s) :
    ∀ c ∈ s, isBare c = true := by
  have hdigits {ds : List Char} (h : IsDigits ds) : ∀ c ∈ ds, Json.isBare c = true :=
    fun c hc => isBare_of_isDigit (h.2 c hc)
  have hfraction {ds : List Char} (h : IsFraction ds) : ∀ c ∈ ds, Json.isBare c = true := by
    cases h with
    | absent => exact List.forall_mem_nil _
    | point h => exact List.forall_mem_cons.mpr ⟨rfl, hdigits h⟩
  have hexponent {ds : List Char} (h : IsExponent ds) : ∀ c ∈ ds, Json.isBare c = true := by
    cases h with
    | absent => exact List.forall_mem_nil _
    | power he hsign h =>
      have hrest := hdigits h
      rcases he with rfl | rfl <;> rcases hsign with rfl | rfl | rfl <;>
        simpa [Json.isBare] using hrest
  cases h with
  | parts negative hwhole hzero hfr hex =>
    have hsign : ∀ c ∈ (if negative then ['-'] else []), Json.isBare c = true := by
      cases negative with
      | true => exact List.forall_mem_singleton.mpr rfl
      | false => exact List.forall_mem_nil _
    simp only [List.forall_mem_append]
    exact ⟨hsign, hdigits hwhole, hfraction hfr, hexponent hex⟩

end Numerals

namespace Scan

/-- A scan with more tokens before its own. -/
def behind (before : List Token) (s : Scan) : Scan := ⟨s.tokens ++ before, s.mode⟩

theorem step_behind (before : List Token) (s : Scan) (c : Char) :
    step (s.behind before) c = (step s c).map (behind before) := by
  have henter (tokens : List Token) :
      enter (tokens ++ before) c = (enter tokens c).map (behind before) := by
    unfold enter
    split
    · rfl
    · split
      · rfl
      · split
        · rfl
        · simp [behind, Function.comp_def]
  rcases s with ⟨tokens, mode⟩
  cases mode with
  | between => exact henter tokens
  | bare word =>
    simp only [behind, step]
    split
    · rfl
    · cases Token.ofWord? word.reverse with
      | none => rfl
      | some t => exact henter (t :: tokens)
  | string read =>
    simp only [behind, step]
    split
    · rfl
    · split
      · rfl
      · split <;> rfl
  | escape read =>
    simp only [behind, step]
    split
    · rfl
    · simp [behind, Function.comp_def]
  | code read digits =>
    cases hd : Text.Hex.digit? c with
    | none => simp [behind, step, hd]
    | some d =>
      simp only [behind, step, hd, Option.map_some]
      split <;> rfl

theorem finish?_behind (before : List Token) (s : Scan) :
    finish? (s.behind before) = (finish? s).map (before.reverse ++ ·) := by
  rcases s with ⟨tokens, mode⟩
  cases mode with
  | bare word =>
    cases hword : Token.ofWord? word.reverse with
    | none => simp [finish?, behind, hword]
    | some t => simp [finish?, behind, hword]
  | _ => simp [finish?, behind]

/-- What has been scanned before does not change how a text is scanned. -/
theorem from?_eq_map (before : List Token) (s : List Char) :
    from? before s = (from? [] s).map (before.reverse ++ ·) := by
  have hrun (now : Scan) : (s.foldlM step (now.behind before)).bind finish? =
      ((s.foldlM step now).bind finish?).map (before.reverse ++ ·) := by
    induction s generalizing now with
    | nil => exact finish?_behind before now
    | cons c s ih =>
      rw [List.foldlM_cons, List.foldlM_cons, step_behind]
      cases step now c with
      | none => rfl
      | some next => exact ih next
  exact hrun ⟨[], .between⟩

theorem foldlM_parts {s : List Char} {p : List Piece} (h : Piece.SpellsAll s p)
    (tokens : List Token) (read : List Piece) (rest : List Char) :
    (s ++ rest).foldlM step ⟨tokens, .string read⟩ =
      rest.foldlM step ⟨tokens, .string (p.reverse ++ read)⟩ := by
  induction h generalizing read with
  | nil => rfl
  | @cons s more q ps hq hps ih =>
    have hfirst : (s ++ (more ++ rest)).foldlM step ⟨tokens, .string read⟩ =
        (more ++ rest).foldlM step ⟨tokens, .string (q :: read)⟩ := by
      cases hq with
      | char hquote hslash hcontrol => simp [step, hquote, hslash, Nat.not_lt.mpr hcontrol]
      | @short e c h =>
        have hcode : e ≠ 'u' := by
          rintro rfl
          cases h
        simp [step, hcode, h]
      | @code s ds h hfour =>
        obtain ⟨a, s, rfl⟩ := List.exists_cons_of_length_eq_add_one hfour
        have hthree : s.length = 3 := Nat.succ.inj hfour
        obtain ⟨b, s, rfl⟩ := List.exists_cons_of_length_eq_add_one hthree
        have htwo : s.length = 2 := Nat.succ.inj hthree
        obtain ⟨c, s, rfl⟩ := List.exists_cons_of_length_eq_add_one htwo
        obtain ⟨d, rfl⟩ := List.length_eq_one_iff.mp (Nat.succ.inj htwo)
        simp only [List.mapM_cons, List.mapM_nil, Option.bind_eq_bind, Option.bind_eq_some_iff,
          Option.pure_def, Option.some.injEq] at h
        obtain ⟨i, ha, -, ⟨j, hb, -, ⟨k, hc, -, ⟨l, hd, -, rfl, rfl⟩, rfl⟩, rfl⟩, rfl⟩ := h
        simp [step, ha, hb, hc, hd]
    rw [List.append_assoc, hfirst, ih, List.reverse_cons, List.append_assoc]
    rfl

theorem from?_string {s : List Char} {p : List Piece} (h : Piece.SpellsAll s p)
    (tokens : List Token) (rest : List Char) :
    from? tokens ('"' :: (s ++ '"' :: rest)) = from? (.string p :: tokens) rest := by
  have hparts := foldlM_parts h tokens [] ('"' :: rest)
  rw [List.append_nil] at hparts
  have hend : step ⟨tokens, .string p.reverse⟩ '"' = some ⟨.string p :: tokens, .between⟩ := by
    simp [step]
  change ((s ++ '"' :: rest).foldlM step ⟨tokens, .string []⟩).bind finish? = _
  rw [hparts, List.foldlM_cons, hend]
  rfl

end Scan

namespace Reading

/-- The value that is read if a text comes next. -/
def resume? (r : Reading) (s : List Char) : Option Json :=
  (Scan.from? [] s).bind fun tokens => (tokens.foldlM step r).bind finish?

theorem resume?_token {s rest : List Char} {t : Token}
    (h : Scan.from? [] s = Scan.from? [t] rest) (r : Reading) :
    r.resume? s = (r.step t).bind (resume? · rest) := by
  rw [resume?, h, Scan.from?_eq_map, Option.bind_map]
  change ((Scan.from? [] rest).bind fun tokens => ((t :: tokens).foldlM step r).bind finish?) = _
  simp only [List.foldlM_cons]
  cases r.step t with
  | none => exact Option.bind_fun_none _
  | some next => rfl

theorem resume?_blank {a : List Char} (h : IsBlank a) (r : Reading) (rest : List Char) :
    r.resume? (a ++ rest) = r.resume? rest := by
  rw [resume?, resume?, Scan.from?_spaces_append h]

/-- Where a value has to come, or may come but for the end of an array. -/
def Awaits (r : Reading) (frames : List Frame) : Prop :=
  ∀ t, t ≠ .bracketClose → r.step t = start? frames t

def AwaitsName (r : Reading) (before : List (List Piece × Json)) (frames : List Frame) : Prop :=
  ∀ name, r.step (.string name) = some (.colon before name frames)

/-- A text is read as the phrase that it spells, wherever the phrase may come. -/
def IsRead (s : List Char) : Phrase → Prop
  | .value v => ∀ (r : Reading) (frames : List Frame) (rest : List Char), r.Awaits frames →
      (∀ c ∈ rest.head?, isBare c = false) → r.resume? (s ++ rest) = resume? (.read v frames) rest
  | .items vs => ∀ (r : Reading) (before : List Json) (frames : List Frame) (rest : List Char),
      r.Awaits (.array before :: frames) → r.resume? (s ++ ']' :: rest) =
        resume? (.read (.array (before.reverse ++ vs)) frames) rest
  | .members ms => ∀ (r : Reading) (before : List (List Piece × Json)) (frames : List Frame)
      (rest : List Char), r.AwaitsName before frames → r.resume? (s ++ '\x7d' :: rest) =
        resume? (.read (.object (before.reverse ++ ms)) frames) rest

theorem Awaits.step {r : Reading} {frames : List Frame} (hr : r.Awaits frames) {t : Token}
    {next : Reading} (hstart : start? frames t = some next) : r.step t = some next := by
  refine (hr t ?_).trans hstart
  rintro rfl
  cases hstart

theorem isRead_token {s : List Char} {v : Json} (t : Token)
    (hstart : ∀ frames, start? frames t = some (.read v frames))
    (hscan : ∀ rest : List Char, (∀ c ∈ rest.head?, isBare c = false) →
      Scan.from? [] (s ++ rest) = Scan.from? [t] rest) : IsRead s (.value v) := by
  intro r frames rest hr hrest
  rw [resume?_token (hscan rest hrest), hr.step (hstart frames)]
  rfl

theorem resume?_mark {c : Char} {t : Token} (h : Token.ofPunctuation? c = some t)
    {r next : Reading} (hstep : r.step t = some next) (rest : List Char) :
    r.resume? (c :: rest) = next.resume? rest := by
  rw [resume?_token (Scan.from?_punctuation h [] rest), hstep]
  rfl

/-- Neither space nor a mark goes on with a bare word. -/
theorem head?_blank {a : List Char} (h : IsBlank a) {c : Char} (hc : isBare c = false)
    (rest : List Char) : ∀ d ∈ (a ++ c :: rest).head?, isBare d = false := by
  cases a with
  | nil =>
    rintro d ⟨⟩
    exact hc
  | cons b a =>
    rintro d ⟨⟩
    exact Scan.not_isBare_of_isSpace (h b List.mem_cons_self)

theorem resume?_member {a b c d s name : List Char} {p : List Piece} {v : Json} (ha : IsBlank a)
    (hname : Piece.SpellsAll name p) (hb : IsBlank b) (hc : IsBlank c) (hv : IsRead s (.value v))
    (hd : IsBlank d) {mark : Char} (hmark : isBare mark = false) {r : Reading}
    {before : List (List Piece × Json)} {frames : List Frame} (hr : r.AwaitsName before frames)
    (rest : List Char) :
    r.resume? (a ++ '"' :: (name ++ '"' :: (b ++ ':' :: (c ++ (s ++ (d ++ mark :: rest)))))) =
      resume? (.read v (.object before p :: frames)) (mark :: rest) := by
  rw [resume?_blank ha, resume?_token (Scan.from?_string hname [] _), hr p, Option.bind_some,
    resume?_blank hb, resume?_mark rfl rfl, resume?_blank hc,
    hv _ (.object before p :: frames) _ (fun _ _ => rfl) (head?_blank hd hmark rest),
    resume?_blank hd]

theorem resume?_item {a b s : List Char} {v : Json} (ha : IsBlank a) (hv : IsRead s (.value v))
    (hb : IsBlank b) {mark : Char} (hmark : isBare mark = false) {r : Reading} {frames : List Frame}
    (hr : r.Awaits frames) (rest : List Char) :
    r.resume? (a ++ (s ++ (b ++ mark :: rest))) = resume? (.read v frames) (mark :: rest) := by
  rw [resume?_blank ha, hv r frames _ hr (head?_blank hb hmark rest), resume?_blank hb]

/-- Every part of a text is read as what it spells, by its grammar. -/
theorem isRead_of_spells {s : List Char} {phrase : Phrase} (h : Spells s phrase) :
    IsRead s phrase := by
  induction h with
  | null =>
    exact isRead_token .null (fun _ => rfl) fun _ =>
      Scan.from?_word rfl (List.all_eq_true.mp (by decide)) []
  | bool b =>
    refine isRead_token (.bool b) (fun _ => rfl) fun _ => Scan.from?_word ?_ ?_ []
    · cases b <;> rfl
    · cases b <;> exact List.all_eq_true.mp (by decide)
  | number h =>
    exact isRead_token _ (fun _ => rfl) fun _ =>
      Scan.from?_word (Token.ofWord?_of_parse? h.parse?) h.isBare []
  | @string _ p h =>
    refine isRead_token (.string p) (fun _ => rfl) fun rest _ => ?_
    rw [List.cons_append, List.append_assoc]
    exact Scan.from?_string h [] rest
  | emptyArray ha =>
    intro r frames rest hr hrest
    rw [List.cons_append, List.append_assoc, resume?_mark rfl (hr.step rfl), resume?_blank ha]
    exact resume?_mark rfl rfl rest
  | array h ih =>
    intro r frames rest hr hrest
    rw [List.cons_append, List.append_assoc, resume?_mark rfl (hr.step rfl)]
    refine ih (.item frames) [] frames rest fun t ht => ?_
    cases t with
    | bracketClose => exact absurd rfl ht
    | _ => rfl
  | emptyObject ha =>
    intro r frames rest hr hrest
    rw [List.cons_append, List.append_assoc, resume?_mark rfl (hr.step rfl), resume?_blank ha]
    exact resume?_mark rfl rfl rest
  | object h ih =>
    intro r frames rest hr hrest
    rw [List.cons_append, List.append_assoc, resume?_mark rfl (hr.step rfl)]
    exact ih (.member frames) [] frames rest fun _ => rfl
  | item ha hv hb ih =>
    intro r before frames rest hr
    rw [List.append_assoc, List.append_assoc, resume?_item ha ih hb rfl hr,
      resume?_mark (t := .bracketClose) rfl rfl, List.reverse_cons]
  | @items _ _ _ _ v _ ha hv hb hrest ih ihrest =>
    intro r before frames rest hr
    have hnext := ihrest (.value (.array (v :: before) :: frames)) (v :: before) frames rest
      fun _ _ => rfl
    simp only [List.append_assoc, List.cons_append]
    rw [resume?_item ha ih hb rfl hr, resume?_mark rfl rfl, hnext]
    simp
  | member ha hname hb hc hv hd ih =>
    intro r before frames rest hr
    simp only [List.append_assoc, List.cons_append]
    rw [resume?_member ha hname hb hc ih hd rfl hr, resume?_mark rfl rfl, List.reverse_cons]
  | @members _ _ _ _ _ _ _ p v _ ha hname hb hc hv hd hrest ih ihrest =>
    intro r before frames rest hr
    have hnext := ihrest (.nextMember ((p, v) :: before) frames) ((p, v) :: before) frames rest
      fun _ => rfl
    simp only [List.append_assoc, List.cons_append]
    rw [resume?_member ha hname hb hc ih hd rfl hr, resume?_mark rfl rfl, hnext]
    simp

end Reading

theorem SpellsText.parse? {text : List Char} {v : Json} (h : SpellsText text v) :
    parse? text = some v := by
  cases h with
  | spaced ha hv hb =>
    rename_i a b s
    change Reading.resume? (.value []) _ = _
    have hends : ∀ c ∈ b.head?, isBare c = false := fun c hc =>
      Scan.not_isBare_of_isSpace (hb c (List.mem_of_mem_head? hc))
    rw [Reading.resume?_blank ha,
      Reading.isRead_of_spells hv (.value []) [] b (fun _ _ => rfl) hends, Reading.resume?,
      Scan.from?_spaces hb]
    rfl

end CallHistory.Json
