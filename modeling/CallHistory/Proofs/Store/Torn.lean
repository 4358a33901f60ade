import CallHistory.Proofs.Json.Leading
import CallHistory.Proofs.Store.Framing

/-! # Torn lines

A file may end before the end of a line, as it does when it was written to and the writing was cut
short. An entry is appended where the file ends, so it comes to stand behind what is left of the torn
line, and the two make one line. That line reads as the entry only if nothing but space is left; the
line after it is whole again.
-/

namespace CallHistory

def unfinished (text : List Char) : List Char :=
  (text.reverse.takeWhile (· ≠ '\n')).reverse

/-- The last line of a text: what stands behind the last end of a line but the one that ends the
text. -/
def lastLine (text : List Char) : List Char :=
  unfinished (if text.getLast? = some '\n' then text.dropLast else text)

theorem unfinished_append (text : List Char) {line : List Char} (h : ∀ c ∈ line, c ≠ '\n') :
    unfinished (text ++ line) = unfinished text ++ line := by
  have hline : ∀ c ∈ line.reverse, decide (c ≠ '\n') = true := by simpa using h
  rw [unfinished, List.reverse_append, List.takeWhile_append_of_pos hline, List.reverse_append,
    List.reverse_reverse]
  rfl

@[simp] theorem unfinished_end (text : List Char) : unfinished (text ++ ['\n']) = [] := by
  simp [unfinished]

@[simp] theorem lastLine_end (text : List Char) : lastLine (text ++ ['\n']) = unfinished text := by
  simp [lastLine]

namespace Line

open Json in
/-- Where a scan can go on with a line, the tokens of the line are the last ones. It cannot within a
string: the first quote of the line would end it, and a bare name would follow. -/
theorem exists_tokens_of_scan {s : Scan} {l : Line} {tokens : List Token}
    (h : (l.print.foldlM Scan.step s).bind Scan.finish? = some tokens) :
    ∃ read, tokens = read.reverse ++ l.toJson.tokens ∧ (read = [] → s = {}) := by
  have hfrom (read : List Token) (h : Scan.from? read l.print = some tokens) :
      tokens = read.reverse ++ l.toJson.tokens := by
    have hprint := Scan.from?_print l.toJson read (s := []) (by simp)
    rw [List.append_nil] at hprint
    have htokens := (hprint.symm.trans h).symm
    simpa [Scan.from?, Scan.finish?] using htokens
  obtain ⟨more, hmore⟩ : ∃ more, l.print = '\x7b' :: '"' :: 'i' :: 'd' :: '"' :: more := by
    have hi : spell 'i' = ['i'] := rfl
    have hd : spell 'd' = ['d'] := rfl
    simp [print, toJson, Json.print, ofMembers, printString, Piece.ofText, spellPiece, hi, hd]
  rcases s with ⟨before, mode⟩
  cases mode with
  | between => exact ⟨before, hfrom before h, fun hnil => by rw [hnil]⟩
  | bare word =>
    have hstep : Scan.step ⟨before, .bare word⟩ '\x7b' = (Token.ofWord? word.reverse).bind fun t =>
        Scan.step ⟨t :: before, .between⟩ '\x7b' := rfl
    rw [hmore, List.foldlM_cons, hstep] at h
    cases hword : Token.ofWord? word.reverse with
    | none =>
      rw [hword] at h
      cases h
    | some t =>
      rw [hword, Option.bind_some, ← List.foldlM_cons, ← hmore] at h
      exact ⟨t :: before, hfrom _ h, fun hnil => absurd hnil (List.cons_ne_nil t before)⟩
  | string _ | escape _ | code _ _ =>
    rw [hmore] at h
    cases h

open Json in
/-- A line that stands behind something is read if that is space, and not at all otherwise. -/
theorem parse?_behind (torn : List Char) (l : Line) :
    parse? (torn ++ l.print) = if torn.all isSpace then some l else none := by
  split
  · rename_i hspace
    have hprint := @parse?_print l [] nofun
    rw [List.append_nil] at hprint
    rw [← hprint, parse?, parse?, parse?_spaces_append (List.all_eq_true.mp hspace)]
  · rename_i hblack
    rw [Option.eq_none_iff_forall_ne_some]
    intro l' hread
    obtain ⟨v, hv, -⟩ := Option.bind_eq_some_iff.mp hread
    obtain ⟨tokens, htokens, hvalue⟩ := Option.bind_eq_some_iff.mp hv
    rw [scan?, List.foldlM_append, Option.bind_eq_bind, Option.bind_assoc,
      Option.bind_eq_some_iff] at htokens
    obtain ⟨s, htorn, hline⟩ := htokens
    obtain ⟨read, rfl, hbegun⟩ := exists_tokens_of_scan hline
    have hread : read = [] := List.reverse_eq_nil_iff.mp (eq_nil_of_ofTokens? hvalue)
    rw [hbegun hread] at htorn
    exact hblack (List.all_eq_true.mpr (Scan.isSpace_of_foldlM htorn))

end Line

namespace FileLog

variable {δ : Type}

theorem lastLine_add {d : Disk δ} {text : String → δ → List Char} (hd : d.Appends text) {r : Record}
    {f : FileLog δ} {entry : EntryId} (hstored : ((store d).add r f).answer = .stored entry) :
    lastLine (text f.path ((store d).add r f).state.disk) =
        unfinished (text f.path f.disk) ++ (Line.ofRecord entry r f.supply.now).print ∧
      unfinished (text f.path ((store d).add r f).state.disk) = [] := by
  rcases add_cases hd r f with ⟨cause, hanswer, -⟩ | ⟨hanswer, htext⟩
  · rw [hanswer] at hstored
    cases hstored
  · obtain rfl : f.supply.entry = entry := by
      rw [hanswer] at hstored
      cases hstored
      rfl
    rw [htext, segment, ← List.append_assoc, lastLine_end, unfinished_end,
      unfinished_append _ fun c hc => (Line.plain_print _ c hc).1]
    exact ⟨rfl, rfl⟩

theorem exists_end_of_holds {segments : List (List Char)} {kept : List (Record × EntryId)}
    (h : List.Forall₂ Holds segments kept) (hkept : kept ≠ []) :
    ∃ lines, segments.flatten = lines ++ ['\n'] := by
  induction h with
  | nil => exact absurd rfl hkept
  | cons hfirst hrest ih =>
    obtain ⟨line, -, rfl, -⟩ := hfirst
    cases hrest with
    | nil => exact ⟨line, by simp⟩
    | cons _ _ =>
      obtain ⟨lines, hlines⟩ := ih (by simp)
      exact ⟨line ++ '\n' :: lines, by rw [List.flatten_cons, hlines]; simp⟩

theorem History.unfinished_eq_nil {d : Disk δ} {text : String → δ → List Char} (hd : d.Appends text)
    {f g : FileLog δ} {past : List (Record × Reply)} (h : History d text f past g)
    (hstored : stored past ≠ []) : unfinished (text g.path g.disk) = [] := by
  obtain ⟨-, segments, hsegments, hholds⟩ := h.segments hd
  obtain ⟨lines, hlines⟩ := exists_end_of_holds hholds hstored
  rw [hsegments, hlines, ← List.append_assoc, unfinished_end]

/-- An entry that is stored makes one line with what is left of a torn one. The line is read as the
entry if that is space alone, and otherwise it is not read at all; of the entries that are stored in
the file no other one is lost. -/
theorem entry_read_iff_nothing_torn (d : Disk δ) {text : String → δ → List Char}
    (hd : d.Appends text) :
    (∀ (r : Record) (f : FileLog δ) (entry : EntryId),
      ((store d).add r f).answer = .stored entry →
        let torn := unfinished (text f.path f.disk)
        let last := lastLine (text f.path ((store d).add r f).state.disk)
        let line := Line.ofRecord entry r f.supply.now
        last = torn ++ line.print ∧
          Line.parse? last = (if torn.all Json.isSpace then some line else none) ∧
          ((∃ l, Line.parse? last = some l ∧ l.id = entry.uuid) ↔
            ∀ c ∈ torn, Json.isSpace c = true)) ∧
    ∀ {f g : FileLog δ} {past : List (Record × Reply)}, History d text f past g →
      stored past ≠ [] → ∀ (r : Record) (entry : EntryId),
        ((store d).add r g).answer = .stored entry →
          Line.parse? (lastLine (text g.path ((store d).add r g).state.disk)) =
            some (Line.ofRecord entry r g.supply.now) := by
  constructor
  · intro r f entry hstored torn last line
    have hlast : last = torn ++ line.print := (lastLine_add hd hstored).1
    have hread : Line.parse? last = if torn.all Json.isSpace then some line else none := by
      rw [hlast, Line.parse?_behind]
    refine ⟨hlast, hread, ?_⟩
    rw [hread, ← List.all_eq_true]
    by_cases hspace : torn.all Json.isSpace = true
    · simp [hspace, line, Line.ofRecord]
    · simp [hspace]
  · intro f g past hhistory hpast r entry hstored
    rw [(lastLine_add hd hstored).1, hhistory.unfinished_eq_nil hd hpast, Line.parse?_behind]
    rfl

def onFile (text : String) : FileLog Folders :=
  ⟨"calls.jsonl", ⟨[(["calls.jsonl"], .file text.toList)]⟩, ⟨Uuid.ofNat, fun _ => default, 0⟩⟩

/-- The entry that comes behind a line that was cut short is not read, and the one after it is. -/
theorem entry_read_iff_nothing_torn_cut_short :
    let first := (store Folders.disk).add hidden (onFile "\x7b\"id\":\"6f96")
    let second := (store Folders.disk).add strange first.state
    let last (f : FileLog Folders) := lastLine (Folders.text "calls.jsonl" f.disk)
    (first.answer = .stored ⟨Uuid.ofNat 0⟩ ∧ Line.parse? (last first.state) = none) ∧
      second.answer = .stored ⟨Uuid.ofNat 1⟩ ∧
      Line.parse? (last second.state) = some (Line.ofRecord ⟨Uuid.ofNat 1⟩ strange default) := by
  intro first second last
  obtain ⟨hone, hlater⟩ := entry_read_iff_nothing_torn Folders.disk Folders.appends
  have hfirst : first.answer = .stored ⟨Uuid.ofNat 0⟩ := by decide
  have hsecond : second.answer = .stored ⟨Uuid.ofNat 1⟩ := by decide
  have hhistory : History Folders.disk Folders.text (onFile "\x7b\"id\":\"6f96")
      [(hidden, first.answer)] first.state := .add hidden .start
  refine ⟨⟨hfirst, (hone hidden _ _ hfirst).2.1.trans (if_neg (by decide))⟩, hsecond, ?_⟩
  exact hlater hhistory (by rw [hfirst]; nofun) strange _ hsecond

/-- An entry is stored and cannot be read. -/
theorem entry_lost_behind_torn_line :
    let added := (store Folders.disk).add hidden (onFile "\x7b\"id\":\"6f96")
    added.answer = .stored ⟨Uuid.ofNat 0⟩ ∧
      ¬∃ l, Line.parse? (lastLine (Folders.text "calls.jsonl" added.state.disk)) = some l ∧
        l.id = Uuid.ofNat 0 := by
  intro added
  have hstored : added.answer = .stored ⟨Uuid.ofNat 0⟩ := by decide
  have hlast : lastLine (Folders.text "calls.jsonl" added.state.disk) = _ :=
    (lastLine_add Folders.appends hstored).1
  refine ⟨hstored, ?_⟩
  rintro ⟨l, hread, -⟩
  rw [hlast, Line.parse?_behind, if_neg (by decide)] at hread
  cases hread

end FileLog
end CallHistory
