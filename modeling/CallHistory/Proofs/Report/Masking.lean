import CallHistory.Report.Basic

/-! # Reports with numbers hidden

Unless clear text has been asked for, a line shows of a number no more than its fingerprint. What else
tells one run from another are the names that calls and entries were given by chance, so these are
masked. Reports are alike if all their lines are then the same and they count the same.
-/

namespace CallHistory.Report

/-- Where numbers are hidden, they show alike if they have one fingerprint, and only then. -/
theorem shown_hidden_iff {n n' : Option String} :
    shown false n = shown false n' ↔ n.map fingerprint = n'.map fingerprint := by
  have hnull (f : String) : "null" ≠ "[" ++ f ++ "]" := by
    intro h
    have hhead := congrArg (fun s : String => s.toList.head?) h
    simp at hhead
  have hbrackets {f g : String} (h : "[" ++ f ++ "]" = "[" ++ g ++ "]") : f = g :=
    (String.append_right_inj _).mp ((String.append_left_inj _).mp h)
  cases n with
  | none => cases n' with
    | none => exact ⟨fun _ => rfl, fun _ => rfl⟩
    | some number' => exact ⟨fun h => absurd h (hnull _), nofun⟩
  | some number => cases n' with
    | none => exact ⟨fun h => absurd h.symm (hnull _), nofun⟩
    | some number' =>
      rw [Option.map_some, Option.map_some, Option.some_inj]
      exact ⟨hbrackets, congrArg fun f => "[" ++ f ++ "]"⟩

namespace Event

/-- An event without the names that calls and entries were given by chance. -/
def nameless : Event → Event
  | callMoved _ left entered => .callMoved default left entered
  | entryWritten _ => .entryWritten ⟨default⟩
  | entryStored _ total => .entryStored ⟨default⟩ total
  | entryAppended _ path => .entryAppended ⟨default⟩ path
  | entryInserting _ => .entryInserting default
  | entryInserted _ => .entryInserted default
  | e => e

def masked (e : Event) : String × String :=
  (e.nameless.line false, e.nameless.terminalLine false)

theorem masked_of_parts {e e' : Event} (hlevel : e.nameless.level = e'.nameless.level)
    (hsource : e.nameless.source = e'.nameless.source)
    (hmessage : e.nameless.message false = e'.nameless.message false)
    (hfields : e.nameless.fields false = e'.nameless.fields false) : e.masked = e'.masked := by
  simp only [masked, line, terminalLine, fieldText, hlevel, hsource, hmessage, hfields]

theorem masked_numberChosen {n n' : Option String} (h : n.map fingerprint = n'.map fingerprint) :
    (numberChosen n).masked = (numberChosen n').masked :=
  masked_of_parts rfl rfl (congrArg ("logNumber set to: " ++ ·) (shown_hidden_iff.mpr h)) rfl

theorem masked_recordOffered {r r' : Record}
    (hnumber : r.number.map fingerprint = r'.number.map fingerprint)
    (hpresentation : r.presentation = r'.presentation) (hkind : r.kind = r'.kind)
    (hstart : r.start = r'.start) (hduration : r.duration = r'.duration) :
    (recordOffered r).masked = (recordOffered r').masked := by
  refine masked_of_parts rfl rfl rfl ?_
  have hfields (r : Record) : (recordOffered r).nameless.fields false = [
      ("number", shown false r.number), ("presentation", r.presentation.title),
      ("call_type", "\"" ++ r.kind.key ++ "\""), ("start", .ofList (Text.Decimal.ofInt r.start.toInt)),
      ("duration", .ofList (Text.Decimal.ofInt r.duration.toInt))] := rfl
  rw [hfields, hfields, shown_hidden_iff.mpr hnumber, hpresentation, hkind, hstart, hduration]

theorem masked_crashed {t t' : Transition} (hincoming : t.call.incoming = t'.call.incoming)
    (hold : t.old = t'.old) (hnew : t.new = t'.new) : (crashed t).masked = (crashed t').masked := by
  have hdescribe : t.describe = t'.describe := by
    unfold Transition.describe
    rw [hincoming, hold, hnew]
  exact masked_of_parts rfl rfl (congrArg ("Call log manager panicked handling " ++ ·) hdescribe) rfl

end Event

def lines (x : Report) : List (String × String) := x.events.map Event.masked

/-- Reports with the same lines, numbers hidden and names masked, that count the same. -/
structure Alike (x y : Report) : Prop where
  lines : x.lines = y.lines
  counted : x.counted = y.counted

namespace Alike

variable {x x' y y' : Report}

@[refl] theorem refl (x : Report) : x.Alike x := ⟨rfl, rfl⟩

theorem append (hx : x.Alike x') (hy : y.Alike y') : (x ++ y).Alike (x' ++ y') := by
  constructor
  · have hlines (x y : Report) : (x ++ y).lines = x.lines ++ y.lines := List.map_append
    rw [hlines, hlines, hx.lines, hy.lines]
  · rw [append_counted, append_counted, hx.counted, hy.counted]

theorem of_event {e e' : Event} (h : e.masked = e'.masked) : (of [e]).Alike (of [e']) :=
  ⟨congrArg (fun line => [line]) h, rfl⟩

end Alike
end CallHistory.Report
