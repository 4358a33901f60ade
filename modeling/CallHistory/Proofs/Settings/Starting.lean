import CallHistory.Service.Basic
import CallHistory.Settings.Exact
import CallHistory.Settings.Layers

/-! # Settings to start with

Settings are accepted as soon as there are to be workers and room for a batch, however many and
however much. A writer starts with no more than so many and so much. So there are settings that are
accepted and with which no writer starts.
-/

namespace CallHistory

/-- Neither the queue nor the list of workers is larger than the largest. -/
def WriterSettings.Fits (w : WriterSettings) : Prop :=
  w.capacity.toNat ≤ Writer.maxCapacity ∧ w.workers.toNat ≤ Writer.maxWorkers

instance (w : WriterSettings) : Decidable w.Fits :=
  inferInstanceAs (Decidable (_ ∧ _))

theorem Writer.start?_of_pos {workers capacity : Nat} (hworkers : 0 < workers)
    (hcapacity : 0 < capacity) :
    start? workers capacity =
      if capacity ≤ maxCapacity ∧ workers ≤ maxWorkers then
        some ⟨(), { capacity, workers }, .of [.writerStarted workers capacity]⟩
      else none := by
  rw [start?, Nat.max_eq_left hworkers, Nat.max_eq_left hcapacity]

namespace Settings

theorem counts_of_check {read : Option Settings} {s : Settings} (h : check read = .ok s) :
    s.writer.workers ≠ 0 ∧ s.writer.capacity ≠ 0 := by
  cases read with
  | none => cases h
  | some t =>
    by_cases hworkers : t.writer.workers = 0
    · simp [check, validate, hworkers] at h
    · by_cases hcapacity : t.writer.capacity = 0
      · simp [check, validate, hworkers, hcapacity] at h
      · simp only [check, validate, hworkers, hcapacity, if_false, Except.ok.injEq] at h
        exact h ▸ ⟨hworkers, hcapacity⟩

theorem check_of_counts {s : Settings} (hworkers : s.writer.workers ≠ 0)
    (hcapacity : s.writer.capacity ≠ 0) : check (some s) = .ok s := by
  simp [check, validate, hworkers, hcapacity]

/-- Settings that are read from a document, or from a file and the environment. -/
inductive Accepted : Settings → Prop where
  | exact {document : List Char} {s : Settings} (h : Exact.read document = .ok s) : Accepted s
  | layers {file : File} {environment : List (String × String)} {s : Settings}
      (h : load file environment = .ok s) : Accepted s

theorem Accepted.counts {s : Settings} (h : s.Accepted) :
    s.writer.workers ≠ 0 ∧ s.writer.capacity ≠ 0 := by
  cases h with
  | exact h => exact counts_of_check h
  | layers h =>
    unfold load at h
    split at h
    · cases h
    · exact counts_of_check h

namespace Layers

theorem lower_of_isDigit {c : Char} (h : c.isDigit = true) : Text.lower c = c := by
  have hrange : c.val ≥ 48 ∧ c.val ≤ 57 := by simpa [Char.isDigit] using h
  exact Text.lower_eq_self (UInt32.lt_of_le_of_lt hrange.2 (by decide))
    (.inl (UInt32.lt_of_le_of_lt hrange.2 (by decide)))

theorem count?_ofNat (n : Nat) : count? (.text (.ofList (Text.Decimal.ofNat n))) = some n := by
  have hdigit {c : Char} (hc : c ∈ Text.Decimal.ofNat n) : c.isDigit = true :=
    Text.Decimal.isDigit_of_mem_ofNat hc
  have hlower : (Text.Decimal.ofNat n).map Text.lower = Text.Decimal.ofNat n :=
    (List.map_congr_left fun c hc => lower_of_isDigit (hdigit hc)).trans (List.map_id _)
  have hword (word : String) (h : ∃ c ∈ word.toList, c.isDigit = false) :
      word.toList ≠ Text.Decimal.ofNat n := by
    rintro heq
    obtain ⟨c, hc, hother⟩ := h
    rw [heq] at hc
    simp [hdigit hc] at hother
  have hyes : isYes (Text.Decimal.ofNat n) = false := by
    simp only [isYes, List.any_cons, List.any_nil, hword "true" ⟨'t', by decide⟩,
      hword "on" ⟨'o', by decide⟩, hword "yes" ⟨'y', by decide⟩, decide_false, Bool.or_false]
  have hno : isNo (Text.Decimal.ofNat n) = false := by
    simp only [isNo, List.any_cons, List.any_nil, hword "false" ⟨'f', by decide⟩,
      hword "off" ⟨'o', by decide⟩, hword "no" ⟨'n', by decide⟩, decide_false, Bool.or_false]
  have hplus : digits? (Text.Decimal.ofNat n) = some n := by
    unfold digits?
    split
    · rename_i heq
      exact absurd (hdigit (heq ▸ List.mem_cons_self)) (by decide)
    · exact Text.Decimal.toNat?_ofNat n
  simp [count?, hlower, hyes, hno, hplus]

end Layers

def variablesOf (w : WriterSettings) : List (String × String) :=
  [("CALLLOG__WRITER__WORKERS", .ofList (Text.Decimal.ofNat w.workers.toNat)),
    ("CALLLOG__WRITER__QUEUE_CAPACITY", .ofList (Text.Decimal.ofNat w.capacity.toNat))]

theorem layered_variablesOf (w : WriterSettings) :
    layered .unset (variablesOf w) = .ok [("writer", .table [
      ("workers", .text (.ofList (Text.Decimal.ofNat w.workers.toNat))),
      ("queue_capacity", .text (.ofList (Text.Decimal.ofNat w.capacity.toNat)))])] := by
  have hkey : Layers.key? "CALLLOG__WRITER__WORKERS" = some "writer.workers" := by decide
  have hkey' : Layers.key? "CALLLOG__WRITER__QUEUE_CAPACITY" = some "writer.queue_capacity" := by
    decide
  have hpath : Path.ofKey "writer.workers" = [.name "writer", .name "workers"] := by decide
  have hpath' : Path.ofKey "writer.queue_capacity" = [.name "writer", .name "queue_capacity"] := by
    decide
  have hworkers : Tree.lowerName "workers" = "workers" := by decide
  have hcapacity : Tree.lowerName "queue_capacity" = "queue_capacity" := by decide
  simp [layered, variablesOf, Layers.ofEnvironment, hkey, hkey', Layers.lay?, hpath, hpath',
    Tree.putAt?, Tree.put, Tree.change, Tree.at?, Tree.members,
    List.lookup_cons, hworkers, hcapacity]

theorem load_variablesOf {w : WriterSettings} (hworkers : w.workers ≠ 0) (hcapacity : w.capacity ≠ 0) :
    load .unset (variablesOf w) = .ok { writer := w } := by
  let digits (n : UInt64) : Tree := .text (.ofList (Text.Decimal.ofNat n.toNat))
  let count (n : UInt64) := (Layers.reader.count (UInt64.size - 1) (digits n)).map UInt64.ofNat
  have hcount (n : UInt64) : count n = some n := by
    simp only [count, digits, Layers.reader, Layers.count?_ofNat, Option.bind_some,
      Nat.le_sub_one_of_lt n.toNat_lt, if_true, Option.map_some, UInt64.ofNat_toNat]
  have hwriter : Layers.reader.writer?
      (.table [("workers", digits w.workers), ("queue_capacity", digits w.capacity)]) = some w := by
    change (count w.workers).bind (fun workers => (count w.capacity).bind fun capacity =>
      some ⟨workers, capacity⟩) = some w
    rw [hcount, hcount]
    rfl
  have hread : Layers.reader.settings? [("writer",
      .table [("workers", digits w.workers), ("queue_capacity", digits w.capacity)])] =
        some { writer := w } := by
    change (Layers.reader.writer? _).bind (fun writer => some ({ writer } : Settings)) = _
    rw [hwriter]
    rfl
  rw [load, layered_variablesOf]
  exact (congrArg check hread).trans (check_of_counts hworkers hcapacity)

end Settings

/-- The service crashes where its pipeline does not start, and only there. -/
theorem Service.follow_crashed_iff {δ : Type} (s : Settings) (around : Surroundings δ)
    (archive : Archive δ) :
    (follow s around archive).answer = .crashed ↔
      Writer.start? s.writer.workers.toNat s.writer.capacity.toNat = none := by
  unfold follow Pipeline.start?
  cases Writer.start? s.writer.workers.toNat s.writer.capacity.toNat with
  | none => simp
  | some started => simp

namespace Settings

/-- Settings with these of the writer are accepted unless a count is zero. With settings that are
accepted the writer starts, with the workers and the room that it is to have, if neither is too much
for it, and the service crashes otherwise. -/
theorem accepted_start_iff_fits (w : WriterSettings) :
    ((∃ s, Accepted s ∧ s.writer = w) ↔ w.workers ≠ 0 ∧ w.capacity ≠ 0) ∧
    ∀ s, Accepted s → s.writer = w →
      (∀ started, Writer.start? w.workers.toNat w.capacity.toNat = some started →
        started.state = { workers := w.workers.toNat, capacity := w.capacity.toNat }) ∧
      ((Writer.start? w.workers.toNat w.capacity.toNat).isSome ↔ w.Fits) ∧
      ∀ {δ : Type} (around : Surroundings δ) (archive : Archive δ),
        (Service.follow s around archive).answer = .crashed ↔ ¬w.Fits := by
  constructor
  · constructor
    · rintro ⟨s, haccepted, rfl⟩
      exact haccepted.counts
    · rintro ⟨hworkers, hcapacity⟩
      exact ⟨_, .layers (load_variablesOf hworkers hcapacity), rfl⟩
  · rintro s haccepted rfl
    obtain ⟨hworkers, hcapacity⟩ := haccepted.counts
    have hpos {n : UInt64} (hn : n ≠ 0) : 0 < n.toNat :=
      Nat.pos_of_ne_zero fun hzero => hn (UInt64.toNat.inj hzero)
    have hstart : Writer.start? s.writer.workers.toNat s.writer.capacity.toNat =
        if s.writer.Fits then _ else none :=
      Writer.start?_of_pos (hpos hworkers) (hpos hcapacity)
    refine ⟨fun started h => ?_, ?_, fun around archive => ?_⟩
    · rw [hstart, Option.ite_none_right_eq_some] at h
      rw [← Option.some.inj h.2]
    · rw [hstart, Option.isSome_ite]
    · rw [Service.follow_crashed_iff, hstart, ite_eq_right_iff]
      simp

/-- A writer starts with the largest queue, which the environment asks for. -/
theorem accepted_start_iff_fits_largest :
    ∃ s : Settings, load .unset (variablesOf ⟨1, 2305843009213693951⟩) = .ok s ∧
      s.writer.capacity.toNat = Writer.maxCapacity ∧
      (Writer.start? s.writer.workers.toNat s.writer.capacity.toNat).isSome := by
  have hread := load_variablesOf (w := ⟨1, 2305843009213693951⟩) (by decide) (by decide)
  have hfits : WriterSettings.Fits ⟨1, 2305843009213693951⟩ := by decide
  exact ⟨_, hread, rfl, ((accepted_start_iff_fits _).2 _ (.layers hread) rfl).2.1.mpr hfits⟩

/-- No writer starts with a queue for one batch more, but the settings are accepted. -/
theorem accepted_and_not_started :
    ∃ s : Settings,
      Exact.read "[writer]\nworkers = 1\nqueue_capacity = 2305843009213693952\n".toList = .ok s ∧
        Writer.start? s.writer.workers.toNat s.writer.capacity.toNat = none := by
  generalize hread : Exact.read _ = read
  have hsettings : read.toOption = some { writer := ⟨1, 2305843009213693952⟩ } := by
    rw [← hread]
    decide +kernel
  cases read with
  | error e => cases hsettings
  | ok s =>
    cases hsettings
    exact ⟨_, rfl, by decide⟩

end Settings
end CallHistory
