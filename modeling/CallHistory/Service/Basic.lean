import CallHistory.Service.Demo
import CallHistory.Store.Archive

/-! # The service

The service opens its store, starts a writer in front of it, and leads the calls of the
demonstration through the pipeline. It ends early if it cannot listen at the address for metrics or
open its store, and crashes if no queue is as large, or no list of workers as long, as it is set to
be.
-/

namespace CallHistory

structure Surroundings (δ : Type) where
  site : Archive.Site δ
  /-- The ids of calls. -/
  ids : Nat → Uuid
  clock : Nat → Instant
  /-- Whether the machine can listen at an address. -/
  listens : Address → Bool

namespace Service

inductive Ending where
  | completed
  | failed (message : String)
  | crashed
  deriving DecidableEq, Repr

def Ending.code : Ending → Nat
  | completed => 0
  | failed _ => 1
  | crashed => 101

variable {δ : Type}

def follow (s : Settings) (around : Surroundings δ) (archive : Archive δ) : Step δ Ending :=
  let dispatcher := ⟨s.history.policy, s.history.numbers⟩
  match Pipeline.start? dispatcher s.writer.workers.toNat s.writer.capacity.toNat archive with
  | none => ⟨.crashed, around.site.drive, {}⟩
  | some started =>
    let store := Archive.store around.site.disk
    let shown := Pipeline.run store (Demo.requests around.ids around.clock) started.state
    let stopped := shown.state.step store .shutdown
    ⟨.completed, stopped.state.store.driveOr around.site.drive,
      started.report ++ .of [.demoStarted] ++ shown.report ++ .of [.demoCompleted]
        ++ stopped.report ++ .of [.serviceStopped]⟩

def work (s : Settings) (around : Surroundings δ) : Step δ Ending :=
  let opened := Archive.openStore s.store around.site
  match opened.answer with
  | .error e => ⟨.failed e.message, around.site.drive, opened.report⟩
  | .ok archive =>
    let followed := follow s around archive
    { followed with report := opened.report ++ followed.report }

/-- Runs the service. The state after it is that of the drive. -/
def run (s : Settings) (around : Surroundings δ) : Step δ Ending :=
  let starting : Report := .of [.serviceStarting, .settingsLoaded (.ofList s.describe)]
  match s.metrics.listen with
  | none =>
    let worked := work s around
    { worked with report := starting ++ worked.report }
  | some address =>
    if around.listens address then
      let worked := work s around
      { worked with
        report := starting ++ .of [.metricsListening (.ofList address.print)] ++ worked.report }
    else ⟨.failed "failed to create HTTP listener", around.site.drive, starting⟩

end Service
end CallHistory
