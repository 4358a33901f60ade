import CallHistory.Report.Filter
import CallHistory.Service.Basic
import CallHistory.Settings.Layers

/-! # The program

The program loads its settings, runs the service, and prints what the filter of its report shows.
The filter of the environment, if it can be read, comes before that of the settings.
-/

namespace CallHistory.Service

structure Transcript (δ : Type) where
  lines : List String := []
  /-- The line on which the program says why it failed. -/
  complaint : Option String := none
  code : Nat
  drive : δ

def filterVariable : String := "RUST_LOG"

def endingOf (e : Settings.LoadError) : Ending :=
  match e.message? with
  | some message => .failed message
  | none => .crashed

/-- The texts of filters, the first the one that counts most. -/
def filterTexts (s : Settings) (environment : List (String × String)) : List (List Char) :=
  ((environment.lookup filterVariable).toList ++ [s.logging.filter]).map String.toList

def Transcript.of {δ : Type} (lines : List String) (ending : Ending) (drive : δ) :
    Transcript δ where
  lines := lines
  complaint := match ending with
    | .failed message => some ("Error: " ++ message)
    | _ => none
  code := ending.code
  drive := drive

variable {δ : Type}

def program (file : Settings.File) (environment : List (String × String))
    (around : Surroundings δ) : Transcript δ :=
  match Settings.load file environment with
  | .error e => .of [] (endingOf e) around.site.drive
  | .ok s =>
    match Report.Filter.choose? (filterTexts s environment) with
    | none => .of [] .crashed around.site.drive
    | some filter =>
      let ran := run s around
      let shown := ran.report.events.filter (Report.Filter.shows filter)
      .of (shown.map (·.terminalLine s.logging.reveal)) ran.answer ran.state

end CallHistory.Service
