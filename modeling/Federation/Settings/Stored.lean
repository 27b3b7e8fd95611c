import Federation.Json.Typed
import Federation.Settings.Sections

/-!
# Sections of the settings in JSON

A section can also be written in JSON, where nothing is converted.
-/

namespace Federation.StoredSection

/-- How JSON values are read. -/
def readers : Readers Json Mismatch where
  word32 := Json.Typed.word32
  word64 := Json.Typed.word64
  flag := Json.Typed.bool
  text := Json.Typed.text
  option := Json.Typed.option
  list := Json.Typed.list
  record := Json.Typed.record
  mismatch := id

/-- The section of an experiment. -/
def experiment : Json.Typed ExperimentSettings :=
  Json.Typed.record readers.experiment

/-- The section of the waiting. -/
def poll : Json.Typed PollSettings :=
  Json.Typed.record readers.poll

/-- The section of the log. -/
def log : Json.Typed LoggingSettings :=
  Json.Typed.record readers.log

end Federation.StoredSection
