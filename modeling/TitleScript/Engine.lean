import TitleScript.Evaluation
import TitleScript.Track

/-!
# The engine

An engine keeps what a host would otherwise pass along: the registry, the settings, the script
read last and a track to evaluate against. Evaluating never changes it.

## Main definitions

* `Engine` — what the engine keeps
* `Engine.parse`, `Engine.setTrack`, `Engine.clearTrack`, `Engine.setSettings` — changing it
* `Engine.evaluate` — the last script against the track of the engine
* `Engine.results`, `Engine.texts`, `Engine.output` — any script against any record
-/

namespace TitleScript

/-- A registry, settings, the script read last and perhaps a track. -/
structure Engine where
  registry : Registry
  settings : Settings
  track : Option Track
  script : Script

namespace Engine

/-- An engine that has read nothing, with the given registry. -/
def ofRegistry (registry : Registry) : Engine where
  registry := registry
  settings := {}
  track := none
  script := .empty

/-- An engine with the built-in functions. -/
def standard : Engine := ofRegistry .standard

/-! ### Changing what is kept -/

/-- Read a script and keep it. -/
def parse (e : Engine) (source : String) : Engine :=
  { e with script := Script.parse source }

/-- Keep a track. -/
def setTrack (e : Engine) (t : Track) : Engine :=
  { e with track := some t }

/-- Keep no track. -/
def clearTrack (e : Engine) : Engine :=
  { e with track := none }

/-- Keep other settings. -/
def setSettings (e : Engine) (s : Settings) : Engine :=
  { e with settings := s }

/-! ### Evaluating -/

/-- The outcomes of a sequence, one for every branch. -/
def results (e : Engine) (nodes : List Node) (record : Record) : List Outcome :=
  TitleScript.evaluate nodes e.registry record e.settings

/-- The texts of a sequence. -/
def texts (e : Engine) (nodes : List Node) (record : Record) : List String :=
  collect e.settings (e.results nodes record)

/-- The texts of a sequence as one. -/
def output (e : Engine) (nodes : List Node) (record : Record) : String :=
  joinResults e.settings (e.results nodes record)

/-- The record of the engine: its track, or one without fields. -/
def record (e : Engine) : Record :=
  (e.track.getD .empty).field

/-- A script against the record of the engine. -/
def evaluateScript (e : Engine) (s : Script) : String :=
  e.output s.nodes e.record

/-- The script read last against the record of the engine. -/
def evaluate (e : Engine) : String :=
  e.evaluateScript e.script

end Engine

end TitleScript
