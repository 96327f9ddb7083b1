import Mathlib.Data.List.DropRight
import Mathlib.Data.List.Induction
import TitleScript.Engine

/-!
# What an engine remembers

An engine is made once and then used in any order: scripts are read, tracks and settings are put in
and taken out, and all the while something is evaluated. Four things are kept, and each of them is
what was put in last, or what it was at first if nothing has been put in since the engine was made.
Which of the others have been put in meanwhile makes no difference, and neither does anything that
was evaluated.

A history is a list of calls, and making a new engine is a call as well, which ends what was kept.
`Engine.remembered` says from the end of a history what the engine keeps, and `Engine.run_eq` that
this is the engine which the calls lead to one by one.

## Main definitions

* `Engine.Call`, `Engine.after`, `Engine.run` — what can be done with an engine
* `Engine.answer`, `Engine.answers` — what the calls give back
* `Engine.last?`, `Engine.sinceMade` — the last one of some calls, and the calls since the last
  engine was made
* `Engine.remembered` — what an engine keeps after a history

## Main results

* `Engine.remembered_append_singleton` — one call
* `Engine.run_eq` — a history
* `evaluate_run` — what an engine evaluates after any history
-/

namespace TitleScript

namespace Engine

/-! ### Calls -/

/-- What can be done with an engine. The first two put a new one in its place. -/
inductive Call
  | standard
  | ofRegistry (registry : Registry)
  | parse (source : String)
  | setTrack (t : Track)
  | clearTrack
  | setSettings (settings : Settings)
  | evaluate
  | evaluateScript (s : Script)
  | output (nodes : List Node) (record : Record)
  | texts (nodes : List Node) (record : Record)
  | results (nodes : List Node) (record : Record)

/-- What a call gives back. -/
inductive Answer
  | done
  | script (s : Script)
  | text (t : String)
  | texts (ts : List String)
  | outcomes (os : List Outcome)

/-- The engine after a call. What evaluates only looks at the engine. -/
def after (e : Engine) : Call → Engine
  | .standard => standard
  | .ofRegistry registry => ofRegistry registry
  | .parse source => e.parse source
  | .setTrack t => e.setTrack t
  | .clearTrack => e.clearTrack
  | .setSettings settings => e.setSettings settings
  | .evaluate | .evaluateScript .. | .output .. | .texts .. | .results .. => e

/-- The answer of an engine to a call. -/
def answer (e : Engine) : Call → Answer
  | .parse source => .script (e.parse source).script
  | .evaluate => .text e.evaluate
  | .evaluateScript s => .text (e.evaluateScript s)
  | .output nodes record => .text (e.output nodes record)
  | .texts nodes record => .texts (e.texts nodes record)
  | .results nodes record => .outcomes (e.results nodes record)
  | .standard | .ofRegistry .. | .setTrack .. | .clearTrack | .setSettings .. => .done

/-- The engine after some calls, one after another. -/
def run (e : Engine) (calls : List Call) : Engine :=
  calls.foldl after e

/-- The answers of an engine to some calls, one after another. -/
def answers (e : Engine) : List Call → List Answer
  | [] => []
  | c :: calls => e.answer c :: (e.after c).answers calls

/-! ### What the calls of a history say -/

namespace Call

/-- The registry of the engine that a call makes. -/
def made? : Call → Option Registry
  | standard => some .standard
  | ofRegistry registry => some registry
  | _ => none

/-- The script that a call reads. -/
def source? : Call → Option String
  | parse source => some source
  | _ => none

/-- What a call says about the track: nothing, which one to keep, or to keep none. -/
def track? : Call → Option (Option Track)
  | setTrack t => some (some t)
  | clearTrack => some none
  | _ => none

/-- The settings that a call puts in. -/
def settings? : Call → Option Settings
  | setSettings settings => some settings
  | _ => none

/-- Whether a call evaluates something. -/
def evaluates : Call → Bool
  | evaluate | evaluateScript .. | output .. | texts .. | results .. => true
  | _ => false

end Call

/-- What the last call puts in that puts something in. -/
def last? {α : Type} (put? : Call → Option α) (calls : List Call) : Option α :=
  (calls.filterMap put?).getLast?

/-- The calls since the last engine was made. -/
def sinceMade (calls : List Call) : List Call :=
  calls.rtakeWhile (·.made?.isNone)

/-- What an engine keeps after a history that began with a new engine. Only the calls count which
put something in, and of these the last ones. -/
def remembered (start : Registry) (calls : List Call) : Engine where
  registry := (last? Call.made? calls).getD start
  settings := (last? Call.settings? (sinceMade calls)).getD {}
  track := (last? Call.track? (sinceMade calls)).join
  script := ((last? Call.source? (sinceMade calls)).map Script.parse).getD .empty

/-! ### One call -/

variable {start : Registry} {c : Call}

theorem last?_append_singleton {α : Type} (put? : Call → Option α) (calls : List Call) (c : Call) :
    last? put? (calls ++ [c]) = (put? c).or (last? put? calls) := by
  rw [last?, List.filterMap_append, List.getLast?_append]
  cases h : put? c <;> simp [h, last?]

theorem sinceMade_append_of_eq_some {registry : Registry} (h : c.made? = some registry)
    (calls : List Call) : sinceMade (calls ++ [c]) = [] :=
  List.rtakeWhile_concat_neg _ _ _ (by simp [h])

theorem sinceMade_append_of_eq_none (h : c.made? = none) (calls : List Call) :
    sinceMade (calls ++ [c]) = sinceMade calls ++ [c] :=
  List.rtakeWhile_concat_pos _ _ _ (by simp [h])

/-- A new engine remembers nothing. -/
theorem remembered_append_of_eq_some {registry : Registry} (h : c.made? = some registry)
    (calls : List Call) : remembered start (calls ++ [c]) = ofRegistry registry := by
  rw [remembered, sinceMade_append_of_eq_some h, last?_append_singleton, h]
  rfl

/-- A call that makes no new engine replaces what it puts in and nothing else. -/
theorem remembered_append_of_eq_none (h : c.made? = none) (calls : List Call) :
    remembered start (calls ++ [c])
      = { registry := (remembered start calls).registry
          settings := c.settings?.getD (remembered start calls).settings
          track := c.track?.getD (remembered start calls).track
          script := (c.source?.map Script.parse).getD (remembered start calls).script } := by
  simp only [remembered, sinceMade_append_of_eq_none h, last?_append_singleton, h, Option.none_or,
    Option.map_or, Option.getD_or]
  cases c.track? <;> rfl

/-- **One call** does to what is remembered of a history what it does to an engine. -/
theorem remembered_append_singleton (start : Registry) (calls : List Call) (c : Call) :
    remembered start (calls ++ [c]) = (remembered start calls).after c := by
  cases c with
  | standard => exact remembered_append_of_eq_some rfl calls
  | ofRegistry registry => exact remembered_append_of_eq_some rfl calls
  | parse source => exact remembered_append_of_eq_none rfl calls
  | setTrack t => exact remembered_append_of_eq_none rfl calls
  | clearTrack => exact remembered_append_of_eq_none rfl calls
  | setSettings settings => exact remembered_append_of_eq_none rfl calls
  | evaluate => exact remembered_append_of_eq_none rfl calls
  | evaluateScript s => exact remembered_append_of_eq_none rfl calls
  | output nodes record => exact remembered_append_of_eq_none rfl calls
  | texts nodes record => exact remembered_append_of_eq_none rfl calls
  | results nodes record => exact remembered_append_of_eq_none rfl calls

/-! ### A history -/

theorem run_append_singleton (e : Engine) (calls : List Call) (c : Call) :
    e.run (calls ++ [c]) = (e.run calls).after c := by
  rw [run, List.foldl_concat, run]

/-- **A history** leads to what is remembered of it. -/
theorem run_eq (start : Registry) (calls : List Call) :
    (ofRegistry start).run calls = remembered start calls := by
  induction calls using List.reverseRecOn with
  | nil => rfl
  | append_singleton calls c ih =>
    rw [run_append_singleton, ih, remembered_append_singleton]

theorem after_of_evaluates (e : Engine) (h : c.evaluates = true) : e.after c = e := by
  cases c with
  | evaluate | evaluateScript | output | texts | results => rfl
  | standard | ofRegistry | parse | setTrack | clearTrack | setSettings => contradiction

end Engine

/-- **What an engine evaluates after any history.** The script is the one that was read last since
the engine was made, and it is evaluated with the registry with which the engine was made, for the
track that was put in last and not taken out again, under the settings that were put in last. What
has not been put in is the empty script, the empty track and the usual settings. A call that
evaluates changes none of the answers behind it. -/
theorem evaluate_run (start : Registry) (calls : List Engine.Call) :
    let e := (Engine.ofRegistry start).run calls
    let own := Engine.sinceMade calls
    let registry := (Engine.last? (·.made?) calls).getD start
    let script := ((Engine.last? (·.source?) own).map Script.parse).getD .empty
    let track := (Engine.last? (·.track?) own).join
    let settings := (Engine.last? (·.settings?) own).getD {}
    e.evaluate
        = joinResults settings
          (evaluate script.nodes registry (track.getD .empty).field settings)
      ∧ e.script = script ∧ e.track = track ∧ e.settings = settings ∧ e.registry = registry
      ∧ ∀ c : Engine.Call, c.evaluates = true →
        ∀ later, (e.after c).answers later = e.answers later := by
  intro e own registry script track settings
  have hremembered : e = ⟨registry, settings, track, script⟩ := Engine.run_eq start calls
  refine ⟨?evaluate, ?script, ?track, ?settings, ?registry, fun c hc later => ?later⟩
  case evaluate =>
    rw [hremembered]
    rfl
  case later => rw [e.after_of_evaluates hc]
  all_goals rw [hremembered]

/-- An engine that is made in between forgets the track, and knows fields that the one before did
not know. Of what is put in after that the last counts, whatever is evaluated meanwhile. -/
theorem evaluate_run_made :
    let before : List Engine.Call :=
      [.parse "a%title%", .setTrack (Track.empty.set "title" "b"), .evaluate,
        .standard, .setSettings ⟨"+", "", 64, false⟩, .parse "%genre%[ %title%]"]
    let t := Track.empty.setValues "genre" ["c", "d"]
    let e := (Engine.ofRegistry .empty).run (before ++ [.clearTrack, .setTrack t, .evaluate])
    let later : List Engine.Call := [.parse "x", .evaluate]
    e.evaluate = "c+d"
      ∧ ((Engine.ofRegistry .empty).run before).evaluate = ""
      ∧ (e.after .evaluate).answers later = e.answers later := by
  intro before t e later
  have hrun := evaluate_run .empty (before ++ [.clearTrack, .setTrack t, .evaluate])
  refine ⟨hrun.1.trans ?_, (evaluate_run .empty before).1.trans ?_,
    hrun.2.2.2.2.2 .evaluate rfl later⟩
  · decide +kernel
  · decide +kernel

end TitleScript
