import Scrollback.Json.Reader
import Scrollback.Json.Record

/-!
Settings of a transcript view.

Settings are read from a JSON record in which every field may be absent. They are
valid when both window sizes are positive, the limit of the window is not below
its first size, and the cache has room for two contents (`Settings.check`). The
throttle is a whole number of milliseconds and is kept in microseconds, the unit
of all times.
-/

namespace Scrollback

/-- The settings of a view. -/
structure Settings where
  /-- How many messages are shown when a long conversation is opened. -/
  initialSize : Nat := 240
  /-- How many more messages are shown when older ones are asked for. -/
  step : Nat := 240
  /-- How far new messages may widen the window. -/
  maxShown : Nat := 1200
  /-- The least time between two scrolls after a growing reply, in milliseconds. -/
  throttleMillis : Nat := 100
  /-- How many parsed contents are remembered. -/
  cacheCapacity : Nat := 80
  deriving DecidableEq, Repr

/-- Why settings are not valid. -/
inductive SettingsFault where
  | noInitialSize
  | noStep
  | limitBelowInitialSize (limit initialSize : Nat)
  | smallCache
  deriving DecidableEq, Repr

/-- The wording of a fault. -/
def SettingsFault.message : SettingsFault → String
  | noInitialSize => "Invalid config value for window_initial_size: must be greater than zero"
  | noStep => "Invalid config value for window_step: must be greater than zero"
  | limitBelowInitialSize limit initialSize =>
      "Invalid config value for window_max_materialized: " ++ toString limit ++
        " is below window_initial_size " ++ toString initialSize
  | smallCache => "Invalid config value for attachment_cache_capacity: must be at least 2"

/-- Why settings could not be loaded from a file. -/
inductive SettingsError where
  | unreadable (path : String)
  | malformed (path : String)
  | invalid (fault : SettingsFault)
  deriving DecidableEq, Repr

/-- The wording of an error, without its cause. -/
def SettingsError.message : SettingsError → String
  | unreadable path => "Failed to read config " ++ path
  | malformed path => "Failed to parse config " ++ path
  | invalid fault => fault.message

namespace Settings

/-- The least time between two scrolls after a growing reply, in microseconds. -/
def throttle (s : Settings) : Nat :=
  s.throttleMillis * 1000

/-- The first fault of settings, if they are not valid. -/
def check (s : Settings) : Except SettingsFault Unit :=
  if s.initialSize = 0 then .error .noInitialSize
  else if s.step = 0 then .error .noStep
  else if s.maxShown < s.initialSize then
    .error (.limitBelowInitialSize s.maxShown s.initialSize)
  else if s.cacheCapacity < 2 then .error .smallCache
  else .ok ()

/-- The settings a record describes. -/
def ofJson? (value : Json) : Option Settings := do
  let absent : Settings := {}
  match ← value.fields? ["window_initial_size", "window_step", "window_max_materialized",
      "stream_scroll_throttle_ms", "attachment_cache_capacity"] with
  | [initialSize, step, maxShown, throttleMillis, cacheCapacity] =>
      return {
        initialSize := ← Json.orElse absent.initialSize Json.word? initialSize
        step := ← Json.orElse absent.step Json.word? step
        maxShown := ← Json.orElse absent.maxShown Json.word? maxShown
        throttleMillis := ← Json.orElse absent.throttleMillis Json.word? throttleMillis
        cacheCapacity := ← Json.orElse absent.cacheCapacity Json.word? cacheCapacity }
  | _ => none

/-- The settings in a file, given its path and its text if it can be read. -/
def load (path : String) (text : Option String) : Except SettingsError Settings :=
  match text with
  | none => .error (.unreadable path)
  | some text =>
      match (Json.read? text).bind ofJson? with
      | none => .error (.malformed path)
      | some settings =>
          match settings.check with
          | .error fault => .error (.invalid fault)
          | .ok () => .ok settings

/-- Settings pass the check exactly when every bound holds. -/
theorem check_eq_ok_iff (s : Settings) :
    s.check = .ok () ↔
      0 < s.initialSize ∧ 0 < s.step ∧ s.initialSize ≤ s.maxShown ∧ 2 ≤ s.cacheCapacity := by
  unfold check
  repeat' split
  all_goals simp only [reduceCtorEq, false_iff, true_iff]
  all_goals omega

end Settings

end Scrollback
