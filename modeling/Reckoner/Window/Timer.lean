/-!
# Timers

A timer is active or not, and keeps its interval while it is not.
-/

namespace Reckoner

/-- A timer whose intervals are given by values of `δ`. -/
structure Timer (δ : Type) where
  active : Bool := false
  interval : δ

namespace Timer

variable {δ : Type}

/-- A timer that was started with an interval. -/
def startWith (interval : δ) : Timer δ := { active := true, interval }

/-- Starts with the interval that it has. -/
def start (timer : Timer δ) : Timer δ := { timer with active := true }

/-- Stops, and keeps the interval. -/
def stop (timer : Timer δ) : Timer δ := { timer with active := false }

@[simp] theorem active_startWith (interval : δ) : (startWith interval).active = true := rfl

@[simp] theorem interval_startWith (interval : δ) : (startWith interval).interval = interval := rfl

@[simp] theorem active_start (timer : Timer δ) : timer.start.active = true := rfl

@[simp] theorem interval_start (timer : Timer δ) : timer.start.interval = timer.interval := rfl

@[simp] theorem active_stop (timer : Timer δ) : timer.stop.active = false := rfl

@[simp] theorem interval_stop (timer : Timer δ) : timer.stop.interval = timer.interval := rfl

end Timer

end Reckoner
