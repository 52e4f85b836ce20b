import ArdopMeshChat.Config
import Mathlib.Algebra.Order.Field.Rat
import Mathlib.Data.List.Sort
import Mathlib.Tactic.Linarith
import Mathlib.Tactic.NormNum

/-!
# Reconnect backoff

`KISSClient._connect_with_backoff` sleeps after each failed connection
attempt and doubles its delay while the delay is below
`reconnect_max_delay`.  The loop ends when an attempt succeeds or the client
stops; which of the two happens is the environment's choice, given here as
the outcomes of the attempts in order.  Doubling a float is exact, so the
delays are rationals.
-/

namespace ArdopMeshChat

namespace KISSConnectionConfig

variable (config : KISSConnectionConfig)

/-- The update of `delay` after a failed attempt. -/
def nextDelay (delay : ℚ) : ℚ :=
  if delay < config.reconnectMaxDelay then delay * 2 else delay

/-- The loop of `_connect_with_backoff` from `delay` on: the argument of each
`time.sleep`, given whether each attempt connects (`true`); the loop ends at
the first success, or when the attempts run out because the client stopped. -/
def backoffFrom (delay : ℚ) : List Bool → List ℚ
  | [] => []
  | true :: _ => []
  | false :: attempts => delay :: backoffFrom (config.nextDelay delay) attempts

/-- `_connect_with_backoff`: the delays it sleeps, starting from
`reconnect_base_delay`. -/
def connectWithBackoff (attempts : List Bool) : List ℚ :=
  config.backoffFrom config.reconnectBaseDelay attempts

/-- `config_loader`'s defaults: a 5 s base, a 60 s maximum, a queue of 1000. -/
def defaultConfig : KISSConnectionConfig := ⟨5, 60, 1000⟩

theorem le_nextDelay {delay : ℚ} (positive : 0 < delay) : delay ≤ config.nextDelay delay := by
  unfold nextDelay
  split <;> linarith

/-- A delay reached from the base is the base or below twice the maximum. -/
theorem nextDelay_bound {delay : ℚ} (bound : delay = config.reconnectBaseDelay ∨
    delay < 2 * config.reconnectMaxDelay) :
    config.nextDelay delay = config.reconnectBaseDelay ∨
      config.nextDelay delay < 2 * config.reconnectMaxDelay := by
  unfold nextDelay
  split
  · exact .inr (by linarith)
  · exact bound

theorem le_of_mem_backoffFrom {delay slept : ℚ} (positive : 0 < delay) {attempts : List Bool}
    (mem : slept ∈ config.backoffFrom delay attempts) : delay ≤ slept := by
  induction attempts generalizing delay with
  | nil => simp [backoffFrom] at mem
  | cons attempt attempts ih =>
      cases attempt with
      | true => simp [backoffFrom] at mem
      | false =>
          have grown := config.le_nextDelay positive
          rcases List.mem_cons.mp mem with rfl | later
          · exact le_refl _
          · exact grown.trans (ih (positive.trans_le grown) later)

theorem sorted_backoffFrom {delay : ℚ} (positive : 0 < delay) (attempts : List Bool) :
    (config.backoffFrom delay attempts).Sorted (· ≤ ·) := by
  induction attempts generalizing delay with
  | nil => exact List.sorted_nil
  | cons attempt attempts ih =>
      cases attempt with
      | true => exact List.sorted_nil
      | false =>
          have grown := config.le_nextDelay positive
          exact List.sorted_cons.mpr ⟨fun _ later =>
            grown.trans (config.le_of_mem_backoffFrom (positive.trans_le grown) later),
            ih (positive.trans_le grown)⟩

theorem bound_of_mem_backoffFrom {delay slept : ℚ} (bound : delay = config.reconnectBaseDelay ∨
    delay < 2 * config.reconnectMaxDelay) {attempts : List Bool}
    (mem : slept ∈ config.backoffFrom delay attempts) :
    slept = config.reconnectBaseDelay ∨ slept < 2 * config.reconnectMaxDelay := by
  induction attempts generalizing delay with
  | nil => simp [backoffFrom] at mem
  | cons attempt attempts ih =>
      cases attempt with
      | true => simp [backoffFrom] at mem
      | false =>
          rcases List.mem_cons.mp mem with rfl | later
          · exact bound
          · exact ih (config.nextDelay_bound bound) later

/-- What the backoff does guarantee: the delays never decrease, never fall
below `reconnect_base_delay`, and once grown past the base stay below twice
`reconnect_max_delay`. -/
theorem connectWithBackoff_bounds (positive : 0 < config.reconnectBaseDelay)
    (attempts : List Bool) :
    (config.connectWithBackoff attempts).Sorted (· ≤ ·) ∧
    ∀ slept ∈ config.connectWithBackoff attempts, config.reconnectBaseDelay ≤ slept ∧
      (slept = config.reconnectBaseDelay ∨ slept < 2 * config.reconnectMaxDelay) :=
  ⟨config.sorted_backoffFrom positive attempts, fun _ mem =>
    ⟨config.le_of_mem_backoffFrom positive mem, config.bound_of_mem_backoffFrom (.inl rfl) mem⟩⟩

theorem connectWithBackoff_bounds_defaultConfig :
    (0 : ℚ) < defaultConfig.reconnectBaseDelay ∧
    (defaultConfig.connectWithBackoff [false, false, true]).Sorted (· ≤ ·) ∧
    ∀ slept ∈ defaultConfig.connectWithBackoff [false, false, true],
      defaultConfig.reconnectBaseDelay ≤ slept ∧
      (slept = defaultConfig.reconnectBaseDelay ∨ slept < 2 * defaultConfig.reconnectMaxDelay) :=
  have positive : (0 : ℚ) < defaultConfig.reconnectBaseDelay := by norm_num [defaultConfig]
  ⟨positive, connectWithBackoff_bounds defaultConfig positive [false, false, true]⟩

/-- With the default delays, five failed attempts in a row sleep 80 s the
fifth time, past the 60 s maximum. -/
theorem connectWithBackoff_defaultConfig :
    defaultConfig.connectWithBackoff [false, false, false, false, false] = [5, 10, 20, 40, 80] ∧
    defaultConfig.reconnectMaxDelay < 80 := by
  norm_num [connectWithBackoff, backoffFrom, nextDelay, defaultConfig]

end KISSConnectionConfig

end ArdopMeshChat
