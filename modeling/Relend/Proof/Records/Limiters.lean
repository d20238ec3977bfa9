import Relend.Proof.OutflowLimits
import Relend.Proof.Records.Writes

/-!
# Limiters that instructions charge
-/

namespace Relend
open Lib

namespace RateLimiter
variable {rl rl' : RateLimiter} {slot : U64} {qty : Decimal}

theorem config_update (done : rl.update slot qty = (.ok (), rl')) : rl'.config = rl.config := by
  unfold update at done
  split at done
  · obtain ⟨-, rfl⟩ := Prod.mk.inj done
    rfl
  · cases rolls : rl.rollWindow slot with
    | error e =>
        rw [rolls] at done
        cases done
    | ok rolled =>
        rw [rolls] at done
        cases adds : rolled.addOutflow slot qty with
        | error e => simp [adds] at done
        | ok added =>
            obtain rfl : added = rl' := by simpa [adds] using done
            have same : added.config = rolled.config := by rw [(addOutflow_eq_ok adds).1]
            exact same.trans (config_rollWindow rolls)

theorem config_remainingOutflow {left : Decimal} (done : rl.remainingOutflow slot = (.ok left, rl')) :
    rl'.config = rl.config := by
  unfold remainingOutflow at done
  split at done
  · obtain ⟨-, rfl⟩ := Prod.mk.inj done
    rfl
  · cases rolls : rl.rollWindow slot with
    | error e =>
        rw [rolls] at done
        cases done
    | ok rolled =>
        simp only [rolls] at done
        obtain ⟨-, rfl⟩ := Prod.mk.inj done
        exact config_rollWindow rolls

theorem Charges.config (charges : rl.Charges slot qty rl') : rl'.config = rl.config := by
  cases charges with
  | update done => exact config_update done
  | asked asked done => exact (config_update done).trans (config_remainingOutflow asked)

end RateLimiter

end Relend
