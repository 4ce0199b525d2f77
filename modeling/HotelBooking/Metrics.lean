import HotelBooking.Booking.Step
import HotelBooking.Gateway

/-!
# Counters

What is counted about bookings and the gateway.
-/

namespace HotelBooking

/-- The number of bookings that took some time stands for their durations. -/
inductive Metric where
  | executions
  | durations
  | completed
  | failed (step : Option BookingStep)
  | compensations (action : Compensation) (succeeded : Bool)
  | gatewayFailures (operation : GatewayOperation)
  deriving Repr, DecidableEq

namespace Metric

/-- The name of the counter, with its labels. -/
def name : Metric → String
  | executions => "booking_saga_executions_total"
  | durations => "booking_saga_duration_seconds"
  | completed => "booking_saga_completed_total"
  | failed none => "booking_saga_failed_total step=unknown"
  | failed (some step) => s!"booking_saga_failed_total step={step.name}"
  | compensations action succeeded =>
    let outcome := if succeeded then "succeeded" else "failed"
    s!"booking_saga_compensations_total action={action.name} outcome={outcome}"
  | gatewayFailures operation => s!"payment_gateway_failures_total operation={operation.name}"

def all : List Metric :=
  [executions, durations, completed] ++ (none :: BookingStep.all.map some).map failed ++
    Compensation.all.flatMap (fun a => [compensations a true, compensations a false]) ++
    GatewayOperation.all.map gatewayFailures

end Metric

/-- The count of each metric. -/
structure Metrics where
  count : Metric → Nat := fun _ => 0

def Metrics.increment (m : Metric) (c : Metrics) : Metrics :=
  ⟨fun n => if n = m then c.count n + 1 else c.count n⟩

/-- The counts that are not zero, by name. -/
def Metrics.toList (c : Metrics) : List (String × Nat) :=
  (Metric.all.filter (c.count · ≠ 0)).map fun m => (m.name, c.count m)

end HotelBooking
