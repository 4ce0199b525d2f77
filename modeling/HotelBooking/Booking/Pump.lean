import HotelBooking.Booking.Reaction
import HotelBooking.Hotel

/-!
# Feeding events back

The events that a system publishes are handed back to it, a round at a time, until the queue is
empty. An event sets off only events of later stages: a new reservation an authorized or a failed
payment, an authorized payment a captured or a failed one, and these a confirmed or a cancelled
reservation, to which nothing reacts.
-/

namespace HotelBooking.Hotel

/-- Handles one event; an error leaves only its traces in the state. -/
def react (now : Instant) (s : Hotel) (e : Envelope) : Hotel :=
  ((Booking.handle now e).outcome s).2

/-- Takes everything out of the queue and handles it in order. -/
def pumpRound (now : Instant) (s : Hotel) : Hotel :=
  s.log.queue.foldl (react now) { s with log := s.log.drain }

/-- Goes on until the queue is empty, for at most `rounds` rounds; answers with the topics of the
events handled, in order. -/
def pumpRounds (now : Instant) : (rounds : Nat) → Hotel → List String × Hotel
  | 0, s => ([], s)
  | rounds + 1, s =>
    if s.log.queue.isEmpty then ([], s)
    else
      let (topics, t) := pumpRounds now rounds (pumpRound now s)
      (s.log.topics ++ topics, t)

/-- The number of stages that an event can pass through. -/
def stages : Nat := 4

/-- Handles events until the queue is empty. -/
def pump (now : Instant) (s : Hotel) : List String × Hotel := pumpRounds now stages s

end HotelBooking.Hotel
