import HotelBooking.Action
import HotelBooking.Payment.Json

/-!
# Notices to guests

Notices are sent to the first guest of a reservation. Every try is counted. Nothing is sent while
the channel is down; that is noticed before a missing recipient.
-/

namespace HotelBooking

inductive Notice where
  | confirmation (id : ReservationId) (recipient : String)
  | cancellation (id : ReservationId) (recipient reason : String)
  | receipt (id : PaymentId) (amount : Money)
  deriving DecidableEq

def Notice.toJson : Notice → Json
  | confirmation id recipient =>
    .record
      [("type", .text "ReservationConfirmation"), ("reservation_id", id.toJson),
        ("recipient", .text recipient)]
  | cancellation id recipient reason =>
    .record
      [("type", .text "CancellationNotice"), ("reservation_id", id.toJson),
        ("recipient", .text recipient), ("reason", .text reason)]
  | receipt id amount =>
    .record
      [("type", .text "PaymentReceipt"), ("payment_id", id.toJson), ("amount", amount.toJson)]

inductive NoticeError where
  | noRecipient (id : ReservationId)
  | channelDown
  deriving Repr, DecidableEq

def NoticeError.message : NoticeError → String
  | noRecipient id => s!"Reservation {id.text} has no guest to notify"
  | channelDown => "Notification channel unavailable: mail relay down"

structure Notifier where
  sent : List Notice := []
  attempts : Nat := 0
  isDown : Bool := false
  deriving DecidableEq

namespace Notifier

/-- Sends a notice, unless there is a reason why it cannot be addressed. -/
def send (notice : Except NoticeError Notice) : Action Notifier NoticeError Unit := fun n =>
  let n := { n with attempts := n.attempts + 1 }
  if n.isDown then .error .channelDown n
  else
    match notice with
    | .ok notice => .ok () { n with sent := n.sent ++ [notice] }
    | .error e => .error e n

def recipient (r : Reservation) : Except NoticeError String :=
  match r.primaryGuest? with
  | some guest => .ok guest.email
  | none => .error (.noRecipient r.id)

def sendConfirmation (r : Reservation) : Action Notifier NoticeError Unit :=
  send ((recipient r).map (.confirmation r.id))

def sendCancellation (r : Reservation) (reason : String) : Action Notifier NoticeError Unit :=
  send ((recipient r).map (.cancellation r.id · reason))

def sendReceipt (p : Payment) : Action Notifier NoticeError Unit :=
  send (.ok (.receipt p.id p.amount))

end Notifier
end HotelBooking
