import HotelBooking.Booking.Json
import HotelBooking.Booking.Reaction
import HotelBooking.Decimal
import HotelBooking.Demo
import HotelBooking.FaultyHotel
import HotelBooking.Gateway
import HotelBooking.Hotel
import HotelBooking.Identifier
import HotelBooking.Json.Basic
import HotelBooking.Json.Fields
import HotelBooking.Json.Reader
import HotelBooking.Json.Writer
import HotelBooking.Main
import HotelBooking.Money
import HotelBooking.Notifier
import HotelBooking.Payment.Event
import HotelBooking.Proofs.Audit
import HotelBooking.Proofs.Balance
import HotelBooking.Proofs.Charge
import HotelBooking.Proofs.Commuting
import HotelBooking.Proofs.Compensation
import HotelBooking.Proofs.Completion
import HotelBooking.Proofs.Confluence
import HotelBooking.Proofs.Course
import HotelBooking.Proofs.Decoding
import HotelBooking.Proofs.Delivery
import HotelBooking.Proofs.Drivers
import HotelBooking.Proofs.Envelopes
import HotelBooking.Proofs.FaultyParts
import HotelBooking.Proofs.FaultySession
import HotelBooking.Proofs.FirstStep
import HotelBooking.Proofs.Footprint
import HotelBooking.Proofs.Frame
import HotelBooking.Proofs.Growth
import HotelBooking.Proofs.History
import HotelBooking.Proofs.JsonText
import HotelBooking.Proofs.Notices
import HotelBooking.Proofs.PaidStay
import HotelBooking.Proofs.Parts
import HotelBooking.Proofs.PaymentAnswers
import HotelBooking.Proofs.Payments
import HotelBooking.Proofs.Pump
import HotelBooking.Proofs.Redelivery
import HotelBooking.Proofs.Relation
import HotelBooking.Proofs.Reservations
import HotelBooking.Proofs.Retries
import HotelBooking.Proofs.RoomExclusion
import HotelBooking.Proofs.Services
import HotelBooking.Proofs.Session
import HotelBooking.Proofs.Settlement
import HotelBooking.Proofs.Steps
import HotelBooking.Proofs.TimeText
import HotelBooking.Proofs.Wire
import HotelBooking.Proofs.Working
import HotelBooking.Reservation.Event
import HotelBooking.Stay
import HotelBooking.Storage.EventLog
import HotelBooking.Storage.Handle
import HotelBooking.Storage.Table
import HotelBooking.Text.Blank
import HotelBooking.Text.Digits
import HotelBooking.Text.Upper
import HotelBooking.Time.Date
import HotelBooking.Time.Instant
import HotelBooking.Time.Text
import HotelBooking.Uuid
import HotelBooking.Proofs.ReservationAnswers
import HotelBooking.Proofs.PaymentLife
import HotelBooking.Proofs.Availability
import HotelBooking.Proofs.Ledger
import HotelBooking.Proofs.Demonstration
import HotelBooking.Proofs.CancellationWindow
import HotelBooking.Proofs.Configuration
import HotelBooking.Proofs.MoneyText
import HotelBooking.Proofs.SharedTable
import HotelBooking.Proofs.Handling
