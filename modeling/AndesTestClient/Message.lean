import AndesTestClient.Runtime
import Mathlib.Data.List.Forall2

namespace AndesTestClient

structure ATCMessage where
  messageId : Option String := none
  text : Option String := none
  correlationId : Option String := none
  timestamp : Int64 := 0
deriving DecidableEq, Repr

inductive JmsBody
  | text (t : Option String)
  | other
deriving DecidableEq, Repr

/-- `javax.jms.Message`, with the headers that the client sets or reads. -/
structure JmsMessage where
  jmsMessageID : Option String := none
  jmsCorrelationID : Option String := none
  jmsTimestamp : Int64 := 0
  body : JmsBody
deriving DecidableEq, Repr

theorem forall₂_iff_eq_map {α β : Type} {R : α → β → Prop} {f : α → β}
    (h : ∀ a b, R a b ↔ b = f a) {as : List α} {bs : List β} :
    List.Forall₂ R as bs ↔ bs = as.map f := by
  constructor
  · intro hall
    induction hall with
    | nil => rfl
    | cons hab _ ih => rw [(h _ _).mp hab, ih, List.map_cons]
  · rintro rfl
    exact List.forall₂_map_right_iff.mpr (List.forall₂_same.mpr fun a _ ↦ (h _ _).mpr rfl)

namespace MessageUtils

/-- `none` is the null that a message which is not a text message is converted to. -/
def fromJMSToATC (jmsMessage : JmsMessage) : Option ATCMessage :=
  let message : ATCMessage :=
    { messageId := jmsMessage.jmsMessageID
      timestamp := jmsMessage.jmsTimestamp
      correlationId := jmsMessage.jmsMessageID }
  match jmsMessage.body with
  | .text t => some { message with text := t }
  | .other => none

def fromATCToJMS (message : ATCMessage) : JmsMessage :=
  { body := .text message.text
    jmsTimestamp := message.timestamp
    jmsMessageID := message.messageId
    jmsCorrelationID := message.correlationId }

theorem fromATCToJMS_injective : Function.Injective fromATCToJMS := by
  rintro ⟨id, text, correlation, time⟩ ⟨id', text', correlation', time'⟩ h
  simp only [fromATCToJMS, JmsMessage.mk.injEq, JmsBody.text.injEq] at h
  obtain ⟨rfl, rfl, rfl, rfl⟩ := h
  rfl

/-- The message `j` at the broker is the ATC message `m`, field by field. -/
structure Carries (m : ATCMessage) (j : JmsMessage) : Prop where
  body_eq : j.body = .text m.text
  jmsMessageID_eq : j.jmsMessageID = m.messageId
  jmsCorrelationID_eq : j.jmsCorrelationID = m.correlationId
  jmsTimestamp_eq : j.jmsTimestamp = m.timestamp

theorem carries_iff {m : ATCMessage} {j : JmsMessage} : Carries m j ↔ j = fromATCToJMS m := by
  constructor
  · rintro ⟨hbody, hid, hcorrelation, htime⟩
    cases j
    simp only at hbody hid hcorrelation htime
    rw [hbody, hid, hcorrelation, htime]
    rfl
  · rintro rfl
    exact ⟨rfl, rfl, rfl, rfl⟩

theorem forall₂_carries_iff {ms : List ATCMessage} {js : List JmsMessage} :
    List.Forall₂ Carries ms js ↔ js = ms.map fromATCToJMS :=
  forall₂_iff_eq_map @carries_iff

/-- What comes back from an encoding has the message id in place of the correlation id. -/
theorem fromJMSToATC_fromATCToJMS (m : ATCMessage) :
    fromJMSToATC (fromATCToJMS m) = some { m with correlationId := m.messageId } := rfl

theorem round_trip_iff (m : ATCMessage) :
    fromJMSToATC (fromATCToJMS m) = some m ↔ m.correlationId = m.messageId := by
  rw [fromJMSToATC_fromATCToJMS, Option.some.injEq]
  constructor
  · intro h
    have hid := congrArg ATCMessage.correlationId h
    exact hid.symm
  · intro h
    cases m
    simp only at h
    subst h
    rfl

theorem round_trip_loses_correlation :
    let m : ATCMessage := { messageId := some "p-1", text := some "a", correlationId := some "order" }
    (fromJMSToATC (fromATCToJMS m)).bind ATCMessage.correlationId = some "p-1" ∧
      fromJMSToATC (fromATCToJMS m) ≠ some m := by
  decide

end MessageUtils

end AndesTestClient
