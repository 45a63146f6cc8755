/-!
# Service choices

The services that a request can ask for, by the octet that chooses them.
-/

namespace BACnet

/-- The services whose request is answered. -/
inductive ConfirmedService where
  | acknowledgeAlarm
  | confirmedCovNotification
  | confirmedEventNotification
  | getAlarmSummary
  | getEnrollmentSummary
  | subscribeCov
  | atomicReadFile
  | atomicWriteFile
  | addListElement
  | removeListElement
  | createObject
  | deleteObject
  | readProperty
  | readPropertyMultiple
  | writeProperty
  | writePropertyMultiple
  | deviceCommunicationControl
  | confirmedPrivateTransfer
  | confirmedTextMessage
  | reinitializeDevice
  | vtOpen
  | vtClose
  | vtData
  | readRange
  | lifeSafetyOperation
  | subscribeCovProperty
  | getEventInformation
  deriving DecidableEq, Repr

namespace ConfirmedService

/-- The octet of the service. -/
def code : ConfirmedService → UInt8
  | acknowledgeAlarm => 0
  | confirmedCovNotification => 1
  | confirmedEventNotification => 2
  | getAlarmSummary => 3
  | getEnrollmentSummary => 4
  | subscribeCov => 5
  | atomicReadFile => 6
  | atomicWriteFile => 7
  | addListElement => 8
  | removeListElement => 9
  | createObject => 10
  | deleteObject => 11
  | readProperty => 12
  | readPropertyMultiple => 14
  | writeProperty => 15
  | writePropertyMultiple => 16
  | deviceCommunicationControl => 17
  | confirmedPrivateTransfer => 18
  | confirmedTextMessage => 19
  | reinitializeDevice => 20
  | vtOpen => 21
  | vtClose => 22
  | vtData => 23
  | readRange => 26
  | lifeSafetyOperation => 27
  | subscribeCovProperty => 28
  | getEventInformation => 29

/-- The service of an octet. -/
def ofCode? (code : UInt8) : Option ConfirmedService :=
  match code.toNat with
  | 0 => some acknowledgeAlarm
  | 1 => some confirmedCovNotification
  | 2 => some confirmedEventNotification
  | 3 => some getAlarmSummary
  | 4 => some getEnrollmentSummary
  | 5 => some subscribeCov
  | 6 => some atomicReadFile
  | 7 => some atomicWriteFile
  | 8 => some addListElement
  | 9 => some removeListElement
  | 10 => some createObject
  | 11 => some deleteObject
  | 12 => some readProperty
  | 14 => some readPropertyMultiple
  | 15 => some writeProperty
  | 16 => some writePropertyMultiple
  | 17 => some deviceCommunicationControl
  | 18 => some confirmedPrivateTransfer
  | 19 => some confirmedTextMessage
  | 20 => some reinitializeDevice
  | 21 => some vtOpen
  | 22 => some vtClose
  | 23 => some vtData
  | 26 => some readRange
  | 27 => some lifeSafetyOperation
  | 28 => some subscribeCovProperty
  | 29 => some getEventInformation
  | _ => none

theorem ofCode?_code (service : ConfirmedService) : ofCode? service.code = some service := by
  cases service <;> rfl

end ConfirmedService

/-- The services whose request is not answered. -/
inductive UnconfirmedService where
  | iAm
  | iHave
  | unconfirmedCovNotification
  | unconfirmedEventNotification
  | unconfirmedPrivateTransfer
  | unconfirmedTextMessage
  | timeSynchronization
  | whoHas
  | whoIs
  | utcTimeSynchronization
  | writeGroup
  deriving DecidableEq, Repr

namespace UnconfirmedService

/-- The octet of the service. -/
def code : UnconfirmedService → UInt8
  | iAm => 0
  | iHave => 1
  | unconfirmedCovNotification => 2
  | unconfirmedEventNotification => 3
  | unconfirmedPrivateTransfer => 4
  | unconfirmedTextMessage => 5
  | timeSynchronization => 6
  | whoHas => 7
  | whoIs => 8
  | utcTimeSynchronization => 9
  | writeGroup => 10

/-- The service of an octet. -/
def ofCode? (code : UInt8) : Option UnconfirmedService :=
  match code.toNat with
  | 0 => some iAm
  | 1 => some iHave
  | 2 => some unconfirmedCovNotification
  | 3 => some unconfirmedEventNotification
  | 4 => some unconfirmedPrivateTransfer
  | 5 => some unconfirmedTextMessage
  | 6 => some timeSynchronization
  | 7 => some whoHas
  | 8 => some whoIs
  | 9 => some utcTimeSynchronization
  | 10 => some writeGroup
  | _ => none

theorem ofCode?_code (service : UnconfirmedService) : ofCode? service.code = some service := by
  cases service <;> rfl

end UnconfirmedService

/-- What is said of an octet that chooses no service. -/
def unrecognizedService (code : UInt8) : String := s!"unrecognized service choice {code}"

end BACnet
