/-!
# Reasons and error codes

Enumerations that stay open: besides the standard numbers, which have names, each has a range of
numbers for the makers of devices, and every other number is kept as well. A value is its number, so
an unknown one survives decoding and encoding.
-/

namespace BACnet

/-- The name of a number of an open enumeration: that of the standard, or whether the number lies in
the range of the makers. -/
def openName (names : List (Nat × String)) (isProprietary : Bool) (number : Nat) : String :=
  match names.lookup number with
  | some name => name
  | none => if isProprietary then s!"Proprietary({number})" else s!"Reserved({number})"

/-- Why a request was refused as badly formed. -/
structure RejectReason where
  number : UInt8
  deriving DecidableEq, Repr

namespace RejectReason

def names : List (Nat × String) :=
  [(0, "Other"), (1, "BufferOverflow"), (2, "InconsistentParameters"),
    (3, "InvalidParameterDataType"), (4, "InvalidTag"), (5, "MissingRequiredParameter"),
    (6, "ParameterOutOfRange"), (7, "TooManyArguments"), (8, "UndefinedEnumeration"),
    (9, "UnrecognizedService")]

def isProprietary (reason : RejectReason) : Bool := 64 ≤ reason.number.toNat

def name (reason : RejectReason) : String :=
  openName names reason.isProprietary reason.number.toNat

def invalidParameterDataType : RejectReason := ⟨3⟩

def unrecognizedService : RejectReason := ⟨9⟩

end RejectReason

/-- Why a transaction was ended before its answer. -/
structure AbortReason where
  number : UInt8
  deriving DecidableEq, Repr

namespace AbortReason

def names : List (Nat × String) :=
  [(0, "Other"), (1, "BufferOverflow"), (2, "InvalidApduInThisState"),
    (3, "PreemptedByHigherPriorityTask"), (4, "SegmentationNotSupported"), (5, "SecurityError"),
    (6, "InsufficientSecurity"), (7, "WindowSizeOutOfRange"), (8, "ApplicationExceededReplyTime"),
    (9, "OutOfResources"), (10, "TsmTimeout"), (11, "ApduTooLong")]

def isProprietary (reason : AbortReason) : Bool := 64 ≤ reason.number.toNat

def name (reason : AbortReason) : String :=
  openName names reason.isProprietary reason.number.toNat

def bufferOverflow : AbortReason := ⟨1⟩

def invalidApduInThisState : AbortReason := ⟨2⟩

def segmentationNotSupported : AbortReason := ⟨4⟩

def windowSizeOutOfRange : AbortReason := ⟨7⟩

def applicationExceededReplyTime : AbortReason := ⟨8⟩

def outOfResources : AbortReason := ⟨9⟩

def tsmTimeout : AbortReason := ⟨10⟩

def apduTooLong : AbortReason := ⟨11⟩

end AbortReason

/-- The field in which a service failed. -/
structure ErrorClass where
  number : UInt16
  deriving DecidableEq, Repr

namespace ErrorClass

def names : List (Nat × String) :=
  [(0, "Device"), (1, "Object"), (2, "Property"), (3, "Resources"), (4, "Security"),
    (5, "Services"), (6, "Vt"), (7, "Communication")]

def isProprietary (errorClass : ErrorClass) : Bool := 64 ≤ errorClass.number.toNat

def name (errorClass : ErrorClass) : String :=
  openName names errorClass.isProprietary errorClass.number.toNat

def security : ErrorClass := ⟨4⟩

end ErrorClass

/-- Why a service failed. -/
structure ErrorCode where
  number : UInt16
  deriving DecidableEq, Repr

namespace ErrorCode

def names : List (Nat × String) :=
  [(0, "Other"), (2, "ConfigurationInProgress"), (3, "DeviceBusy"),
    (4, "DynamicCreationNotSupported"), (5, "FileAccessDenied"), (7, "InconsistentParameters"),
    (8, "InconsistentSelectionCriterion"), (9, "InvalidDataType"), (10, "InvalidFileAccessMethod"),
    (11, "InvalidFileStartPosition"), (13, "InvalidParameterDataType"), (14, "InvalidTimeStamp"),
    (16, "MissingRequiredParameter"), (17, "NoObjectsOfSpecifiedType"), (18, "NoSpaceForObject"),
    (19, "NoSpaceToAddListElement"), (20, "NoSpaceToWriteProperty"), (21, "NoVtSessionsAvailable"),
    (22, "PropertyIsNotAList"), (23, "ObjectDeletionNotPermitted"),
    (24, "ObjectIdentifierAlreadyExists"), (25, "OperationalProblem"), (26, "PasswordFailure"),
    (27, "ReadAccessDenied"), (29, "ServiceRequestDenied"), (30, "Timeout"), (31, "UnknownObject"),
    (32, "UnknownProperty"), (34, "UnknownVtClass"), (35, "UnknownVtSession"),
    (36, "UnsupportedObjectType"), (37, "ValueOutOfRange"), (38, "VtSessionAlreadyClosed"),
    (39, "VtSessionTerminationFailure"), (40, "WriteAccessDenied"),
    (41, "CharacterSetNotSupported"), (42, "InvalidArrayIndex"), (83, "CommunicationDisabled")]

def isProprietary (errorCode : ErrorCode) : Bool := 256 ≤ errorCode.number.toNat

def name (errorCode : ErrorCode) : String :=
  openName names errorCode.isProprietary errorCode.number.toNat

def passwordFailure : ErrorCode := ⟨26⟩

end ErrorCode

end BACnet
