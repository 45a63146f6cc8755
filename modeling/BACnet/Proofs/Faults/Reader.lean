import BACnet.Proofs.Bounds.Reader
import BACnet.Proofs.Data.Faults
import BACnet.Service.CommunicationControl
import BACnet.Service.IAm
import BACnet.Service.WhoIs

/-!
# Why service parameters are refused

The reader of service parameters blames the octets for every failure, too. That is closed under the
ways in which actions are put together (`Read.BlamesOctets`), so it is checked for the few actions
that touch the octets and carried to the check of the nesting and to the services.
-/

namespace BACnet

/-- What the action refuses is malformed, wherever the reader stands. -/
def Read.BlamesOctets {α : Type} (action : Read α) : Prop :=
  ∀ reader, Malformed (action.outcome reader)

namespace Read

namespace BlamesOctets

variable {α β : Type}

theorem pure (value : α) : BlamesOctets (pure value) := fun _ => .ok _

theorem throw {error : DataError} (blames : error.kind = .malformedPdu) :
    BlamesOctets (throw error : Read α) :=
  fun _ => .error blames

theorem bind {first : Read α} {second : α → Read β} (here : BlamesOctets first)
    (there : ∀ value, BlamesOctets (second value)) : BlamesOctets (first >>= second) := by
  intro reader
  rw [outcome_bind]
  exact .bind (here reader) fun (value, behind) _ => there value behind

theorem map {action : Read α} (blames : BlamesOctets action) (f : α → β) :
    BlamesOctets (f <$> action) := by
  rw [map_eq_pure_bind]
  exact blames.bind fun value => .pure (f value)

/-- An action that depends on where the reader stands. -/
theorem get {action : Reader → Read α} (each : ∀ reader, BlamesOctets (action reader)) :
    BlamesOctets (do action (← get)) :=
  fun reader => each reader reader

theorem ite {condition : Prop} [Decidable condition] {first second : Read α}
    (here : BlamesOctets first) (there : BlamesOctets second) :
    BlamesOctets (if condition then first else second) := by
  split
  · exact here
  · exact there

theorem step {f : Reader → Except DataError (α × Reader)} (blames : ∀ reader, Malformed (f reader)) :
    BlamesOctets (step f) := by
  intro reader
  rw [GuardedRead.outcome_step]
  exact blames reader

theorem lift {result : Except DataError α} (blames : Malformed result) :
    BlamesOctets (lift result) := by
  intro reader
  cases result with
  | error error => exact .error (blames error rfl)
  | ok value => exact .ok _

theorem run {action : Read α} (blames : BlamesOctets action) (data : Octets) :
    Malformed (action.run data) := by
  have result : action.run data = Prod.fst <$> action.outcome (Reader.ofOctets data) := by
    unfold Read.run Read.outcome
    cases action (Reader.ofOctets data) <;> rfl
  rw [result]
  exact .map (blames _) _

end BlamesOctets

/-! ## Actions that touch the octets -/

theorem blamesOctets_tag : BlamesOctets tag := by
  refine .step fun reader => .bind (Tag.malformed_decode _) fun (found, used) _ => ?_
  refine .bind ?_ fun _ _ => .ok _
  unfold Reader.openedAfter
  split
  · exact .ok _
  · exact .ite (.error rfl) (.ok _)
  · split
    · exact .error rfl
    · exact .ite (.ok _) (.error rfl)

theorem blamesOctets_content (length : Nat) : BlamesOctets (content length) := by
  refine .step fun reader => ?_
  unfold Reader.nextContent
  split
  · exact .ok _
  · exact .error rfl

theorem blamesOctets_finish : BlamesOctets finish := by
  refine .get fun reader => .lift ?_
  unfold Reader.finished
  split
  · exact .error rfl
  · exact .ite (.ok _) (.error rfl)

section

variable [TextCodec]

theorem blamesOctets_value : BlamesOctets value :=
  .step fun _ => .bind (Value.malformed_decode _) fun _ _ => .ok _

end

/-! ## Actions that are made of these -/

theorem blamesOctets_tagThat (test : Tag → Bool) (expected : Expectation) :
    BlamesOctets (tagThat test expected) :=
  blamesOctets_tag.bind fun found => .ite (.pure found) (.throw rfl)

theorem blamesOctets_openTag (number : UInt8) : BlamesOctets (openTag number) :=
  (blamesOctets_tagThat _ _).bind fun _ => .pure ()

theorem blamesOctets_closeTag (number : UInt8) : BlamesOctets (closeTag number) :=
  (blamesOctets_tagThat _ _).bind fun _ => .pure ()

theorem blamesOctets_contextContent (number : UInt8) : BlamesOctets (contextContent number) :=
  (blamesOctets_tagThat _ _).bind fun _ => blamesOctets_content _

theorem blamesOctets_contextUnsigned (number : UInt8) : BlamesOctets (contextUnsigned number) :=
  (blamesOctets_contextContent number).bind fun _ => .lift (.ite (.error rfl) (.ok _))

theorem blamesOctets_contextEnumerated (number : UInt8) :
    BlamesOctets (contextEnumerated number) :=
  (blamesOctets_contextContent number).bind fun _ => .lift (.ite (.error rfl) (.ok _))

theorem blamesOctets_optionalContextUnsigned (number : UInt8) :
    BlamesOctets (optionalContextUnsigned number) :=
  .get fun _ => .ite ((blamesOctets_contextUnsigned number).map some) (.pure none)

section

variable [TextCodec]

theorem blamesOctets_unsigned : BlamesOctets unsigned :=
  blamesOctets_value.bind fun value => by
    cases value with
    | unsigned number => exact .pure number
    | _ => exact .throw rfl

theorem blamesOctets_enumerated : BlamesOctets enumerated :=
  blamesOctets_value.bind fun value => by
    cases value with
    | enumerated number => exact .pure number
    | _ => exact .throw rfl

theorem blamesOctets_objectIdentifier : BlamesOctets objectIdentifier :=
  blamesOctets_value.bind fun value => by
    cases value with
    | objectIdentifier identifier => exact .pure identifier
    | _ => exact .throw rfl

theorem blamesOctets_contextCharacterString (number : UInt8) :
    BlamesOctets (contextCharacterString number) :=
  (blamesOctets_contextContent number).bind fun _ =>
    .lift (CharacterString.malformed_decodeContent _)

end

/-! ## The check of the nesting -/

theorem blamesOctets_tagWithContent : BlamesOctets tagWithContent :=
  blamesOctets_tag.bind fun found => by
    cases found.kind with
    | value length => exact (blamesOctets_content _).bind fun _ => .pure found
    | opening | closing => exact .pure found

theorem blamesOctets_skipTo (depth fuel : Nat) : BlamesOctets (skipTo depth fuel) := by
  induction fuel with
  | zero => exact .throw rfl
  | succ fuel ih =>
    refine .get fun reader => ?_
    split
    · exact .throw rfl
    · exact blamesOctets_tagWithContent.bind fun _ => .get fun _ =>
        .ite (.pure ()) (.ite (.throw rfl) ih)

theorem blamesOctets_skip : BlamesOctets skip := .get fun _ => blamesOctets_skipTo _ _

theorem blamesOctets_skipAll (fuel : Nat) : BlamesOctets (skipAll fuel) := by
  induction fuel with
  | zero => exact .pure ()
  | succ fuel ih => exact .get fun _ => .ite (.pure ()) (blamesOctets_skip.bind fun _ => ih)

end Read

open Read

theorem malformed_validateNesting (data : Octets) (maxDepth : Nat) :
    Malformed (validateNesting data maxDepth) := by
  have blames : BlamesOctets (do skipAll data.length; finish) :=
    (blamesOctets_skipAll data.length).bind fun _ => blamesOctets_finish
  have result : validateNesting data maxDepth =
      Prod.fst <$> Read.outcome (do skipAll data.length; finish) (Reader.new data maxDepth) := by
    unfold validateNesting Read.outcome
    cases (do skipAll data.length; finish : Read Unit) (Reader.new data maxDepth) <;> rfl
  rw [result]
  exact .map (blames _) _

/-! ## Services -/

theorem WhoIs.malformed_decode (data : Octets) : Malformed (WhoIs.decode data) := by
  have readsInstance (number : UInt8) : BlamesOctets (WhoIs.readInstance number) :=
    (blamesOctets_contextUnsigned number).bind fun _ => .ite (.pure _) (.throw rfl)
  refine BlamesOctets.run (.get fun _ => .ite (.pure _) ?_) data
  refine (readsInstance 0).bind fun _ => .get fun _ => ?_
  have goesOn (low : UInt32) : BlamesOctets (do
      let high ← WhoIs.readInstance 1
      Read.finish
      pure (WhoIs.range low high)) :=
    (readsInstance 1).bind fun _ => blamesOctets_finish.bind fun _ => .pure _
  exact .ite (.bind (.throw rfl) fun _ => goesOn _) (goesOn _)

variable [TextCodec]

theorem IAm.malformed_decode (data : Octets) : Malformed (IAm.decode data) := by
  have device : BlamesOctets IAm.readDevice :=
    blamesOctets_objectIdentifier.bind fun _ => .ite (.pure _) (.throw rfl)
  have narrow (bound : Nat) (fault : ParameterFault) : BlamesOctets (IAm.readNarrow bound fault) :=
    blamesOctets_unsigned.bind fun _ => .ite (.pure _) (.throw rfl)
  have segmentation (code : UInt32) : Malformed (Segmentation.ofCode code) := by
    unfold Segmentation.ofCode
    split <;> first | exact .ok _ | exact .error rfl
  exact BlamesOctets.run (device.bind fun _ => (narrow _ _).bind fun _ =>
    blamesOctets_enumerated.bind fun _ => .bind (.lift (segmentation _)) fun _ =>
      (narrow _ _).bind fun _ => blamesOctets_finish.bind fun _ => .pure _) data

theorem CommunicationControl.malformed_decode (data : Octets) :
    Malformed (CommunicationControl.decode data) := by
  have minutes : BlamesOctets CommunicationControl.readMinutes :=
    (blamesOctets_optionalContextUnsigned 0).bind fun minutes => by
      cases minutes with
      | none => exact .pure none
      | some value => exact .ite (.pure _) (.throw rfl)
  have state (code : UInt32) : Malformed (Communication.ofCode code) := by
    unfold Communication.ofCode
    split <;> first | exact .ok _ | exact .error rfl
  have password : BlamesOctets CommunicationControl.readPassword :=
    .get fun _ => .ite ((blamesOctets_contextCharacterString 2).map some) (.pure none)
  exact BlamesOctets.run (minutes.bind fun _ => (blamesOctets_contextEnumerated 1).bind fun _ =>
    .bind (.lift (state _)) fun _ => password.bind fun _ => blamesOctets_finish.bind fun _ =>
      .pure _) data

end BACnet
