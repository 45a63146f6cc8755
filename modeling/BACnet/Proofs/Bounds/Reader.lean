import BACnet.Data.Reader
import BACnet.Proofs.Bounds.Value

/-!
# Bounds of the reader

The reader of service parameters on a machine: it keeps all octets, and the index of the next one.
Every action of the reader is mirrored (`GuardedRead.Mirrors`), and so is what is made of them.
-/

namespace BACnet

/-- A reader that keeps all octets and the index of the next one. -/
structure IndexedReader where
  data : Octets
  position : Nat
  opened : List UInt8
  maxDepth : Nat
  deriving DecidableEq, Repr

/-- An action of such a reader. -/
abbrev GuardedRead := StateT IndexedReader (Guarded DataError)

namespace IndexedReader

/-- A reader at the head of the octets. -/
def new (data : Octets) (maxDepth : Nat) : IndexedReader := ⟨data, 0, [], maxDepth⟩

/-- The octets that are still to be read; none if the index is beyond the end. -/
def remaining (reader : IndexedReader) : Octets := reader.data.drop reader.position

/-- Whether everything has been read. -/
def isEmpty (reader : IndexedReader) : Bool := reader.data.length ≤ reader.position

/-- What a plain reader knows. -/
def view (reader : IndexedReader) : Reader :=
  ⟨reader.remaining, reader.position, reader.opened, reader.maxDepth⟩

/-- The index is not beyond the end, and a word holds it. -/
structure Within (reader : IndexedReader) : Prop where
  position : reader.position ≤ reader.data.length
  fits : reader.data.length ≤ maxCount

/-- Whether the next tag can be read and passes a test. -/
def nextIs (reader : IndexedReader) (test : Tag → Bool) : Guarded DataError Bool :=
  if reader.isEmpty then pure false
  else tryCatch (do pure (test (← Guarded.decodeTag reader.remaining).1)) fun _ => pure false

variable {reader : IndexedReader}

theorem within_new {data : Octets} (fits : data.length ≤ maxCount) (maxDepth : Nat) :
    (new data maxDepth).Within :=
  ⟨Nat.zero_le _, fits⟩

theorem Within.remaining_fits (within : reader.Within) : reader.remaining.length ≤ maxCount := by
  rw [remaining, List.length_drop]
  exact Nat.le_trans (Nat.sub_le _ _) within.fits

theorem isEmpty_view : reader.view.isEmpty = reader.isEmpty := by
  unfold Reader.isEmpty isEmpty view remaining
  by_cases done : reader.data.length ≤ reader.position
  · rw [List.drop_of_length_le done, decide_eq_true done]
    rfl
  · rw [decide_eq_false done]
    have some : reader.data.drop reader.position ≠ [] := by
      rw [ne_eq, List.drop_eq_nil_iff]
      exact done
    simp [some]

theorem nextIs_eq (within : reader.Within) (test : Tag → Bool) :
    reader.nextIs test = pure (reader.view.nextIs test) := by
  rw [nextIs, Reader.nextIs, Reader.peek, isEmpty_view,
    Guarded.decodeTag_eq within.remaining_fits]
  split
  · rfl
  · rw [show reader.view.rest = reader.remaining from rfl]
    cases Tag.decode reader.remaining <;> rfl

end IndexedReader

open IndexedReader (view Within)

/-! ## Actions and what they see -/

/-- What an action of the plain reader comes to. -/
def Read.outcome {α : Type} (action : Read α) (reader : Reader) :
    Except DataError (α × Reader) :=
  match action reader with
  | .ok result behind => .ok (result, behind)
  | .error error _ => .error error

theorem Read.outcome_bind {α β : Type} (first : Read α) (second : α → Read β) :
    (first >>= second).outcome =
      fun reader => first.outcome reader >>= fun (result, behind) =>
        (second result).outcome behind := by
  funext reader
  show (match EStateM.bind first second reader with
    | .ok result behind => Except.ok (result, behind)
    | .error error _ => .error error) = _
  unfold EStateM.bind Read.outcome
  cases first reader <;> rfl

namespace GuardedRead

variable {α β : Type}

/-- The guarded action does what the plain one does. -/
def Mirrors (guarded : GuardedRead α) (action : Read α) : Prop :=
  Guarded.Mirrors view Within guarded action.outcome

theorem Mirrors.pure (result : α) : Mirrors (pure result) (pure result) :=
  Guarded.Mirrors.pure result

theorem Mirrors.throw (error : DataError) : Mirrors (throw error : GuardedRead α) (throw error) :=
  Guarded.Mirrors.throw error

theorem Mirrors.bind {first : GuardedRead α} {plain : Read α} (mirrors : Mirrors first plain)
    {second : α → GuardedRead β} {next : α → Read β}
    (goesOn : ∀ result, Mirrors (second result) (next result)) :
    Mirrors (first >>= second) (plain >>= next) := by
  unfold Mirrors
  rw [Read.outcome_bind]
  exact Guarded.Mirrors.bind mirrors goesOn

theorem Mirrors.map {first : GuardedRead α} {plain : Read α} (mirrors : Mirrors first plain)
    (f : α → β) : Mirrors (f <$> first) (f <$> plain) := by
  rw [map_eq_pure_bind, map_eq_pure_bind]
  exact mirrors.bind fun result => .pure (f result)

/-- An action that depends on where the reader stands. -/
theorem Mirrors.get {guarded : IndexedReader → GuardedRead α} {action : Reader → Read α}
    (each : ∀ reader, reader.Within → Mirrors (guarded reader) (action reader.view)) :
    Mirrors (do guarded (← get)) (do action (← get)) :=
  fun reader within => each reader within reader within

theorem Mirrors.ite {guarded other : GuardedRead α} {action another : Read α} (c : Prop)
    [Decidable c] (holds : c → Mirrors guarded action) (fails : ¬ c → Mirrors other another) :
    Mirrors (if c then guarded else other) (if c then action else another) := by
  by_cases known : c
  · rw [if_pos known, if_pos known]
    exact holds known
  · rw [if_neg known, if_neg known]
    exact fails known

/-- A result that does not depend on the reader. -/
def lift (result : Except DataError α) : GuardedRead α := StateT.lift (Guarded.of result)

theorem Mirrors.lift (result : Except DataError α) :
    Mirrors (GuardedRead.lift result) (Read.lift result) := by
  intro reader within
  cases result with
  | error error => rfl
  | ok result => exact ⟨reader, rfl, rfl, within⟩

/-! ## Steps of the reader -/

/-- Moves the index on. -/
def advance (count : Nat) : GuardedRead Unit := do
  let reader ← get
  set { reader with position := ← StateT.lift (Guarded.plus reader.position count) }

/-- Reads a tag. -/
def tag : GuardedRead Tag := do
  let reader ← get
  let (found, consumed) ← StateT.lift (Guarded.decodeTag reader.remaining)
  let opened ← lift (Reader.openedAfter reader.opened reader.maxDepth found)
  set { reader with opened }
  advance consumed
  pure found

/-- Reads `length` octets. -/
def content (length : Nat) : GuardedRead Octets := do
  let reader ← get
  let octets ← StateT.lift (Guarded.content reader.data reader.position length)
  advance length
  pure octets

/-- Reads an element of which a decoder makes a value. -/
def element (decode : Octets → Guarded DataError (α × Nat)) : GuardedRead α := do
  let reader ← get
  let (value, consumed) ← StateT.lift (decode reader.remaining)
  advance consumed
  pure value

/-- Checks that everything has been read and every constructed value is closed. -/
def finish : GuardedRead Unit := do
  let reader ← get
  match reader.opened with
  | number :: _ => throw (.unbalancedTags (.neverClosed number))
  | [] =>
    if reader.isEmpty then pure ()
    else
      let count ← StateT.lift (Guarded.minus reader.data.length reader.position)
      throw (.invalidFormat (.trailing count))

theorem run_advance (reader : IndexedReader) (within : reader.Within) {count : Nat}
    (there : count ≤ reader.remaining.length) :
    (advance count).run reader = pure ((), { reader with position := reader.position + count }) ∧
      IndexedReader.Within { reader with position := reader.position + count } := by
  rw [IndexedReader.remaining, List.length_drop] at there
  have fits := within.fits
  have before := within.position
  refine ⟨?_, ⟨by dsimp only; omega, fits⟩⟩
  simp only [advance, StateT.run_bind, StateT.run_get, pure_bind, StateT.run_lift]
  rw [Guarded.plus_of_le (by omega)]
  rfl

theorem view_advance (reader : IndexedReader) (count : Nat) :
    view { reader with position := reader.position + count } = reader.view.advance count := by
  unfold IndexedReader.view Reader.advance IndexedReader.remaining
  rw [List.drop_drop]

theorem outcome_step (f : Reader → Except DataError (α × Reader)) :
    (Read.step f).outcome = f := by
  funext reader
  unfold Read.outcome Read.step
  cases f reader <;> rfl

theorem mirrors_tag : Mirrors tag Read.tag := by
  intro reader within
  rw [Read.tag, outcome_step, Reader.next]
  have unfolded : tag.run reader = (do
      let (found, consumed) ← Guarded.decodeTag reader.remaining
      let opened ← Guarded.of (Reader.openedAfter reader.opened reader.maxDepth found)
      let ((), last) ← (advance consumed).run { reader with opened }
      pure (found, last)) := by
    simp only [tag, lift, StateT.run_bind, StateT.run_get, pure_bind, StateT.run_lift, bind_assoc]
    rfl
  rw [unfolded, Guarded.decodeTag_eq within.remaining_fits]
  show Guarded.Agrees view Within _ (Tag.decode reader.remaining >>= _)
  cases decoded : Tag.decode reader.remaining with
  | error error => rfl
  | ok result =>
    obtain ⟨found, consumed⟩ := result
    obtain ⟨-, there⟩ := Guarded.used_of_decodeTag decoded
    rw [Guarded.of_ok, pure_bind]
    show Guarded.Agrees view Within
      (Guarded.of (Reader.openedAfter reader.opened reader.maxDepth found) >>= _)
      (Reader.openedAfter reader.opened reader.maxDepth found >>= _)
    cases Reader.openedAfter reader.opened reader.maxDepth found with
    | error error => rfl
    | ok opened =>
      obtain ⟨runs, last⟩ := run_advance { reader with opened }
        ⟨within.position, within.fits⟩ there
      rw [Guarded.of_ok, pure_bind, runs]
      exact ⟨_, rfl, view_advance { reader with opened } consumed, last⟩

theorem mirrors_content (length : Nat) : Mirrors (content length) (Read.content length) := by
  intro reader within
  rw [Read.content, outcome_step, Reader.nextContent]
  have unfolded : (content length).run reader = (do
      let octets ← Guarded.content reader.data reader.position length
      let ((), last) ← (advance length).run reader
      pure (octets, last)) := by
    simp only [content, StateT.run_bind, StateT.run_get, pure_bind, StateT.run_lift, bind_assoc]
    rfl
  have whole : reader.view.position + reader.remaining.length = reader.data.length := by
    rw [IndexedReader.remaining, List.length_drop]
    exact Nat.add_sub_cancel' within.position
  rw [unfolded, Guarded.content_eq within.fits within.position, BACnet.content]
  rw [← IndexedReader.remaining, show reader.view.rest = reader.remaining from rfl]
  cases takes : Octets.take? length reader.remaining with
  | none =>
    rw [whole]
    rfl
  | some octets =>
    obtain ⟨runs, last⟩ := run_advance reader within (Octets.le_length_of_take? takes)
    rw [Guarded.of_ok, pure_bind, runs]
    exact ⟨_, rfl, view_advance reader length, last⟩

theorem mirrors_element {decode : Octets → Guarded DataError (α × Nat)}
    {plain : Octets → Except DataError (α × Nat)}
    (same : ∀ data, data.length ≤ maxCount → decode data = Guarded.of (plain data))
    (consumes : ∀ data value used, plain data = .ok (value, used) → used ≤ data.length) :
    Mirrors (element decode) (Read.element plain) := by
  intro reader within
  rw [Read.element, outcome_step]
  have unfolded : (element decode).run reader = (do
      let (value, consumed) ← decode reader.remaining
      let ((), last) ← (advance consumed).run reader
      pure (value, last)) := by
    simp only [element, StateT.run_bind, StateT.run_get, pure_bind, StateT.run_lift, bind_assoc]
    rfl
  rw [unfolded, same _ within.remaining_fits]
  show Guarded.Agrees view Within _ (plain reader.remaining >>= _)
  cases decoded : plain reader.remaining with
  | error error => rfl
  | ok result =>
    obtain ⟨value, consumed⟩ := result
    obtain ⟨runs, last⟩ := run_advance reader within (consumes _ _ _ decoded)
    rw [Guarded.of_ok, pure_bind]
    dsimp only
    rw [runs]
    exact ⟨_, rfl, view_advance reader consumed, last⟩

theorem mirrors_finish : Mirrors finish Read.finish := by
  intro reader within
  obtain ⟨data, position, opened, maxDepth⟩ := reader
  cases opened with
  | cons number outer => rfl
  | nil =>
    have whole : (data.drop position).length = data.length - position := List.length_drop
    show Guarded.Agrees view Within
      ((if (IndexedReader.mk data position [] maxDepth).isEmpty then pure ()
        else StateT.lift (Guarded.minus data.length position) >>= _ : GuardedRead Unit).run _)
      ((Read.lift (if Reader.isEmpty _ then .ok ()
        else .error (.invalidFormat (.trailing (data.drop position).length)))).outcome _)
    rw [← IndexedReader.isEmpty_view, whole, Guarded.minus_of_le within.position]
    split
    · exact ⟨_, rfl, rfl, within⟩
    · rfl

/-! ## Actions that are made of these -/

/-- Reads a tag that passes a test. -/
def tagThat (test : Tag → Bool) (expected : Expectation) : GuardedRead Tag := do
  let found ← tag
  if test found then pure found else throw (.unexpectedTag expected (.tag found))

/-- Reads the tag that opens a constructed value with this number. -/
def openTag (number : UInt8) : GuardedRead Unit := do
  let _ ← tagThat (·.isOpening number) (.opening number)

/-- Reads the tag that closes a constructed value with this number. -/
def closeTag (number : UInt8) : GuardedRead Unit := do
  let _ ← tagThat (·.isClosing number) (.closing number)

/-- Reads a context-tagged primitive element down to its content octets. -/
def contextContent (number : UInt8) : GuardedRead Octets := do
  let found ← tagThat (·.isContext number) (.context number)
  content found.contentLength

/-- Reads a context-tagged unsigned integer. -/
def contextUnsigned (number : UInt8) : GuardedRead UInt64 := do
  lift (decodeUnsignedContent (← contextContent number))

/-- Reads a context-tagged enumerated value. -/
def contextEnumerated (number : UInt8) : GuardedRead UInt32 := do
  lift (decodeEnumeratedContent (← contextContent number))

/-- An action that depends on whether the next tag passes a test. -/
def ifNextIs (test : Tag → Bool) (passes fails : GuardedRead α) : GuardedRead α := do
  if ← StateT.lift ((← get).nextIs test) then passes else fails

theorem mirrors_tagThat (test : Tag → Bool) (expected : Expectation) :
    Mirrors (tagThat test expected) (Read.tagThat test expected) :=
  mirrors_tag.bind fun found => .ite _ (fun _ => .pure found) fun _ => .throw _

theorem mirrors_openTag (number : UInt8) : Mirrors (openTag number) (Read.openTag number) :=
  (mirrors_tagThat _ _).bind fun _ => .pure ()

theorem mirrors_closeTag (number : UInt8) : Mirrors (closeTag number) (Read.closeTag number) :=
  (mirrors_tagThat _ _).bind fun _ => .pure ()

theorem mirrors_contextContent (number : UInt8) :
    Mirrors (contextContent number) (Read.contextContent number) :=
  (mirrors_tagThat _ _).bind fun _ => mirrors_content _

theorem mirrors_contextUnsigned (number : UInt8) :
    Mirrors (contextUnsigned number) (Read.contextUnsigned number) :=
  (mirrors_contextContent number).bind fun _ => .lift _

theorem mirrors_contextEnumerated (number : UInt8) :
    Mirrors (contextEnumerated number) (Read.contextEnumerated number) :=
  (mirrors_contextContent number).bind fun _ => .lift _

theorem mirrors_ifNextIs (test : Tag → Bool) {passes fails : GuardedRead α}
    {passes' fails' : Read α} (yes : Mirrors passes passes') (no : Mirrors fails fails') :
    Mirrors (ifNextIs test passes fails)
      (do if (← get).nextIs test then passes' else fails') := by
  refine .get fun reader within => ?_
  rw [IndexedReader.nextIs_eq within]
  exact .ite _ (fun _ => yes) fun _ => no

section

variable [TextCodec]

/-- Reads an application-tagged value. -/
def value : GuardedRead Value := element Guarded.decodeValue

/-- Reads an application-tagged unsigned integer. -/
def unsigned : GuardedRead UInt64 := do
  match ← value with
  | .unsigned number => pure number
  | other => throw (.unexpectedTag .unsigned (.dataType other.dataType))

/-- Reads an application-tagged enumerated value. -/
def enumerated : GuardedRead UInt32 := do
  match ← value with
  | .enumerated number => pure number
  | other => throw (.unexpectedTag .enumerated (.dataType other.dataType))

/-- Reads an application-tagged object identifier. -/
def objectIdentifier : GuardedRead ObjectIdentifier := do
  match ← value with
  | .objectIdentifier identifier => pure identifier
  | other => throw (.unexpectedTag .objectIdentifier (.dataType other.dataType))

/-- Reads a context-tagged character string. -/
def contextCharacterString (number : UInt8) : GuardedRead CharacterString := do
  StateT.lift (Guarded.decodeCharacterString (← contextContent number))

theorem mirrors_value : Mirrors value Read.value :=
  mirrors_element (fun _ fits => Guarded.decodeValue_eq fits) fun _ _ _ reads =>
    (Value.used_of_decode reads).2

theorem mirrors_unsigned : Mirrors unsigned Read.unsigned :=
  mirrors_value.bind fun value => by
    cases value with
    | unsigned number => exact .pure number
    | _ => exact .throw _

theorem mirrors_enumerated : Mirrors enumerated Read.enumerated :=
  mirrors_value.bind fun value => by
    cases value with
    | enumerated number => exact .pure number
    | _ => exact .throw _

theorem mirrors_objectIdentifier : Mirrors objectIdentifier Read.objectIdentifier :=
  mirrors_value.bind fun value => by
    cases value with
    | objectIdentifier identifier => exact .pure identifier
    | _ => exact .throw _

theorem mirrors_contextCharacterString (number : UInt8) :
    Mirrors (contextCharacterString number) (Read.contextCharacterString number) :=
  (mirrors_contextContent number).bind fun content => by
    rw [Guarded.decodeCharacterString_eq]
    exact .lift _

end

/-! ## The check of the nesting -/

/-- Reads a tag and the content of a primitive element. -/
def tagWithContent : GuardedRead Tag := do
  let found ← tag
  match found.kind with
  | .value _ => let _ ← content found.contentLength
  | .opening | .closing => pure ()
  pure found

/-- Reads tags until as many constructed values are open as at the start. -/
def skipTo (depth : Nat) : Nat → GuardedRead Unit
  | 0 => throw (.unexpectedEndOfData 1 0)
  | fuel + 1 => do
    let reader ← get
    match reader.isEmpty, reader.opened with
    | true, number :: _ => throw (.unbalancedTags (.neverClosed number))
    | _, _ =>
      let found ← tagWithContent
      let reached := (← get).opened.length
      if reached = depth then pure ()
      else if reached < depth then throw (.unbalancedTags (.endsEnclosing found.number))
      else skipTo depth fuel

/-- Skips an element. -/
def skip : GuardedRead Unit := do
  let reader ← get
  skipTo reader.opened.length (reader.remaining.length + 1)

/-- Skips elements up to the end of the octets. -/
def skipAll : Nat → GuardedRead Unit
  | 0 => pure ()
  | fuel + 1 => do
    if (← get).isEmpty then pure ()
    else
      skip
      skipAll fuel

theorem mirrors_tagWithContent : Mirrors tagWithContent Read.tagWithContent :=
  mirrors_tag.bind fun found => by
    cases found.kind with
    | value length => exact (mirrors_content _).bind fun _ => .pure found
    | opening | closing => exact .pure found

theorem mirrors_skipTo (depth fuel : Nat) :
    Mirrors (skipTo depth fuel) (Read.skipTo depth fuel) := by
  induction fuel with
  | zero => exact .throw _
  | succ fuel ih =>
    have goesOn : Mirrors
        (tagWithContent >>= fun found => do
          let reached := (← get).opened.length
          if reached = depth then pure ()
          else if reached < depth then throw (.unbalancedTags (.endsEnclosing found.number))
          else skipTo depth fuel)
        (Read.tagWithContent >>= fun found => do
          let reached := (← get).depth
          if reached = depth then pure ()
          else if reached < depth then throw (.unbalancedTags (.endsEnclosing found.number))
          else Read.skipTo depth fuel) :=
      mirrors_tagWithContent.bind fun found => .get fun reader _ =>
        .ite _ (fun _ => .pure ()) fun _ => .ite _ (fun _ => .throw _) fun _ => ih
    refine .get fun reader within => ?_
    rw [IndexedReader.isEmpty_view]
    show Mirrors _ (match reader.isEmpty, reader.opened with
      | true, number :: _ => _
      | _, _ => _)
    cases reader.isEmpty with
    | false => exact goesOn
    | true =>
      cases reader.opened with
      | nil => exact goesOn
      | cons number outer => exact .throw _

theorem mirrors_skip : Mirrors skip Read.skip :=
  .get fun reader _ => mirrors_skipTo reader.opened.length (reader.remaining.length + 1)

theorem mirrors_skipAll (fuel : Nat) : Mirrors (skipAll fuel) (Read.skipAll fuel) := by
  induction fuel with
  | zero => exact .pure ()
  | succ fuel ih =>
    refine .get fun reader within => ?_
    rw [IndexedReader.isEmpty_view]
    exact .ite _ (fun _ => .pure ()) fun _ => mirrors_skip.bind fun _ => ih

/-! ## Whole messages -/

/-- What an action makes of the octets. -/
def decode (action : GuardedRead α) (data : Octets) (maxDepth : Nat) : Guarded DataError α :=
  Prod.fst <$> action.run (IndexedReader.new data maxDepth)

/-- What the plain action makes of the octets. -/
theorem decode_eq {guarded : GuardedRead α} {action : Read α} (mirrors : Mirrors guarded action)
    {data : Octets} (fits : data.length ≤ maxCount) (maxDepth : Nat) :
    decode guarded data maxDepth =
      Guarded.of (Prod.fst <$> action.outcome (Reader.new data maxDepth)) :=
  Guarded.Mirrors.yields mirrors _ (IndexedReader.within_new fits maxDepth)

/-- Checks that the tags of the octets pair up and are nested at most `maxDepth` deep. -/
def validateNesting (data : Octets) (maxDepth : Nat) : Guarded DataError Unit :=
  decode (do skipAll data.length; finish) data maxDepth

theorem validateNesting_eq {data : Octets} (fits : data.length ≤ maxCount) (maxDepth : Nat) :
    validateNesting data maxDepth = Guarded.of (BACnet.validateNesting data maxDepth) := by
  rw [validateNesting, decode_eq ((mirrors_skipAll data.length).bind fun _ => mirrors_finish) fits]
  unfold Read.outcome BACnet.validateNesting
  cases (do Read.skipAll data.length; Read.finish : Read Unit) (Reader.new data maxDepth) <;> rfl

/-- What an action makes of the parameters of a service. -/
theorem decode_eq_run {guarded : GuardedRead α} {action : Read α} (mirrors : Mirrors guarded action)
    {data : Octets} (fits : data.length ≤ maxCount) :
    decode guarded data Reader.defaultMaxDepth = Guarded.of (action.run data) := by
  rw [decode_eq mirrors fits]
  unfold Read.outcome Read.run
  change Guarded.of (Prod.fst <$> match action (Reader.ofOctets data) with
    | .ok result behind => .ok (result, behind)
    | .error error _ => .error error) = _
  cases action (Reader.ofOctets data) <;> rfl

end GuardedRead

end BACnet
