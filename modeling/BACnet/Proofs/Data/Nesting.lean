import BACnet.Data.Reader
import BACnet.Proofs.Data.Header

/-!
# Nesting

The check of the nesting accepts a list of octets if and only if it consists of elements
(`Element`, `validateNesting_decides`).

Two loops read one tag after the other (`Scan`), and a bound on the number of turns, which keeps the
check structural, is never reached (`scan_skipTo`, `scan_skipAll`). The loops end well if and only
if the reader gets to the end of the octets with no value open (`Scan.eq_ok_iff`). By induction on
the tags that it reads, the octets then close what is open (`Passes.closes`); by induction on the
elements, it gets over each of them (`before_element`).
-/

namespace BACnet

/-- The octets are one element, whose constructed values are nested at most `depth` deep: a
primitive element with its content, or elements between an opening tag and a closing tag of the same
number. -/
inductive Element : Nat → Octets → Prop where
  | primitive {depth : Nat} {tag : Tag} {length : Nat} {head content : Octets}
      (reads : Tag.decode head = .ok (tag, head.length)) (value : tag.kind = .value length)
      (whole : content.length = tag.contentLength) : Element depth (head ++ content)
  | constructed {depth : Nat} {number : UInt8} {first last : Octets} {parts : List Octets}
      (opens : Tag.decode first = .ok (.opening number, first.length))
      (inside : ∀ part ∈ parts, Element depth part)
      (closes : Tag.decode last = .ok (.closing number, last.length)) :
      Element (depth + 1) (first ++ (parts.flatten ++ last))

/-- The octets are elements, one behind the other, nested at most `depth` deep. -/
def Nested (depth : Nat) (data : Octets) : Prop :=
  ∃ elements : List Octets, (∀ element ∈ elements, Element depth element) ∧ elements.flatten = data

/-- An element begins with a tag that closes nothing. -/
theorem Element.exists_head {depth : Nat} {element : Octets} (spells : Element depth element) :
    ∃ head tag behind, element = head ++ behind ∧ Tag.decode head = .ok (tag, head.length) ∧
      ∀ number, tag.isClosing number = false := by
  cases spells with
  | @primitive _ tag length head content reads value whole =>
    refine ⟨head, tag, content, rfl, reads, fun number => ?_⟩
    rw [Tag.isClosing, value]
    rfl
  | @constructed _ number first last parts opens inside closes =>
    exact ⟨first, .opening number, parts.flatten ++ last, rfl, opens, fun number => rfl⟩

theorem Element.length_pos {depth : Nat} {element : Octets} (spells : Element depth element) :
    0 < element.length := by
  obtain ⟨head, tag, behind, rfl, reads, -⟩ := spells.exists_head
  cases head with
  | nil => cases reads
  | cons first others => exact Nat.succ_pos _

open Reader Read

/-! ## Reading a tag and its content -/

theorem next_eq_ok_iff {reader behind : Reader} {tag : Tag} :
    reader.next = .ok (tag, behind) ↔
      ∃ head rest opened, reader.rest = head ++ rest ∧ Tag.decode head = .ok (tag, head.length) ∧
        openedAfter reader.opened reader.maxDepth tag = .ok opened ∧
        behind = ⟨rest, reader.position + head.length, opened, reader.maxDepth⟩ := by
  constructor
  · intro reads
    obtain ⟨⟨found, used⟩, decoded, reads⟩ := exists_of_bind_eq_ok reads
    obtain ⟨opened, opens, reads⟩ := exists_of_bind_eq_ok reads
    cases reads
    obtain ⟨head, rest, whole, rfl, -, decides⟩ := Tag.exists_front_of_decode decoded
    refine ⟨head, rest, opened, whole, ?_, opens, ?_⟩
    · rw [← decides [], List.append_nil]
    · rw [advance, whole, List.drop_left]
  · rintro ⟨head, rest, opened, whole, decoded, opens, rfl⟩
    rw [next, whole, Tag.decode_append_of_decode decoded]
    simp only [bind, Except.bind]
    rw [opens]
    simp only [advance, whole, List.drop_left]

theorem nextContent_eq_ok_iff {reader behind : Reader} {length : Nat} {content : Octets} :
    reader.nextContent length = .ok (content, behind) ↔
      ∃ rest, reader.rest = content ++ rest ∧ content.length = length ∧
        behind = ⟨rest, reader.position + length, reader.opened, reader.maxDepth⟩ := by
  unfold nextContent
  constructor
  · intro reads
    split at reads
    · next octets takes =>
      cases reads
      obtain ⟨size, whole⟩ := Octets.append_of_take? takes
      exact ⟨_, whole, size, rfl⟩
    · cases reads
  · rintro ⟨rest, whole, rfl, rfl⟩
    rw [whole, Octets.take?_append]
    simp only [advance, whole, List.drop_left]

theorem nextContent_zero (reader : Reader) : reader.nextContent 0 = .ok ([], reader) := rfl

/-- The action in terms of its two steps. -/
theorem tagWithContent_eq (reader : Reader) :
    tagWithContent reader =
      match reader.next with
      | .error error => .error error reader
      | .ok (found, behind) =>
        match found.kind with
        | .value _ =>
          match behind.nextContent found.contentLength with
          | .error error => .error error behind
          | .ok (_, last) => .ok found last
        | .opening | .closing => .ok found behind := by
  show EStateM.bind Read.tag _ reader = _
  unfold EStateM.bind Read.tag step
  cases reader.next with
  | error error => rfl
  | ok result =>
    obtain ⟨found, behind⟩ := result
    dsimp only
    cases found.kind with
    | value length =>
      show EStateM.bind (Read.content found.contentLength) _ behind = _
      unfold EStateM.bind Read.content step
      dsimp only
      cases behind.nextContent found.contentLength <;> rfl
    | opening | closing => rfl

/-- What stands behind an opening or a closing tag is a content of no octets. -/
theorem tagWithContent_eq_ok_iff_next {reader last : Reader} {tag : Tag} :
    tagWithContent reader = .ok tag last ↔ ∃ behind, reader.next = .ok (tag, behind) ∧
      ∃ content, behind.nextContent tag.contentLength = .ok (content, last) := by
  rw [tagWithContent_eq]
  cases reader.next with
  | error error => exact ⟨nofun, nofun⟩
  | ok result =>
    obtain ⟨found, behind⟩ := result
    constructor
    · intro reads
      dsimp only at reads
      split at reads
      · split at reads
        · cases reads
        · next content taken =>
          cases reads
          exact ⟨behind, rfl, _, taken⟩
      all_goals
        next bracket =>
          cases reads
          refine ⟨_, rfl, [], ?_⟩
          rw [Tag.contentLength, bracket]
          exact nextContent_zero _
    · rintro ⟨_, same, content, taken⟩
      cases same
      dsimp only
      split
      · rw [taken]
      all_goals
        next bracket =>
          rw [Tag.contentLength, bracket] at taken
          cases taken
          rfl

/-- A tag and its content are read if both are there, and if the tag fits the open values. -/
theorem tagWithContent_eq_ok_iff {reader behind : Reader} {tag : Tag} :
    tagWithContent reader = .ok tag behind ↔
      ∃ head content rest opened, reader.rest = head ++ (content ++ rest) ∧
        Tag.decode head = .ok (tag, head.length) ∧ content.length = tag.contentLength ∧
        openedAfter reader.opened reader.maxDepth tag = .ok opened ∧
        behind = ⟨rest, reader.position + head.length + content.length, opened,
          reader.maxDepth⟩ := by
  rw [tagWithContent_eq_ok_iff_next]
  constructor
  · rintro ⟨middle, reads, content, taken⟩
    obtain ⟨head, rest, opened, whole, decoded, opens, rfl⟩ := next_eq_ok_iff.mp reads
    obtain ⟨rest, rfl, size, rfl⟩ := nextContent_eq_ok_iff.mp taken
    exact ⟨head, content, rest, opened, whole, decoded, size, opens, by rw [size]⟩
  · rintro ⟨head, content, rest, opened, whole, decoded, size, opens, rfl⟩
    refine ⟨_, next_eq_ok_iff.mpr ⟨head, _, opened, whole, decoded, opens, rfl⟩, content, ?_⟩
    exact nextContent_eq_ok_iff.mpr ⟨rest, rfl, size, by rw [size]⟩

/-! ## Brackets -/

namespace Tag

variable {tag : Tag} {data : Octets} {used : Nat}

theorem contentLength_of_opening (opening : tag.kind = .opening) : tag.contentLength = 0 := by
  rw [contentLength, opening]

theorem contentLength_of_closing (closing : tag.kind = .closing) : tag.contentLength = 0 := by
  rw [contentLength, closing]

theorem eq_opening_of_decode (reads : decode data = .ok (tag, used))
    (opening : tag.kind = .opening) : tag = .opening tag.number := by
  have context := tagClass_of_decode reads fun length value => nomatch opening.symm.trans value
  rw [Tag.opening, ← context, ← opening]

theorem eq_closing_of_decode (reads : decode data = .ok (tag, used))
    (closing : tag.kind = .closing) : tag = .closing tag.number := by
  have context := tagClass_of_decode reads fun length value => nomatch closing.symm.trans value
  rw [Tag.closing, ← context, ← closing]

end Tag

variable {maxDepth : Nat} {opened : List UInt8}

theorem openedAfter_of_value {tag : Tag} {length : Nat} (value : tag.kind = .value length) :
    openedAfter opened maxDepth tag = .ok opened := by
  unfold openedAfter
  rw [value]

theorem openedAfter_opening_eq_ok_iff {number : UInt8} {left : List UInt8} :
    openedAfter opened maxDepth (.opening number) = .ok left ↔
      opened.length < maxDepth ∧ left = number :: opened := by
  show (if maxDepth ≤ opened.length then _ else Except.ok (number :: opened)) = _ ↔ _
  by_cases full : maxDepth ≤ opened.length
  · rw [if_pos full]
    exact ⟨nofun, fun room => absurd room.1 (Nat.not_lt_of_le full)⟩
  · rw [if_neg full, Except.ok.injEq]
    exact ⟨fun same => ⟨Nat.lt_of_not_le full, same.symm⟩, fun same => same.2.symm⟩

theorem openedAfter_closing_eq_ok_iff {number : UInt8} {left : List UInt8} :
    openedAfter opened maxDepth (.closing number) = .ok left ↔ opened = number :: left := by
  cases opened with
  | nil => exact ⟨nofun, nofun⟩
  | cons innermost outer =>
    show (if innermost = number then Except.ok outer else _) = _ ↔ _
    rw [List.cons.injEq]
    by_cases same : innermost = number
    · rw [if_pos same, Except.ok.injEq]
      exact ⟨fun left => ⟨same, left⟩, fun left => left.2⟩
    · rw [if_neg same]
      exact ⟨nofun, fun left => absurd left.1 same⟩

theorem openedAfter_opening {number : UInt8} (room : opened.length < maxDepth) :
    openedAfter opened maxDepth (.opening number) = .ok (number :: opened) :=
  openedAfter_opening_eq_ok_iff.mpr ⟨room, rfl⟩

theorem openedAfter_closing {number : UInt8} :
    openedAfter (number :: opened) maxDepth (.closing number) = .ok opened :=
  openedAfter_closing_eq_ok_iff.mpr rfl

/-! ## Readers that get to the end -/

/-- The reader gets to the end of the octets, with no constructed value open there. -/
inductive Passes : Reader → Prop where
  | finished {reader : Reader} (empty : reader.rest = []) (closed : reader.opened = []) :
      Passes reader
  | read {reader behind : Reader} {tag : Tag} (reads : tagWithContent reader = .ok tag behind)
      (passes : Passes behind) : Passes reader

/-- The octets close the open values, the innermost first, with elements before each closing tag and
behind the last. -/
def Closes (maxDepth : Nat) : List UInt8 → Octets → Prop
  | [], octets => Nested maxDepth octets
  | number :: outer, octets =>
    ∃ inside last behind, octets = inside ++ (last ++ behind) ∧
      Nested (maxDepth - (outer.length + 1)) inside ∧
      Tag.decode last = .ok (.closing number, last.length) ∧ Closes maxDepth outer behind

theorem nested_nil {depth : Nat} : Nested depth [] := ⟨[], nofun, rfl⟩

theorem Nested.cons {depth : Nat} {first others : Octets} (element : Element depth first)
    (nested : Nested depth others) : Nested depth (first ++ others) := by
  obtain ⟨elements, each, rfl⟩ := nested
  exact ⟨first :: elements, List.forall_mem_cons.mpr ⟨element, each⟩, rfl⟩

theorem Nested.append {depth : Nat} {first others : Octets} (nested : Nested depth first)
    (more : Nested depth others) : Nested depth (first ++ others) := by
  obtain ⟨elements, each, rfl⟩ := nested
  obtain ⟨behind, eachBehind, rfl⟩ := more
  exact ⟨elements ++ behind, List.forall_mem_append.mpr ⟨each, eachBehind⟩, List.flatten_append⟩

theorem Closes.cons {first others : Octets} (element : Element (maxDepth - opened.length) first)
    (closes : Closes maxDepth opened others) : Closes maxDepth opened (first ++ others) := by
  cases opened with
  | nil => exact Nested.cons element closes
  | cons number outer =>
    obtain ⟨inside, last, behind, rfl, nested, closing, closes⟩ := closes
    exact ⟨first ++ inside, last, behind, (List.append_assoc _ _ _).symm, nested.cons element,
      closing, closes⟩

/-- A tag and its content stand before octets that close the values that are open behind them. -/
theorem Closes.read {left : List UInt8} {tag : Tag} {head content rest : Octets}
    (decoded : Tag.decode head = .ok (tag, head.length))
    (size : content.length = tag.contentLength)
    (opens : openedAfter opened maxDepth tag = .ok left) (closes : Closes maxDepth left rest) :
    Closes maxDepth opened (head ++ (content ++ rest)) := by
  unfold openedAfter at opens
  split at opens
  · next length value =>
    cases opens
    rw [← List.append_assoc]
    exact closes.cons (.primitive decoded value size)
  · next opening =>
    split at opens
    · cases opens
    · next room =>
      cases opens
      obtain rfl := List.length_eq_zero_iff.mp (size.trans (Tag.contentLength_of_opening opening))
      rw [Tag.eq_opening_of_decode decoded opening] at decoded
      obtain ⟨inside, last, behind, rfl, nested, closing, closes⟩ := closes
      obtain ⟨parts, each, rfl⟩ := nested
      have element := Element.constructed decoded each closing
      have deeper := Nat.sub_add_cancel (Nat.sub_pos_of_lt (Nat.lt_of_not_le room))
      rw [Nat.sub_add_eq, deeper] at element
      have more := closes.cons element
      rw [List.append_assoc, List.append_assoc] at more
      exact more
  · next closing =>
    split at opens
    · cases opens
    · next innermost outer =>
      split at opens
      · next same =>
        cases opens
        obtain rfl := List.length_eq_zero_iff.mp
          (size.trans (Tag.contentLength_of_closing closing))
        rw [Tag.eq_closing_of_decode decoded closing, ← same] at decoded
        exact ⟨[], head, _, rfl, nested_nil, decoded, closes⟩
      · cases opens

/-- What a reader passes over is elements, and closing tags of the values that are open. -/
theorem Passes.closes {reader : Reader} (passes : Passes reader) :
    Closes reader.maxDepth reader.opened reader.rest := by
  induction passes with
  | finished empty closed =>
    rw [empty, closed]
    exact nested_nil
  | read reads _ closes =>
    obtain ⟨head, content, rest, opened, whole, decoded, size, opens, rfl⟩ :=
      tagWithContent_eq_ok_iff.mp reads
    rw [whole]
    exact closes.read decoded size opens

/-! ## Readers that get over an element -/

/-- What holds of a reader holds of the reader before the last tag, too, if at least `base` values
are open between them. -/
def GoesBack (base : Nat) (property : Reader → Prop) : Prop :=
  ∀ {reader behind : Reader} {tag : Tag}, tagWithContent reader = .ok tag behind →
    base ≤ behind.depth → property behind → property reader

theorem goesBack_passes (base : Nat) : GoesBack base Passes := fun reads _ => .read reads

section GoesBack

variable {base : Nat} {property : Reader → Prop}

/-- Over a run of elements, what holds of a reader goes back to where the first of them begins. -/
theorem before_flatten {parts : List Octets} {rest : Octets}
    (each : ∀ part ∈ parts, ∀ {rest : Octets},
      (∀ position, property ⟨rest, position, opened, maxDepth⟩) →
        ∀ position, property ⟨part ++ rest, position, opened, maxDepth⟩)
    (holds : ∀ position, property ⟨rest, position, opened, maxDepth⟩) (position : Nat) :
    property ⟨parts.flatten ++ rest, position, opened, maxDepth⟩ := by
  induction parts generalizing position with
  | nil => exact holds position
  | cons first others ih =>
    obtain ⟨here, there⟩ := List.forall_mem_cons.mp each
    rw [List.flatten_cons, List.append_assoc]
    exact here (ih there) position

/-- Over an element, what holds of a reader goes back to where the element begins: the same values
are open there, and more in between. -/
theorem before_element (goesBack : GoesBack base property) {depth : Nat} {element : Octets}
    (spells : Element depth element) {opened : List UInt8} (room : depth + opened.length ≤ maxDepth)
    (within : base ≤ opened.length) {rest : Octets}
    (holds : ∀ position, property ⟨rest, position, opened, maxDepth⟩) (position : Nat) :
    property ⟨element ++ rest, position, opened, maxDepth⟩ := by
  induction spells generalizing opened rest position with
  | @primitive depth tag length head content reads value whole =>
    exact goesBack (tagWithContent_eq_ok_iff.mpr ⟨head, content, rest, opened,
      List.append_assoc _ _ _, reads, whole, openedAfter_of_value value, rfl⟩) within (holds _)
  | @constructed depth number first last parts opens inside closes ih =>
    have room : opened.length < maxDepth := by omega
    have deeper : depth + (number :: opened).length ≤ maxDepth := by
      rw [List.length_cons]
      omega
    have stays : base ≤ (number :: opened).length := Nat.le_succ_of_le within
    refine goesBack (tagWithContent_eq_ok_iff.mpr ⟨first, [], parts.flatten ++ (last ++ rest),
      number :: opened, by simp, opens, rfl, openedAfter_opening room, rfl⟩) stays ?_
    refine before_flatten (fun part member {rest} holds => ih part member deeper stays holds)
      (fun position => ?_) _
    exact goesBack (tagWithContent_eq_ok_iff.mpr ⟨last, [], rest, opened, rfl, closes, rfl,
      openedAfter_closing, rfl⟩) within (holds _)

/-- Over elements, what holds of a reader goes back to where the first of them begins. -/
theorem before_nested (goesBack : GoesBack base property) {depth : Nat} {inside : Octets}
    (nested : Nested depth inside) (room : depth + opened.length ≤ maxDepth)
    (within : base ≤ opened.length) {rest : Octets}
    (holds : ∀ position, property ⟨rest, position, opened, maxDepth⟩) (position : Nat) :
    property ⟨inside ++ rest, position, opened, maxDepth⟩ := by
  obtain ⟨elements, each, rfl⟩ := nested
  exact before_flatten (fun element member {rest} holds =>
    before_element goesBack (each element member) room within holds) holds position

end GoesBack

/-- A reader gets to the end of the octets if and only if these are elements. -/
theorem passes_new_iff {data : Octets} : Passes (new data maxDepth) ↔ Nested maxDepth data := by
  constructor
  · exact Passes.closes
  · intro nested
    have whole := before_nested (goesBack_passes 0) nested (Nat.le_refl _) (Nat.zero_le _)
      (fun position => Passes.finished rfl rfl) 0
    rw [List.append_nil] at whole
    exact whole

/-! ## The two loops -/

/-- The two nested loops of the check, with the number of tags that they look at and their result.
Between elements (`none`), the outer loop ends at the end of the octets. Within an element that
began with `depth` open values (`some depth`), the inner loop looks at one tag after the other. -/
inductive Scan : Nat → Option Nat → Reader → Except DataError Unit → Prop where
  | finish {reader : Reader} (empty : reader.isEmpty = true) : Scan 0 none reader reader.finished
  | enter {turns : Nat} {reader : Reader} {result : Except DataError Unit}
      (more : reader.isEmpty = false) (scan : Scan turns (some reader.depth) reader result) :
      Scan turns none reader result
  | unclosed {depth : Nat} {reader : Reader} {number : UInt8} {outer : List UInt8}
      (empty : reader.isEmpty = true) (known : reader.opened = number :: outer) :
      Scan 0 (some depth) reader (.error (.unbalancedTags (.neverClosed number)))
  | fault {depth : Nat} {reader behind : Reader} {error : DataError}
      (counted : reader.isEmpty = true → reader.opened = [])
      (fails : tagWithContent reader = .error error behind) :
      Scan 1 (some depth) reader (.error error)
  | reached {turns : Nat} {reader behind : Reader} {tag : Tag} {result : Except DataError Unit}
      (reads : tagWithContent reader = .ok tag behind)
      (scan : Scan turns none behind result) :
      Scan (turns + 1) (some behind.depth) reader result
  | outside {depth : Nat} {reader behind : Reader} {tag : Tag}
      (reads : tagWithContent reader = .ok tag behind) (less : behind.depth < depth) :
      Scan 1 (some depth) reader (.error (.unbalancedTags (.endsEnclosing tag.number)))
  | deeper {turns depth : Nat} {reader behind : Reader} {tag : Tag}
      {result : Except DataError Unit} (reads : tagWithContent reader = .ok tag behind)
      (more : depth < behind.depth) (scan : Scan turns (some depth) behind result) :
      Scan (turns + 1) (some depth) reader result

theorem length_of_tagWithContent {reader behind : Reader} {tag : Tag}
    (reads : tagWithContent reader = .ok tag behind) : behind.rest.length < reader.rest.length := by
  obtain ⟨head, content, rest, opened, whole, decoded, -, -, rfl⟩ :=
    tagWithContent_eq_ok_iff.mp reads
  obtain ⟨_, _, -, -, some, -⟩ := Tag.exists_front_of_decode decoded
  rw [whole, List.length_append, List.length_append]
  dsimp only
  omega

theorem passes_iff_of_reads {reader behind : Reader} {tag : Tag}
    (reads : tagWithContent reader = .ok tag behind) : Passes reader ↔ Passes behind := by
  refine ⟨fun passes => ?_, .read reads⟩
  cases passes with
  | finished empty closed =>
    have shorter := length_of_tagWithContent reads
    rw [empty] at shorter
    cases shorter
  | read same passes =>
    cases reads.symm.trans same
    exact passes

/-- Where the loops can be: between elements no value is open, and an element is begun there and has
not ended. -/
def Placed : Option Nat → Reader → Prop
  | none, reader => reader.opened = []
  | some depth, reader => depth = 0 ∧ (reader.rest ≠ [] ∨ reader.opened ≠ [])

/-- The loops end well if and only if the reader gets to the end. -/
theorem Scan.eq_ok_iff {turns : Nat} {phase : Option Nat} {reader : Reader}
    {result : Except DataError Unit} (scan : Scan turns phase reader result)
    (placed : Placed phase reader) : result = .ok () ↔ Passes reader := by
  induction scan with
  | finish empty =>
    refine ⟨fun _ => .finished (List.isEmpty_iff.mp empty) placed, fun _ => ?_⟩
    rw [finished, show _ = [] from placed]
    exact if_pos empty
  | enter more scan ih =>
    refine ih ⟨congrArg List.length placed, .inl fun none => ?_⟩
    rw [isEmpty, none] at more
    cases more
  | unclosed empty known =>
    refine ⟨nofun, fun passes => ?_⟩
    cases passes with
    | finished _ closed => cases known.symm.trans closed
    | read reads _ =>
      have shorter := length_of_tagWithContent reads
      rw [List.isEmpty_iff.mp empty] at shorter
      cases shorter
  | fault counted fails =>
    refine ⟨nofun, fun passes => ?_⟩
    cases passes with
    | finished empty closed =>
      obtain more | unclosed := placed.2
      · exact absurd empty more
      · exact absurd closed unclosed
    | read reads _ => cases fails.symm.trans reads
  | reached reads scan ih =>
    exact (ih (List.length_eq_zero_iff.mp placed.1)).trans (passes_iff_of_reads reads).symm
  | outside reads less => exact absurd (placed.1 ▸ less) (Nat.not_lt_zero _)
  | deeper reads more scan ih =>
    have some : _ ≠ [] := List.ne_nil_of_length_pos (Nat.zero_lt_of_lt more)
    exact (ih ⟨placed.1, .inr some⟩).trans (passes_iff_of_reads reads).symm

/-! ## The bound on the loops -/

/-- One turn of the inner loop. -/
theorem skipTo_succ (depth fuel : Nat) (reader : Reader) :
    skipTo depth (fuel + 1) reader =
      match reader.isEmpty, reader.opened with
      | true, number :: _ => .error (.unbalancedTags (.neverClosed number)) reader
      | _, _ =>
        match tagWithContent reader with
        | .error error behind => .error error behind
        | .ok tag behind =>
          if behind.depth = depth then .ok () behind
          else if behind.depth < depth then
            .error (.unbalancedTags (.endsEnclosing tag.number)) behind
          else skipTo depth fuel behind := by
  have turn (action : Read Tag) : (do
        let found ← action
        let reached := (← get).depth
        if reached = depth then pure ()
        else if reached < depth then throw (.unbalancedTags (.endsEnclosing found.number))
        else skipTo depth fuel : Read Unit) reader =
      match action reader with
      | .error error behind => .error error behind
      | .ok tag behind =>
        if behind.depth = depth then .ok () behind
        else if behind.depth < depth then
          .error (.unbalancedTags (.endsEnclosing tag.number)) behind
        else skipTo depth fuel behind := by
    show EStateM.bind action _ reader = _
    unfold EStateM.bind
    cases action reader with
    | error error behind => rfl
    | ok tag behind =>
      show (if behind.depth = depth then _ else if behind.depth < depth then _ else _ : Read Unit)
        behind = _
      dsimp only
      split
      · rfl
      · split <;> rfl
  show (match reader.isEmpty, reader.opened with
    | true, number :: _ => _
    | _, _ => _ : Read Unit) reader = _
  generalize reader.isEmpty = empty, reader.opened = opened
  cases empty with
  | false => exact turn tagWithContent
  | true =>
    cases opened with
    | nil => exact turn tagWithContent
    | cons number outer => rfl

/-- Within an element, the bound on the number of tags is not reached. -/
theorem scan_skipTo (depth : Nat) {fuel : Nat} {reader : Reader}
    (enough : reader.rest.length < fuel)
    (placed : reader.rest ≠ [] ∨ reader.opened ≠ []) :
    (∀ {error behind}, skipTo depth fuel reader = .error error behind →
      ∃ turns ≤ reader.rest.length, Scan turns (some depth) reader (.error error)) ∧
    ∀ {behind}, skipTo depth fuel reader = .ok () behind →
      behind.rest.length < reader.rest.length ∧ behind.depth = depth ∧
      ∀ {turns result}, Scan turns none behind result → turns ≤ behind.rest.length →
        ∃ turns ≤ reader.rest.length, Scan turns (some depth) reader result := by
  induction fuel generalizing reader with
  | zero => cases enough
  | succ fuel ih =>
    rw [skipTo_succ]
    split
    · next empty known =>
      refine ⟨fun ends => ?_, nofun⟩
      cases ends
      exact ⟨0, Nat.zero_le _, .unclosed empty known⟩
    · next counted =>
      cases looked : tagWithContent reader with
      | error fault last =>
        refine ⟨fun ends => ?_, nofun⟩
        cases ends
        have some : 1 ≤ reader.rest.length := by
          refine List.length_pos_iff.mpr fun none => ?_
          obtain more | unclosed := placed
          · exact more none
          · obtain ⟨number, outer, known⟩ := List.exists_cons_of_ne_nil unclosed
            exact counted number outer (List.isEmpty_iff.mpr none) known
        refine ⟨1, some, .fault (fun empty => ?_) looked⟩
        exact List.eq_nil_iff_forall_not_mem.mpr fun number among => by
          obtain ⟨first, outer, known⟩ := List.exists_cons_of_ne_nil (List.ne_nil_of_mem among)
          exact counted first outer empty known
      | ok tag last =>
        have shorter := length_of_tagWithContent looked
        dsimp only
        split
        · next same =>
          refine ⟨nofun, fun ends => ?_⟩
          cases ends
          refine ⟨shorter, same, fun {turns result} scan few => ⟨turns + 1, by omega, ?_⟩⟩
          rw [← same]
          exact .reached looked scan
        · next other =>
          split
          · next less =>
            refine ⟨fun ends => ?_, nofun⟩
            cases ends
            exact ⟨1, by omega, .outside looked less⟩
          · next notLess =>
            have more : depth < last.depth := by omega
            have unclosed : last.opened ≠ [] :=
              List.ne_nil_of_length_pos (Nat.zero_lt_of_lt more)
            obtain ⟨fails, ends⟩ := ih (by omega) (.inr unclosed)
            constructor
            · intro error behind failed
              obtain ⟨turns, few, scan⟩ := fails failed
              exact ⟨turns + 1, by omega, .deeper looked more scan⟩
            · intro behind ended
              obtain ⟨less, same, goesOn⟩ := ends ended
              refine ⟨by omega, same, fun scan few => ?_⟩
              obtain ⟨turns, few, scan⟩ := goesOn scan few
              exact ⟨turns + 1, by omega, .deeper looked more scan⟩

/-- One turn of the outer loop. -/
theorem skipAll_succ (fuel : Nat) (reader : Reader) :
    skipAll (fuel + 1) reader =
      if reader.isEmpty then .ok () reader
      else
        match skipTo reader.depth (reader.rest.length + 1) reader with
        | .error error behind => .error error behind
        | .ok () behind => skipAll fuel behind := by
  show (if reader.isEmpty then pure () else skip >>= fun _ => skipAll fuel : Read Unit) reader = _
  split
  · rfl
  · show EStateM.bind skip _ reader = _
    unfold EStateM.bind
    have once : skip reader = skipTo reader.depth (reader.rest.length + 1) reader := rfl
    rw [once]
    cases skipTo reader.depth (reader.rest.length + 1) reader <;> rfl

/-- Between elements, the bound on their number is not reached. -/
theorem scan_skipAll {fuel : Nat} {reader : Reader} (enough : reader.rest.length ≤ fuel)
    (closed : reader.opened = []) :
    ∃ turns ≤ reader.rest.length, Scan turns none reader
      (match skipAll fuel reader with
      | .ok () last => last.finished
      | .error error _ => .error error) := by
  induction fuel generalizing reader with
  | zero =>
    have empty : reader.isEmpty = true :=
      List.isEmpty_iff.mpr (List.length_eq_zero_iff.mp (Nat.le_zero.mp enough))
    exact ⟨0, Nat.zero_le _, .finish empty⟩
  | succ fuel ih =>
    rw [skipAll_succ]
    cases empty : reader.isEmpty with
    | true => exact ⟨0, Nat.zero_le _, .finish empty⟩
    | false =>
      have more : reader.rest ≠ [] := fun none => by
        rw [isEmpty, none] at empty
        cases empty
      obtain ⟨fails, ends⟩ := scan_skipTo reader.depth (Nat.lt_succ_self _) (.inl more)
      rw [if_neg Bool.false_ne_true]
      cases skipped : skipTo reader.depth (reader.rest.length + 1) reader with
      | error error behind =>
        obtain ⟨turns, few, scan⟩ := fails skipped
        exact ⟨turns, few, .enter empty scan⟩
      | ok _ behind =>
        obtain ⟨shorter, same, goesOn⟩ := ends skipped
        have outside : behind.opened = [] :=
          List.length_eq_zero_iff.mp (same.trans (congrArg List.length closed))
        obtain ⟨turns, few, scan⟩ := ih (by omega) outside
        obtain ⟨turns, few, scan⟩ := goesOn scan few
        exact ⟨turns, few, .enter empty scan⟩

theorem validateNesting_eq (data : Octets) (maxDepth : Nat) :
    validateNesting data maxDepth =
      match skipAll data.length (new data maxDepth) with
      | .ok () last => last.finished
      | .error error _ => .error error := by
  unfold validateNesting
  show (match EStateM.bind (skipAll data.length) _ (new data maxDepth) with
    | .ok () _ => _
    | .error error _ => _) = _
  unfold EStateM.bind
  cases skipAll data.length (new data maxDepth) with
  | error error last => rfl
  | ok _ last =>
    show (match lift last.finished last with | .ok () _ => _ | .error error _ => _) = last.finished
    unfold lift
    cases last.finished <;> rfl

/-- The check is what its loops come to, which look at no more tags than there are octets. -/
theorem exists_scan_validateNesting (data : Octets) (maxDepth : Nat) :
    ∃ turns ≤ data.length, Scan turns none (new data maxDepth) (validateNesting data maxDepth) := by
  rw [validateNesting_eq]
  exact scan_skipAll (Nat.le_refl (new data maxDepth).rest.length) rfl

theorem validateNesting_eq_ok_iff {data : Octets} :
    validateNesting data maxDepth = .ok () ↔ Nested maxDepth data := by
  obtain ⟨turns, -, scan⟩ := exists_scan_validateNesting data maxDepth
  exact (scan.eq_ok_iff rfl).trans passes_new_iff

/-- The check accepts the octets if and only if they are elements that are nested at most `maxDepth`
deep, and reports an error otherwise. It ends as its loops do, which look at no more tags than there
are octets. -/
theorem validateNesting_decides (data : Octets) (maxDepth : Nat) :
    (Nested maxDepth data ∧ validateNesting data maxDepth = .ok () ∨
      ¬ Nested maxDepth data ∧ ∃ error, validateNesting data maxDepth = .error error) ∧
    ∃ turns ≤ data.length, Scan turns none (new data maxDepth) (validateNesting data maxDepth) := by
  refine ⟨?_, exists_scan_validateNesting data maxDepth⟩
  have accepts : _ ↔ Nested maxDepth data := validateNesting_eq_ok_iff
  cases result : validateNesting data maxDepth with
  | error error =>
    exact .inr ⟨fun nested => (nomatch result.symm.trans (accepts.mpr nested)), error, rfl⟩
  | ok _ => exact .inl ⟨accepts.mp result, rfl⟩

end BACnet
