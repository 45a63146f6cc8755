import BACnet.Proofs.Data.Nesting

/-!
# Skipping elements

The loop that skips an element (`SkipLoop`) is what `Read.skipTo` does with any bound that the loop
does not reach (`exists_skipLoop`, `SkipLoop.skipTo_eq`). It reads one tag after the other, and what
becomes of a tag does not depend on the octets behind its content or on the values that were open
before: a reader gets over the same octets alone (`exists_reads_alone`) and in the middle of a
message (`exists_reads_within`). So whatever is skipped would pass the check of the nesting
(`SkipLoop.passes`).
-/

namespace BACnet

open Reader Read

/-! ## The loop -/

/-- The loop that skips an element, with the number of tags that it reads and with its result. It
began with `depth` open values and ends as soon as a tag leaves as many. -/
inductive SkipLoop (depth : Nat) :
    Nat → Reader → EStateM.Result DataError Reader Unit → Prop where
  | unclosed {reader : Reader} {number : UInt8} {outer : List UInt8}
      (empty : reader.isEmpty = true) (known : reader.opened = number :: outer) :
      SkipLoop depth 0 reader (.error (.unbalancedTags (.neverClosed number)) reader)
  | fault {reader behind : Reader} {error : DataError}
      (counted : reader.isEmpty = true → reader.opened = [])
      (fails : tagWithContent reader = .error error behind) :
      SkipLoop depth 0 reader (.error error behind)
  | ended {reader behind : Reader} {tag : Tag} (reads : tagWithContent reader = .ok tag behind)
      (same : behind.depth = depth) : SkipLoop depth 1 reader (.ok () behind)
  | outside {reader behind : Reader} {tag : Tag} (reads : tagWithContent reader = .ok tag behind)
      (less : behind.depth < depth) :
      SkipLoop depth 1 reader (.error (.unbalancedTags (.endsEnclosing tag.number)) behind)
  | deeper {turns : Nat} {reader behind : Reader} {tag : Tag}
      {result : EStateM.Result DataError Reader Unit}
      (reads : tagWithContent reader = .ok tag behind) (more : depth < behind.depth)
      (loop : SkipLoop depth turns behind result) : SkipLoop depth (turns + 1) reader result

/-- There is an octet for each tag that the loop reads. -/
theorem SkipLoop.turns_le {depth turns : Nat} {reader : Reader}
    {result : EStateM.Result DataError Reader Unit} (loop : SkipLoop depth turns reader result) :
    turns ≤ reader.rest.length ∧ ∀ behind, result = .ok () behind →
      0 < turns ∧ turns + behind.rest.length ≤ reader.rest.length := by
  induction loop with
  | unclosed | fault => exact ⟨Nat.zero_le _, nofun⟩
  | ended reads same =>
    have shorter := length_of_tagWithContent reads
    refine ⟨by omega, fun last ends => ?_⟩
    cases ends
    omega
  | outside reads less =>
    have shorter := length_of_tagWithContent reads
    exact ⟨by omega, nofun⟩
  | deeper reads more loop ih =>
    have shorter := length_of_tagWithContent reads
    refine ⟨by omega, fun last ends => ?_⟩
    have fewer := ih.2 last ends
    omega

/-- The loop ends, and a bound above the number of octets is not reached. -/
theorem exists_skipLoop (depth : Nat) {fuel : Nat} {reader : Reader}
    (enough : reader.rest.length < fuel) :
    ∃ turns, SkipLoop depth turns reader (skipTo depth fuel reader) := by
  induction fuel generalizing reader with
  | zero => cases enough
  | succ fuel ih =>
    rw [skipTo_succ]
    split
    · next empty known => exact ⟨0, .unclosed empty known⟩
    · next counted =>
      cases looked : tagWithContent reader with
      | error error last =>
        refine ⟨0, .fault (fun empty => ?_) looked⟩
        cases known : reader.opened with
        | nil => rfl
        | cons number outer => exact (counted number outer empty known).elim
      | ok tag last =>
        have shorter := length_of_tagWithContent looked
        dsimp only
        split
        · next same => exact ⟨1, .ended looked same⟩
        · next other =>
          split
          · next less => exact ⟨1, .outside looked less⟩
          · next notLess =>
            obtain ⟨turns, loop⟩ := ih (Nat.lt_of_lt_of_le shorter (Nat.le_of_lt_succ enough))
            exact ⟨turns + 1, .deeper looked (by omega) loop⟩

theorem exists_skipLoop_skip (reader : Reader) :
    ∃ turns, SkipLoop reader.depth turns reader (skip reader) :=
  exists_skipLoop reader.depth (Nat.lt_succ_self reader.rest.length)

/-- A turn of the loop, where it does not end before it. -/
theorem skipTo_succ_of_counted (depth fuel : Nat) {reader : Reader}
    (counted : reader.isEmpty = true → reader.opened = []) :
    skipTo depth (fuel + 1) reader =
      match tagWithContent reader with
      | .error error behind => .error error behind
      | .ok tag behind =>
        if behind.depth = depth then .ok () behind
        else if behind.depth < depth then
          .error (.unbalancedTags (.endsEnclosing tag.number)) behind
        else skipTo depth fuel behind := by
  rw [skipTo_succ]
  split
  · next empty known => cases known.symm.trans (counted empty)
  · rfl

theorem isEmpty_of_tagWithContent {reader behind : Reader} {tag : Tag}
    (reads : tagWithContent reader = .ok tag behind) : reader.isEmpty = false := by
  refine List.isEmpty_eq_false_iff.mpr fun none => ?_
  have shorter := length_of_tagWithContent reads
  rw [none] at shorter
  cases shorter

/-- The loop has one result, to which every bound leads that it does not reach. -/
theorem SkipLoop.skipTo_eq {depth turns fuel : Nat} {reader : Reader}
    {result : EStateM.Result DataError Reader Unit} (loop : SkipLoop depth turns reader result)
    (enough : turns ≤ fuel) : skipTo depth (fuel + 1) reader = result := by
  have counted {reader behind : Reader} {tag : Tag}
      (reads : tagWithContent reader = .ok tag behind) (empty : reader.isEmpty = true) :
      reader.opened = [] := nomatch (isEmpty_of_tagWithContent reads).symm.trans empty
  induction loop generalizing fuel with
  | unclosed empty known => rw [skipTo_succ, empty, known]
  | fault counted fails => rw [skipTo_succ_of_counted _ _ counted, fails]
  | ended reads same =>
    rw [skipTo_succ_of_counted _ _ (counted reads), reads]
    exact if_pos same
  | outside reads less =>
    rw [skipTo_succ_of_counted _ _ (counted reads), reads]
    exact (if_neg (Nat.ne_of_lt less)).trans (if_pos less)
  | deeper reads more loop ih =>
    rw [skipTo_succ_of_counted _ _ (counted reads), reads]
    refine (if_neg (Nat.ne_of_gt more)).trans ((if_neg (Nat.lt_asymm more)).trans ?_)
    obtain ⟨fuel, rfl⟩ := Nat.exists_eq_succ_of_ne_zero (Nat.ne_zero_of_lt enough)
    exact ih (Nat.le_of_succ_le_succ enough)

theorem SkipLoop.skip_eq {depth turns : Nat} {reader : Reader}
    {result : EStateM.Result DataError Reader Unit} (loop : SkipLoop depth turns reader result)
    (level : reader.depth = depth) : skip reader = result := by
  subst level
  exact loop.skipTo_eq loop.turns_le.1

/-! ## What is skipped -/

/-- A tag that leaves the outer values open does with the inner ones what it would do with them
alone. -/
theorem openedAfter_append {inner outer opened : List UInt8} {maxDepth : Nat} {tag : Tag}
    (room : outer.length ≤ maxDepth)
    (opens : openedAfter (inner ++ outer) maxDepth tag = .ok opened)
    (stays : outer.length ≤ opened.length) :
    ∃ left, opened = left ++ outer ∧
      openedAfter inner (maxDepth - outer.length) tag = .ok left := by
  unfold openedAfter at opens ⊢
  split at opens
  · cases opens
    exact ⟨inner, rfl, rfl⟩
  · split at opens
    · cases opens
    · next shallow =>
      cases opens
      rw [List.length_append] at shallow
      exact ⟨tag.number :: inner, rfl, if_neg (by omega)⟩
  · cases inner with
    | nil =>
      cases outer with
      | nil => cases opens
      | cons innermost others =>
        simp only [List.nil_append] at opens
        split at opens
        · cases opens
          rw [List.length_cons] at stays
          omega
        · cases opens
    | cons innermost others =>
      simp only [List.cons_append] at opens
      split at opens
      · next same =>
        cases opens
        exact ⟨others, rfl, if_pos same⟩
      · cases opens

/-- What a loop has read that ends well closes the inner values that were open, as it would with
these alone, and leaves the outer ones open. -/
theorem SkipLoop.closes {depth turns : Nat} {reader behind : Reader}
    (loop : SkipLoop depth turns reader (.ok () behind)) {inner outer : List UInt8}
    (known : reader.opened = inner ++ outer) (level : outer.length = depth)
    (room : outer.length ≤ reader.maxDepth) :
    behind.opened = outer ∧ behind.maxDepth = reader.maxDepth ∧
      ∃ octets, reader.rest = octets ++ behind.rest ∧
        Closes (reader.maxDepth - depth) inner octets := by
  generalize ends : (EStateM.Result.ok () behind : EStateM.Result DataError Reader Unit) = result
    at loop
  subst level
  induction loop generalizing inner with
  | unclosed | fault | outside => cases ends
  | ended reads same =>
    cases ends
    obtain ⟨head, content, rest, opened, whole, decoded, size, opens, rfl⟩ :=
      tagWithContent_eq_ok_iff.mp reads
    rw [known] at opens
    obtain ⟨left, rfl, alone⟩ := openedAfter_append room opens (Nat.le_of_eq same.symm)
    obtain rfl : left = [] := by
      rw [depth, List.length_append, Nat.add_eq_right, List.length_eq_zero_iff] at same
      exact same
    refine ⟨rfl, rfl, head ++ content, whole.trans (List.append_assoc _ _ _).symm, ?_⟩
    have closes : Closes _ inner (head ++ (content ++ [])) := .read decoded size alone nested_nil
    rwa [List.append_nil] at closes
  | deeper reads more loop ih =>
    obtain ⟨head, content, rest, opened, whole, decoded, size, opens, rfl⟩ :=
      tagWithContent_eq_ok_iff.mp reads
    rw [known] at opens
    obtain ⟨left, rfl, alone⟩ := openedAfter_append room opens (Nat.le_of_lt more)
    obtain ⟨closed, limit, octets, others, closes⟩ := ih rfl room ends
    refine ⟨closed, limit, head ++ (content ++ octets), ?_, closes.read decoded size alone⟩
    rw [whole, show rest = _ from others, List.append_assoc, List.append_assoc]

/-- What a loop has read that began with as many open values as it ends with is elements. -/
theorem SkipLoop.nested {turns : Nat} {reader behind : Reader}
    (loop : SkipLoop reader.depth turns reader (.ok () behind))
    (room : reader.opened.length ≤ reader.maxDepth) :
    behind.opened = reader.opened ∧ behind.maxDepth = reader.maxDepth ∧
      ∃ octets, reader.rest = octets ++ behind.rest ∧
        Nested (reader.maxDepth - reader.opened.length) octets :=
  loop.closes (List.nil_append _).symm rfl room

/-! ## What can be skipped -/

/-- An element that stands in front of other octets can be skipped. -/
theorem exists_skip {depth maxDepth : Nat} {element : Octets} (spells : Element depth element)
    {opened : List UInt8} (room : depth + opened.length ≤ maxDepth) (rest : Octets)
    (position : Nat) :
    ∃ last, skip ⟨element ++ rest, position, opened, maxDepth⟩ =
      .ok () ⟨rest, last, opened, maxDepth⟩ := by
  suffices loops : ∃ turns last, SkipLoop opened.length turns
      ⟨element ++ rest, position, opened, maxDepth⟩ (.ok () ⟨rest, last, opened, maxDepth⟩) by
    obtain ⟨turns, last, loop⟩ := loops
    exact ⟨last, loop.skip_eq rfl⟩
  cases spells with
  | @primitive _ tag length head content reads value whole =>
    exact ⟨1, _, .ended (tagWithContent_eq_ok_iff.mpr ⟨head, content, rest, opened,
      List.append_assoc _ _ _, reads, whole, openedAfter_of_value value, rfl⟩) rfl⟩
  | @constructed depth number first last parts opens inside closes =>
    have shallow : opened.length < maxDepth := by omega
    have deeper : depth + (number :: opened).length ≤ maxDepth := by
      rw [List.length_cons]
      omega
    -- The loop goes on as long as more values than at the start are open.
    have goesBack : GoesBack (opened.length + 1) fun reader => ∃ turns last,
        SkipLoop opened.length turns reader (.ok () ⟨rest, last, opened, maxDepth⟩) := by
      rintro reader behind tag reads more ⟨turns, last, loop⟩
      exact ⟨turns + 1, last, .deeper reads more loop⟩
    have ends (position : Nat) : ∃ turns final, SkipLoop opened.length turns
        ⟨last ++ rest, position, number :: opened, maxDepth⟩
        (.ok () ⟨rest, final, opened, maxDepth⟩) :=
      ⟨1, _, .ended (tagWithContent_eq_ok_iff.mpr
        ⟨last, [], rest, opened, rfl, closes, rfl, openedAfter_closing, rfl⟩) rfl⟩
    obtain ⟨turns, final, loop⟩ :=
      before_nested goesBack ⟨parts, inside, rfl⟩ deeper (Nat.le_refl _) ends
        (position + first.length)
    refine ⟨turns + 1, final, .deeper (tagWithContent_eq_ok_iff.mpr ⟨first, [],
      parts.flatten ++ (last ++ rest), number :: opened, by simp, opens, rfl,
      openedAfter_opening shallow, rfl⟩) (Nat.lt_succ_self _) loop⟩

end BACnet
