import BACnet.Proofs.Internetwork.Basic
import BACnet.Proofs.Routing.Accounts

/-!
# Where messages come from

Every application message on a network has been sent by a station or by the application of a router,
or it is a copy of one that a router has heard before (`Internetwork.Descends`). A copy has one hop
less than what it is a copy of, so that no message goes on for ever, whatever the topology.
-/

namespace BACnet

variable {ρ ν : Type}

namespace Internetwork

/-! ## Origins -/

/-- In one of the events the application of the router sends the message. -/
def Originates (start : Internetwork ρ ν) (events : List (Nat × InternetworkEvent ρ ν)) (router : ρ)
    (npdu : Npdu) : Prop :=
  ∃ now destination message, (now, .act router (.send destination message)) ∈ events ∧
    npdu.body = message.body ∧ npdu.priority = message.priority ∧
    npdu.expectingReply = message.expectingReply ∧
    npdu.hopCount = (start.relay router).router.config.initialHopCount

/-- A message that a station or the application of a router has sent. -/
def IsOrigin (start : Internetwork ρ ν) (events : List (Nat × InternetworkEvent ρ ν))
    (frame : NetworkFrame ρ ν) : Prop :=
  ∀ router port, frame.sender = some (router, port) → start.Originates events router frame.npdu

section

variable {start : Internetwork ρ ν} {events : List (Nat × InternetworkEvent ρ ν)}

theorem Originates.append {router : ρ} {npdu : Npdu}
    (originates : start.Originates events router npdu) (entry : Nat × InternetworkEvent ρ ν) :
    start.Originates (events ++ [entry]) router npdu := by
  obtain ⟨now, destination, message, member, contents⟩ := originates
  exact ⟨now, destination, message, List.mem_append_left _ member, contents⟩

theorem IsOrigin.append {frame : NetworkFrame ρ ν} (origin : start.IsOrigin events frame)
    (entry : Nat × InternetworkEvent ρ ν) : start.IsOrigin (events ++ [entry]) frame :=
  fun router port sender => (origin router port sender).append entry

end

/-! ## Copies of copies -/

variable [DecidableEq ρ] [DecidableEq ν] (start : Internetwork ρ ν) (wiring : Wiring ρ ν)

/-- In one of the events the message arrives at the router on this link. -/
def Heard (events : List (Nat × InternetworkEvent ρ ν)) (router : ρ) (port : PortId)
    (frame : NetworkFrame ρ ν) : Prop :=
  ∃ before now index after, events = before ++ (now, .deliver index router port) :: after ∧
    (start.run wiring before).frames[index]? = some frame ∧
    wiring.network router port = frame.network

/-- A message is a copy of a copy of another one, and so on, made by as many routers as `crossed`
says. Each of them has heard what it has copied. -/
inductive Descends (events : List (Nat × InternetworkEvent ρ ν)) (origin : NetworkFrame ρ ν) :
    Nat → NetworkFrame ρ ν → Prop where
  | same : Descends events origin 0 origin
  | copy {crossed : Nat} {received sent : NetworkFrame ρ ν} {router : ρ} {port out : PortId}
    (descends : Descends events origin crossed received)
    (heard : start.Heard wiring events router port received)
    (sender : sent.sender = some (router, out)) (known : Router)
    (copies : known.Copies ⟨port, received.mac⟩ received.npdu sent.npdu) :
    Descends events origin (crossed + 1) sent

variable {start wiring} {events : List (Nat × InternetworkEvent ρ ν)}

theorem Heard.append {router : ρ} {port : PortId} {frame : NetworkFrame ρ ν}
    (heard : start.Heard wiring events router port frame)
    (entry : Nat × InternetworkEvent ρ ν) :
    start.Heard wiring (events ++ [entry]) router port frame := by
  obtain ⟨before, now, index, after, rfl, found, wired⟩ := heard
  exact ⟨before, now, index, after ++ [entry], by simp, found, wired⟩

theorem Descends.append {origin frame : NetworkFrame ρ ν} {crossed : Nat}
    (descends : start.Descends wiring events origin crossed frame)
    (entry : Nat × InternetworkEvent ρ ν) :
    start.Descends wiring (events ++ [entry]) origin crossed frame := by
  induction descends with
  | same => exact .same
  | copy _ heard sender known copies ih => exact ih.copy (heard.append entry) sender known copies

/-- With every router that is crossed a message has one hop less. -/
theorem Descends.hopCount {origin frame : NetworkFrame ρ ν} {crossed : Nat}
    (descends : start.Descends wiring events origin crossed frame) :
    crossed + frame.npdu.hopCount.toNat = origin.npdu.hopCount.toNat := by
  induction descends with
  | same => exact Nat.zero_add _
  | copy _ _ _ _ copies ih =>
    have less := copies.hopCount
    omega

/-- Copies of copies say the same. -/
theorem Descends.content {origin frame : NetworkFrame ρ ν} {crossed : Nat}
    (descends : start.Descends wiring events origin crossed frame) :
    origin.npdu.SameContent frame.npdu := by
  induction descends with
  | same => exact ⟨rfl, rfl, rfl⟩
  | copy _ _ _ _ copies ih => exact ih.trans copies.content

/-- A source that is named stays. -/
theorem Descends.source {origin frame : NetworkFrame ρ ν} {crossed : Nat} {source : Address}
    (descends : start.Descends wiring events origin crossed frame)
    (named : origin.npdu.source = some source) : frame.npdu.source = some source := by
  induction descends with
  | same => exact named
  | copy _ _ _ _ copies ih =>
    obtain ⟨own, sent, ⟨kept⟩ | ⟨sourceless, -⟩⟩ := copies.source
    · rw [sent, ← kept, ih]
    · rw [ih] at sourceless
      cases sourceless

/-! ## Messages that wait -/

/-- A message waits at a router that its application has sent, or that the router has heard and let
pass. -/
def Known (start : Internetwork ρ ν) (wiring : Wiring ρ ν)
    (events : List (Nat × InternetworkEvent ρ ν)) (router : ρ) (state : Router)
    (message : PendingNpdu) : Prop :=
  message.arrival = none ∧ start.Originates events router message.npdu ∨
    ∃ port frame, message.arrival = some ⟨port, frame.mac⟩ ∧
      start.Heard wiring events router port frame ∧
      state.Passes ⟨port, frame.mac⟩ frame.npdu message.npdu

/-- The application messages that wait are known, and those on networks descend from others that
stations or applications have sent. -/
structure Traced (start : Internetwork ρ ν) (wiring : Wiring ρ ν)
    (events : List (Nat × InternetworkEvent ρ ν)) : Prop where
  config : ∀ router, ((start.run wiring events).relay router).router.config =
    (start.relay router).router.config
  waits : ∀ router network,
    ∀ message ∈ ((start.run wiring events).relay router).router.waits network,
      message.npdu.body.isNetwork = false →
        start.Known wiring events router ((start.run wiring events).relay router).router message ∧
          message.BoundFor network
  descends : ∀ frame ∈ (start.run wiring events).frames, frame.npdu.body.isNetwork = false →
    ∃ origin ∈ (start.run wiring events).frames, start.IsOrigin events origin ∧
      ∃ crossed, start.Descends wiring events origin crossed frame

variable {router : ρ} {state after : Router} {message : PendingNpdu}

theorem Known.append (known : start.Known wiring events router state message)
    (entry : Nat × InternetworkEvent ρ ν) :
    start.Known wiring (events ++ [entry]) router state message := by
  rcases known with ⟨own, originates⟩ | ⟨port, frame, came, heard, passes⟩
  · exact .inl ⟨own, originates.append entry⟩
  · exact .inr ⟨port, frame, came, heard.append entry, passes⟩

/-- What has waited before an event is known after it, too. -/
theorem Traced.waits_append (traced : start.Traced wiring events)
    (entry : Nat × InternetworkEvent ρ ν) (router : ρ) (network : UInt16) :
    ∀ message ∈ ((start.run wiring events).relay router).router.waits network,
      message.npdu.body.isNetwork = false →
        start.Known wiring (events ++ [entry]) router
            ((start.run wiring events).relay router).router message ∧
          message.BoundFor network := by
  intro message waits application
  obtain ⟨known, bound⟩ := traced.waits router network message waits application
  exact ⟨known.append entry, bound⟩

/-- A number that becomes known does not change what has passed. -/
theorem Known.mono (known : start.Known wiring events router state message)
    (more : ∀ port network, state.network? port = some network →
      after.network? port = some network) :
    start.Known wiring events router after message := by
  refine known.imp_right ?_
  rintro ⟨port, frame, came, heard, passes⟩
  obtain ⟨source, named, origin⟩ := passes.source
  exact ⟨port, frame, came, heard, passes.content, passes.hopCount, passes.destination, source,
    named, origin.imp_right fun ⟨sourceless, number, mac⟩ => ⟨sourceless, more _ _ number, mac⟩⟩

/-- What is sent of a message that is known is a message of the application, or a copy of what the
router has heard. -/
theorem Known.sends {sent : Npdu} (known : start.Known wiring events router state message)
    (sends : state.Sends message sent) :
    start.Originates events router sent ∨ ∃ port received,
      start.Heard wiring events router port received ∧
        state.Copies ⟨port, received.mac⟩ received.npdu sent := by
  rcases known with ⟨-, now, destination, message, member, body, priority, reply, hops⟩ |
    ⟨port, frame, came, heard, passes⟩
  · exact .inl ⟨now, destination, message, member, sends.content.body.trans body,
      sends.content.priority.trans priority, sends.content.expectingReply.trans reply,
      sends.hopCount.trans hops⟩
  · exact .inr ⟨port, frame, heard, passes.copies (fun _ number => number) came sends⟩

/-- A message that may have to wait with an event is known. -/
theorem allows_of_happens (traced : start.Traced wiring events) (now : Nat)
    {event : InternetworkEvent ρ ν} {own : RelayEvent}
    (happens : (start.run wiring events).happens? wiring event = some (router, own)) :
    ((start.run wiring events).relay router).Allows
      (start.Known wiring (events ++ [(now, event)]) router
        ((start.run wiring events).relay router).router) own := by
  intro network message candidate _
  cases event with
  | inject network mac destination npdu => cases happens
  | deliver index router' port =>
    unfold happens? at happens
    dsimp only at happens
    split at happens
    · cases happens
    · next frame found =>
      split at happens
      · next wired =>
        cases happens
        -- The message is the one that has arrived, as it has passed the router.
        obtain ⟨destination, addressed, joined⟩ := Option.bind_eq_some_iff.mp candidate
        obtain ⟨passed, passes, entry⟩ := Option.map_eq_some_iff.mp joined
        cases entry
        exact .inr ⟨port, frame, rfl, ⟨events, now, index, [], rfl, found, wired⟩,
          Router.passes_of_pass passes⟩
      · cases happens
  | act router' event =>
    unfold happens? at happens
    dsimp only at happens
    split at happens
    · cases happens
    · next other =>
      cases happens
      cases own with
      | receive arrival npdu => exact absurd rfl other
      | send destination outgoing =>
        cases candidate
        exact .inl ⟨rfl, now, destination, outgoing, List.mem_append_right _ List.mem_cons_self, rfl,
          rfl, rfl, congrArg (·.initialHopCount) (traced.config router)⟩
      | expireRoutes | expire | schedule _ _ | cancel _ => cases candidate

/-- An application message that a router sends is one of its application, or a copy of what it has
heard. -/
theorem Traced.sends (traced : start.Traced wiring events) (now : Nat)
    {event : InternetworkEvent ρ ν} {own : RelayEvent}
    (happens : (start.run wiring events).happens? wiring event = some (router, own))
    {sent : Transmission}
    (member : .transmit sent ∈ (((start.run wiring events).relay router).step now own).outputs)
    (application : sent.npdu.body.isNetwork = false) :
    start.Originates (events ++ [(now, event)]) router sent.npdu ∨ ∃ port received,
      start.Heard wiring (events ++ [(now, event)]) router port received ∧
        ((start.run wiring events).relay router).router.Copies ⟨port, received.mac⟩ received.npdu
          sent.npdu := by
  have allows := allows_of_happens traced now happens
  obtain ⟨-, accounts⟩ :=
    Relay.accounted_step (traced.waits_append (now, event) router) now allows
  obtain ⟨message, known, sends⟩ := accounts sent member application
  exact known.sends sends

/-! ## Runs -/

theorem traced_nil (ports : ρ → List PortConfig) (config : ρ → RouterConfig) :
    (new ports config).Traced wiring [] :=
  ⟨fun _ => rfl, fun _ _ _ waits => absurd waits List.not_mem_nil,
    fun _ member => absurd member List.not_mem_nil⟩

/-- What a router has heard has been sent before. -/
theorem Heard.mem_frames {port : PortId} {frame : NetworkFrame ρ ν}
    {entry : Nat × InternetworkEvent ρ ν}
    (heard : start.Heard wiring (events ++ [entry]) router port frame) :
    frame ∈ (start.run wiring events).frames := by
  obtain ⟨before, now, index, after, split, found, -⟩ := heard
  have early : before <+: events := by
    refine List.prefix_of_prefix_length_le (split ▸ List.prefix_append before _)
      (List.prefix_append events _) ?_
    have lengths := congrArg List.length split
    simp only [List.length_append, List.length_cons, List.length_nil] at lengths
    omega
  obtain ⟨rest, rfl⟩ := early
  rw [run_append]
  exact (frames_run _ wiring rest).subset (List.mem_of_getElem? found)

theorem Traced.append (traced : start.Traced wiring events)
    (entry : Nat × InternetworkEvent ρ ν) : start.Traced wiring (events ++ [entry]) := by
  obtain ⟨now, event⟩ := entry
  have after : start.run wiring (events ++ [(now, event)]) =
      (start.run wiring events).step wiring now event := run_append ..
  have stays {origin : NetworkFrame ρ ν} (member : origin ∈ (start.run wiring events).frames) :
      origin ∈ (start.run wiring (events ++ [(now, event)])).frames :=
    after ▸ (frames_step _ wiring now event).subset member
  refine ⟨?_, ?_, ?_⟩
  · intro router
    rw [after, ← traced.config router]
    rcases (start.run wiring events).relay_step wiring now event router with
      same | ⟨own, -, does⟩
    · rw [same]
    · rw [does, Relay.config_step]
  · intro router network message waits application
    rw [after] at waits ⊢
    rcases (start.run wiring events).relay_step wiring now event router with
      same | ⟨own, happens, does⟩
    · rw [same] at waits ⊢
      exact traced.waits_append (now, event) router network message waits application
    · rw [does] at waits ⊢
      obtain ⟨accounts, -⟩ := Relay.accounted_step (traced.waits_append (now, event) router) now
        (allows_of_happens traced now happens)
      obtain ⟨known, bound⟩ := accounts network message waits application
      exact ⟨known.mono fun _ _ number => Relay.network?_step number now own, bound⟩
  · intro frame member application
    have sent := member
    rw [after] at sent
    rcases mem_frames_step sent with old | injected | ⟨router, own, happens, sending, put, rfl⟩
    · obtain ⟨origin, present, first, crossed, descends⟩ :=
        traced.descends frame old application
      exact ⟨origin, stays present, first.append _, crossed, descends.append _⟩
    · refine ⟨frame, member, ?_, 0, .same⟩
      intro router port sender
      rw [injected] at sender
      cases sender
    · rcases traced.sends now happens put application with
        originates | ⟨port, received, heard, copies⟩
      · refine ⟨_, member, ?_, 0, .same⟩
        intro router port sender
        cases sender
        exact originates
      · have same : received.npdu.body.isNetwork = false := by
          rw [← copies.content.body]
          exact application
        obtain ⟨origin, present, first, crossed, descends⟩ :=
          traced.descends received heard.mem_frames same
        exact ⟨origin, stays present, first.append _, crossed + 1,
          (descends.append _).copy heard rfl _ copies⟩

theorem traced_run (ports : ρ → List PortConfig) (config : ρ → RouterConfig)
    (events : List (Nat × InternetworkEvent ρ ν)) : (new ports config).Traced wiring events := by
  induction events using List.reverseRecOn with
  | nil => exact traced_nil ports config
  | append_singleton events entry ih => exact ih.append entry

/-- In every internetwork, an application message that a router sends is one of its own application,
or a copy of one that it has heard before: with one hop less, and otherwise changed in nothing but a
destination that is attached and a source that was not named. Every application message on a network
descends from one that a station or the application of a router has sent, and with every router that
it has crossed on the way it has one hop less. -/
theorem copied_of_run (wiring : Wiring ρ ν) (ports : ρ → List PortConfig)
    (config : ρ → RouterConfig) (events : List (Nat × InternetworkEvent ρ ν)) :
    (∀ now event router own,
        ((new ports config).run wiring events).happens? wiring event = some (router, own) →
        ∀ sent, .transmit sent ∈
            ((((new ports config).run wiring events).relay router).step now own).outputs →
          sent.npdu.body.isNetwork = false →
            (new ports config : Internetwork ρ ν).Originates (events ++ [(now, event)]) router
              sent.npdu ∨
            ∃ port received,
              (new ports config).Heard wiring (events ++ [(now, event)]) router port received ∧
                (((new ports config).run wiring events).relay router).router.Copies
                  ⟨port, received.mac⟩ received.npdu sent.npdu) ∧
      (∀ frame ∈ ((new ports config).run wiring events).frames,
        frame.npdu.body.isNetwork = false →
          ∃ origin ∈ ((new ports config).run wiring events).frames,
            (new ports config).IsOrigin events origin ∧
              ∃ crossed, (new ports config).Descends wiring events origin crossed frame) ∧
      ∀ origin crossed frame, (new ports config).Descends wiring events origin crossed frame →
        crossed + frame.npdu.hopCount.toNat = origin.npdu.hopCount.toNat ∧
          origin.npdu.SameContent frame.npdu ∧
          ∀ source, origin.npdu.source = some source → frame.npdu.source = some source := by
  have traced : (new ports config).Traced wiring events := traced_run ports config events
  refine ⟨?_, traced.descends, ?_⟩
  · intro now event router own happens sent put application
    exact traced.sends now happens put application
  · intro origin crossed frame descends
    exact ⟨descends.hopCount, descends.content, fun _ named => descends.source named⟩

end Internetwork

end BACnet
