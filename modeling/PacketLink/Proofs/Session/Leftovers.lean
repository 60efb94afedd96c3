import PacketLink.Proofs.Framing.LostPackets
import PacketLink.Proofs.Session.Queues
import PacketLink.Proofs.Session.Requests
import PacketLink.Proofs.Session.Rounds

namespace PacketLink

/-! What a damaged reply costs the requests that follow it.

A request ends with the first packet that does not fit, and nothing takes the rest of the broken stream
off the link. Each request after it finds the next of those packets where its reply should begin, so
there is one failed request for each. -/

def Step.reply : Step → Option (Except ExchangeError Message)
  | ⟨.request .., _, _, returned⟩ => returned.map Prod.fst
  | _ => none

namespace Reassembler

variable {state : Reassembler} {pending further : List Packet} {packet : Packet} {message : Message}

theorem Holds.refuses_sibling (holds : state.Holds pending)
    (carries : Carries (pending ++ further) message) (member : packet ∈ further)
    (misplaced : packet.index.val ≠ pending.length) :
    state.push packet = (.error (.unexpectedIndex pending.length packet.index.val), new) := by
  cases holds with
  | idle => exact new_refuses misplaced
  | @midway _ total header data opens begun unfinished spelled =>
      apply push_of_refusal
      obtain ⟨place, found⟩ := List.getElem?_of_mem (List.mem_append_right pending member)
      have named := (carries.numbered place packet found).2
      have whole := opens.total_unique (opens_of_carries carries).start begun
      simp [accept, named, whole, misplaced]

end Reassembler

/-- A stream that lost one of its packets, and not the last one. -/
structure Damaged where
  message : Message
  front : List Packet
  lost : Packet
  next : Packet
  back : List Packet
  whole : Carries (front ++ lost :: next :: back) message
  received : List Bytes
  parsed : received.map Packet.ofBytes = (front ++ next :: back).map .ok

namespace Damaged

def ofSending (sending : Sending) (front : List Packet) (lost next : Packet) (back : List Packet)
    (cut : sending.stream.packets = front ++ lost :: next :: back) : Damaged where
  message := sending.message
  front := front
  lost := lost
  next := next
  back := back
  whole := cut ▸ sending.carries
  received := (front ++ next :: back).map Packet.bytes
  parsed := by simp [Function.comp_def, Packet.ofBytes_bytes]

variable (damaged : Damaged)

/-- What is said of the packets behind the gap, one after the other: the first of them breaks off the
stream, and each of the others is no start of a stream. -/
def refusals : List FramingError :=
  .unexpectedIndex damaged.front.length (damaged.front.length + 1) ::
    (List.range damaged.back.length).map fun place =>
      .unexpectedIndex 0 (damaged.front.length + 2 + place)

/-- What the request takes that the stream was sent for. -/
def taken : List Bytes := damaged.received.take (damaged.front.length + 1)

/-- What it leaves on the link. -/
def leftovers : List Bytes := damaged.received.drop (damaged.front.length + 1)

theorem index_next : damaged.next.index.val = damaged.front.length + 1 := by
  refine (damaged.whole.numbered (damaged.front.length + 1) damaged.next ?_).1
  simp

theorem index_back {place : Nat} {packet : Packet} (found : damaged.back[place]? = some packet) :
    packet.index.val = damaged.front.length + 2 + place := by
  refine (damaged.whole.numbered (damaged.front.length + 2 + place) packet ?_).1
  rw [List.getElem?_append_right (by omega)]
  have place_ : damaged.front.length + 2 + place - damaged.front.length = place + 2 := by omega
  rw [place_]
  exact found

theorem refusals_eq : damaged.refusals =
    .unexpectedIndex damaged.front.length damaged.next.index.val ::
      damaged.back.map fun packet => .unexpectedIndex 0 packet.index.val := by
  rw [refusals, damaged.index_next]
  refine congrArg _ (List.ext_getElem? fun place => ?_)
  rw [List.getElem?_map, List.getElem?_map]
  cases found : damaged.back[place]? with
  | none =>
      rw [List.getElem?_eq_none (by simpa using found)]
      rfl
  | some packet =>
      have within := (List.getElem?_eq_some_iff.mp found).1
      rw [List.getElem?_range within, Option.map_some, Option.map_some, damaged.index_back found]

end Damaged

namespace Receive

variable {reserved : ReservedCommands} {policy : TimeoutPolicy} {state : Reassembler}

/-- The packets of a stream up to a gap, and the one behind it. -/
theorem listen_gap {pending front further : List Packet} {next : Packet} {message : Message}
    {received : List Bytes} {bytes : Bytes} (holds : state.Holds pending)
    (carries : Carries (pending ++ (front ++ further)) message) (member : next ∈ further)
    (misplaced : next.index.val ≠ (pending ++ front).length)
    (parsed : received.map Packet.ofBytes = front.map .ok) (parsedNext : Packet.ofBytes bytes = .ok next)
    (rest : List ReadResult) :
    listen reserved policy state (received.map .ok ++ .ok bytes :: rest) =
      ⟨.error (.framing (.unexpectedIndex (pending ++ front).length next.index.val)),
        (received ++ [bytes]).map fun packet => .answer (.ok packet), rest⟩ := by
  induction front generalizing state pending received with
  | nil =>
      obtain rfl := List.map_eq_nil_iff.mp parsed
      rw [List.append_nil] at misplaced ⊢
      exact listen_refused parsedNext (holds.refuses_sibling carries member misplaced)
  | cons packet others ih =>
      cases received with
      | nil => cases parsed
      | cons first more =>
          have left : others ++ further ≠ [] :=
            List.append_ne_nil_of_right_ne_nil others (List.ne_nil_of_mem member)
          obtain ⟨following, pushed, holding⟩ :=
            Reassembler.push_of_carries_cons holds left carries
          rw [List.cons_append, List.append_cons] at carries
          rw [List.append_cons pending packet others] at misplaced ⊢
          rw [List.map_cons, List.cons_append,
            listen_of_continued (digest_of_none (List.cons.inj parsed).1 pushed),
            ih holding carries misplaced (List.cons.inj parsed).2]
          rfl

theorem listen_damaged (damaged : Damaged) (rest : List ReadResult) :
    damaged.leftovers.map Packet.ofBytes = damaged.back.map .ok ∧
      listen reserved policy .new (damaged.received.map .ok ++ rest) =
        ⟨.error (.framing (.unexpectedIndex damaged.front.length damaged.next.index.val)),
          damaged.taken.map fun packet => .answer (.ok packet), damaged.leftovers.map .ok ++ rest⟩ := by
  have parsed := damaged.parsed
  rw [List.map_append, List.map_eq_append_iff] at parsed
  obtain ⟨front, tail, parts, parsedFront, parsedTail⟩ := parsed
  rw [List.map_cons, List.map_eq_cons_iff] at parsedTail
  obtain ⟨bytes, others, rfl, parsedNext, parsedOthers⟩ := parsedTail
  have length : (front ++ [bytes]).length = damaged.front.length + 1 := by
    simpa using congrArg List.length parsedFront
  have taken : damaged.taken = front ++ [bytes] := by
    rw [Damaged.taken, parts, List.append_cons, List.take_left' length]
  have leftovers : damaged.leftovers = others := by
    rw [Damaged.leftovers, parts, List.append_cons, List.drop_left' length]
  have misplaced : damaged.next.index.val ≠ damaged.front.length := by
    rw [damaged.index_next]
    exact Nat.succ_ne_self _
  rw [taken, leftovers, parts, List.map_append, List.map_cons, List.append_assoc, List.cons_append]
  exact ⟨parsedOthers,
    listen_gap .idle damaged.whole (by simp) misplaced parsedFront parsedNext _⟩

end Receive

namespace Session

section Serving

variable {σ : Type} {link : Link σ} {session : Session} {ahead : σ → Prospect → Prop}
  (serves : link.Serves session.token session.config.debugSink ahead)
  (connected : session.connected = true) (unacknowledged : session.config.ackEnabled = false)

include serves connected unacknowledged

section Requests

variable {message : Message} (fits : message.length ≤ 988) (retryOnSignal : Bool) {rounds : Nat}
  {script rest : List ReadResult} {heard : List Heard}

include fits

theorem returns_of_concluded {received : Except ExchangeError (Option ReceiveOutcome)}
    {outcome : Except ExchangeError Message}
    (listened : Receive.listen session.config.reserved .fatal .new script = ⟨received, heard, rest⟩)
    (enough : script.length < rounds)
    (concluded : ∀ stream fewer, serves.Ends (Receive.run session.config session.token .fatal rounds)
        ⟨[], script⟩ received [] heard ⟨[], rest⟩ →
      serves.Ends (Receive.run session.config session.token .fatal rounds >>=
        Exchange.conclude session.config session.token stream message.command retryOnSignal fewer 0)
        ⟨[], script⟩ outcome [] heard ⟨[], rest⟩) :
    ∃ sent, serves.Returns (session.request message retryOnSignal rounds) ⟨[], script⟩
      (outcome, session.advanced) sent heard ⟨[], rest⟩ := by
  obtain ⟨stream, -, prepared⟩ := prepare_of_fits connected fits
  obtain ⟨fewer, rfl⟩ : ∃ fewer, rounds = fewer + 1 :=
    Nat.exists_eq_succ_of_ne_zero (Nat.ne_zero_of_lt enough)
  refine ⟨stream.packets.map fun packet => (packet.bytes, .ok ()), ?_⟩
  have accepting : ∀ answer ∈ ([] : List (Except LinkError Unit)).take stream.packets.length,
      answer = .ok () := by simp
  have transmitted := Exchange.ends_transmit_accepted serves stream accepting
  simp only [List.drop_nil] at transmitted
  have conversed := Exchange.ends_converse_silent serves unacknowledged transmitted
    (concluded stream fewer (Receive.ends_run serves listened enough []))
  exact returns_request prepared conversed

theorem returns_failure {reason : ExchangeError}
    (listened : Receive.listen session.config.reserved .fatal .new script =
      ⟨.error reason, heard, rest⟩) (enough : script.length < rounds) :
    ∃ sent, serves.Returns (session.request message retryOnSignal rounds) ⟨[], script⟩
      (.error reason, session.advanced) sent heard ⟨[], rest⟩ := by
  apply returns_of_concluded serves connected unacknowledged fits retryOnSignal listened enough
  intro stream fewer failed
  exact serves.fails_bind failed

theorem returns_reply {reply : Message}
    (listened : Receive.listen session.config.reserved .fatal .new script =
      ⟨.ok (some (.message reply)), heard, rest⟩) (enough : script.length < rounds)
    (idle : reply.command ≠ session.config.reserved.deviceStatus) :
    ∃ sent, serves.Returns (session.request message retryOnSignal rounds) ⟨[], script⟩
      (.ok reply, session.advanced) sent heard ⟨[], rest⟩ := by
  apply returns_of_concluded serves connected unacknowledged fits retryOnSignal listened enough
  intro stream fewer received
  apply serves.bind_silent received
  simp only [Exchange.conclude, Exchange.react, Exchange.isTransientBusy, idle, false_and,
    decide_false, Bool.false_eq_true, ↓reduceIte]
  exact serves.done rfl

end Requests

omit connected unacknowledged in
theorem steps_request {message : Message} {retryOnSignal : Bool} {rounds : Nat}
    {prospect left : Prospect} {outcome : Except ExchangeError Message}
    {received : List Bytes} (returns : ∃ sent, serves.Returns
      (session.request message retryOnSignal rounds) prospect (outcome, session.advanced) sent
      (received.map fun packet => .answer (.ok packet)) left)
    {before : World σ} (faces : before.Faces ahead session.token prospect) (later : List Move) :
    ∃ step after, session.steps link (.call (.request message retryOnSignal rounds) :: later)
        before = step :: session.advanced.steps link later after ∧
      after.Faces ahead session.token left ∧ step.reply = some outcome ∧
      Trace.delivered step.events = received := by
  obtain ⟨sent, returns⟩ := returns
  obtain ⟨returned, heard, after, facesThen, run⟩ := Session.steps_of_returns serves
    (.request message retryOnSignal rounds) returns faces later
  refine ⟨_, after, run, facesThen, congrArg (Option.map Prod.fst) returned, ?_⟩
  rw [Trace.delivered_eq session.config.debugSink, heard, List.filterMap_map]
  exact List.filterMap_some

variable {before : World σ} {reply : Delivery} {rounds : Nat} {later : List ReadResult}
  (idle : reply.message.command ≠ session.config.reserved.deviceStatus)
  (classified : Receive.classify session.config.reserved reply.message = some (.message reply.message))

include idle classified

/-- One failed request for each packet that opens no stream, and then the reply. -/
theorem steps_over_leftovers {leftovers : List Packet} {received : List Bytes}
    (parsed : received.map Packet.ofBytes = leftovers.map .ok)
    (late : ∀ packet ∈ leftovers, packet.index.val ≠ 0) {requests : List (Message × Bool)}
    (fits : ∀ request ∈ requests, request.1.length ≤ 988)
    (count : requests.length = leftovers.length + 1)
    (enough : received.length + (reply.received.length + later.length) < rounds)
    (faces : before.Faces ahead session.token
      ⟨[], received.map .ok ++ (reply.received.map .ok ++ later)⟩) :
    ∃ steps, session.steps link (requests.map fun request =>
        .call (.request request.1 request.2 rounds)) before = steps ∧
      steps.map Step.reply = leftovers.map (fun packet =>
          some (.error (.framing (.unexpectedIndex 0 packet.index.val)))) ++
        [some (.ok reply.message)] ∧
      steps.map (fun step => Trace.delivered step.events) =
        received.map (fun packet => [packet]) ++ [reply.received] := by
  induction leftovers generalizing session before received requests with
  | nil =>
      obtain rfl := List.map_eq_nil_iff.mp parsed
      obtain ⟨request, rfl⟩ := List.length_eq_one_iff.mp count
      have fit := fits request List.mem_cons_self
      have room : (reply.received.map .ok ++ later : List ReadResult).length < rounds := by
        simpa using enough
      have returns := returns_reply serves connected unacknowledged fit request.2
        (Receive.listen_reply classified later) room idle
      obtain ⟨step, after, run, -, replied, delivered⟩ :=
        steps_request serves returns faces []
      refine ⟨_, run, ?_, ?_⟩
      · rw [List.map_cons, replied]
        rfl
      · rw [List.map_cons, delivered]
        rfl
  | cons packet others ih =>
      obtain ⟨request, more, rfl⟩ := List.exists_cons_of_length_eq_add_one count
      rw [List.map_cons, List.map_eq_cons_iff] at parsed
      obtain ⟨bytes, rest, rfl, parsedFirst, parsedRest⟩ := parsed
      have fit := fits request List.mem_cons_self
      have refused := Reassembler.new_refuses (late packet List.mem_cons_self)
      rw [List.length_cons] at enough
      have room : (.ok bytes :: (rest.map .ok ++ (reply.received.map .ok ++ later)) :
          List ReadResult).length < rounds := by
        simp only [List.length_cons, List.length_append, List.length_map]
        omega
      have listened : Receive.listen session.config.reserved .fatal .new
          (.ok bytes :: (rest.map .ok ++ (reply.received.map .ok ++ later))) =
          ⟨_, [bytes].map fun packet => .answer (.ok packet), _⟩ :=
        Receive.listen_refused parsedFirst refused
      have returns := returns_failure serves connected unacknowledged fit request.2 listened room
      obtain ⟨step, after, run, facesThen, replied, delivered⟩ :=
        steps_request serves returns faces
          (more.map fun request => .call (.request request.1 request.2 rounds))
      have servesNext : link.Serves session.advanced.token session.advanced.config.debugSink ahead :=
        serves
      obtain ⟨steps, runLater, replies, deliveries⟩ := ih servesNext connected unacknowledged
        idle classified parsedRest
        (fun other member => late other (List.mem_cons_of_mem packet member))
        (fun other member => fits other (List.mem_cons_of_mem request member))
        (Nat.succ.inj count) (by omega) facesThen
      refine ⟨step :: steps, ?_, ?_, ?_⟩
      · rw [List.map_cons, run, runLater]
      · rw [List.map_cons, List.map_cons, replied, replies]
        rfl
      · rw [List.map_cons, List.map_cons, delivered, deliveries]
        rfl

omit idle classified in
/-- The stream of the first reply lacks a packet before its last one. Its request fails, and so does one
request for each packet that is left of the stream; the next one has its reply. So the second request
has its reply exactly if the missing packet was the last but one. -/
theorem requests_after_loss (damaged : Damaged) (reply : Delivery)
    (unreserved : reply.message.command ≠ session.config.reserved.debugMessage ∧
      reply.message.command ≠ session.config.reserved.retry ∧
      reply.message.command ≠ session.config.reserved.deviceStatus)
    (requests : List (Message × Bool)) (fits : ∀ request ∈ requests, request.1.length ≤ 988)
    (count : requests.length = damaged.back.length + 2) (later : List ReadResult) (rounds : Nat)
    (enough : (damaged.received ++ reply.received).length + later.length < rounds)
    (faces : before.Faces ahead session.token
      ⟨[], (damaged.received ++ reply.received).map .ok ++ later⟩) :
    ∃ steps, session.steps link (requests.map fun request =>
        .call (.request request.1 request.2 rounds)) before = steps ∧
      steps.map Step.reply = damaged.refusals.map (fun reason => some (.error (.framing reason))) ++
        [some (.ok reply.message)] ∧
      steps.map (fun step => Trace.delivered step.events) =
        damaged.taken :: damaged.leftovers.map (fun packet => [packet]) ++ [reply.received] ∧
      ((steps.map Step.reply)[1]? = some (some (.ok reply.message)) ↔ damaged.back = []) := by
  rw [List.map_append, List.append_assoc] at faces
  rw [List.length_append, Nat.add_assoc] at enough
  obtain ⟨notDebug, notRetry, idle⟩ := unreserved
  have classified : Receive.classify session.config.reserved reply.message =
      some (.message reply.message) := by
    rw [Receive.classify, if_neg notDebug, if_neg notRetry]
  obtain ⟨request, more, rfl⟩ := List.exists_cons_of_length_eq_add_one count
  have fit := fits request List.mem_cons_self
  obtain ⟨parsed, listened⟩ := Receive.listen_damaged damaged (reply.received.map .ok ++ later)
  have room : (damaged.received.map .ok ++ (reply.received.map .ok ++ later) :
      List ReadResult).length < rounds := by
    simpa using enough
  have fewer : damaged.leftovers.length + (reply.received.length + later.length) < rounds := by
    rw [Damaged.leftovers, List.length_drop]
    omega
  have late : ∀ packet ∈ damaged.back, packet.index.val ≠ 0 := by
    intro packet member
    obtain ⟨place, found⟩ := List.getElem?_of_mem member
    rw [damaged.index_back found]
    omega
  obtain ⟨step, after, run, facesThen, replied, delivered⟩ := steps_request serves
    (returns_failure serves connected unacknowledged fit request.2 listened room) faces
    (more.map fun request => .call (.request request.1 request.2 rounds))
  have servesNext : link.Serves session.advanced.token session.advanced.config.debugSink ahead :=
    serves
  obtain ⟨steps, runLater, replies, deliveries⟩ := steps_over_leftovers servesNext connected
    unacknowledged idle classified parsed late
    (fun other member => fits other (List.mem_cons_of_mem request member)) (Nat.succ.inj count)
    fewer facesThen
  refine ⟨step :: steps, ?_, ?_, ?_, ?_⟩
  · rw [List.map_cons, run, runLater]
  · rw [List.map_cons, replied, replies, damaged.refusals_eq, List.map_cons, List.map_map]
    rfl
  · rw [List.map_cons, delivered, deliveries]
    rfl
  · rw [List.map_cons, List.getElem?_cons_succ, replies]
    cases damaged.back with
    | nil => simp
    | cons packet others => simp

end Serving

/-- A reply of three packets without its first one, and a whole reply behind it: the second request
fails on a packet of the first reply. -/
theorem request_meets_leftover :
    ((resume {} ⟨0⟩ .set).steps Link.scripted
        [.call (.request (.empty .ping) false 9), .call (.request (.empty .ping) false 9)]
        { device := { reads := (((⟨7, List.replicate 130 1⟩ : Message).packets .clear false).tail ++
          (⟨9, [2]⟩ : Message).packets .set false).map fun packet => .packet packet.bytes } }).map
      Step.reply =
    [some (.error (.framing (.unexpectedIndex 0 1))),
      some (.error (.framing (.unexpectedIndex 0 2)))] := by
  decide +kernel

theorem requests_after_loss_of_first_packet :
    ∃ (damaged : Damaged) (steps : List Step), damaged.message = ⟨7, List.replicate 130 1⟩ ∧
      damaged.front = [] ∧ damaged.lost.index = 0 ∧
      (resume {} ⟨0⟩ .set).steps Link.scripted
        (List.replicate 3 (.call (.request (.empty .ping) false 9)))
        { device := { reads := (damaged.received ++
          ((⟨9, [2]⟩ : Message).packets .set false).map Packet.bytes).map .packet } } = steps ∧
      steps.map Step.reply = [some (.error (.framing (.unexpectedIndex 0 1))),
        some (.error (.framing (.unexpectedIndex 0 2))), some (.ok ⟨9, [2]⟩)] := by
  have serves : Link.scripted.Serves (resume {} ⟨0⟩ .set).token
      (resume {} ⟨0⟩ .set).config.debugSink Script.Foretells := Link.scripted_serves _ _
  let sending : Sending := ⟨⟨7, List.replicate 130 1⟩, .clear, false, by simp [Message.length]⟩
  let packet (index : Nat) : Packet := sending.message.packetAt .clear false 3 index
  have cut : sending.stream.packets = [] ++ packet 0 :: packet 1 :: [packet 2] := by
    decide +kernel
  let damaged : Damaged := .ofSending sending [] (packet 0) (packet 1) [packet 2] cut
  let reply : Delivery := .encoded ⟨9, [2]⟩ .set false (by decide)
  let before : World Script :=
    { device := { reads := (damaged.received ++ reply.received).map .packet } }
  have reads : before.device.reads.map ScriptedRead.result =
      (damaged.received ++ reply.received).map .ok ++ [] := by
    rw [List.append_nil, List.map_map]
    rfl
  obtain ⟨steps, run, replies, -⟩ := requests_after_loss serves rfl rfl damaged reply (by decide)
    (List.replicate 3 (.empty .ping, false)) (by decide) rfl [] 9 (by decide : 3 < 9)
    ⟨⟨rfl, rfl, rfl, rfl, reads⟩, List.not_mem_nil⟩
  exact ⟨damaged, steps, rfl, rfl, rfl, run, replies⟩

end Session

end PacketLink
